import ListenQuery.Files.Error

/-!
# Sinks

A sink takes what is written to a file or to the standard output, its buffer included. A write may
fail, and so may flushing what has been written before. What comes through in the end is a first
part of what the sink has been given, and all of it if it can be flushed.
-/

namespace ListenQuery

structure Sink where
  /-- Why the write fails that brings what has been given to these bytes, if it does. -/
  write? : List UInt8 → Option FileError
  flush? : List UInt8 → Option FileError
  through : List UInt8 → List UInt8
  through_isPrefix (given : List UInt8) : through given <+: given
  through_eq {given : List UInt8} (h : flush? given = none) : through given = given

namespace Sink

def whole : Sink := ⟨fun _ => none, fun _ => none, id, List.prefix_refl, fun _ => rfl⟩

/-- A sink with room for some bytes and a buffer for some more. -/
def limited (room buffer : Nat) (cause : FileError) : Sink where
  write? given := if room + buffer < given.length then some cause else none
  flush? given := if room < given.length then some cause else none
  through given := given.take room
  through_isPrefix given := List.take_prefix room given
  through_eq {given} h := List.take_of_length_le (by simpa using h)

/-- Why bytes that are written and flushed at once do not come through, if they do not. -/
def fault? (s : Sink) (given : List UInt8) : Option FileError :=
  (s.write? given).or (s.flush? given)

end Sink

end ListenQuery
