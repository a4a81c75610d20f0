import ListenQuery.Files.Sink

/-!
# Sinks that take what they are given

A sink that fails neither when it is written to nor when it is flushed lets everything through. So
does any other with what it has flushed without a fault.
-/

namespace ListenQuery.Sink

variable {s : Sink} {given : List UInt8}

structure NeverFails (s : Sink) : Prop where
  write (given : List UInt8) : s.write? given = none
  flush (given : List UInt8) : s.flush? given = none

theorem neverFails_whole : whole.NeverFails := ⟨fun _ => rfl, fun _ => rfl⟩

theorem fault?_eq_none_iff :
    s.fault? given = none ↔ s.write? given = none ∧ s.flush? given = none :=
  Option.or_eq_none_iff

theorem through_of_fault? (h : s.fault? given = none) : s.through given = given :=
  s.through_eq (fault?_eq_none_iff.1 h).2

@[simp] theorem through_nil : s.through [] = [] := List.prefix_nil.1 (s.through_isPrefix [])

theorem NeverFails.fault? (h : s.NeverFails) (given : List UInt8) : s.fault? given = none :=
  fault?_eq_none_iff.2 ⟨h.write given, h.flush given⟩

theorem NeverFails.through (h : s.NeverFails) (given : List UInt8) : s.through given = given :=
  s.through_eq (h.flush given)

end ListenQuery.Sink
