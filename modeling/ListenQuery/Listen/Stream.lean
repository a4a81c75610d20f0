import ListenQuery.Files.Error
import ListenQuery.Listen.Text
import ListenQuery.Text.Blank

/-!
# Streams of listens

Bytes are cut into lines after every newline, and each line that is not blank holds one listen.
Lines are read independently of each other; an error names its line by the number that counts
blank lines too.
-/

namespace ListenQuery

open Number

inductive LineFault
  | malformed (fault : Fault)
  | unreadable (cause : FileError)
  deriving DecidableEq

structure LineError where
  number : Nat
  fault : LineFault
  deriving DecidableEq

def LineError.message (e : LineError) : String :=
  let number := String.ofList (Number.natText e.number)
  match e.fault with
  | .malformed fault => "invalid listen on line " ++ number ++ ": " ++ fault.message
  | .unreadable cause => "failed to read line " ++ number ++ ": " ++ cause.message

namespace Listen

def addToLine (b : UInt8) (lines : List (List UInt8)) : List (List UInt8) :=
  if b = 10 then [10] :: lines
  else match lines with
    | [] => [[b]]
    | line :: rest => (b :: line) :: rest

/-- The lines of a text, each with its newline. -/
def linesOf (bytes : List UInt8) : List (List UInt8) := bytes.foldr addToLine []

theorem flatten_addToLine (b : UInt8) (lines : List (List UInt8)) :
    (addToLine b lines).flatten = b :: lines.flatten := by
  unfold addToLine
  split
  · next h => simp [h]
  · cases lines <;> simp

/-- No byte is lost or moved. -/
theorem flatten_linesOf (bytes : List UInt8) : (linesOf bytes).flatten = bytes := by
  induction bytes with
  | nil => rfl
  | cons b rest ih => rw [linesOf, List.foldr_cons, flatten_addToLine, ← linesOf, ih]

def stripEnd (line : List UInt8) : List UInt8 :=
  if line.getLast? = some 10 then
    let body := line.dropLast
    if body.getLast? = some 13 then body.dropLast else body
  else line

def decodeUtf8 (bytes : List UInt8) : Option String := String.fromUTF8? ⟨bytes.toArray⟩

/-- What a line holds, if it is not blank. -/
def readLine [RealReading] (line : List UInt8) : Option (Except LineFault Listen) :=
  match decodeUtf8 (stripEnd line) with
  | none => some (.error (.unreadable .notUtf8))
  | some text =>
    if Text.allBlank text.toList then none
    else some ((Listen.read text).mapError .malformed)

def readNumbered [RealReading] (line : List UInt8) (number : Nat) :
    Option (Except LineError Listen) :=
  (readLine line).map (·.mapError (⟨number, ·⟩))

/-- The listens of a stream in order, each or the error of its line. -/
def readAll [RealReading] (bytes : List UInt8) : List (Except LineError Listen) :=
  ((linesOf bytes).zipIdx 1).filterMap fun (line, number) => readNumbered line number

def lineBytes (l : Listen) : List UInt8 := (l.line ++ "\n").toUTF8.toList

def writeAll (ls : List Listen) : List UInt8 := ls.flatMap lineBytes

end Listen

end ListenQuery
