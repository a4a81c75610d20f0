import ListenQuery.Text.Inspected

/-!
# Texts that a terminal can show

A text may hold characters that a terminal acts on instead of showing them. In a message they are
given by number; all other characters, line ends and tabs among them, stay as they are.
-/

namespace ListenQuery.Text

/-- The bell, backspace, form feed, escape, delete and the control characters above ASCII. -/
def isTerminalControl (c : Char) : Bool :=
  let n := c.toNat
  n = 0x07 || n = 0x08 || n = 0x0C || n = 0x1B || (0x7F ≤ n && n ≤ 0x9F)

/-- Two hexadecimal digits after `x` in the ASCII range, and above it the number in braces. -/
def controlEscape (c : Char) : List Char :=
  if c.toNat < 128 then
    '\\' :: 'x' :: lowerHex (c.toNat / 16) ++ lowerHex (c.toNat % 16)
  else numberedEscape c

def harmlessChar (c : Char) : List Char := if isTerminalControl c then controlEscape c else [c]

def harmless (s : String) : String := String.ofList (s.toList.flatMap harmlessChar)

end ListenQuery.Text
