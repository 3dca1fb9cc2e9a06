/-!
# `TimedNet.Text.Quoted` — text constants between double quotes

A quote and a backslash are written after a backslash, five control characters by a letter, every
other character below U+0020 by its code in four lower-case hexadecimal digits, and all else
stands for itself.

## Contents
- `Text.encode`: the inside of a quoted text, character by character; `Text.quote`: with quotes.
-/

namespace TimedNet.Text

/-- The lower-case hexadecimal digit of a number below sixteen. -/
def hexDigit (n : Nat) : Char := if n < 10 then Char.ofNat (48 + n) else Char.ofNat (87 + n)

/-- How one character is written inside quotes. -/
def encodeChar (c : Char) : List Char :=
  match c with
  | '"' => ['\\', '"']
  | '\\' => ['\\', '\\']
  | '\x08' => ['\\', 'b']
  | '\t' => ['\\', 't']
  | '\n' => ['\\', 'n']
  | '\x0c' => ['\\', 'f']
  | '\r' => ['\\', 'r']
  | c =>
    if c.toNat < 0x20 then ['\\', 'u', '0', '0', hexDigit (c.toNat / 16), hexDigit (c.toNat % 16)]
    else [c]

/-- How a text is written inside quotes. -/
def encode (cs : List Char) : List Char := cs.flatMap encodeChar

/-- The text between quotes. -/
def quote (s : String) : String := String.ofList ('"' :: encode s.toList ++ ['"'])

end TimedNet.Text
