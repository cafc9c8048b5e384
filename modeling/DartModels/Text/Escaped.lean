import DartModels.Text.Escaped.Table

/-!
# Texts shown in full

`shown` puts a text between double quotes so that every character can be told: quotes, backslashes
and the common controls are escaped with a letter, and characters without a shape of their own by
their code point in braces.
-/

namespace DartModels.Text

/-- A character that cannot be shown by itself. -/
def isShapeless (c : Char) : Bool :=
  let n := c.toNat
  if n < 0x80 then n < 0x20 || n == 0x7F
  else shapeless.any fun r => r.1 ≤ n && n ≤ r.2

/-- The code point of a character, in braces. -/
def codePoint (c : Char) : List Char :=
  ['\\', 'u', '\x7b'] ++ Nat.toDigits 16 c.toNat ++ ['\x7d']

/-- One character of a text, shown. -/
def showChar (c : Char) : List Char :=
  if c = '"' then ['\\', '"']
  else if c = '\\' then ['\\', '\\']
  else if c = '\n' then ['\\', 'n']
  else if c = '\r' then ['\\', 'r']
  else if c = '\t' then ['\\', 't']
  else if c = '\x00' then ['\\', '0']
  else if isShapeless c then codePoint c
  else [c]

/-- A text between double quotes, every character shown. -/
def shown (s : String) : String :=
  String.ofList ('"' :: s.toList.flatMap showChar ++ ['"'])

end DartModels.Text
