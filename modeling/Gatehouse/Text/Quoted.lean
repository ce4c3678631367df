import Gatehouse.Text.Shown
/-!
# Quoted text

A text between double quotes as messages show it: quotes, backslashes and the common control characters get a
backslash, and a character that cannot be shown stands as its code point in hexadecimal between braces.
-/
namespace Gatehouse
namespace Text

/-- The escape of a code point: `\u` and its hexadecimal digits between braces. -/
def codePoint (n : Nat) : List Char :=
  '\\' :: 'u' :: '\x7b' :: (Nat.toDigits 16 n ++ ['\x7d'])

/-- A character as it stands inside quotes. -/
def quotedChar (c : Char) : List Char :=
  if c = '"' then ['\\', '"']
  else if c = '\\' then ['\\', '\\']
  else if c = '\t' then ['\\', 't']
  else if c = '\r' then ['\\', 'r']
  else if c = '\n' then ['\\', 'n']
  else if c.toNat = 0 then ['\\', '0']
  else if isShown c then [c]
  else codePoint c.toNat

/-- A text in quotes. -/
def quoted (s : String) : String :=
  String.ofList ('"' :: (s.toList.flatMap quotedChar ++ ['"']))

end Text
end Gatehouse
