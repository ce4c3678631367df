import Gatehouse.Json.Basic
/-!
# Writing JSON

`Json.compact` writes a value without blanks, `Json.pretty` one item or member a line, two blanks a level.  Both escape
the quote, the backslash and the characters below U+0020, and write every other character as it is; members come in the
order they are kept.
-/
namespace Gatehouse
namespace Json

/-- A lower-case hexadecimal digit. -/
def hexDigit (n : Nat) : Char := if n < 10 then Char.ofNat (n + 48) else Char.ofNat (n + 87)

/-- A character as it stands inside quotes. -/
def escapeChar (c : Char) : List Char :=
  if c = '"' then ['\\', '"']
  else if c = '\\' then ['\\', '\\']
  else if c.toNat < 0x20 then
    match c.toNat with
    | 0x08 => ['\\', 'b']
    | 0x09 => ['\\', 't']
    | 0x0A => ['\\', 'n']
    | 0x0C => ['\\', 'f']
    | 0x0D => ['\\', 'r']
    | n => ['\\', 'u', '0', '0', hexDigit (n / 16), hexDigit (n % 16)]
  else [c]

/-- A text in quotes. -/
def quote (s : String) : List Char := '"' :: (s.toList.flatMap escapeChar ++ ['"'])

/-- The text of a number. -/
def Number.text : Number → String
  | .int n => toString n
  | .float x => x.text

mutual
/-- A value without blanks. -/
def chars : Json → List Char
  | .null => "null".toList
  | .bool b => (if b then "true" else "false").toList
  | .number n => n.text.toList
  | .text s => quote s
  | .array items => '[' :: (itemChars items ++ [']'])
  | .object members => '{' :: (memberChars members ++ ['}'])

def itemChars : List Json → List Char
  | [] => []
  | [v] => chars v
  | v :: rest => chars v ++ ',' :: itemChars rest

def memberChars : List (String × Json) → List Char
  | [] => []
  | [(k, v)] => quote k ++ ':' :: chars v
  | (k, v) :: rest => quote k ++ ':' :: (chars v ++ ',' :: memberChars rest)
end

/-- The text of a value without blanks. -/
def compact (v : Json) : String := String.ofList (chars v)

/-- A new line at a level. -/
def newline (level : Nat) : List Char := '\n' :: List.replicate (2 * level) ' '

mutual
/-- A value laid out at a level. -/
def layout (level : Nat) : Json → List Char
  | .array (v :: rest) => '[' :: (layoutItems (level + 1) (v :: rest) ++ newline level ++ [']'])
  | .object (m :: rest) => '{' :: (layoutMembers (level + 1) (m :: rest) ++ newline level ++ ['}'])
  | .array [] => ['[', ']']
  | .object [] => ['{', '}']
  | .null => "null".toList
  | .bool b => (if b then "true" else "false").toList
  | .number n => n.text.toList
  | .text s => quote s

def layoutItems (level : Nat) : List Json → List Char
  | [] => []
  | [v] => newline level ++ layout level v
  | v :: rest => newline level ++ layout level v ++ ',' :: layoutItems level rest

def layoutMembers (level : Nat) : List (String × Json) → List Char
  | [] => []
  | [(k, v)] => newline level ++ quote k ++ ':' :: ' ' :: layout level v
  | (k, v) :: rest => newline level ++ quote k ++ ':' :: ' ' :: (layout level v ++ ',' :: layoutMembers level rest)
end

/-- The text of a value, one item or member a line. -/
def pretty (v : Json) : String := String.ofList (layout 0 v)

end Json
end Gatehouse
