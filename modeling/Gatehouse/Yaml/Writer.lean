import Gatehouse.Json.Printer
import Gatehouse.Yaml.Scalar
/-!
# Writing YAML

`Yaml.write` lays a value out with one member or item a line.  Members of an object inside another are indented by two
blanks, items of an array are not.  A key of more than 128 bytes or several lines is written after a question mark,
and its value after a colon on a line of its own.
-/
namespace Gatehouse
namespace Yaml

/-- Blanks of an indentation. -/
def pad (indent : Nat) : List Char := List.replicate indent ' '

/-- The longest key that can stand before its value, in bytes. -/
def maxSimpleKey : Nat := 128

def isSimpleKey (key : String) : Bool := key.utf8ByteSize ≤ maxSimpleKey && !key.toList.any isBreak

/-- A scalar, an empty array or an empty object; texts of several lines go under the given indentation. -/
def scalarText (indent : Nat) : Json → List Char
  | .null => "null".toList
  | .bool b => (if b then "true" else "false").toList
  | .number n => n.text.toList
  | .text s => textOf indent s
  | .array _ => "[]".toList
  | .object _ => "\x7b\x7d".toList

mutual
/-- The value of a simple key at an indentation, from after the colon to the end of its last line. -/
def valueLines (indent : Nat) : Json → List Char
  | .object (m :: rest) => '\n' :: memberLines (indent + 2) (m :: rest)
  | .array (v :: rest) => '\n' :: itemLines indent (v :: rest)
  | v => ' ' :: scalarText (indent + 2) v ++ ['\n']

/-- A value that begins on the line of a question mark, colon or dash at an indentation. -/
def inlineLines (indent : Nat) : Json → List Char
  | .object (m :: rest) => (memberLines (indent + 2) (m :: rest)).drop (indent + 1)
  | .array (v :: rest) => (itemLines (indent + 2) (v :: rest)).drop (indent + 1)
  | v => ' ' :: scalarText (indent + 2) v ++ ['\n']

/-- The lines of an object's members at an indentation. -/
def memberLines (indent : Nat) : List (String × Json) → List Char
  | [] => []
  | (key, v) :: rest =>
    (if isSimpleKey key then pad indent ++ textOf (indent + 2) key ++ ':' :: valueLines indent v
    else pad indent ++ '?' :: ' ' :: textOf (indent + 2) key ++ '\n' :: pad indent ++ ':' :: inlineLines indent v)
      ++ memberLines indent rest

/-- The lines of an array's items at an indentation. -/
def itemLines (indent : Nat) : List Json → List Char
  | [] => []
  | v :: rest => pad indent ++ '-' :: inlineLines indent v ++ itemLines indent rest
end

/-- The document of a value. -/
def write : Json → String
  | .object (m :: rest) => String.ofList (memberLines 0 (m :: rest))
  | .array (v :: rest) => String.ofList (itemLines 0 (v :: rest))
  | v => String.ofList (scalarText 0 v ++ ['\n'])

end Yaml
end Gatehouse
