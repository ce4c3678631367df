import Gatehouse.Text.Quoted
/-!
# Outlines

A value as people read it when they look into a program: records by their names with one field a line, optional
values with what they hold, maps from texts.  Every level is indented by four blanks, and a comma follows every line.
-/
namespace Gatehouse

/-- What an outline shows. -/
inductive Outline where
  /-- A value on one line. -/
  | plain (text : String)
  | absent
  | present (inner : Outline)
  | record (name : String) (fields : List (String × Outline))
  | map (entries : List (String × Outline))

namespace Outline

def text (s : String) : Outline := plain (Text.quoted s)

def number (n : Nat) : Outline := plain (toString n)

def flag (b : Bool) : Outline := plain (if b then "true" else "false")

def optional : Option String → Outline
  | none => absent
  | some s => present (text s)

/-- A new line at a level. -/
def newline (level : Nat) : List Char := '\n' :: List.replicate (4 * level) ' '

mutual
/-- An outline at a level. -/
def chars (level : Nat) : Outline → List Char
  | plain text => text.toList
  | absent => "None".toList
  | present inner =>
    "Some(".toList ++ newline (level + 1) ++ chars (level + 1) inner ++ ',' :: newline level ++ [')']
  | record name fields =>
    name.toList ++ ' ' :: '\x7b' :: (entryChars (level + 1) fields ++ newline level ++ ['\x7d'])
  | map [] => ['\x7b', '\x7d']
  | map (e :: rest) => '\x7b' :: (entryChars (level + 1) (e :: rest) ++ newline level ++ ['\x7d'])

/-- Named values, each on a line of its own. -/
def entryChars (level : Nat) : List (String × Outline) → List Char
  | [] => []
  | (name, inner) :: rest =>
    newline level ++ name.toList ++ ':' :: ' ' :: chars level inner ++ ',' :: entryChars level rest
end

/-- The text of an outline. -/
def render (o : Outline) : String := String.ofList (chars 0 o)

end Outline
end Gatehouse
