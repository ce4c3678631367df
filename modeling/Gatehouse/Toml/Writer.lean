import Gatehouse.Json.Printer
/-!
# Writing TOML

`Toml.write` lays an object out as a document: the scalar members of a table a line each, then a section for each
member that is an object, headed by its path.  Blank lines stand between sections, and members without a value are
left out.
-/
namespace Gatehouse
namespace Toml

/-- A character as it stands between quotes. -/
def escapeChar (c : Char) : List Char :=
  if c = '"' then ['\\', '"']
  else if c = '\\' then ['\\', '\\']
  else if c = '\n' then ['\\', 'n']
  else if c = '\t' then ['\\', 't']
  else if c = '\r' then ['\\', 'r']
  else if c.toNat < 0x20 || c.toNat = 0x7F then
    ['\\', 'u', '0', '0', Json.hexDigit (c.toNat / 16), Json.hexDigit (c.toNat % 16)]
  else [c]

/-- A text between quotes. -/
def quote (s : String) : List Char := '"' :: (s.toList.flatMap escapeChar ++ ['"'])

/-- A key, bare where it can be. -/
def keyText (key : String) : List Char :=
  if !key.isEmpty && key.toList.all fun c => c.isAlphanum || c = '_' || c = '-' then key.toList else quote key

mutual
/-- A value on one line. -/
def valueText : Json → List Char
  | .null => quote ""
  | .bool b => (if b then "true" else "false").toList
  | .number n => n.text.toList
  | .text s => quote s
  | .array items => '[' :: (itemTexts items ++ [']'])
  | .object members => '{' :: (memberTexts members ++ ['}'])

def itemTexts : List Json → List Char
  | [] => []
  | [v] => valueText v
  | v :: rest => valueText v ++ ", ".toList ++ itemTexts rest

def memberTexts : List (String × Json) → List Char
  | [] => []
  | [(key, v)] => keyText key ++ " = ".toList ++ valueText v
  | (key, v) :: rest => keyText key ++ " = ".toList ++ valueText v ++ ", ".toList ++ memberTexts rest
end

/-- The line of a member that has neither a section of its own nor no value at all. -/
def memberLine (key : String) : Json → List Char
  | .object _ => []
  | .null => []
  | v => keyText key ++ " = ".toList ++ valueText v ++ ['\n']

/-- The lines of a table. -/
def memberLines (members : List (String × Json)) : List Char := members.flatMap fun (key, v) => memberLine key v

/-- The header of a section. -/
def header (path : List String) : List Char :=
  '[' :: (['.'].intercalate (path.map keyText) ++ [']', '\n'])

mutual
/-- The sections of a table and of those inside it. -/
def sections (path : List String) : Json → List (List Char)
  | .object members => (header path ++ memberLines members) :: innerSections path members
  | _ => []

/-- The sections of the tables inside a table. -/
def innerSections (path : List String) : List (String × Json) → List (List Char)
  | [] => []
  | (key, v) :: rest => sections (path ++ [key]) v ++ innerSections path rest
end

/-- The document of an object's members. -/
def write (members : List (String × Json)) : List Char :=
  let top := memberLines members
  ['\n'].intercalate ((if top.isEmpty then [] else [top]) ++ innerSections [] members)

end Toml
end Gatehouse
