import Gatehouse.Text.Blank
/-!
# Media types

Whether a Content-Type says that a body is JSON: the type `application` with the subtype `json`, or with a suffix or
stem `json` around the last plus sign of the subtype.  Parameters are read only to see that they are well-formed.
-/
namespace Gatehouse
namespace Http
namespace MediaType

/-- The characters of types, subtypes, and names and values of parameters. -/
def isTokenChar (c : Char) : Bool :=
  c.isAlphanum || "!#$%&'+-.^_`|~".toList.contains c

/-- The characters inside a quoted value. -/
def isQuotedChar (c : Char) : Bool := 0x20 ≤ c.toNat && c.toNat ≠ 0x7F

/-- What a reader of parameters is in the middle of. -/
inductive Reading where
  /-- Before a name: blanks may come. -/
  | start
  | name
  | valueStart
  | value
  /-- Inside quotes, before the first character, which may itself be a quote. -/
  | quotedStart
  | quoted
  | afterQuoted
  deriving DecidableEq, Repr

/-- Whether a text from a point on is well-formed parameters. -/
def areParameters : Reading → List Char → Bool
  | .start, [] => true
  | .start, c :: cs =>
    if c = ' ' then areParameters .start cs else isTokenChar c && areParameters .name cs
  | .name, [] => false
  | .name, c :: cs =>
    if c = '=' then areParameters .valueStart cs else isTokenChar c && areParameters .name cs
  | .valueStart, [] => true
  | .valueStart, c :: cs =>
    if c = '"' then areParameters .quotedStart cs else isTokenChar c && areParameters .value cs
  | .value, [] => true
  | .value, c :: cs =>
    if c = ';' then areParameters .start cs else isTokenChar c && areParameters .value cs
  | .quotedStart, [] => false
  | .quotedStart, c :: cs => isQuotedChar c && areParameters .quoted cs
  | .quoted, [] => false
  | .quoted, c :: cs =>
    if c = '"' then areParameters .afterQuoted cs else isQuotedChar c && areParameters .quoted cs
  | .afterQuoted, [] => true
  | .afterQuoted, c :: cs =>
    if c = ';' then areParameters .start cs else c = ' ' && areParameters .afterQuoted cs

/-- The type and the subtype of a well-formed media type. -/
def parse? (text : List Char) : Option (List Char × List Char) := do
  let main := text.takeWhile isTokenChar
  let subtype ← match text.dropWhile isTokenChar with
    | '/' :: rest => some (rest.takeWhile isTokenChar)
    | _ => none
  let rest := (text.drop (main.length + 1)).dropWhile isTokenChar
  let wellFormed := match rest with
    | [] => true
    | c :: parameters => c = ';' && !subtype.isEmpty && areParameters .start parameters
  if main.isEmpty || !wellFormed then none else some (main, subtype)

/-- The parts of a subtype around its last plus sign, which is not the first character; the second is the suffix. -/
def stemAndSuffix (subtype : List Char) : List Char × Option (List Char) :=
  match Text.splitLast? '+' subtype with
  | some (stem, suffix) => if stem.isEmpty then (subtype, none) else (stem, some suffix)
  | none => (subtype, none)

/-- Whether a media type is one of JSON. -/
def isJson (value : String) : Bool :=
  match parse? (Text.lower value).toList with
  | none => false
  | some (main, subtype) =>
    let (stem, suffix) := stemAndSuffix subtype
    main = "application".toList && (stem = "json".toList || suffix = some "json".toList)

end MediaType
end Http
end Gatehouse
