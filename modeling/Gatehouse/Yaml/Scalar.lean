import Gatehouse.Number.Decimal
import Gatehouse.Text.Blank
import Gatehouse.Text.Hex
/-!
# Scalars of YAML

How a text is written so that it reads back as that text: plain where nothing in it has a meaning of its own, between
apostrophes where it would be taken for something else, as a block where it has several lines, and between quotes with
escapes for everything else.  `Style` makes that choice (`styleOf`), from what the characters of a text are
(`Traits`).
-/
namespace Gatehouse
namespace Yaml

/-! ## Texts that look like other values -/

/-- The digits of a decimal number, at least one, and how many of them follow a point. -/
def decimal? (text : List Char) : Option (List Char × Nat) :=
  let (whole, fraction) := (Text.splitFirst? '.' text).getD (text, [])
  let ds := whole ++ fraction
  if !ds.isEmpty && ds.all Char.isDigit then some (ds, fraction.length) else none

/-- A whole number with or without a sign. -/
def exponent? (text : List Char) : Option Int :=
  let (negative, ds) := match text with
    | '-' :: ds => (true, ds)
    | '+' :: ds => (false, ds)
    | ds => (false, ds)
  let n := Text.ofDigits 10 ds
  if !ds.isEmpty && ds.all Char.isDigit then some (if negative then -(n : Int) else n) else none

/-- Whether a text without a sign writes a finite number, with a fraction, an exponent, both or neither. -/
def isFloat (text : List Char) : Bool :=
  let isMark (c : Char) : Bool := c = 'e' || c = 'E'
  let e := match text.dropWhile fun c => !isMark c with
    | [] => some 0
    | _ :: rest => exponent? rest
  match decimal? (text.takeWhile fun c => !isMark c), e with
  | some (ds, places), some e => (Binary64.ofDecimal? false (Text.ofDigits 10 ds) (e - places)).isSome
  | _, _ => false

/-- Whether a text writes a number of 128 bits in base 2, 8 or 16. -/
def isBased : List Char → Bool
  | '0' :: letter :: ds =>
    let writes (base : Nat) : Bool :=
      !ds.isEmpty && ds.all (Text.isDigitOf base) && Text.ofDigits base ds < 2 ^ 128
    (letter = 'x' && writes 16) || (letter = 'o' && writes 8) || (letter = 'b' && writes 2)
  | _ => false

/-- Several digits that begin with a zero: no number. -/
def isPadded : List Char → Bool
  | '0' :: c :: rest => (c :: rest).all Char.isDigit
  | _ => false

/-- Whether a text reads as a number. -/
def isNumber (text : List Char) : Bool :=
  let unsigned := match text with
    | '-' :: rest => rest
    | '+' :: rest => rest
    | rest => rest
  isBased unsigned || (isFloat unsigned && !isPadded unsigned) ||
    [".inf", ".Inf", ".INF"].contains (String.ofList unsigned) ||
    [".nan", ".NaN", ".NAN"].contains (String.ofList text)

/-- Words that read as null or as a truth value, for some readers. -/
def reservedWords : List String := [
  "null", "Null", "NULL", "~", "true", "True", "TRUE", "false", "False", "FALSE", "y", "Y", "yes", "Yes", "YES",
  "n", "N", "no", "No", "NO", "on", "On", "ON", "off", "Off", "OFF"]

/-- Whether a text would be taken for another value. -/
def isAmbiguous (s : String) : Bool := s.isEmpty || reservedWords.contains s || isNumber s.toList

/-! ## Traits of a text -/

/-- Characters that can be written as they are. -/
def isPrintable (c : Char) : Bool :=
  let n := c.toNat
  n = 0x0A || (0x20 ≤ n && n ≤ 0x7E) || (0xA0 ≤ n && n ≤ 0xFFFD && n ≠ 0xFEFF)

/-- Characters that end a line. -/
def isBreak (c : Char) : Bool :=
  c = '\n' || c = '\r' || c.toNat = 0x85 || c.toNat = 0x2028 || c.toNat = 0x2029

/-- Whether a text goes on with a blank, a line end or not at all. -/
def startsBlank : List Char → Bool
  | [] => true
  | c :: _ => c = ' ' || c = '\t' || c.toNat = 0 || isBreak c

/-- Characters that have a meaning at the start of a text. -/
def isIndicator (c : Char) : Bool := "#,[]\x7b\x7d&*!|>'\"%@\x60".toList.contains c

/-- Whether the text after a character, which is no first one, gives it a meaning. -/
def markedInside : List Char → Bool
  | [] => false
  | [_] => false
  | a :: b :: rest =>
    (b = ':' && startsBlank rest) || (b = '#' && startsBlank [a]) || markedInside (b :: rest)

/-- Whether a text has a character with a meaning of its own. -/
def isMarked (text : List Char) : Bool :=
  let start := match text with
    | [] => false
    | c :: rest => isIndicator c || ((c = '?' || c = ':' || c = '-') && startsBlank rest)
  start || text.take 3 = ['-', '-', '-'] || text.take 3 = ['.', '.', '.'] || markedInside text

/-- Whether one class of characters is directly followed by another. -/
def meets (p q : Char → Bool) : List Char → Bool
  | a :: b :: rest => (p a && q b) || meets p q (b :: rest)
  | _ => false

/-- What the choice of a style depends on. -/
structure Traits where
  /-- More than one line. -/
  lines : Bool
  /-- A blank or line end at either end. -/
  ragged : Bool
  /-- A blank at the end. -/
  trailing : Bool
  /-- A blank at the start of a later line. -/
  indented : Bool
  /-- A blank before a line end, or a character that has to be escaped. -/
  special : Bool
  /-- A character with a meaning of its own. -/
  marked : Bool
  deriving DecidableEq, Repr

def isBlank (c : Char) : Bool := c = ' '

def traits (text : List Char) : Traits where
  lines := text.any isBreak
  ragged := text.head?.any (fun c => isBlank c || isBreak c) || text.getLast?.any (fun c => isBlank c || isBreak c)
  trailing := text.getLast?.any isBlank
  indented := meets isBreak isBlank text
  special := meets isBlank isBreak text || !text.all isPrintable
  marked := isMarked text

/-! ## Styles -/

inductive Style where
  | plain
  | apostrophes
  | quotes
  | block
  deriving DecidableEq, Repr

/-- The style of a text. -/
def styleOf (s : String) : Style :=
  let t := traits s.toList
  let quotation : Style := if t.indented || t.special then .quotes else .apostrophes
  if s.toList.contains '\n' then if t.trailing || t.special then .quotes else .block
  else if isAmbiguous s then quotation
  else if t.ragged || t.lines || t.special || t.marked then quotation
  else .plain

/-- A number with a given count of hexadecimal digits. -/
def hex (n : Nat) : Nat → List Char
  | 0 => []
  | count + 1 => hex (n / 16) count ++ [Text.upperHex (n % 16)]

/-- A character as it stands between quotes. -/
def escapeChar (c : Char) : List Char :=
  if c = '"' || c = '\\' then ['\\', c]
  else if isPrintable c && !isBreak c then [c]
  else match c.toNat with
    | 0x00 => ['\\', '0']
    | 0x07 => ['\\', 'a']
    | 0x08 => ['\\', 'b']
    | 0x09 => ['\\', 't']
    | 0x0A => ['\\', 'n']
    | 0x0B => ['\\', 'v']
    | 0x0C => ['\\', 'f']
    | 0x0D => ['\\', 'r']
    | 0x1B => ['\\', 'e']
    | 0x85 => ['\\', 'N']
    | 0x2028 => ['\\', 'L']
    | 0x2029 => ['\\', 'P']
    | n =>
      if n ≤ 0xFF then '\\' :: 'x' :: hex n 2
      else if n ≤ 0xFFFF then '\\' :: 'u' :: hex n 4
      else '\\' :: 'U' :: hex n 8

/-- A text between apostrophes, those inside it doubled. -/
def apostrophed (text : List Char) : List Char :=
  '\'' :: (text.flatMap (fun c => if c = '\'' then ['\'', '\''] else [c]) ++ ['\''])

/-- A text between quotes. -/
def quoted (text : List Char) : List Char := '"' :: (text.flatMap escapeChar ++ ['"'])

/-- What stands at the head of a block: its indentation where the text hides it, and a sign for a text whose last
line has no end or is followed by empty ones. -/
def blockHead (text : List Char) : List Char :=
  let hint := if text.head?.any (fun c => isBlank c || isBreak c) then ['2'] else []
  let chomp := match text.reverse with
    | [] => ['-']
    | [c] => if isBreak c then ['+'] else ['-']
    | c :: d :: _ => if !isBreak c then ['-'] else if isBreak d then ['+'] else []
  '|' :: (hint ++ chomp)

/-- The lines of a block, indented; empty ones stay empty. -/
def blockLines (indent : Nat) (text : List Char) : List Char :=
  let lines := Text.splitOn '\n' text
  let lines := if text.getLast? = some '\n' then lines.dropLast else lines
  lines.flatMap fun line => '\n' :: if line.isEmpty then [] else List.replicate indent ' ' ++ line

/-- A text in its style; a block's lines go under the given indentation. -/
def textOf (indent : Nat) (s : String) : List Char :=
  match styleOf s with
  | .plain => s.toList
  | .apostrophes => apostrophed s.toList
  | .quotes => quoted s.toList
  | .block => blockHead s.toList ++ blockLines indent s.toList

end Yaml
end Gatehouse
