import Gatehouse.Json.Shape
import Gatehouse.Number.Decimal
import Gatehouse.Text.Hex
import Gatehouse.Toml.Moment
import Gatehouse.Toml.Table
/-!
# Reading TOML

The grammar over characters.  Every reader takes the text that is left and gives back what it read and the rest, or
nothing when the text breaks the grammar.  `Toml.parse?` reads a whole document as an object; dates and times become
texts.
-/
namespace Gatehouse
namespace Toml

/-- Characters that a line may hold: all but the control characters other than the tab. -/
def isLineChar (c : Char) : Bool := c = '\t' || (0x20 ≤ c.toNat && c.toNat ≠ 0x7F)

def isSpace (c : Char) : Bool := c = ' ' || c = '\t'

def skipSpace (i : List Char) : List Char := i.dropWhile isSpace

/-! ## Lines and comments -/

/-- The text after a line end. -/
def newline? : List Char → Option (List Char)
  | '\n' :: rest => some rest
  | '\r' :: '\n' :: rest => some rest
  | _ => none

/-- The text after a comment whose sign is read, from the end of its line on. -/
def comment? : List Char → Option (List Char)
  | [] => some []
  | '\n' :: rest => some ('\n' :: rest)
  | '\r' :: '\n' :: rest => some ('\r' :: '\n' :: rest)
  | c :: rest => if isLineChar c then comment? rest else none

/-- The text after the end of a line on which only blanks and a comment are left. -/
def lineEnd? (i : List Char) : Option (List Char) := do
  let i ← match skipSpace i with
    | '#' :: rest => comment? rest
    | i => some i
  if i.isEmpty then some [] else newline? i

/-- The text after blanks, line ends and comments, at most `fuel` of them. -/
def skipLines? (fuel : Nat) (i : List Char) : Option (List Char) :=
  match fuel with
  | 0 => some i
  | fuel + 1 =>
    match skipSpace i with
    | '#' :: rest => do skipLines? fuel (← comment? rest)
    | i =>
      match newline? i with
      | some rest => skipLines? fuel rest
      | none => some i

/-! ## Texts -/

/-- The number that hexadecimal digits write. -/
def hexNumber? (ds : List Char) : Option Nat :=
  ds.foldlM (fun n c => (Text.hexValue? c).map (n * 16 + ·)) 0

/-- The character with a number written by a given count of hexadecimal digits, and the rest. -/
def scalar? (count : Nat) (i : List Char) : Option (Char × List Char) := do
  let ds := i.take count
  if ds.length < count then none
  else
    let n ← hexNumber? ds
    if n.isValidChar then some (Char.ofNat n, i.drop count) else none

/-- The character that is meant after a backslash. -/
def escape? : List Char → Option (Char × List Char)
  | 'b' :: rest => some ('\x08', rest)
  | 't' :: rest => some ('\t', rest)
  | 'n' :: rest => some ('\n', rest)
  | 'f' :: rest => some ('\x0c', rest)
  | 'r' :: rest => some ('\r', rest)
  | 'e' :: rest => some ('\x1b', rest)
  | '"' :: rest => some ('"', rest)
  | '\\' :: rest => some ('\\', rest)
  | 'x' :: rest => scalar? 2 rest
  | 'u' :: rest => scalar? 4 rest
  | 'U' :: rest => scalar? 8 rest
  | _ => none

/-- A text between quotes on one line, after its opening quote. -/
def quoted? (fuel : Nat) (acc : List Char) (i : List Char) : Option (String × List Char) :=
  match fuel, i with
  | 0, _ => none
  | _, [] => none
  | fuel + 1, c :: rest =>
    if c = '"' then some (String.ofList acc.reverse, rest)
    else if c = '\\' then do
      let (c, rest) ← escape? rest
      quoted? fuel (c :: acc) rest
    else if isLineChar c then quoted? fuel (c :: acc) rest
    else none

/-- A text between apostrophes on one line, after the opening one. -/
def literal? (acc : List Char) : List Char → Option (String × List Char)
  | [] => none
  | c :: rest =>
    if c = '\'' then some (String.ofList acc.reverse, rest)
    else if isLineChar c then literal? (c :: acc) rest
    else none

/-- The text after blanks and line ends, if a line ends among them. -/
def foldedLines? (i : List Char) : Option (List Char) :=
  (newline? (skipSpace i)).map fun rest => rest.dropWhile fun c => isSpace c || c = '\n' || c = '\r'

/-- The marks that belong to a text of several lines before the three that close it, at most two, and the text after
it. -/
def closing? (mark : Char) (i : List Char) : Option (List Char × List Char) :=
  let count := min 5 (i.takeWhile (· = mark)).length
  if 3 ≤ count then some (List.replicate (count - 3) mark, i.drop count) else none

/-- The text of several lines after its opening marks; with `escapes`, a backslash begins an escape or, at the end of
a line, takes all blanks and line ends away that follow. -/
def lines? (mark : Char) (escapes : Bool) (fuel : Nat) (acc : List Char) (i : List Char) :
    Option (String × List Char) :=
  match fuel with
  | 0 => none
  | fuel + 1 =>
    match closing? mark i with
    | some (last, rest) => some (String.ofList (acc.reverse ++ last), rest)
    | none =>
      match i with
      | [] => none
      | c :: rest =>
        if escapes && c = '\\' then
          match foldedLines? rest with
          | some rest => lines? mark escapes fuel acc rest
          | none => do
            let (c, rest) ← escape? rest
            lines? mark escapes fuel (c :: acc) rest
        else if c = '\r' then
          match rest with
          | '\n' :: rest => lines? mark escapes fuel ('\n' :: '\r' :: acc) rest
          | _ => none
        else if c = '\n' || isLineChar c then lines? mark escapes fuel (c :: acc) rest
        else none

/-- A text of several lines, without a line end right after its opening marks. -/
def longText? (mark : Char) (i : List Char) : Option (String × List Char) :=
  let i := (newline? i).getD i
  lines? mark (mark = '"') (i.length + 1) [] i

/-- A text in any of the four notations. -/
def text? : List Char → Option (String × List Char)
  | '"' :: '"' :: '"' :: rest => longText? '"' rest
  | '\'' :: '\'' :: '\'' :: rest => longText? '\'' rest
  | '"' :: rest => quoted? (rest.length + 1) [] rest
  | '\'' :: rest => literal? [] rest
  | _ => none

/-! ## Keys -/

def isBareChar (c : Char) : Bool := c.isAlphanum || c = '_' || c = '-'

/-- One part of a key. -/
def keyPart? : List Char → Option (String × List Char)
  | '"' :: rest => quoted? (rest.length + 1) [] rest
  | '\'' :: rest => literal? [] rest
  | i =>
    let name := i.takeWhile isBareChar
    if name.isEmpty then none else some (String.ofList name, i.dropWhile isBareChar)

/-- A dotted key: the parts before the last one, the last one, and the text after it. -/
def key? (fuel : Nat) (i : List Char) : Option ((List String × String) × List Char) :=
  match fuel with
  | 0 => none
  | fuel + 1 => do
    let (part, rest) ← keyPart? (skipSpace i)
    match skipSpace rest with
    | '.' :: rest =>
      let ((path, last), rest) ← key? fuel rest
      return ((part :: path, last), rest)
    | rest => return (([], part), rest)

/-! ## Numbers -/

/-- The digits of a text in which single underscores may stand between digits. -/
def grouped? (isDigit : Char → Bool) : List Char → Option (List Char)
  | [] => none
  | [c] => if isDigit c then some [c] else none
  | c :: '_' :: rest => if isDigit c then (grouped? isDigit rest).map (c :: ·) else none
  | c :: rest => if isDigit c then (grouped? isDigit rest).map (c :: ·) else none

/-- An integer of 64 bits. -/
def inRange? (n : Int) : Option Json := if Json.IntRange.i64.holds n then some (.int n) else none

/-- Decimal digits without a needless leading zero. -/
def decimal? (text : List Char) : Option (List Char) := do
  let ds ← grouped? Char.isDigit text
  match ds with
  | '0' :: _ :: _ => none
  | ds => some ds

/-- A sign, if there is one, and the text after it. -/
def signed : List Char → Bool × List Char
  | '-' :: rest => (true, rest)
  | '+' :: rest => (false, rest)
  | text => (false, text)

/-- The number `± m · 10 ^ e`, unless it is too great. -/
def scientific? (negative : Bool) (m : Nat) (e : Int) : Option Json :=
  (Binary64.ofDecimal? negative m e).map fun x => .number (.float x)

/-- The exponent of a number. -/
def exponent? (text : List Char) : Option Int := do
  let (negative, text) := signed text
  let n := Text.ofDigits 10 (← grouped? Char.isDigit text)
  return if negative then -(n : Int) else n

/-- A number with a fraction, an exponent or both. -/
def float? (negative : Bool) (text : List Char) : Option Json := do
  let isMark (c : Char) : Bool := c = 'e' || c = 'E'
  let significand := text.takeWhile fun c => !isMark c
  let e ← match text.dropWhile fun c => !isMark c with
    | [] => some 0
    | _ :: e => exponent? e
  match Text.splitFirst? '.' significand with
  | some (whole, fraction) =>
    let whole ← decimal? whole
    let fraction ← grouped? Char.isDigit fraction
    scientific? negative (Text.ofDigits 10 (whole ++ fraction)) (e - fraction.length)
  | none => scientific? negative (Text.ofDigits 10 (← decimal? significand)) e

/-- An integer of a base given by a letter after a zero. -/
def based? (base : Nat) (text : List Char) : Option Json := do
  inRange? (Text.ofDigits base (← grouped? (Text.isDigitOf base) text))

/-- The number that a word writes. -/
def number? (word : List Char) : Option Json :=
  match word with
  | '0' :: 'x' :: rest => based? 16 rest
  | '0' :: 'o' :: rest => based? 8 rest
  | '0' :: 'b' :: rest => based? 2 rest
  | word =>
    let (negative, text) := signed word
    if text = "inf".toList then some (.number (.float (Binary64.infinity negative)))
    else if text = "nan".toList then some (.number (.float Binary64.notANumber))
    else match decimal? text with
      | some ds =>
        let n : Int := Text.ofDigits 10 ds
        inRange? (if negative then -n else n)
      | none => float? negative text

/-! ## Values -/

def isWordChar (c : Char) : Bool := c.isAlphanum || c = '+' || c = '-' || c = '_' || c = '.' || c = ':'

/-- The word at the start of a text.  A blank may stand between a date and a time. -/
def word (i : List Char) : List Char × List Char :=
  let first := i.takeWhile isWordChar
  let rest := i.dropWhile isWordChar
  match first.length, rest with
  | 10, ' ' :: c :: after =>
    if Moment.startsWithDate first && c.isDigit then
      (first ++ ' ' :: (c :: after).takeWhile isWordChar, (c :: after).dropWhile isWordChar)
    else (first, rest)
  | _, _ => (first, rest)

/-- The value of a word: a truth value, a moment or a number. -/
def wordValue? (w : List Char) : Option Json :=
  if w = "true".toList then some (.bool true)
  else if w = "false".toList then some (.bool false)
  else match Moment.read? w with
    | some m => some (.text (String.ofList m.text))
    | none => number? w

/-- Items separated by commas up to a closing character, on any number of lines; a comma may follow the last.  `fuel`
bounds the number of items. -/
def items? (one : List Char → Option (α × List Char)) (close : Char) (fuel : Nat) (acc : List α) (i : List Char) :
    Option (List α × List Char) :=
  match fuel with
  | 0 => none
  | fuel + 1 => do
    match ← skipLines? (i.length + 1) i with
    | [] => none
    | c :: rest =>
      if c = close then some (acc.reverse, rest)
      else
        let (x, rest) ← one (c :: rest)
        match ← skipLines? (rest.length + 1) rest with
        | ',' :: rest => items? one close fuel (x :: acc) rest
        | c :: rest => if c = close then some ((x :: acc).reverse, rest) else none
        | [] => none

/-- A key, an equals sign and a value. -/
def pair? (value : List Char → Option (Json × List Char)) (i : List Char) :
    Option (((List String × String) × Json) × List Char) := do
  let (key, rest) ← key? (i.length + 1) i
  match rest with
  | '=' :: rest =>
    let (v, rest) ← value rest
    return ((key, v), rest)
  | _ => none

/-- A value whose arrays and tables nest at most `depth` deep. -/
def value? (depth : Nat) (i : List Char) : Option (Json × List Char) :=
  match skipSpace i with
  | '[' :: rest =>
    match depth with
    | 0 => none
    | depth + 1 => (items? (value? depth) ']' (rest.length + 1) [] rest).map fun (xs, rest) => (.array xs, rest)
  | '{' :: rest =>
    match depth with
    | 0 => none
    | depth + 1 => do
      let (pairs, rest) ← items? (pair? (value? depth)) '}' (rest.length + 1) [] rest
      return (← ofPairs? pairs, rest)
  | '"' :: rest => (text? ('"' :: rest)).map fun (s, rest) => (.text s, rest)
  | '\'' :: rest => (text? ('\'' :: rest)).map fun (s, rest) => (.text s, rest)
  | i =>
    let (w, rest) := word i
    (wordValue? w).map fun v => (v, rest)

/-- How deep arrays and inline tables may nest. -/
def maxDepth : Nat := 80

/-! ## Documents -/

/-- A document as far as it is read: its entries and the path of the table opened last. -/
structure Progress where
  entries : Entries
  table : List String

/-- The key in a header and the text after its closing brackets. -/
def headerKey? (close : List Char) (i : List Char) : Option ((List String × String) × List Char) := do
  let (key, rest) ← key? (i.length + 1) i
  return (key, ← Text.dropPrefix? close rest)

/-- The document after one more line and the text after it. -/
def line? (p : Progress) (i : List Char) : Option (Progress × List Char) :=
  match skipSpace i with
  | '[' :: '[' :: rest => do
    let ((path, key), rest) ← headerKey? [']', ']'] rest
    return (⟨← appendTable? p.entries path key, path ++ [key]⟩, ← lineEnd? rest)
  | '[' :: rest => do
    let ((path, key), rest) ← headerKey? [']'] rest
    return (⟨← openTable? p.entries path key, path ++ [key]⟩, ← lineEnd? rest)
  | i =>
    match lineEnd? i with
    | some rest => some (p, rest)
    | none => do
      let (((path, key), v), rest) ← pair? (value? maxDepth) i
      return (⟨← assign? p.entries p.table path key v, p.table⟩, ← lineEnd? rest)

/-- The entries of a whole document.  `fuel` bounds the number of lines. -/
def document? (fuel : Nat) (p : Progress) (i : List Char) : Option Entries :=
  match fuel, i with
  | _, [] => some p.entries
  | 0, _ => none
  | fuel + 1, i => do
    let (p, rest) ← line? p i
    document? fuel p rest

/-- The object that a document writes. -/
def parse? (text : List Char) : Option Json := do
  let text := match text with
    | '\ufeff' :: rest => rest
    | text => text
  return .object (entriesJson (← document? text.length ⟨[], []⟩ text))

end Toml
end Gatehouse
