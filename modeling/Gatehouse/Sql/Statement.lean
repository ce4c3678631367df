import Gatehouse.Text.Blank
/-!
# Statements

The part of SQL that registries are configured with: selecting, inserting, updating and deleting rows of the table of
keys, with parameters, sums and differences, comparisons joined by AND, and an order.  `Statement.read?` reads one;
keywords and names are the same in either case.
-/
namespace Gatehouse
namespace Sql

/-- The columns of the table. -/
inductive Column where
  | identity
  | publicKey
  | accessLevel
  deriving DecidableEq, Repr

/-- A value computed from a row and the parameters. -/
inductive Expr where
  | parameter (index : Nat)
  | integer (n : Int)
  | text (s : String)
  | null
  | column (c : Column)
  | sum (a b : Expr)
  | difference (a b : Expr)
  deriving DecidableEq, Repr

inductive Comparison where
  | equal
  | unequal
  | less
  | lessEqual
  | greater
  | greaterEqual
  deriving DecidableEq, Repr

/-- A comparison of two values. -/
structure Condition where
  left : Expr
  comparison : Comparison
  right : Expr
  deriving DecidableEq, Repr

/-- A column to sort by. -/
structure Order where
  column : Column
  descending : Bool
  deriving DecidableEq, Repr

/-- What happens to a row whose identity is there already. -/
inductive OnConflict where
  | fail
  | replace
  | ignore
  deriving DecidableEq, Repr

inductive Statement where
  | select (columns : List Expr) (conditions : List Condition) (order : List Order)
  | insert (onConflict : OnConflict) (columns : List Column) (values : List Expr)
  | update (assignments : List (Column × Expr)) (conditions : List Condition)
  | delete (conditions : List Condition)
  deriving DecidableEq, Repr

/-! ## Words -/

/-- The words of a statement. -/
inductive Lexeme where
  /-- A name or keyword, in upper case. -/
  | word (s : String)
  | integer (n : Nat)
  | text (s : String)
  /-- A parameter, with its number if it has one. -/
  | parameter (index : Option Nat)
  | mark (c : Char)
  deriving DecidableEq, Repr

def isNameStart (c : Char) : Bool := c.isAlpha || c = '_'

def isNameChar (c : Char) : Bool := c.isAlphanum || c = '_'

/-- The number that decimal digits write. -/
def number (digits : List Char) : Nat := digits.foldl (fun n c => n * 10 + (c.toNat - 48)) 0

/-- A text after its opening quote; a quote inside is written twice. -/
def quotedText? (before : List Char) : List Char → Option (List Char × List Char)
  | [] => none
  | '\'' :: '\'' :: rest => quotedText? ('\'' :: before) rest
  | c :: rest => if c = '\'' then some (before.reverse, rest) else quotedText? (c :: before) rest

/-- The words of a text; `fuel` bounds their number. -/
def lexemes? (fuel : Nat) (text : List Char) : Option (List Lexeme) :=
  match fuel, text with
  | _, [] => some []
  | 0, _ => none
  | fuel + 1, c :: rest =>
    if c = ' ' || c = '\t' || c = '\n' || c = '\r' || c.toNat = 0x0C then lexemes? fuel rest
    else if isNameStart c then do
      let name := (c :: rest).takeWhile isNameChar
      let tail ← lexemes? fuel ((c :: rest).dropWhile isNameChar)
      return .word (Text.upper (String.ofList name)) :: tail
    else if c.isDigit then do
      let digits := (c :: rest).takeWhile Char.isDigit
      let tail ← lexemes? fuel ((c :: rest).dropWhile Char.isDigit)
      return .integer (number digits) :: tail
    else if c = '?' then do
      let digits := rest.takeWhile Char.isDigit
      let tail ← lexemes? fuel (rest.dropWhile Char.isDigit)
      return .parameter (if digits.isEmpty then none else some (number digits)) :: tail
    else if c = '\'' then do
      let (s, rest) ← quotedText? [] rest
      let tail ← lexemes? fuel rest
      return .text (String.ofList s) :: tail
    else if "(),=<>!+-*;".toList.contains c then do
      let tail ← lexemes? fuel rest
      return .mark c :: tail
    else none

/-! ## Grammar -/

/-- What a reader has left, and the number of the last parameter. -/
structure Reading where
  rest : List Lexeme
  parameters : Nat

/-- A reader of a part of a statement. -/
abbrev Reader (α : Type) := Reading → Option (α × Reading)

def Column.ofName? (name : String) : Option Column :=
  if name = "IDENTITY" then some .identity
  else if name = "PUBLIC_KEY" then some .publicKey
  else if name = "ACCESS_LEVEL" then some .accessLevel
  else none

/-- The reading after given words. -/
def word? (expected : List Lexeme) (r : Reading) : Option Reading :=
  match expected with
  | [] => some r
  | w :: ws =>
    match r.rest with
    | x :: rest => if x = w then word? ws { r with rest := rest } else none
    | [] => none

def column? : Reader Column := fun r =>
  match r.rest with
  | .word name :: rest => (Column.ofName? name).map fun c => (c, { r with rest := rest })
  | _ => none

/-- A value without operators. -/
def atom? : Reader Expr := fun r =>
  match r.rest with
  | .parameter (some index) :: rest => some (.parameter index, ⟨rest, max index r.parameters⟩)
  | .parameter none :: rest => some (.parameter (r.parameters + 1), ⟨rest, r.parameters + 1⟩)
  | .integer n :: rest => some (.integer n, { r with rest := rest })
  | .mark '-' :: .integer n :: rest => some (.integer (-(n : Int)), { r with rest := rest })
  | .text s :: rest => some (.text s, { r with rest := rest })
  | .word name :: rest =>
    if name = "NULL" then some (.null, { r with rest := rest })
    else (Column.ofName? name).map fun c => (.column c, { r with rest := rest })
  | _ => none

/-- Sums and differences, from the left; `fuel` bounds their number. -/
def sums? (fuel : Nat) (left : Expr) : Reader Expr := fun r =>
  match fuel with
  | 0 => some (left, r)
  | fuel + 1 =>
    match r.rest with
    | .mark '+' :: rest => (atom? { r with rest := rest }).bind fun (b, r) => sums? fuel (.sum left b) r
    | .mark '-' :: rest => (atom? { r with rest := rest }).bind fun (b, r) => sums? fuel (.difference left b) r
    | _ => some (left, r)

def expr? : Reader Expr := fun r => (atom? r).bind fun (a, next) => sums? next.rest.length a next

/-- One or more parts between commas; `fuel` bounds their number. -/
def commaList? (one : Reader α) (fuel : Nat) : Reader (List α) := fun r =>
  match fuel with
  | 0 => none
  | fuel + 1 => do
    let (a, r) ← one r
    match r.rest with
    | .mark ',' :: rest =>
      let (as, r) ← commaList? one fuel { r with rest := rest }
      return (a :: as, r)
    | _ => return ([a], r)

def parts? (one : Reader α) : Reader (List α) := fun r => commaList? one (r.rest.length + 1) r

def comparison? : Reader Comparison := fun r =>
  match r.rest with
  | .mark '=' :: .mark '=' :: rest => some (.equal, { r with rest := rest })
  | .mark '=' :: rest => some (.equal, { r with rest := rest })
  | .mark '!' :: .mark '=' :: rest => some (.unequal, { r with rest := rest })
  | .mark '<' :: .mark '>' :: rest => some (.unequal, { r with rest := rest })
  | .mark '<' :: .mark '=' :: rest => some (.lessEqual, { r with rest := rest })
  | .mark '<' :: rest => some (.less, { r with rest := rest })
  | .mark '>' :: .mark '=' :: rest => some (.greaterEqual, { r with rest := rest })
  | .mark '>' :: rest => some (.greater, { r with rest := rest })
  | _ => none

/-- Comparisons joined by AND; `fuel` bounds their number. -/
def conditions? (fuel : Nat) : Reader (List Condition) := fun r =>
  match fuel with
  | 0 => none
  | fuel + 1 => do
    let (a, r) ← expr? r
    let (c, r) ← comparison? r
    let (b, r) ← expr? r
    match r.rest with
    | .word "AND" :: rest =>
      let (more, r) ← conditions? fuel { r with rest := rest }
      return (⟨a, c, b⟩ :: more, r)
    | _ => return ([⟨a, c, b⟩], r)

/-- A WHERE clause, if there is one. -/
def where? : Reader (List Condition) := fun r =>
  match r.rest with
  | .word "WHERE" :: rest => conditions? (rest.length + 1) { r with rest := rest }
  | _ => some ([], r)

def order? : Reader Order := fun r => do
  let (c, r) ← column? r
  match r.rest with
  | .word "DESC" :: rest => return (⟨c, true⟩, { r with rest := rest })
  | .word "ASC" :: rest => return (⟨c, false⟩, { r with rest := rest })
  | _ => return (⟨c, false⟩, r)

/-- An ORDER BY clause, if there is one. -/
def orderBy? : Reader (List Order) := fun r =>
  match r.rest with
  | .word "ORDER" :: .word "BY" :: rest => parts? order? { r with rest := rest }
  | _ => some ([], r)

/-- The name of the table. -/
def table? (r : Reading) : Option Reading := word? [.word "AUTHORISED_KEYS"] r

def onConflict (r : Reading) : OnConflict × Reading :=
  match r.rest with
  | .word "OR" :: .word "REPLACE" :: rest => (.replace, { r with rest := rest })
  | .word "OR" :: .word "IGNORE" :: rest => (.ignore, { r with rest := rest })
  | _ => (.fail, r)

/-- The columns between parentheses. -/
def columns? : Reader (List Column) := fun r => do
  let (cs, r) ← parts? column? (← word? [.mark '('] r)
  return (cs, ← word? [.mark ')'] r)

def allColumns : List Column := [.identity, .publicKey, .accessLevel]

def select? : Reader Statement := fun r => do
  let (columns, r) ← match r.rest with
    | .mark '*' :: rest => some (allColumns.map .column, { r with rest := rest })
    | _ => parts? expr? r
  let r ← table? (← word? [.word "FROM"] r)
  let (conditions, r) ← where? r
  let (order, r) ← orderBy? r
  return (.select columns conditions order, r)

def insert? : Reader Statement := fun r => do
  let (conflict, r) := onConflict r
  let r ← table? (← word? [.word "INTO"] r)
  let (columns, r) ← match r.rest with
    | .mark '(' :: _ => columns? r
    | _ => some (allColumns, r)
  let (values, r) ← parts? expr? (← word? [.word "VALUES", .mark '('] r)
  let r ← word? [.mark ')'] r
  if columns.length = values.length then some (.insert conflict columns values, r) else none

def assignment? : Reader (Column × Expr) := fun r => do
  let (c, r) ← column? r
  let (e, r) ← expr? (← word? [.mark '='] r)
  return ((c, e), r)

def update? : Reader Statement := fun r => do
  let (assignments, r) ← parts? assignment? (← word? [.word "SET"] (← table? r))
  let (conditions, r) ← where? r
  return (.update assignments conditions, r)

def delete? : Reader Statement := fun r => do
  let (conditions, r) ← where? (← table? (← word? [.word "FROM"] r))
  return (.delete conditions, r)

/-- The reader that the first word of a statement calls for. -/
def statement? : Reader Statement := fun r =>
  match r.rest with
  | .word "SELECT" :: rest => select? { r with rest := rest }
  | .word "INSERT" :: rest => insert? { r with rest := rest }
  | .word "REPLACE" :: rest => insert? { r with rest := .word "OR" :: .word "REPLACE" :: rest }
  | .word "UPDATE" :: rest => update? { r with rest := rest }
  | .word "DELETE" :: rest => delete? { r with rest := rest }
  | _ => none

/-- The statement that a text writes, possibly ended by semicolons. -/
def Statement.read? (text : String) : Option Statement := do
  let words ← lexemes? (text.length + 1) text.toList
  let (statement, r) ← statement? ⟨words, 0⟩
  if r.rest.all (· == .mark ';') then some statement else none

end Sql
end Gatehouse
