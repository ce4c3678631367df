import Gatehouse.Number.Power
import Gatehouse.Sql.Statement
import Gatehouse.Sql.Table
/-!
# Running statements

A statement runs against the table of keys with values for its parameters.  It gives rows or changes the table as a
whole: a change that would give two rows one identity, or leave a value of the wrong type in a column, is not made at
all.
-/
namespace Gatehouse
namespace Sql

/-- A value of a column. -/
inductive Value where
  | null
  | integer (n : Int)
  | text (s : String)
  deriving DecidableEq, Repr

/-- Why a statement does not run. -/
inductive Fault where
  /-- A row with the identity is there already. -/
  | duplicate
  /-- Anything else that the database refuses. -/
  | refused
  deriving DecidableEq, Repr

/-- A row with its identity. -/
structure Entry where
  identity : String
  row : Row
  deriving DecidableEq, Repr

def Entry.value (e : Entry) : Column → Value
  | .identity => .text e.identity
  | .publicKey => .text e.row.publicKey
  | .accessLevel => .integer e.row.accessLevel

/-- The result of an operation on integers that fits 64 bits; null with null. -/
def arithmetic (f : Int → Int → Int) : Value → Value → Option Value
  | .integer a, .integer b =>
    let n := f a b
    if -(2 ^ 63) ≤ n && n < 2 ^ 63 then some (.integer n) else none
  | .null, _ => some .null
  | _, .null => some .null
  | _, _ => none

/-- The value of an expression, at a row if there is one. -/
def Expr.eval? (parameters : List Value) (e : Option Entry) : Expr → Option Value
  | .parameter index => some (parameters.getD (index - 1) .null)
  | .integer n => some (.integer n)
  | .text s => some (.text s)
  | .null => some .null
  | .column c => e.map fun entry => entry.value c
  | .sum a b => do arithmetic (· + ·) (← a.eval? parameters e) (← b.eval? parameters e)
  | .difference a b => do arithmetic (· - ·) (← a.eval? parameters e) (← b.eval? parameters e)

/-- The order of values: integers before texts.  Null compares with nothing. -/
def Value.compare? : Value → Value → Option Ordering
  | .integer a, .integer b => some (compare a b)
  | .text a, .text b => some (if a = b then .eq else if a < b then .lt else .gt)
  | .integer _, .text _ => some .lt
  | .text _, .integer _ => some .gt
  | _, _ => none

def Comparison.holds (c : Comparison) (o : Ordering) : Bool :=
  match c with
  | .equal => o == .eq
  | .unequal => o != .eq
  | .less => o == .lt
  | .lessEqual => o != .gt
  | .greater => o == .gt
  | .greaterEqual => o != .lt

def Condition.holds? (parameters : List Value) (e : Entry) (c : Condition) : Option Bool := do
  let a ← c.left.eval? parameters (some e)
  let b ← c.right.eval? parameters (some e)
  return match a.compare? b with
    | some o => c.comparison.holds o
    | none => false

/-- Whether a row meets all conditions. -/
def meets? (parameters : List Value) (conditions : List Condition) (e : Entry) : Option Bool :=
  conditions.foldlM (fun acc c => (c.holds? parameters e).map (acc && ·)) true

/-- The rows of a table. -/
def entries (rows : SortedMap Row) : List Entry := rows.entries.map fun (identity, row) => ⟨identity, row⟩

/-- Whether a row comes before another in an order. -/
def precedes (order : List Order) (a b : Entry) : Bool :=
  match order with
  | [] => true
  | o :: rest =>
    match (a.value o.column).compare? (b.value o.column) with
    | some .lt => !o.descending
    | some .gt => o.descending
    | _ => precedes rest a b

/-- The rows that a query selects, as values of its columns. -/
def query (rows : SortedMap Row) (columns : List Expr) (conditions : List Condition) (order : List Order)
    (parameters : List Value) : Option (List (List Value)) := do
  let found ← (entries rows).filterMapM fun e => do
    let met ← meets? parameters conditions e
    return if met then some e else none
  (found.mergeSort (precedes order)).mapM fun e => columns.mapM (Expr.eval? parameters (some e))

/-- An entry from the values of its columns. -/
def Entry.ofValues? (values : Column → Value) : Option Entry :=
  match values .identity, values .publicKey, values .accessLevel with
  | .text identity, .text publicKey, .integer level => some ⟨identity, ⟨publicKey, level⟩⟩
  | _, _, _ => none

/-- The values that a list of columns is given; a level that is left out is zero. -/
def assigned (pairs : List (Column × Value)) (fallback : Column → Value) (c : Column) : Value :=
  match pairs.find? fun p => p.1 = c with
  | some (_, v) => v
  | none => fallback c

/-- The table after an insertion, and the count of rows that it changed. -/
def insertInto (rows : SortedMap Row) (onConflict : OnConflict) (columns : List Column) (values : List Expr)
    (parameters : List Value) : Except Fault (SortedMap Row × Nat) :=
  match values.mapM (Expr.eval? parameters none) with
  | none => .error .refused
  | some vs =>
    let fallback (c : Column) : Value := if c = .accessLevel then .integer 0 else .null
    match Entry.ofValues? (assigned (columns.zip vs) fallback) with
    | none => .error .refused
    | some e =>
      if rows.contains e.identity then
        match onConflict with
        | .fail => .error .duplicate
        | .replace => .ok (rows.insert e.identity e.row, 1)
        | .ignore => .ok (rows, 0)
      else .ok (rows.insert e.identity e.row, 1)

/-- The table after an update, and the count of rows that it changed. -/
def updateIn (rows : SortedMap Row) (assignments : List (Column × Expr)) (conditions : List Condition)
    (parameters : List Value) : Except Fault (SortedMap Row × Nat) :=
  (entries rows).foldlM (fun (acc : SortedMap Row × Nat) e =>
    match meets? parameters conditions e with
    | none => .error .refused
    | some false => .ok acc
    | some true =>
      match assignments.mapM fun (c, x) => (x.eval? parameters (some e)).map fun v => (c, v) with
      | none => .error .refused
      | some pairs =>
        match Entry.ofValues? (assigned pairs e.value) with
        | none => .error .refused
        | some e' =>
          if e'.identity = e.identity then .ok (acc.1.insert e.identity e'.row, acc.2 + 1)
          else if acc.1.contains e'.identity then .error .duplicate
          else .ok ((acc.1.erase e.identity).insert e'.identity e'.row, acc.2 + 1)) (rows, 0)

/-- The table after a deletion, and the count of rows that it changed. -/
def deleteFrom (rows : SortedMap Row) (conditions : List Condition) (parameters : List Value) :
    Except Fault (SortedMap Row × Nat) :=
  (entries rows).foldlM (fun (acc : SortedMap Row × Nat) e =>
    match meets? parameters conditions e with
    | none => .error .refused
    | some false => .ok acc
    | some true => .ok (acc.1.erase e.identity, acc.2 + 1)) (rows, 0)

/-- What a statement gives: the rows of a query, the count of changed rows, and the table after it. -/
structure Outcome where
  found : List (List Value)
  changed : Nat
  rows : SortedMap Row

/-- The outcome of a statement on a table. -/
def Statement.run (s : Statement) (rows : SortedMap Row) (parameters : List Value) : Except Fault Outcome :=
  match s with
  | .select columns conditions order =>
    match query rows columns conditions order parameters with
    | some found => .ok ⟨found, 0, rows⟩
    | none => .error .refused
  | .insert onConflict columns values =>
    (insertInto rows onConflict columns values parameters).map fun (rows, n) => ⟨[], n, rows⟩
  | .update assignments conditions =>
    (updateIn rows assignments conditions parameters).map fun (rows, n) => ⟨[], n, rows⟩
  | .delete conditions =>
    (deleteFrom rows conditions parameters).map fun (rows, n) => ⟨[], n, rows⟩

/-- Whether a statement leaves the table as it is. -/
def Statement.isQuery : Statement → Bool
  | .select _ _ _ => true
  | _ => false

end Sql
end Gatehouse
