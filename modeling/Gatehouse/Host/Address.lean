import Gatehouse.Number.Power
import Gatehouse.Text.Blank
import Gatehouse.Text.Hex
/-!
# Addresses to listen on

An address of the network and a port, as four decimal numbers or as groups of hexadecimal digits in brackets.
`Address.read?` reads one and `Address.text` writes it; the longest run of zero groups, if it has at least two, is
written as two colons.
-/
namespace Gatehouse

/-- Where a server listens. -/
inductive Address where
  | v4 (parts : List Nat) (port : Nat)
  | v6 (groups : List Nat) (scope : Nat) (port : Nat)
  deriving DecidableEq, Repr

namespace Address

/-- A number of decimal digits up to a limit. -/
def decimal? (limit : Nat) (text : List Char) : Option Nat :=
  let n := Text.ofDigits 10 text
  if !text.isEmpty && text.all Char.isDigit && n ≤ limit then some n else none

/-- A number below 256 without a needless leading zero. -/
def part? (text : List Char) : Option Nat :=
  match text with
  | '0' :: _ :: _ => none
  | _ => if text.length ≤ 3 then decimal? 255 text else none

/-- Four numbers between dots. -/
def parts? (text : List Char) : Option (List Nat) := do
  let parts ← (Text.splitOn '.' text).mapM part?
  if parts.length = 4 then some parts else none

/-- A group of one to four hexadecimal digits. -/
def group? (text : List Char) : Option Nat :=
  if !text.isEmpty && text.length ≤ 4 && text.all (Text.isDigitOf 16) then some (Text.ofDigits 16 text) else none

/-- The groups between colons, none in an empty text; the last two may be written as four numbers. -/
def groups? (last : Bool) (text : List Char) : Option (List Nat) :=
  if text.isEmpty then some []
  else
    let rec go : List (List Char) → Option (List Nat)
      | [] => some []
      | [piece] =>
        match last, parts? piece with
        | true, some [a, b, c, d] => some [a * 256 + b, c * 256 + d]
        | _, _ => (group? piece).map fun g => [g]
      | piece :: rest => do return (← group? piece) :: (← go rest)
    go (Text.splitOn ':' text)

/-- The text before and after the first two colons in a row. -/
def splitGap? : List Char → Option (List Char × List Char)
  | ':' :: ':' :: rest => some ([], rest)
  | c :: rest => (splitGap? rest).map fun (a, b) => (c :: a, b)
  | [] => none

/-- Eight groups, with two colons for one or more zero groups. -/
def allGroups? (text : List Char) : Option (List Nat) := do
  match splitGap? text with
  | none =>
    let groups ← groups? true text
    if groups.length = 8 then some groups else none
  | some (before, after) =>
    let front ← groups? false before
    let back ← groups? true after
    let given := front.length + back.length
    if given ≤ 7 then some (front ++ List.replicate (8 - given) 0 ++ back) else none

/-- The address that a text writes. -/
def read? (text : String) : Option Address :=
  match text.toList with
  | '[' :: rest => do
    let (inside, rest) ← Text.splitFirst? ']' rest
    let port ← match rest with
      | ':' :: port => decimal? 65535 port
      | _ => none
    match Text.splitFirst? '%' inside with
    | some (groups, scope) => return .v6 (← allGroups? groups) (← decimal? (2 ^ 32 - 1) scope) port
    | none => return .v6 (← allGroups? inside) 0 port
  | cs => do
    let (parts, port) ← Text.splitFirst? ':' cs
    return .v4 (← parts? parts) (← decimal? 65535 port)

/-- The start and the length of the longest run of zeros, the first of equally long ones. -/
def longestGap (groups : List Nat) : Nat × Nat :=
  let runAt (i : Nat) : Nat := ((groups.drop i).takeWhile (· = 0)).length
  (List.range groups.length).foldl (fun best i => if best.2 < runAt i then (i, runAt i) else best) (0, 0)

/-- Numbers in a base, between separators. -/
def joined (sep : Char) (base : Nat) (ns : List Nat) : List Char := [sep].intercalate (ns.map (Nat.toDigits base))

/-- The text of eight groups. -/
def groupText (groups : List Nat) : List Char :=
  match groups with
  | [0, 0, 0, 0, 0, 0xFFFF, a, b] =>
    "::ffff:".toList ++ joined '.' 10 [a / 256, a % 256, b / 256, b % 256]
  | groups =>
    let (start, count) := longestGap groups
    if 1 < count then
      joined ':' 16 (groups.take start) ++ [':', ':'] ++ joined ':' 16 (groups.drop (start + count))
    else joined ':' 16 groups

/-- The text of an address. -/
def text : Address → String
  | v4 parts port => String.ofList (joined '.' 10 parts) ++ ":" ++ toString port
  | v6 groups scope port =>
    let zone := if scope = 0 then "" else "%" ++ toString scope
    "[" ++ String.ofList (groupText groups) ++ zone ++ "]:" ++ toString port

end Address
end Gatehouse
