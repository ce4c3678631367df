import Gatehouse.Text.Blank
/-!
# Where a database is

The url of a database: a scheme and two slashes that may be left out, a file name with percent escapes, and
parameters after a question mark.
-/
namespace Gatehouse

/-- What a url says about a database. -/
structure Location where
  /-- The file, when the database is not held in memory. -/
  file : Option String
  /-- The name that the url gives, file or not. -/
  name : String
  readOnly : Bool
  deriving DecidableEq, Repr

namespace Location

/-- A text without any number of copies of a given one at its start. -/
def dropAll (lead : List Char) : Nat → List Char → List Char
  | 0, text => text
  | fuel + 1, text =>
    match Text.dropPrefix? lead text with
    | some rest => dropAll lead fuel rest
    | none => text

/-- The value of a hexadecimal digit. -/
def hexDigit? (b : UInt8) : Option UInt8 :=
  if 0x30 ≤ b && b ≤ 0x39 then some (b - 0x30)
  else if 0x41 ≤ b && b ≤ 0x46 then some (b - 0x37)
  else if 0x61 ≤ b && b ≤ 0x66 then some (b - 0x57)
  else none

/-- The byte that the two hexadecimal digits at the start of a text stand for. -/
def escaped? : List UInt8 → Option UInt8
  | a :: b :: _ => do return (← hexDigit? a) * 16 + (← hexDigit? b)
  | _ => none

/-- Bytes with percent escapes in place of the bytes that they stand for, once `passed` bytes are passed over; a
percent sign without two hexadecimal digits stays. -/
def unescape (passed : Nat) : List UInt8 → List UInt8
  | [] => []
  | c :: rest =>
    match passed, if c = 0x25 then escaped? rest else none with
    | n + 1, _ => unescape n rest
    | 0, some b => b :: unescape 2 rest
    | 0, none => c :: unescape 0 rest

/-- A text without percent escapes. -/
def unescaped? (text : List Char) : Option String :=
  Text.ofUtf8? (unescape 0 (Text.utf8 (String.ofList text)))

/-- The location with what a parameter says; unknown parameters and values are refused. -/
def withParameter? (l : Location) (key value : String) : Option Location :=
  if key = "mode" then
    if value = "ro" then some { l with readOnly := true }
    else if value = "rw" || value = "rwc" then some l
    else if value = "memory" then some { l with file := none }
    else none
  else if key = "cache" then if value = "private" || value = "shared" then some l else none
  else if key = "immutable" then
    if value = "true" || value = "1" || value = "false" || value = "0" then some l else none
  else if key = "vfs" then if value = "unix" then some l else none
  else none

/-- A part of a parameter: plus signs stand for blanks, percent escapes for bytes. -/
def formText? (text : List Char) : Option String :=
  unescaped? (text.map fun c => if c = '+' then ' ' else c)

/-- The location with what a list of parameters says. -/
def withParameters? (l : Location) : List (List Char) → Option Location
  | [] => some l
  | p :: rest =>
    if p.isEmpty then l.withParameters? rest
    else do
      let (key, value) := (Text.splitFirst? '=' p).getD (p, [])
      let l ← l.withParameter? (← formText? key) (← formText? value)
      l.withParameters? rest

/-- The location that a url means. -/
def ofUrl? (url : String) : Option Location := do
  let text := url.toList
  let text := dropAll "//".toList text.length (dropAll "sqlite:".toList text.length text)
  let (name, parameters) := match Text.splitFirst? '?' text with
    | some (name, parameters) => (name, Text.splitOn '&' parameters)
    | none => (text, [])
  let file ← unescaped? name
  let start : Location :=
    if name = ":memory:".toList || name.isEmpty then ⟨none, "", false⟩ else ⟨some file, file, false⟩
  start.withParameters? parameters

end Location
end Gatehouse
