import Gatehouse.Json.Number
import Gatehouse.Text.Blank
/-!
# Reading JSON

The grammar over bytes.  Every reader takes the input that is left and gives back what it read and the rest, or
nothing when the input breaks the grammar; texts are checked to be UTF-8 when they end, and surrogates in escapes must
come in pairs.  Arrays and objects may nest 127 deep.

`Json.parse?` reads a whole text.  `Json.skip?` passes over a value that nobody asks for: it checks the grammar but
neither the bytes of texts, nor surrogates, nor the size of numbers, nor the depth.
-/
namespace Gatehouse
namespace Json

/-- The bytes that are left to read. -/
abbrev Input := List UInt8

/-- The byte of an ASCII character. -/
def byteOf (c : Char) : UInt8 := UInt8.ofNat c.toNat

/-- Blanks between tokens. -/
def isSpace (b : UInt8) : Bool :=
  b == byteOf ' ' || b == byteOf '\n' || b == byteOf '\t' || b == byteOf '\r'

/-- The input from the next token on. -/
def skipSpace (i : Input) : Input := i.dropWhile isSpace

/-! ## Words and numbers -/

/-- The input after a given word. -/
def word? (w : List UInt8) (i : Input) : Option Input :=
  match w, i with
  | [], i => some i
  | _ :: _, [] => none
  | b :: bs, c :: cs => if b = c then word? bs cs else none

/-- The value of a decimal digit. -/
def digit? (b : UInt8) : Option Nat :=
  if byteOf '0' ≤ b && b ≤ byteOf '9' then some (b.toNat - 48) else none

/-- The digits at the start of the input. -/
def digits : Input → List Nat × Input
  | [] => ([], [])
  | b :: rest =>
    match digit? b with
    | some d => ((d :: (digits rest).1), (digits rest).2)
    | none => ([], b :: rest)

/-- A fraction, if the input goes on with one. -/
def fraction? (i : Input) : Option (Option (List Nat) × Input) :=
  match i with
  | b :: rest =>
    if b = byteOf '.' then
      match digits rest with
      | ([], _) => none
      | (ds, rest) => some (some ds, rest)
    else some (none, i)
  | [] => some (none, [])

/-- An exponent, if the input goes on with one. -/
def exponent? (i : Input) : Option (Option (Bool × List Nat) × Input) :=
  match i with
  | b :: rest =>
    if b = byteOf 'e' || b = byteOf 'E' then
      let (negative, rest) := match rest with
        | s :: after =>
          if s = byteOf '-' then (true, after) else if s = byteOf '+' then (false, after) else (false, rest)
        | [] => (false, rest)
      match digits rest with
      | ([], _) => none
      | (ds, rest) => some (some (negative, ds), rest)
    else some (none, i)
  | [] => some (none, [])

/-- The text of a number from its sign on.  A leading zero stands alone. -/
def numberParts? (i : Input) : Option (Number.Parts × Input) := do
  let (negative, i) := match i with
    | b :: rest => if b = byteOf '-' then (true, rest) else (false, i)
    | [] => (false, i)
  let (whole, i) ← match digits i with
    | ([], _) => none
    | (0 :: _ :: _, _) => none
    | (ds, rest) => some (ds, rest)
  let (fraction, i) ← fraction? i
  let (exponent, i) ← exponent? i
  return (⟨negative, whole, fraction, exponent⟩, i)

/-! ## Texts -/

/-- The value of a hexadecimal digit. -/
def hexDigit? (b : UInt8) : Option Nat :=
  if byteOf '0' ≤ b && b ≤ byteOf '9' then some (b.toNat - 48)
  else if byteOf 'a' ≤ b && b ≤ byteOf 'f' then some (b.toNat - 87)
  else if byteOf 'A' ≤ b && b ≤ byteOf 'F' then some (b.toNat - 55)
  else none

/-- The value of four hexadecimal digits. -/
def hex4? (a b c d : UInt8) : Option Nat := do
  return (((← hexDigit? a) * 16 + (← hexDigit? b)) * 16 + (← hexDigit? c)) * 16 + (← hexDigit? d)

/-- The byte that a one-letter escape stands for. -/
def escaped? (b : UInt8) : Option UInt8 :=
  if b = byteOf '"' || b = byteOf '\\' || b = byteOf '/' then some b
  else if b = byteOf 'b' then some 0x08
  else if b = byteOf 'f' then some 0x0C
  else if b = byteOf 'n' then some 0x0A
  else if b = byteOf 'r' then some 0x0D
  else if b = byteOf 't' then some 0x09
  else none

def isHighSurrogate (n : Nat) : Bool := 0xD800 ≤ n && n ≤ 0xDBFF

def isLowSurrogate (n : Nat) : Bool := 0xDC00 ≤ n && n ≤ 0xDFFF

/-- The UTF-8 bytes of a code point. -/
def scalarBytes (n : Nat) : List UInt8 := String.utf8EncodeChar (Char.ofNat n)

/-- The bytes of a text after its opening quote, `acc` holding those before the input in reverse. -/
def textBytes? (acc : List UInt8) : Input → Option (List UInt8 × Input)
  | [] => none
  | b :: rest =>
    if b = byteOf '"' then some (acc.reverse, rest)
    else if b = byteOf '\\' then
      match rest with
      | [] => none
      | e :: rest =>
        if e = byteOf 'u' then
          match rest with
          | h1 :: h2 :: h3 :: h4 :: rest =>
            match hex4? h1 h2 h3 h4 with
            | none => none
            | some n =>
              if isLowSurrogate n then none
              else if isHighSurrogate n then
                match rest with
                | s :: u :: l1 :: l2 :: l3 :: l4 :: rest =>
                  if s = byteOf '\\' && u = byteOf 'u' then
                    match hex4? l1 l2 l3 l4 with
                    | none => none
                    | some m =>
                      if isLowSurrogate m then
                        let point := (n - 0xD800) * 0x400 + (m - 0xDC00) + 0x10000
                        textBytes? ((scalarBytes point).reverse ++ acc) rest
                      else none
                  else none
                | _ => none
              else textBytes? ((scalarBytes n).reverse ++ acc) rest
          | _ => none
        else match escaped? e with
          | some c => textBytes? (c :: acc) rest
          | none => none
    else if b < 0x20 then none
    else textBytes? (b :: acc) rest

/-- A text after its opening quote. -/
def text? (i : Input) : Option (String × Input) := do
  let (bytes, rest) ← textBytes? [] i
  return (← Text.ofUtf8? bytes, rest)

/-! ## Values -/

/-- Items separated by commas up to a closing byte, at least one.  `fuel` bounds their number. -/
def items? (one : Input → Option (α × Input)) (close : UInt8) (fuel : Nat) (acc : List α) (i : Input) :
    Option (List α × Input) :=
  match fuel with
  | 0 => none
  | fuel + 1 =>
    match one i with
    | none => none
    | some (x, i) =>
      match skipSpace i with
      | [] => none
      | b :: rest =>
        if b = byteOf ',' then items? one close fuel (x :: acc) rest
        else if b = close then some ((x :: acc).reverse, rest)
        else none

/-- The items of a collection after its opening byte. -/
def collection? (one : Input → Option (α × Input)) (close : UInt8) (i : Input) : Option (List α × Input) :=
  match skipSpace i with
  | [] => none
  | b :: rest => if b = close then some ([], rest) else items? one close i.length [] (b :: rest)

/-- A member of an object: a text, a colon and a value. -/
def memberOf? (value : Input → Option (Json × Input)) (i : Input) : Option ((String × Json) × Input) :=
  match skipSpace i with
  | [] => none
  | b :: rest =>
    if b = byteOf '"' then do
      let (name, rest) ← text? rest
      match skipSpace rest with
      | [] => none
      | c :: rest =>
        if c = byteOf ':' then do
          let (v, rest) ← value rest
          return ((name, v), rest)
        else none
    else none

/-- A scalar: a word, a number or a text. -/
def scalar? (i : Input) : Option (Json × Input) :=
  match i with
  | [] => none
  | b :: rest =>
    if b = byteOf '"' then (text? rest).map fun (s, rest) => (.text s, rest)
    else if b = byteOf 'n' then (word? ("null".toList.map byteOf) i).map fun rest => (.null, rest)
    else if b = byteOf 't' then (word? ("true".toList.map byteOf) i).map fun rest => (.bool true, rest)
    else if b = byteOf 'f' then (word? ("false".toList.map byteOf) i).map fun rest => (.bool false, rest)
    else do
      let (parts, rest) ← numberParts? i
      let n ← Number.ofParts? parts
      return (.number n, rest)

/-- A value whose arrays and objects nest at most `depth` deep. -/
def value? (depth : Nat) (i : Input) : Option (Json × Input) :=
  match skipSpace i with
  | [] => none
  | b :: rest =>
    if b = byteOf '[' then
      match depth with
      | 0 => none
      | depth + 1 => (collection? (value? depth) (byteOf ']') rest).map fun (xs, rest) => (.array xs, rest)
    else if b = byteOf '{' then
      match depth with
      | 0 => none
      | depth + 1 =>
        (collection? (memberOf? (value? depth)) (byteOf '}') rest).map fun (ms, rest) => (ofMembers ms, rest)
    else scalar? (b :: rest)

/-- How deep arrays and objects may nest. -/
def maxDepth : Nat := 127

/-- The value that a whole text writes. -/
def parse? (i : Input) : Option Json := do
  let (v, rest) ← value? maxDepth i
  if (skipSpace rest).isEmpty then some v else none

/-! ## Passing over a value -/

/-- The input after a text whose opening quote is read, only its escapes checked. -/
def skipText? : Input → Option Input
  | [] => none
  | b :: rest =>
    if b = byteOf '"' then some rest
    else if b = byteOf '\\' then
      match rest with
      | [] => none
      | e :: rest =>
        if e = byteOf 'u' then
          match rest with
          | h1 :: h2 :: h3 :: h4 :: rest => if (hex4? h1 h2 h3 h4).isSome then skipText? rest else none
          | _ => none
        else if (escaped? e).isSome then skipText? rest
        else none
    else if b < 0x20 then none
    else skipText? rest

/-- The input after a scalar. -/
def skipScalar? (i : Input) : Option Input :=
  match i with
  | [] => none
  | b :: rest =>
    if b = byteOf '"' then skipText? rest
    else if b = byteOf 'n' then word? ("null".toList.map byteOf) i
    else if b = byteOf 't' then word? ("true".toList.map byteOf) i
    else if b = byteOf 'f' then word? ("false".toList.map byteOf) i
    else (numberParts? i).map Prod.snd

/-- The input after the name and the colon of a member. -/
def skipName? (i : Input) : Option Input := do
  match skipSpace i with
  | [] => none
  | b :: rest =>
    if b = byteOf '"' then
      match skipSpace (← skipText? rest) with
      | [] => none
      | c :: rest => if c = byteOf ':' then some rest else none
    else none

/-- What a reader that passes over a value looks for next: a value, or the comma or end after one. -/
inductive Expecting where
  | value
  | more
  deriving DecidableEq, Repr

/-- The input after a value inside the collections whose closing bytes `stack` lists, innermost first.  Every step
reads a byte, so the length of the input is enough fuel. -/
def skipWithin? (fuel : Nat) (stack : List UInt8) (want : Expecting) (i : Input) : Option Input :=
  match fuel with
  | 0 => none
  | fuel + 1 =>
    match want, stack with
    | .more, [] => some i
    | .more, close :: outer =>
      match skipSpace i with
      | [] => none
      | b :: rest =>
        if b = close then skipWithin? fuel outer .more rest
        else if b = byteOf ',' then
          if close = byteOf '}' then (skipName? rest).bind (skipWithin? fuel stack .value)
          else skipWithin? fuel stack .value rest
        else none
    | .value, stack =>
      match skipSpace i with
      | [] => none
      | b :: rest =>
        if b = byteOf '[' then
          match skipSpace rest with
          | [] => none
          | c :: after =>
            if c = byteOf ']' then skipWithin? fuel stack .more after
            else skipWithin? fuel (byteOf ']' :: stack) .value (c :: after)
        else if b = byteOf '{' then
          match skipSpace rest with
          | [] => none
          | c :: after =>
            if c = byteOf '}' then skipWithin? fuel stack .more after
            else (skipName? (c :: after)).bind (skipWithin? fuel (byteOf '}' :: stack) .value)
        else (skipScalar? (b :: rest)).bind (skipWithin? fuel stack .more)

/-- The input after a value that nobody asks for. -/
def skip? (i : Input) : Option Input := skipWithin? (2 * i.length + 2) [] .value i

end Json
end Gatehouse
