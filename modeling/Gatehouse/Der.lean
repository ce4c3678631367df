import Gatehouse.Text.Blank
/-!
# DER

Two readers of the encoding.

`Der.trees?` is lenient about how lengths and integers are written: it takes a text of elements apart into what a
search for a key needs, and refuses only elements that run past their end or whose content is not of their type.
`Der.Strict` reads the elements of a key in their one minimal form.
-/
namespace Gatehouse
namespace Der

/-- An element as far as a search for a key looks at it. -/
inductive Tree where
  | sequence (items : List Tree)
  | bits (content : List UInt8)
  | octets (content : List UInt8)
  | identifier (arcs : List Nat)
  | other
  deriving Repr, Inhabited

/-! ## The head of an element -/

/-- A number in base 128, each byte but the last with its high bit set. -/
def base128? (acc : Nat) : List UInt8 → Option (Nat × List UInt8)
  | [] => none
  | b :: rest =>
    let n := acc * 128 + b.toNat % 128
    if b < 0x80 then some (n, rest) else base128? n rest

/-- The numbers in base 128 that fill a content. -/
def arcs? : Nat → List UInt8 → Option (List Nat)
  | _, [] => some []
  | 0, _ => none
  | fuel + 1, b :: rest => do
    let (n, rest) ← base128? 0 (b :: rest)
    return n :: (← arcs? fuel rest)

/-- The big-endian number of the next `count` bytes. -/
def bigEndian? (acc : Nat) : Nat → List UInt8 → Option (Nat × List UInt8)
  | 0, rest => some (acc, rest)
  | _ + 1, [] => none
  | count + 1, b :: rest => bigEndian? (acc * 256 + b.toNat) count rest

/-- A length of at most eight bytes, in any width. -/
def length? : List UInt8 → Option (Nat × List UInt8)
  | [] => none
  | b :: rest =>
    if b < 0x80 then some (b.toNat, rest)
    else
      let count := b.toNat - 0x80
      if 8 < count then none else bigEndian? 0 count rest

/-- The head of an element: the class bits, whether it is constructed, and the tag number. -/
structure Head where
  universal : Bool
  tag : Nat
  deriving DecidableEq, Repr

def head? : List UInt8 → Option (Head × List UInt8)
  | [] => none
  | b :: rest => do
    let (tag, rest) ← if b.toNat % 32 = 31 then base128? 0 rest else some (b.toNat % 32, rest)
    return (⟨b < 0x40, tag⟩, rest)

/-- An element: its head, its content and what follows it. -/
def element? (i : List UInt8) : Option (Head × List UInt8 × List UInt8) := do
  let (head, i) ← head? i
  let (length, i) ← length? i
  if i.length < length then none else some (head, i.take length, i.drop length)

/-! ## Contents -/

/-- The arcs of an object identifier; its first byte holds two. -/
def identifier? : List UInt8 → Option (List Nat)
  | [] => none
  | b :: rest => do
    let n := b.toNat
    let (first, second) := if n < 40 then (0, n) else if n < 80 then (1, n - 40) else (2, n - 80)
    return first :: second :: (← arcs? rest.length rest)

/-- The characters of the type PrintableString. -/
def isPrintable (b : UInt8) : Bool :=
  let c := Char.ofNat b.toNat
  c.isAlphanum || " '()+,-./:=?".toList.contains c

/-- The number of a run of digits. -/
def decimal? (cs : List UInt8) : Option Nat :=
  cs.foldl (fun acc b => acc.bind fun n => if 0x30 ≤ b && b ≤ 0x39 then some (n * 10 + (b.toNat - 48)) else none)
    (some 0)

/-- The days of a month. -/
def daysIn (year month : Nat) : Nat :=
  if month = 2 then if year % 4 = 0 && (year % 100 ≠ 0 || year % 400 = 0) then 29 else 28
  else if month = 4 || month = 6 || month = 9 || month = 11 then 30
  else 31

/-- Whether ten digits are a month, a day of it, an hour, a minute and a second. -/
def isMoment (year : Nat) (cs : List UInt8) : Bool :=
  match decimal? (cs.take 2), decimal? ((cs.drop 2).take 2), decimal? ((cs.drop 4).take 2),
      decimal? ((cs.drop 6).take 2), decimal? ((cs.drop 8).take 2) with
  | some month, some day, some hour, some minute, some second =>
    1 ≤ month && month ≤ 12 && 1 ≤ day && day ≤ daysIn year month && hour < 24 && minute < 60 && second < 60
  | _, _, _, _, _ => false

/-- A moment with a year of two digits, of the years 1950 to 2049. -/
def isShortTime (cs : List UInt8) : Bool :=
  cs.length = 13 && cs.drop 12 == [0x5A] &&
    match decimal? (cs.take 2) with
    | some y => isMoment (if y < 50 then 2000 + y else 1900 + y) ((cs.drop 2).take 10)
    | none => false

/-- The digits of a fraction of a second; the point before them may be left out. -/
def fraction : List UInt8 → List UInt8
  | 0x2E :: digits => digits
  | digits => digits

/-- A moment with a year of four digits, possibly with a fraction of a second of at most nine digits. -/
def isLongTime (cs : List UInt8) : Bool :=
  let digits := fraction (cs.drop 14).dropLast
  15 ≤ cs.length && cs.getLast? == some 0x5A && digits.length ≤ 9 && (decimal? digits).isSome &&
    match decimal? (cs.take 4) with
    | some y => isMoment y ((cs.drop 4).take 10)
    | none => false

/-- Whether bytes are UTF-16, big-endian, with surrogates in pairs. -/
def isUtf16 : List UInt8 → Bool
  | [] => true
  | [_] => true
  | a :: _ :: rest =>
    if 0xD8 ≤ a && a ≤ 0xDB then
      match rest with
      | c :: _ :: rest => 0xDC ≤ c && c ≤ 0xDF && isUtf16 rest
      | _ => false
    else if 0xDC ≤ a && a ≤ 0xDF then false
    else isUtf16 rest

def isUtf8 (content : List UInt8) : Bool := (Text.ofUtf8? content).isSome

/-- The content of a bit string without its count of unused bits. -/
def bits? : List UInt8 → Option (List UInt8)
  | [] => some []
  | unused :: rest => if unused.toNat ≤ 8 * rest.length then some rest else none

/-- Whether the content of a primitive element of a known type is of that type. -/
def isWellFormed (tag : Nat) (content : List UInt8) : Bool :=
  match tag with
  | 0x01 => content.length = 1
  | 0x0C | 0x14 | 0x1C => isUtf8 content
  | 0x13 => content.all isPrintable
  | 0x16 => content.all (· < 0x80)
  | 0x17 => isShortTime content
  | 0x18 => isLongTime content
  | 0x1E => isUtf16 content
  | _ => true

/-! ## Trees -/

mutual
/-- The tree of an element, given its head and content. -/
def tree? (fuel : Nat) (head : Head) (content : List UInt8) : Option Tree :=
  match fuel with
  | 0 => none
  | fuel + 1 =>
    if !head.universal then some .other
    else match head.tag with
      | 0x03 => (bits? content).map .bits
      | 0x04 => some (.octets content)
      | 0x06 => (identifier? content).map .identifier
      | 0x10 => (treesWithin? fuel content).map .sequence
      | 0x11 => (treesWithin? fuel content).map fun _ => .other
      | tag => if isWellFormed tag content then some .other else none

/-- The trees of the elements that fill a content, at least one. -/
def treesWithin? (fuel : Nat) (i : List UInt8) : Option (List Tree) :=
  match fuel with
  | 0 => none
  | fuel + 1 => do
    let (head, content, rest) ← element? i
    let t ← tree? fuel head content
    if rest.isEmpty then return [t] else return t :: (← treesWithin? fuel rest)
end

/-- The trees of the elements that a text of bytes consists of, at least one, sets and sequences not empty. -/
def trees? (i : List UInt8) : Option (List Tree) := treesWithin? (2 * i.length + 2) i

mutual
/-- The first answer of a search among elements, through sequences and depth first. -/
def Tree.find? (f : Tree → Option α) : Tree → Option α
  | .sequence items => Tree.findIn? f items
  | t => f t

def Tree.findIn? (f : Tree → Option α) : List Tree → Option α
  | [] => none
  | t :: rest =>
    match Tree.find? f t with
    | some a => some a
    | none => Tree.findIn? f rest
end

/-- The content of the first bit or octet string. -/
def firstString? (ts : List Tree) : Option (List UInt8) :=
  Tree.findIn? (fun
    | .bits content => some content
    | .octets content => some content
    | _ => none) ts

/-! ## Keys in minimal form -/

namespace Strict

/-- The least way to write a length, at most two bytes. -/
def length? : List UInt8 → Option (Nat × List UInt8)
  | [] => none
  | b :: rest =>
    if b < 0x80 then some (b.toNat, rest)
    else if b = 0x81 then
      match rest with
      | c :: rest => if 0x80 ≤ c then some (c.toNat, rest) else none
      | [] => none
    else if b = 0x82 then
      match rest with
      | c :: d :: rest => if c = 0 then none else some (c.toNat * 256 + d.toNat, rest)
      | _ => none
    else none

/-- The content of an element with a given tag byte, and what follows. -/
def content? (tag : UInt8) : List UInt8 → Option (List UInt8 × List UInt8)
  | [] => none
  | b :: rest =>
    if b ≠ tag then none
    else do
      let (length, rest) ← length? rest
      if rest.length < length then none else some (rest.take length, rest.drop length)

/-- The content of the one element that a text consists of. -/
def whole? (tag : UInt8) (i : List UInt8) : Option (List UInt8) := do
  let (content, rest) ← content? tag i
  if rest.isEmpty then some content else none

/-- A non-negative integer in its shortest form. -/
def natural? (i : List UInt8) : Option (Nat × List UInt8) := do
  let (content, rest) ← content? 0x02 i
  match content with
  | [] => none
  | [0] => some (0, rest)
  | 0 :: b :: bs => if b < 0x80 then none else (bigEndian? 0 (bs.length + 1) (b :: bs)).map fun (n, _) => (n, rest)
  | b :: bs => if b < 0x80 then (bigEndian? 0 (bs.length + 1) (b :: bs)).map fun (n, _) => (n, rest) else none

/-- The non-negative integers that a content consists of. -/
def naturals? : Nat → List UInt8 → Option (List Nat)
  | 0, i => if i.isEmpty then some [] else none
  | count + 1, i => do
    let (n, rest) ← natural? i
    return n :: (← naturals? count rest)

end Strict
end Der
end Gatehouse
