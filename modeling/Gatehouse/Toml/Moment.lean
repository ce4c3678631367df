import Gatehouse.Text.Blank
/-!
# Dates and times

A date, a time of day, or both with or without an offset.  `Moment.read?` reads one and `Moment.text` writes it: a
capital `T` between date and time, a capital `Z`, and no zeros at the end of a fraction.
-/
namespace Gatehouse
namespace Toml

structure Date where
  year : Nat
  month : Nat
  day : Nat
  deriving DecidableEq, Repr

/-- A time of day; the seconds may be left out. -/
structure TimeOfDay where
  hour : Nat
  minute : Nat
  second : Option Nat
  /-- The digits after the point, at most nine. -/
  fraction : List Char
  deriving DecidableEq, Repr

/-- The offset from universal time. -/
inductive Offset where
  | zulu
  | shift (west : Bool) (hours minutes : Nat)
  deriving DecidableEq, Repr

inductive Moment where
  | date (d : Date)
  | time (t : TimeOfDay)
  | both (d : Date) (t : TimeOfDay) (offset : Option Offset)
  deriving DecidableEq, Repr

/-- The number of two digits. -/
def twoDigits? (a b : Char) : Option Nat :=
  if a.isDigit && b.isDigit then some ((a.toNat - 48) * 10 + (b.toNat - 48)) else none

/-- The days of a month. -/
def daysIn (year month : Nat) : Nat :=
  let leap := year % 4 = 0 && (year % 100 ≠ 0 || year % 400 = 0)
  if month = 2 then if leap then 29 else 28
  else if month = 4 || month = 6 || month = 9 || month = 11 then 30
  else 31

namespace Date

def read? : List Char → Option (Date × List Char)
  | a :: b :: c :: d :: '-' :: e :: f :: '-' :: g :: h :: rest => do
    let year := (← twoDigits? a b) * 100 + (← twoDigits? c d)
    let month ← twoDigits? e f
    let day ← twoDigits? g h
    if 1 ≤ month && month ≤ 12 && 1 ≤ day && day ≤ daysIn year month then some (⟨year, month, day⟩, rest) else none
  | _ => none

end Date

namespace TimeOfDay

def read? : List Char → Option (TimeOfDay × List Char)
  | a :: b :: ':' :: c :: d :: rest => do
    let hour ← twoDigits? a b
    let minute ← twoDigits? c d
    if 23 < hour || 59 < minute then none
    else match rest with
      | ':' :: e :: f :: rest =>
        let second ← twoDigits? e f
        if 60 < second then none
        else match rest with
          | '.' :: rest =>
            let digits := rest.takeWhile Char.isDigit
            if digits.isEmpty then none
            else some (⟨hour, minute, some second, digits.take 9⟩, rest.dropWhile Char.isDigit)
          | rest => some (⟨hour, minute, some second, []⟩, rest)
      | rest => some (⟨hour, minute, none, []⟩, rest)
  | _ => none

end TimeOfDay

namespace Offset

def read? : List Char → Option Offset
  | ['Z'] => some .zulu
  | ['z'] => some .zulu
  | [sign, a, b, ':', c, d] => do
    let hours ← twoDigits? a b
    let minutes ← twoDigits? c d
    if (sign = '+' || sign = '-') && hours ≤ 24 && minutes ≤ 59 then some (.shift (sign = '-') hours minutes) else none
  | _ => none

end Offset

namespace Moment

/-- Whether a text begins like a date. -/
def startsWithDate : List Char → Bool
  | a :: b :: c :: d :: '-' :: _ => a.isDigit && b.isDigit && c.isDigit && d.isDigit
  | _ => false

/-- The moment that a whole text writes. -/
def read? (text : List Char) : Option Moment :=
  if startsWithDate text then do
    let (d, rest) ← Date.read? text
    match rest with
    | [] => some (.date d)
    | c :: rest =>
      if c = 'T' || c = 't' || c = ' ' then do
        let (t, rest) ← TimeOfDay.read? rest
        if rest.isEmpty then some (.both d t none) else some (.both d t (some (← Offset.read? rest)))
      else none
  else do
    let (t, rest) ← TimeOfDay.read? text
    if rest.isEmpty then some (.time t) else none

/-- A number below 100 with two digits. -/
def twoPlaces (n : Nat) : List Char := Nat.toDigits 10 (n / 10 % 10) ++ Nat.toDigits 10 (n % 10)

def dateText (d : Date) : List Char :=
  twoPlaces (d.year / 100) ++ twoPlaces d.year ++ '-' :: twoPlaces d.month ++ '-' :: twoPlaces d.day

def timeText (t : TimeOfDay) : List Char :=
  let fraction := Text.dropEnd (· = '0') t.fraction
  let seconds := match t.second with
    | none => []
    | some s => ':' :: twoPlaces s
  twoPlaces t.hour ++ ':' :: twoPlaces t.minute ++ seconds ++ (if fraction.isEmpty then [] else '.' :: fraction)

def offsetText : Offset → List Char
  | .zulu => ['Z']
  | .shift west hours minutes => (if west then '-' else '+') :: twoPlaces hours ++ ':' :: twoPlaces minutes

/-- The text of a moment. -/
def text : Moment → List Char
  | date d => dateText d
  | time t => timeText t
  | both d t none => dateText d ++ 'T' :: timeText t
  | both d t (some offset) => dateText d ++ 'T' :: timeText t ++ offsetText offset

end Moment
end Toml
end Gatehouse
