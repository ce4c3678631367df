import Gatehouse.Proofs.Json.Value
import Gatehouse.Text.Hex
/-!
# JSON texts — the grammar of the notation

A tree is what a JSON text says before anything is computed from it: numbers as their digits, texts as their letters,
the members of an object in the order they stand in, repeated ones included.  `Spells` relates a tree to the characters
that write it, and knows no limits.  The limits of a reader are those of `Tree.value?`: how deep arrays and objects
nest, how great numbers are, and that surrogates come in pairs.
-/
namespace Gatehouse
namespace Json

/-! ## Trees -/

/-- A letter of a text: a character, in whatever notation, or a 16-bit code that stands in hexadecimal digits. -/
inductive Letter where
  | char (c : Char)
  | code (n : Nat)

inductive Tree where
  | null
  | bool (b : Bool)
  | number (p : Number.Parts)
  | text (letters : List Letter)
  | array (items : List Tree)
  | object (members : List (List Letter × Tree))

/-- The character of a high and a low surrogate. -/
def paired (high low : Nat) : Char := Char.ofNat ((high - 0xD800) * 0x400 + (low - 0xDC00) + 0x10000)

/-- The characters of a text, unless a surrogate stands alone. -/
def characters? : List Letter → Option (List Char)
  | [] => some []
  | .char c :: rest => (characters? rest).map (c :: ·)
  | .code n :: rest =>
    if isLowSurrogate n then none
    else if isHighSurrogate n then
      match rest with
      | .code m :: rest => if isLowSurrogate m then (characters? rest).map (paired n m :: ·) else none
      | _ => none
    else (characters? rest).map (Char.ofNat n :: ·)

def name? (letters : List Letter) : Option String := (characters? letters).map String.ofList

/-- A member with a value in place of its tree. -/
def named? (value : Tree → Option Json) (m : List Letter × Tree) : Option (String × Json) :=
  match name? m.1, value m.2 with
  | some name, some v => some (name, v)
  | _, _ => none

/-- The value of a tree.  There is none if its arrays and objects nest more than `depth` deep, if a number in it is too
great for a binary64, or if a surrogate in it stands alone. -/
def Tree.value? : Nat → Tree → Option Json
  | _, .null => some .null
  | _, .bool b => some (.bool b)
  | _, .number p => (Number.ofParts? p).map .number
  | _, .text letters => (name? letters).map .text
  | 0, .array _ => none
  | 0, .object _ => none
  | depth + 1, .array items => (items.mapM (value? depth)).map .array
  | depth + 1, .object members => (members.mapM (named? (value? depth))).map ofMembers

/-! ## Blanks, numbers, letters -/

/-- Blanks between tokens. -/
def Blanks (cs : List Char) : Prop := ∀ c ∈ cs, c = ' ' ∨ c = '\n' ∨ c = '\t' ∨ c = '\r'

def AreDigits (ds : List Nat) : Prop := ds ≠ [] ∧ ∀ d ∈ ds, d < 10

inductive Fraction : Option (List Nat) → List Char → Prop
  | absent : Fraction none []
  | present {ds : List Nat} (h : AreDigits ds) : Fraction (some ds) ('.' :: ds.map Nat.digitChar)

/-- The sign of an exponent.  A plus may stand there or not. -/
inductive Sign : Bool → List Char → Prop
  | absent : Sign false []
  | plus : Sign false ['+']
  | minus : Sign true ['-']

inductive Exponent : Option (Bool × List Nat) → List Char → Prop
  | absent : Exponent none []
  | present {mark : Char} {negative : Bool} {sign : List Char} {ds : List Nat} (hmark : mark = 'e' ∨ mark = 'E')
      (hsign : Sign negative sign) (h : AreDigits ds) :
      Exponent (some (negative, ds)) (mark :: (sign ++ ds.map Nat.digitChar))

/-- A number.  Its digits begin with a zero only if that is all of them. -/
inductive Numeral : Number.Parts → List Char → Prop
  | mk {p : Number.Parts} {fraction exponent : List Char} (h : AreDigits p.whole)
      (hzero : p.whole.head? = some 0 → p.whole = [0]) (hfraction : Fraction p.fraction fraction)
      (hexponent : Exponent p.exponent exponent) :
      Numeral p ((if p.negative then ['-'] else []) ++ (p.whole.map Nat.digitChar ++ (fraction ++ exponent)))

/-- What stands behind a backslash, and the character that is meant. -/
def escapes : List (Char × Char) :=
  [('"', '"'), ('\\', '\\'), ('/', '/'), ('b', '\x08'), ('f', '\x0C'), ('n', '\n'), ('r', '\r'), ('t', '\t')]

inductive LetterOf : Letter → List Char → Prop
  | plain {c : Char} (hcontrol : ¬ c.toNat < 0x20) (hquote : c ≠ '"') (hslash : c ≠ '\\') : LetterOf (.char c) [c]
  | escape {mark c : Char} (h : (mark, c) ∈ escapes) : LetterOf (.char c) ['\\', mark]
  | code {a b c d : Char} {i j k l : Nat} (ha : Text.hexValue? a = some i) (hb : Text.hexValue? b = some j)
      (hc : Text.hexValue? c = some k) (hd : Text.hexValue? d = some l) :
      LetterOf (.code (((i * 16 + j) * 16 + k) * 16 + l)) ['\\', 'u', a, b, c, d]

inductive Letters : List Letter → List Char → Prop
  | nil : Letters [] []
  | cons {letter : Letter} {rest : List Letter} {cs ds : List Char} (h : LetterOf letter cs) (hrest : Letters rest ds) :
      Letters (letter :: rest) (cs ++ ds)

/-! ## Values -/

/-- Items between commas, each between blanks, or blanks where there is none. -/
inductive Listed (one : β → List Char → Prop) : List β → List Char → Prop
  | nil {cs : List Char} (h : Blanks cs) : Listed one [] cs
  | last {x : β} {a cs b : List Char} (ha : Blanks a) (h : one x cs) (hb : Blanks b) : Listed one [x] (a ++ (cs ++ b))
  | cons {x y : β} {rest : List β} {a cs b ds : List Char} (ha : Blanks a) (h : one x cs) (hb : Blanks b)
      (hrest : Listed one (y :: rest) ds) : Listed one (x :: y :: rest) (a ++ (cs ++ (b ++ ',' :: ds)))

/-- A quoted name, a colon and a value. -/
inductive MemberOf (one : β → List Char → Prop) : List Letter × β → List Char → Prop
  | mk {letters : List Letter} {x : β} {name a b cs : List Char} (hname : Letters letters name) (ha : Blanks a)
      (hb : Blanks b) (h : one x cs) : MemberOf one (letters, x) ('"' :: (name ++ '"' :: (a ++ ':' :: (b ++ cs))))

/-- The characters that write a tree. -/
inductive Spells : Tree → List Char → Prop
  | null : Spells .null "null".toList
  | true : Spells (.bool true) "true".toList
  | false : Spells (.bool false) "false".toList
  | number {p : Number.Parts} {cs : List Char} (h : Numeral p cs) : Spells (.number p) cs
  | text {letters : List Letter} {cs : List Char} (h : Letters letters cs) : Spells (.text letters) ('"' :: (cs ++ ['"']))
  | array {items : List Tree} {cs : List Char} (h : Listed Spells items cs) :
      Spells (.array items) ('[' :: (cs ++ [']']))
  | object {members : List (List Letter × Tree)} {cs : List Char} (h : Listed (MemberOf Spells) members cs) :
      Spells (.object members) ('\x7b' :: (cs ++ ['\x7d']))

/-- A JSON text: a value between blanks. -/
def Writes (t : Tree) (cs : List Char) : Prop := ∃ a core b, cs = a ++ (core ++ b) ∧ Blanks a ∧ Spells t core ∧ Blanks b

/-! ## Plain texts and objects of one member -/

/-- Whether a character stands for itself in a text. -/
def isPlain (c : Char) : Bool := decide (¬ c.toNat < 0x20) && c != '"' && c != '\\'

theorem letters_plain : ∀ {cs : List Char}, cs.all isPlain = true → Letters (cs.map .char) cs
  | [], _ => .nil
  | c :: cs, h => by
    simp only [List.all_cons, Bool.and_eq_true, isPlain, decide_eq_true_eq, bne_iff_ne] at h
    obtain ⟨⟨⟨hcontrol, hquote⟩, hslash⟩, hrest⟩ := h
    have hletters : Letters (cs.map .char) cs := letters_plain (by simpa [isPlain] using hrest)
    show Letters (.char c :: cs.map .char) ([c] ++ cs)
    exact .cons (.plain hcontrol hquote hslash) hletters

theorem name?_plain (cs : List Char) : name? (cs.map .char) = some (String.ofList cs) := by
  have hcharacters : ∀ cs : List Char, characters? (cs.map .char) = some cs := by
    intro cs
    induction cs with
    | nil => rfl
    | cons c cs ih => rw [List.map_cons, characters?, ih, Option.map_some]
  rw [name?, hcharacters, Option.map_some]

/-- The text of an object with one member. -/
def single (name value : List Char) : List Char := '\x7b' :: ('"' :: (name ++ '"' :: ':' :: value) ++ ['\x7d'])

theorem writes_single {name cs : List Char} {t : Tree} (hname : name.all isPlain = true) (h : Spells t cs) :
    Writes (.object [(name.map .char, t)]) (single name cs) := by
  have hmember : MemberOf Spells (name.map .char, t) ('"' :: (name ++ '"' :: ':' :: cs)) :=
    .mk (a := []) (b := []) (letters_plain hname) nofun nofun h
  have hlisted : Listed (MemberOf Spells) [(name.map .char, t)] ('"' :: (name ++ '"' :: ':' :: cs) ++ []) :=
    .last (a := []) (b := []) nofun hmember nofun
  rw [List.append_nil] at hlisted
  exact ⟨[], single name cs, [], (List.append_nil _).symm, nofun, .object hlisted, nofun⟩

end Json
end Gatehouse
