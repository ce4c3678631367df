import Gatehouse.Proofs.Json.Value
/-!
# Flat records — members as they stand in the text

`record?` reads an object of texts and integers member by member: in the order of the text, repeated ones all, integers
of any size exactly.  Nothing of the text stays hidden in it, where `parse?` sorts the members, drops repeated ones and
rounds an integer that is too long.  `record?_compact`: what is written reads back; `printable_of_mem_compact`: it is
written without a control byte.
-/
namespace Gatehouse
namespace Json

open Text (bytes)

/-! ## Reading -/

/-- The integer that a number's parts write, `none` for a number with a fraction or an exponent. -/
def integer? (p : Number.Parts) : Option Int :=
  match p.fraction, p.exponent with
  | none, none => some (if p.negative then -(Number.ofDigits p.whole : Int) else Number.ofDigits p.whole)
  | _, _ => none

/-- A text or an integer. -/
def flat? (i : Input) : Option (Json × Input) :=
  match skipSpace i with
  | [] => none
  | b :: rest =>
    if b = byteOf '"' then (text? rest).map fun (s, rest) => (.text s, rest)
    else do
      let (parts, rest) ← numberParts? (b :: rest)
      let n ← integer? parts
      return (int n, rest)

/-- The members of an object of texts and integers that a whole text writes, in its order and repeated ones all. -/
def record? (i : Input) : Option (List (String × Json)) :=
  match skipSpace i with
  | [] => none
  | b :: rest =>
    if b = byteOf '{' then do
      let (members, rest) ← collection? (memberOf? flat?) (byteOf '}') rest
      if (skipSpace rest).isEmpty then some members else none
    else none

/-! ## Reading what is written -/

/-- A value is a text or an integer. -/
inductive IsFlat : Json → Prop
  | text (s : String) : IsFlat (.text s)
  | int (n : Int) : IsFlat (.int n)

/-- The members of an object are texts and integers. -/
def FlatMembers (members : List (String × Json)) : Prop := ∀ m ∈ members, IsFlat m.2

theorem int_natCast_inj {m n : Nat} : Json.int m = Json.int n ↔ m = n := by
  constructor
  · intro h
    cases h
    rfl
  · rintro rfl
    rfl

theorem integer?_decimals (n : Int) : integer? ⟨decide (n < 0), decimals n.natAbs, none, none⟩ = some n := by
  have hdigits : Number.ofDigits (decimals n.natAbs) = n.natAbs := foldl_decimals n.natAbs
  simp only [integer?, hdigits, decide_eq_true_eq, Option.some.injEq]
  split <;> omega

theorem flat?_chars {v : Json} (h : IsFlat v) {rest : Input} (hr : Ends rest) :
    flat? (bytes (chars v) ++ rest) = some (v, rest) := by
  cases h with
  | text s =>
    have hspace : Json.isSpace (byteOf '"') = false := by decide
    rw [chars, bytes_quote, List.cons_append, flat?, skipSpace_cons hspace]
    simp only [if_true, text?_quote, Option.map_some]
  | int n =>
    have hparts := numberParts?_int n hr
    obtain ⟨b, tl, hb, hbegins⟩ := bytes_int n
    show flat? (bytes (toString n).toList ++ rest) = some (int n, rest)
    rw [hb, List.cons_append] at hparts ⊢
    rw [flat?, skipSpace_cons (isSpace_of_begins hbegins)]
    simp only [if_neg (ne_of_begins hbegins (byteOf '"') (by decide)), hparts, integer?_decimals, Option.bind_eq_bind,
      Option.bind_some, Option.pure_def]

/-- **A written record reads back**, member by member. -/
theorem record?_compact {members : List (String × Json)} (h : FlatMembers members) :
    record? (Text.utf8 (object members).compact) = some members := by
  have hbytes : Text.utf8 (object members).compact =
      byteOf '\x7b' :: (commas memberBytes members ++ byteOf '\x7d' :: []) := by
    rw [compact, Text.utf8_ofList, chars, bytes_cons_ascii (by decide), Text.bytes_append, bytes_memberChars]
    rfl
  have hmembers : collection? (memberOf? flat?) (byteOf '\x7d') (commas memberBytes members ++ byteOf '\x7d' :: []) =
      some (members.map id, []) :=
    collection?_commas (.inr rfl) [] members
      (fun m hm rest hr => memberOf?_memberBytes (flat?_chars (h m hm) hr)) fun m _ => by
        obtain ⟨tl, htl⟩ := memberBytes_begin m
        exact ⟨byteOf '"', tl, htl, by decide, by decide⟩
  have hspace : Json.isSpace (byteOf '\x7b') = false := by decide
  rw [hbytes, record?, skipSpace_cons hspace]
  simp only [if_true, hmembers, List.map_id, Option.bind_eq_bind, Option.bind_some]
  rfl

/-- **Its bytes tell which members were written.** -/
theorem members_eq_of_compact {a b : List (String × Json)} (ha : FlatMembers a) (hb : FlatMembers b)
    (h : Text.utf8 (object a).compact = Text.utf8 (object b).compact) : a = b := by
  have hread := congrArg record? h
  rw [record?_compact ha, record?_compact hb] at hread
  exact Option.some.inj hread

/-- A written record whose integers a reader keeps is read by `parse?` too, its members sorted. -/
theorem parse?_flat {members : List (String × Json)} (h : FlatMembers members)
    (hexact : ∀ name n, (name, int n) ∈ members → IsExact n) :
    parse? (Text.utf8 (object members).compact) = some (ofMembers members) := by
  have hfits : ∀ ms : List (String × Json), (∀ m ∈ ms, m ∈ members) → FitsMembers 126 ms ∧ normalMembers ms = ms := by
    intro ms
    induction ms with
    | nil => exact fun _ => ⟨trivial, rfl⟩
    | cons m ms ih =>
      intro hsub
      obtain ⟨name, v⟩ := m
      have hm := hsub _ List.mem_cons_self
      obtain ⟨hfits, hnormal⟩ := ih fun x hx => hsub x (List.mem_cons_of_mem _ hx)
      rw [FitsMembers, normalMembers, hnormal]
      cases h _ hm with
      | text s => exact ⟨⟨by rw [Fits]; trivial, hfits⟩, by rw [normal]⟩
      | int n => exact ⟨⟨by rw [Fits]; exact hexact name n hm, hfits⟩, by rw [normal]⟩
  obtain ⟨hfits, hnormal⟩ := hfits members fun _ => id
  rw [parse?_compact (by rw [Fits]; exact ⟨126, rfl, hfits⟩), normal, hnormal]

/-! ## Control bytes -/

/-- A character that is no control character below U+0020. -/
def IsPrintable (c : Char) : Prop := 0x20 ≤ c.toNat

instance (c : Char) : Decidable (IsPrintable c) := Nat.decLe _ _

theorem isPrintable_of_all {cs : List Char} (h : cs.all (fun c => decide (0x20 ≤ c.toNat)) = true) :
    ∀ c ∈ cs, IsPrintable c := fun c hc => of_decide_eq_true (List.all_eq_true.1 h c hc)

theorem isPrintable_hexDigit {d : Nat} (h : d < 16) : IsPrintable (hexDigit d) := by
  have hall : ∀ d < 16, 0x20 ≤ (hexDigit d).toNat := by decide
  exact hall d h

theorem isPrintable_escapeChar (c : Char) : ∀ x ∈ escapeChar c, IsPrintable x := by
  unfold escapeChar
  split
  · exact isPrintable_of_all rfl
  split
  · exact isPrintable_of_all rfl
  split
  · rename_i hc
    split
    · exact isPrintable_of_all rfl
    · exact isPrintable_of_all rfl
    · exact isPrintable_of_all rfl
    · exact isPrintable_of_all rfl
    · exact isPrintable_of_all rfl
    · intro x hx
      simp only [List.mem_cons, List.not_mem_nil, or_false] at hx
      rcases hx with rfl | rfl | rfl | rfl | rfl | rfl
      · decide
      · decide
      · decide
      · decide
      · exact isPrintable_hexDigit (by omega)
      · exact isPrintable_hexDigit (by omega)
  · rename_i hc
    intro x hx
    rw [List.mem_singleton.1 hx]
    exact Nat.le_of_not_lt hc

theorem isPrintable_quote (s : String) : ∀ c ∈ quote s, IsPrintable c := by
  intro c hc
  rw [quote, List.mem_cons, List.mem_append, List.mem_flatMap, List.mem_singleton] at hc
  have hquote : IsPrintable '"' := by decide
  rcases hc with rfl | ⟨x, -, hx⟩ | rfl
  · exact hquote
  · exact isPrintable_escapeChar x c hx
  · exact hquote

theorem isPrintable_chars {v : Json} (h : IsFlat v) : ∀ c ∈ chars v, IsPrintable c := by
  cases h with
  | text s => exact isPrintable_quote s
  | int n =>
    intro c hc
    have hc : c ∈ (toString n).toList := hc
    rw [toList_toString, List.mem_append] at hc
    rcases hc with hc | hc
    · split at hc
      · rw [List.mem_singleton.1 hc]
        decide
      · exact absurd hc List.not_mem_nil
    · exact Nat.le_trans (by decide) (toNat_of_isDigit (isDigit_of_mem_toDigits n.natAbs c hc)).1

theorem isPrintable_memberChars : ∀ {members : List (String × Json)}, FlatMembers members →
    ∀ c ∈ memberChars members, IsPrintable c
  | [], _, c, hc => absurd hc List.not_mem_nil
  | [(k, v)], h, c, hc => by
    rw [memberChars, List.mem_append, List.mem_cons] at hc
    rcases hc with hc | rfl | hc
    · exact isPrintable_quote k c hc
    · decide
    · exact isPrintable_chars (h _ List.mem_cons_self) c hc
  | (k, v) :: m :: rest, h, c, hc => by
    rw [memberChars, List.mem_append, List.mem_cons, List.mem_append, List.mem_cons] at hc
    · rcases hc with hc | rfl | hc | rfl | hc
      · exact isPrintable_quote k c hc
      · decide
      · exact isPrintable_chars (h _ List.mem_cons_self) c hc
      · decide
      · exact isPrintable_memberChars (fun x hx => h x (List.mem_cons_of_mem _ hx)) c hc
    · exact fun hnil => absurd hnil (List.cons_ne_nil m rest)

/-- The bytes of a printable character are no control bytes. -/
theorem printable_encode {c : Char} (h : IsPrintable c) : ∀ b ∈ String.utf8EncodeChar c, 0x20 ≤ b.toNat := by
  intro b hb
  by_cases hascii : c.toNat < 0x80
  · rw [encode_ascii hascii, List.mem_singleton] at hb
    have hbyte : (UInt8.ofNat c.toNat).toNat = c.toNat :=
      UInt8.toNat_ofNat_of_lt (Nat.lt_of_lt_of_le hascii (by decide))
    rw [hb, byteOf, hbyte]
    exact h
  · have hne : ∀ d : Char, d.toNat < 0x80 → c ≠ d := fun d hd hcd => hascii (hcd ▸ hd)
    exact (isPlain_encode (hne '"' (by decide)) (hne '\\' (by decide)) (Nat.not_lt.2 h) b hb).1

/-- **A record is written without a control byte**, whatever its texts hold. -/
theorem printable_of_mem_compact {members : List (String × Json)} (h : FlatMembers members) :
    ∀ b ∈ Text.utf8 (object members).compact, 0x20 ≤ b.toNat := by
  intro b hb
  rw [compact, Text.utf8_ofList, chars, bytes, List.mem_flatMap] at hb
  obtain ⟨c, hc, hb⟩ := hb
  refine printable_encode ?_ b hb
  rw [List.mem_cons, List.mem_append, List.mem_singleton] at hc
  rcases hc with rfl | hc | rfl
  · decide
  · exact isPrintable_memberChars h c hc
  · decide

end Json
end Gatehouse
