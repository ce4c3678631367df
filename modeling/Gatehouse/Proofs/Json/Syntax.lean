import Gatehouse.Proofs.Json.Letters
import Gatehouse.Proofs.Json.Numeral
/-!
# JSON values — the reader against the grammar

`parse?_of_writes`: a text that a tree writes is read as the value of the tree, and refused if it has none at the depth
of a reader.  `exists_writes`: what is read is written by a tree.  Both directions stand together in `Reads`, and go
through lists and members to values by induction on the depth.
-/
namespace Gatehouse
namespace Json

open Text (bytes)

/-! ## Blanks -/

theorem isSpace_eq_true_iff {b : UInt8} :
    isSpace b = true ↔ ∃ c, (c = ' ' ∨ c = '\n' ∨ c = '\t' ∨ c = '\r') ∧ b = byteOf c := by
  simp only [isSpace, Bool.or_eq_true, beq_iff_eq]
  constructor
  · rintro (((rfl | rfl) | rfl) | rfl)
    · exact ⟨' ', by simp, rfl⟩
    · exact ⟨'\n', by simp, rfl⟩
    · exact ⟨'\t', by simp, rfl⟩
    · exact ⟨'\r', by simp, rfl⟩
  · rintro ⟨c, rfl | rfl | rfl | rfl, rfl⟩ <;> simp

theorem Blanks.cons {c : Char} {a : List Char} (h : Blanks (c :: a)) :
    c.toNat < 0x80 ∧ isSpace (byteOf c) = true ∧ Blanks a := by
  have hc := h c List.mem_cons_self
  refine ⟨?_, isSpace_eq_true_iff.2 ⟨c, hc, rfl⟩, fun d hd => h d (List.mem_cons_of_mem c hd)⟩
  rcases hc with rfl | rfl | rfl | rfl <;> decide

theorem Blanks.append {a b : List Char} (ha : Blanks a) (hb : Blanks b) : Blanks (a ++ b) := fun c hc =>
  (List.mem_append.1 hc).elim (ha c) (hb c)

theorem skipSpace_blanks : ∀ {a : List Char}, Blanks a → ∀ rest, skipSpace (bytes a ++ rest) = skipSpace rest
  | [], _, _ => rfl
  | c :: a, h, rest => by
    obtain ⟨hascii, hspace, ha⟩ := h.cons
    have ih := skipSpace_blanks ha rest
    rw [skipSpace] at ih
    rw [bytes_cons_ascii hascii, List.cons_append, skipSpace, List.dropWhile_cons_of_pos hspace, ih]

theorem exists_blanks : ∀ i, ∃ a, Blanks a ∧ i = bytes a ++ skipSpace i
  | [] => ⟨[], nofun, rfl⟩
  | b :: i => by
    by_cases hspace : isSpace b = true
    · obtain ⟨a, ha, hi⟩ := exists_blanks i
      obtain ⟨c, hc, rfl⟩ := isSpace_eq_true_iff.1 hspace
      have hca : Blanks (c :: a) := by
        intro d hd
        rcases List.mem_cons.1 hd with rfl | hd
        · exact hc
        · exact ha d hd
      refine ⟨c :: a, hca, ?_⟩
      rw [skipSpace, List.dropWhile_cons_of_pos hspace, bytes_cons_ascii hca.cons.1, List.cons_append,
        show i.dropWhile isSpace = skipSpace i from rfl, ← hi]
    · exact ⟨[], nofun, by rw [skipSpace_cons (by simpa using hspace)]; rfl⟩

theorem Blanks.ends {b : List Char} (hb : Blanks b) {rest : Input} (hrest : Ends rest) : Ends (bytes b ++ rest) := by
  cases b with
  | nil => exact hrest
  | cons c b =>
    have hc := hb c List.mem_cons_self
    intro x hx
    rcases hc with rfl | rfl | rfl | rfl <;> rw [bytes_cons_ascii (by decide)] at hx <;> cases hx <;> decide

/-! ## Readers -/

/-- The characters that values and members begin with. -/
def openers : List Char := "ntf\"[\x7b-0123456789".toList

theorem openers_spec {c : Char} (h : c ∈ openers) :
    c.toNat < 0x80 ∧ isSpace (byteOf c) = false ∧ byteOf c ≠ byteOf ']' ∧ byteOf c ≠ byteOf '\x7d' := by
  have hall : openers.all (fun c => decide (c.toNat < 0x80 ∧ isSpace (byteOf c) = false ∧ byteOf c ≠ byteOf ']' ∧
      byteOf c ≠ byteOf '\x7d')) = true := by decide
  exact of_decide_eq_true (List.all_eq_true.1 hall c h)

/-- A reader takes what a grammar spells: what it reads is spelled, and what is spelled it reads as its value, or
refuses if there is none. -/
structure Reads (one : Input → Option (α × Input)) (spelled : β → List Char → Prop) (value : β → Option α) : Prop where
  exists_spelled : ∀ {i rest : Input} {x : α}, one i = some (x, rest) →
    ∃ t a cs, Blanks a ∧ spelled t cs ∧ i = bytes (a ++ cs) ++ rest ∧ value t = some x
  read : ∀ {t : β} {a cs : List Char} {rest : Input}, Blanks a → spelled t cs → Ends rest →
    one (bytes (a ++ cs) ++ rest) = (value t).map (·, rest)
  opens : ∀ {t : β} {cs : List Char}, spelled t cs → ∃ c tl, cs = c :: tl ∧ c ∈ openers

variable {one : Input → Option (α × Input)} {spelled : β → List Char → Prop} {value : β → Option α} {close : UInt8}

theorem Listed.blanks {ts : List β} {a cs : List Char} (ha : Blanks a) (h : Listed spelled ts cs) :
    Listed spelled ts (a ++ cs) := by
  cases h with
  | nil hb => exact .nil (ha.append hb)
  | last hstart h hb =>
    rw [← List.append_assoc]
    exact .last (ha.append hstart) h hb
  | cons hstart h hb hrest =>
    rw [← List.append_assoc]
    exact .cons (ha.append hstart) h hb hrest

theorem Listed.length_le {ts : List β} {cs : List Char} (h : Listed spelled ts cs) :
    ts.length ≤ (bytes cs).length + 1 := by
  induction h with
  | nil => simp
  | last => simp
  | cons ha h hb hrest ih =>
    simp only [Text.bytes_append, bytes_cons_ascii (show ','.toNat < 0x80 by decide), List.length_append, List.length_cons] at ih ⊢
    omega

namespace Reads

theorem exists_listed (h : Reads one spelled value) : ∀ {fuel : Nat} {acc xs : List α} {i rest : Input},
    items? one close fuel acc i = some (xs, rest) →
      ∃ t ts cs ys, Listed spelled (t :: ts) cs ∧ i = bytes cs ++ close :: rest ∧ (t :: ts).mapM value = some ys ∧
        xs = acc.reverse ++ ys
  | 0, _, _, _, _, hread => nomatch hread
  | fuel + 1, acc, xs, i, rest, hread => by
    unfold items? at hread
    split at hread
    · cases hread
    rename_i x i' hone
    obtain ⟨t, a, cs, ha, ht, rfl, hx⟩ := h.exists_spelled hone
    obtain ⟨b, hb, hi'⟩ := exists_blanks i'
    split at hread
    · cases hread
    rename_i c tl hskip
    rw [hskip] at hi'
    split at hread
    · rename_i hcomma
      obtain ⟨u, us, ds, ys, hlisted, rfl, hys, rfl⟩ := exists_listed h hread
      refine ⟨t, u :: us, _, x :: ys, .cons ha ht hb hlisted, ?_, ?_, ?_⟩
      · rw [hi', hcomma]
        simp only [Text.bytes_append, bytes_cons_ascii (show ','.toNat < 0x80 by decide), List.append_assoc,
          List.cons_append]
      · rw [List.mapM_cons, hx, hys]
        rfl
      · rw [List.reverse_cons, List.append_assoc, List.singleton_append]
    · split at hread
      · rename_i hclose
        obtain ⟨rfl, rfl⟩ := Prod.mk.inj (Option.some.inj hread)
        refine ⟨t, [], _, [x], .last ha ht hb, ?_, ?_, ?_⟩
        · rw [hi', hclose]
          simp only [Text.bytes_append, List.append_assoc]
        · rw [List.mapM_cons, hx]
          rfl
        · rw [List.reverse_cons]
      · cases hread

theorem items?_listed (h : Reads one spelled value) (hclose : IsClosing close) {ts : List β} {cs : List Char}
    (hlisted : Listed spelled ts cs) (hne : ts ≠ []) (rest : Input) : ∀ {fuel : Nat} (acc : List α), ts.length ≤ fuel →
      items? one close fuel acc (bytes cs ++ close :: rest) =
        (ts.mapM value).map fun ys => (acc.reverse ++ ys, rest) := by
  induction hlisted with
  | nil => exact absurd rfl hne
  | @last t a cs b ha ht hb =>
    intro fuel acc hfuel
    obtain ⟨fuel, rfl⟩ := Nat.exists_eq_add_one_of_ne_zero (Nat.ne_of_gt hfuel)
    have hread := h.read ha ht (hb.ends (hclose.ends rest))
    rw [← List.append_assoc, Text.bytes_append (a ++ cs), List.append_assoc, items?, hread, List.mapM_cons]
    cases value t with
    | none => rfl
    | some x =>
      simp only [Option.map_some, skipSpace_blanks hb, skipSpace_cons hclose.isSpace, if_neg hclose.ne_comma, if_true,
        List.reverse_cons, List.mapM_nil, Option.bind_eq_bind, Option.bind_some, Option.pure_def]
  | @cons t u us a cs b ds ha ht hb hrest ih =>
    intro fuel acc hfuel
    obtain ⟨fuel, rfl⟩ := Nat.exists_eq_add_one_of_ne_zero (Nat.ne_of_gt (Nat.lt_of_lt_of_le (Nat.succ_pos _) hfuel))
    have hcomma : Json.isSpace (byteOf ',') = false := rfl
    have hread := h.read ha ht (hb.ends (ends_comma (bytes ds ++ close :: rest)))
    have happend : bytes (a ++ (cs ++ (b ++ ',' :: ds))) ++ close :: rest =
        bytes (a ++ cs) ++ (bytes b ++ byteOf ',' :: (bytes ds ++ close :: rest)) := by
      simp only [Text.bytes_append, bytes_cons_ascii (show ','.toNat < 0x80 by decide), List.append_assoc,
        List.cons_append]
    rw [happend, items?, hread, List.mapM_cons]
    cases value t with
    | none => rfl
    | some x =>
      simp only [Option.map_some, skipSpace_blanks hb, skipSpace_cons hcomma, if_true,
        ih (List.cons_ne_nil _ _) (x :: acc) (Nat.le_of_succ_le_succ hfuel), Option.bind_eq_bind, Option.bind_some]
      cases (u :: us).mapM value with
      | none => rfl
      | some ys => simp

theorem exists_collection (h : Reads one spelled value) {i rest : Input} {xs : List α}
    (hread : collection? one close i = some (xs, rest)) :
    ∃ ts cs, Listed spelled ts cs ∧ i = bytes cs ++ close :: rest ∧ ts.mapM value = some xs := by
  obtain ⟨a, ha, hi⟩ := exists_blanks i
  unfold collection? at hread
  split at hread
  · cases hread
  rename_i b tl hskip
  rw [hskip] at hi
  split at hread
  · rename_i hclose
    obtain ⟨rfl, rfl⟩ := Prod.mk.inj (Option.some.inj hread)
    exact ⟨[], a, .nil ha, by rw [hi, hclose], rfl⟩
  · obtain ⟨t, ts, cs, ys, hlisted, hcs, hys, rfl⟩ := h.exists_listed hread
    exact ⟨t :: ts, a ++ cs, hlisted.blanks ha, by rw [hi, hcs, Text.bytes_append, List.append_assoc], hys⟩

/-- The first item behind the blanks in front of it. -/
theorem opens_listed (h : Reads one spelled value) {t : β} {ts : List β} {cs : List Char}
    (hlisted : Listed spelled (t :: ts) cs) :
    ∃ a c tl, Blanks a ∧ cs = a ++ c :: tl ∧ c ∈ openers ∧ Listed spelled (t :: ts) (c :: tl) := by
  cases hlisted with
  | last ha ht hb =>
    obtain ⟨c, tl, rfl, hc⟩ := h.opens ht
    exact ⟨_, c, _, ha, rfl, hc, .last (a := []) nofun ht hb⟩
  | cons ha ht hb hrest =>
    obtain ⟨c, tl, rfl, hc⟩ := h.opens ht
    exact ⟨_, c, _, ha, rfl, hc, .cons (a := []) nofun ht hb hrest⟩

theorem collection?_listed (h : Reads one spelled value) (hclose : IsClosing close) {ts : List β} {cs : List Char}
    (hlisted : Listed spelled ts cs) (rest : Input) :
    collection? one close (bytes cs ++ close :: rest) = (ts.mapM value).map (·, rest) := by
  cases ts with
  | nil =>
    cases hlisted with
    | nil hblanks =>
      rw [collection?, skipSpace_blanks hblanks, skipSpace_cons hclose.isSpace]
      exact if_pos rfl
  | cons t ts =>
    obtain ⟨a, c, tl, ha, rfl, hc, hlisted⟩ := h.opens_listed hlisted
    obtain ⟨hascii, hspace, hbracket, hbrace⟩ := openers_spec hc
    have hne : ¬ byteOf c = close := by
      rcases hclose with rfl | rfl
      · exact hbracket
      · exact hbrace
    -- Every item but the last has a comma behind it, so the input is longer than the list of the items.
    have hfuel : (t :: ts).length ≤ (bytes (a ++ c :: tl) ++ close :: rest).length := by
      have hle := hlisted.length_le
      rw [Text.bytes_append, List.length_append, List.length_append, List.length_cons (a := close)]
      omega
    have hitems := h.items?_listed hclose hlisted (List.cons_ne_nil _ _) rest [] hfuel
    rw [collection?, Text.bytes_append, List.append_assoc, skipSpace_blanks ha]
    rw [Text.bytes_append, List.append_assoc] at hitems
    rw [bytes_cons_ascii hascii, List.cons_append] at hitems ⊢
    rw [skipSpace_cons hspace]
    dsimp only
    rw [if_neg hne, hitems]
    simp only [List.reverse_nil, List.nil_append]

end Reads

/-! ## Members -/

theorem bytes_member (name a b cs : List Char) (rest : Input) :
    bytes ('"' :: (name ++ '"' :: (a ++ ':' :: (b ++ cs)))) ++ rest =
      byteOf '"' :: (bytes name ++ byteOf '"' :: (bytes a ++ byteOf ':' :: (bytes (b ++ cs) ++ rest))) := by
  simp only [Text.bytes_append, bytes_cons_ascii (show '"'.toNat < 0x80 by decide),
    bytes_cons_ascii (show ':'.toNat < 0x80 by decide), List.append_assoc, List.cons_append]

theorem exists_member {readValue : Input → Option (Json × Input)} {valueOf : Tree → Option Json}
    (h : Reads readValue Spells valueOf) {i rest : Input} {m : String × Json}
    (hread : memberOf? readValue i = some (m, rest)) :
    ∃ t a cs, Blanks a ∧ MemberOf Spells t cs ∧ i = bytes (a ++ cs) ++ rest ∧ named? valueOf t = some m := by
  obtain ⟨a, ha, hi⟩ := exists_blanks i
  unfold memberOf? at hread
  split at hread
  · cases hread
  rename_i b tl hskip
  rw [hskip] at hi
  split at hread
  · rename_i hquote
    obtain ⟨⟨name, i'⟩, hname, hmember⟩ := Option.bind_eq_some_iff.1 hread
    obtain ⟨letters, ns, rfl, hletters, hmeans⟩ := exists_letters hname
    obtain ⟨b', hb', hi'⟩ := exists_blanks i'
    dsimp only at hmember
    split at hmember
    · cases hmember
    rename_i c tl' hskip'
    rw [hskip'] at hi'
    split at hmember
    · rename_i hcolon
      obtain ⟨⟨v, rest'⟩, hv, hmember⟩ := Option.bind_eq_some_iff.1 hmember
      obtain ⟨rfl, rfl⟩ := Prod.mk.inj (Option.some.inj hmember)
      obtain ⟨t, b'', cs, hb'', ht, rfl, hvalue⟩ := h.exists_spelled hv
      refine ⟨(letters, t), a, _, ha, .mk hletters hb' hb'' ht, ?_, ?_⟩
      · rw [hi, hi', hquote, hcolon, Text.bytes_append a, List.append_assoc (bytes a), bytes_member]
      · simp only [named?, hmeans, hvalue]
    · cases hmember
  · cases hread

theorem memberOf?_member {readValue : Input → Option (Json × Input)} {valueOf : Tree → Option Json}
    (h : Reads readValue Spells valueOf) {t : List Letter × Tree} {a cs : List Char} {rest : Input} (ha : Blanks a)
    (ht : MemberOf Spells t cs) (hends : Ends rest) :
    memberOf? readValue (bytes (a ++ cs) ++ rest) = (named? valueOf t).map (·, rest) := by
  have hquote : Json.isSpace (byteOf '"') = false := rfl
  have hcolon : Json.isSpace (byteOf ':') = false := rfl
  cases ht with
  | @mk letters t ns b b' cs hletters hb hb' ht =>
    rw [Text.bytes_append, List.append_assoc, bytes_member, memberOf?, skipSpace_blanks ha, skipSpace_cons hquote]
    simp only [if_true, text?_letters hletters, named?]
    cases name? letters with
    | none => rfl
    | some name =>
      simp only [Option.map_some, Option.bind_eq_bind, Option.bind_some, skipSpace_blanks hb, skipSpace_cons hcolon,
        if_true, h.read hb' ht hends]
      cases valueOf t with
      | none => rfl
      | some v => rfl

theorem Reads.members {readValue : Input → Option (Json × Input)} {valueOf : Tree → Option Json}
    (h : Reads readValue Spells valueOf) : Reads (memberOf? readValue) (MemberOf Spells) (named? valueOf) where
  exists_spelled := exists_member h
  read := memberOf?_member h
  opens := fun ht => by
    cases ht with
    | mk hletters hb hb' ht => exact ⟨'"', _, rfl, by decide⟩

/-! ## Scalars -/

theorem exists_word : ∀ {w i rest : Input}, word? w i = some rest → i = w ++ rest
  | [], _, _, h => Option.some.inj h
  | _ :: _, [], _, h => nomatch h
  | b :: w, c :: i, rest, h => by
    unfold word? at h
    split at h
    · rename_i hbc
      rw [exists_word h, hbc]
      rfl
    · cases h

theorem word?_append : ∀ (w rest : Input), word? w (w ++ rest) = some rest
  | [], _ => rfl
  | b :: w, rest => by rw [List.cons_append, word?, if_pos rfl, word?_append w rest]

/-- A tree without items or members. -/
def Tree.IsScalar (t : Tree) : Prop := (∀ items, t ≠ .array items) ∧ ∀ members, t ≠ .object members

theorem bytes_enclosed {l r : Char} (hl : l.toNat < 0x80) (hr : r.toNat < 0x80) (cs : List Char) (rest : Input) :
    bytes (l :: (cs ++ [r])) ++ rest = byteOf l :: (bytes cs ++ byteOf r :: rest) := by
  rw [bytes_cons_ascii hl, Text.bytes_append, bytes_cons_ascii hr, List.cons_append, List.append_assoc]
  rfl

theorem exists_scalar {i rest : Input} {v : Json} (h : scalar? i = some (v, rest)) :
    ∃ t cs, Spells t cs ∧ i = bytes cs ++ rest ∧ ∀ depth, t.value? depth = some v := by
  unfold scalar? at h
  split at h
  · cases h
  rename_i b tl
  split at h
  · rename_i hquote
    obtain ⟨⟨s, rest'⟩, hread, h⟩ := Option.map_eq_some_iff.1 h
    obtain ⟨rfl, rfl⟩ := Prod.mk.inj h
    obtain ⟨letters, cs, rfl, hletters, hmeans⟩ := exists_letters hread
    refine ⟨.text letters, _, .text hletters, ?_, fun depth => ?_⟩
    · rw [hquote, bytes_enclosed (by decide) (by decide)]
    · rw [Tree.value?, hmeans, Option.map_some]
  split at h
  · obtain ⟨rest', hword, h⟩ := Option.map_eq_some_iff.1 h
    obtain ⟨rfl, rfl⟩ := Prod.mk.inj h
    exact ⟨.null, _, .null, exists_word hword, fun _ => by rw [Tree.value?]⟩
  split at h
  · obtain ⟨rest', hword, h⟩ := Option.map_eq_some_iff.1 h
    obtain ⟨rfl, rfl⟩ := Prod.mk.inj h
    exact ⟨.bool true, _, .true, exists_word hword, fun _ => by rw [Tree.value?]⟩
  split at h
  · obtain ⟨rest', hword, h⟩ := Option.map_eq_some_iff.1 h
    obtain ⟨rfl, rfl⟩ := Prod.mk.inj h
    exact ⟨.bool false, _, .false, exists_word hword, fun _ => by rw [Tree.value?]⟩
  · obtain ⟨⟨p, rest'⟩, hparts, h⟩ := Option.bind_eq_some_iff.1 h
    obtain ⟨n, hn, h⟩ := Option.bind_eq_some_iff.1 h
    obtain ⟨rfl, rfl⟩ := Prod.mk.inj (Option.some.inj h)
    obtain ⟨cs, hi, hnumeral⟩ := exists_numeral hparts
    exact ⟨.number p, cs, .number hnumeral, hi, fun _ => by rw [Tree.value?, hn, Option.map_some]⟩

theorem Numeral.begins {p : Number.Parts} {cs : List Char} (h : Numeral p cs) :
    ∃ c tl, cs = c :: tl ∧ c ∈ openers ∧ (byteOf c = byteOf '-' ∨ (digit? (byteOf c)).isSome = true) := by
  cases h with
  | mk h hzero hfraction hexponent =>
    cases p.negative with
    | true => exact ⟨'-', _, rfl, by decide, .inl rfl⟩
    | false =>
      obtain ⟨d, ds, hds⟩ := List.exists_cons_of_ne_nil h.1
      have hd := h.2 d (hds ▸ List.mem_cons_self)
      have hall : (List.range 10).all (fun d => openers.contains (Nat.digitChar d)) = true := by decide
      have hopen := List.all_eq_true.1 hall d (List.mem_range.2 hd)
      refine ⟨Nat.digitChar d, _, by rw [hds]; rfl, List.contains_iff_mem.1 hopen, .inr ?_⟩
      rw [digit?_eq_some_iff.2 ⟨hd, rfl⟩]
      rfl

/-- **A scalar is read as its value**, or refused if it has none. -/
theorem scalar?_spells {t : Tree} {cs : List Char} {rest : Input} (h : Spells t cs) (hscalar : t.IsScalar)
    (hends : Ends rest) (depth : Nat) : scalar? (bytes cs ++ rest) = (t.value? depth).map (·, rest) := by
  cases h with
  | null =>
    have hword := word?_append ("null".toList.map byteOf) rest
    rw [Tree.value?]
    exact congrArg (Option.map (null, ·)) hword
  | true =>
    have hword := word?_append ("true".toList.map byteOf) rest
    rw [Tree.value?]
    exact congrArg (Option.map (bool true, ·)) hword
  | false =>
    have hword := word?_append ("false".toList.map byteOf) rest
    rw [Tree.value?]
    exact congrArg (Option.map (bool false, ·)) hword
  | number hnumeral =>
    have hparts := numberParts?_numeral hnumeral hends
    obtain ⟨c, tl, rfl, hc, hbegins⟩ := hnumeral.begins
    have hne := ne_of_begins hbegins
    rw [bytes_cons_ascii (openers_spec hc).1, List.cons_append] at hparts ⊢
    unfold scalar?
    dsimp only
    rw [if_neg (hne _ (by decide)), if_neg (hne _ (by decide)), if_neg (hne _ (by decide)), if_neg (hne _ (by decide)),
      hparts]
    simp only [Option.bind_eq_bind, Option.bind_some, Tree.value?]
    cases Number.ofParts? _ with
    | none => rfl
    | some n => rfl
  | text hletters =>
    rw [bytes_enclosed (by decide) (by decide), scalar?]
    simp only [if_true, text?_letters hletters, Tree.value?, Option.map_map, Function.comp_def]
  | array => exact absurd rfl (hscalar.1 _)
  | object => exact absurd rfl (hscalar.2 _)

/-! ## Values -/

/-- What is spelled begins with a bracket unless it is a scalar. -/
theorem Spells.begins {t : Tree} {cs : List Char} (h : Spells t cs) :
    ∃ c tl, cs = c :: tl ∧ c ∈ openers ∧ (t.IsScalar → ¬ byteOf c = byteOf '[' ∧ ¬ byteOf c = byteOf '\x7b') := by
  cases h with
  | null => exact ⟨'n', _, rfl, by decide, fun _ => by decide⟩
  | true => exact ⟨'t', _, rfl, by decide, fun _ => by decide⟩
  | false => exact ⟨'f', _, rfl, by decide, fun _ => by decide⟩
  | number hnumeral =>
    obtain ⟨c, tl, hcs, hc, hbegins⟩ := hnumeral.begins
    exact ⟨c, tl, hcs, hc, fun _ => ⟨ne_of_begins hbegins _ (by decide), ne_of_begins hbegins _ (by decide)⟩⟩
  | text => exact ⟨'"', _, rfl, by decide, fun _ => by decide⟩
  | array => exact ⟨'[', _, rfl, by decide, fun hscalar => absurd rfl (hscalar.1 _)⟩
  | object => exact ⟨'\x7b', _, rfl, by decide, fun hscalar => absurd rfl (hscalar.2 _)⟩

theorem exists_value {depth : Nat} (hlevel : ∀ d < depth, Reads (value? d) Spells (Tree.value? d)) {i rest : Input}
    {v : Json} (h : value? depth i = some (v, rest)) :
    ∃ t a cs, Blanks a ∧ Spells t cs ∧ i = bytes (a ++ cs) ++ rest ∧ t.value? depth = some v := by
  obtain ⟨a, ha, hi⟩ := exists_blanks i
  unfold value? at h
  split at h
  · cases h
  rename_i b tl hskip
  rw [hskip] at hi
  split at h
  · rename_i hopen
    cases depth with
    | zero => cases h
    | succ d =>
      obtain ⟨⟨xs, rest'⟩, hcollection, h⟩ := Option.map_eq_some_iff.1 h
      obtain ⟨rfl, rfl⟩ := Prod.mk.inj h
      obtain ⟨ts, cs, hlisted, rfl, hts⟩ := (hlevel d (Nat.lt_succ_self d)).exists_collection hcollection
      refine ⟨.array ts, a, _, ha, .array hlisted, ?_, by rw [Tree.value?, hts, Option.map_some]⟩
      rw [hi, hopen, Text.bytes_append, List.append_assoc, bytes_enclosed (by decide) (by decide)]
  split at h
  · rename_i hopen
    cases depth with
    | zero => cases h
    | succ d =>
      obtain ⟨⟨ms, rest'⟩, hcollection, h⟩ := Option.map_eq_some_iff.1 h
      obtain ⟨rfl, rfl⟩ := Prod.mk.inj h
      obtain ⟨ts, cs, hlisted, rfl, hts⟩ := (hlevel d (Nat.lt_succ_self d)).members.exists_collection hcollection
      refine ⟨.object ts, a, _, ha, .object hlisted, ?_, by rw [Tree.value?, hts, Option.map_some]⟩
      rw [hi, hopen, Text.bytes_append, List.append_assoc, bytes_enclosed (by decide) (by decide)]
  · obtain ⟨t, cs, ht, hcs, hvalue⟩ := exists_scalar h
    exact ⟨t, a, cs, ha, ht, by rw [hi, hcs, Text.bytes_append, List.append_assoc], hvalue depth⟩

/-- **A value is read as the value of its tree**, or refused if it has none. -/
theorem value?_spells {depth : Nat} (hlevel : ∀ d < depth, Reads (value? d) Spells (Tree.value? d)) {t : Tree}
    {a cs : List Char} {rest : Input} (ha : Blanks a) (ht : Spells t cs) (hends : Ends rest) :
    value? depth (bytes (a ++ cs) ++ rest) = (t.value? depth).map (·, rest) := by
  have hskip : value? depth (bytes (a ++ cs) ++ rest) = value? depth (bytes cs ++ rest) := by
    rw [value?, value?, Text.bytes_append, List.append_assoc, skipSpace_blanks ha]
  have hscalar : t.IsScalar → value? depth (bytes cs ++ rest) = (t.value? depth).map (·, rest) := by
    intro hscalar
    have hread := scalar?_spells ht hscalar hends depth
    obtain ⟨c, tl, rfl, hc, hne⟩ := ht.begins
    obtain ⟨hascii, hspace, -⟩ := openers_spec hc
    rw [bytes_cons_ascii hascii, List.cons_append] at hread ⊢
    rw [value?_scalar hspace (hne hscalar).1 (hne hscalar).2, hread]
  rw [hskip]
  cases ht with
  | @array items cs hlisted =>
    have hspace : Json.isSpace (byteOf '[') = false := rfl
    rw [bytes_enclosed (by decide) (by decide), value?, skipSpace_cons hspace]
    cases depth with
    | zero => rfl
    | succ d =>
      simp only [if_true, (hlevel d (Nat.lt_succ_self d)).collection?_listed (.inl rfl) hlisted rest, Tree.value?,
        Option.map_map, Function.comp_def]
  | @object members cs hlisted =>
    have hspace : Json.isSpace (byteOf '\x7b') = false := rfl
    rw [bytes_enclosed (by decide) (by decide), value?, skipSpace_cons hspace]
    cases depth with
    | zero => rfl
    | succ d =>
      simp only [show ¬ byteOf '\x7b' = byteOf '[' by decide, if_false, if_true,
        (hlevel d (Nat.lt_succ_self d)).members.collection?_listed (.inr rfl) hlisted rest, Tree.value?,
        Option.map_map, Function.comp_def]
  | _ => exact hscalar ⟨fun _ h => (by cases h), fun _ h => (by cases h)⟩

/-- Values of every depth are read as the grammar spells them. -/
theorem reads_value (depth : Nat) : Reads (value? depth) Spells (Tree.value? depth) := by
  induction depth using Nat.strongRecOn with
  | _ depth ih =>
    -- The items and members of a value are values one level below it.
    refine ⟨exists_value ih, value?_spells ih, fun ht => ?_⟩
    obtain ⟨c, tl, hcs, hc, -⟩ := ht.begins
    exact ⟨c, tl, hcs, hc⟩

/-! ## Texts -/

theorem skipSpace_bytes_eq_nil {b : List Char} (hb : Blanks b) : skipSpace (bytes b) = [] := by
  have hskip := skipSpace_blanks hb []
  rwa [List.append_nil] at hskip

/-- **A text that a tree writes is read as the value of the tree**, and refused if the tree has none. -/
theorem parse?_of_writes {t : Tree} {cs : List Char} (h : Writes t cs) : parse? (bytes cs) = t.value? maxDepth := by
  obtain ⟨a, core, b, rfl, ha, ht, hb⟩ := h
  have hends : Ends (bytes b) := by
    have hnil : Ends [] := fun _ h => nomatch h
    have := hb.ends hnil
    rwa [List.append_nil] at this
  have hread := (reads_value maxDepth).read ha ht hends
  rw [parse?, ← List.append_assoc, Text.bytes_append, hread]
  cases t.value? maxDepth with
  | none => rfl
  | some v => simp [skipSpace_bytes_eq_nil hb]

/-- **What is read is written by a tree.** -/
theorem exists_writes {i : Input} {v : Json} (h : parse? i = some v) :
    ∃ t cs, Writes t cs ∧ i = bytes cs ∧ t.value? maxDepth = some v := by
  obtain ⟨⟨w, rest⟩, hread, hend⟩ := Option.bind_eq_some_iff.1 h
  obtain ⟨t, a, cs, ha, ht, rfl, hvalue⟩ := (reads_value maxDepth).exists_spelled hread
  obtain ⟨b, hb, hrest⟩ := exists_blanks rest
  dsimp only at hend
  split at hend
  · rename_i hempty
    rw [List.isEmpty_iff.1 hempty, List.append_nil] at hrest
    obtain rfl := Option.some.inj hend
    refine ⟨t, a ++ (cs ++ b), ⟨a, cs, b, rfl, ha, ht, hb⟩, ?_, hvalue⟩
    rw [hrest, ← List.append_assoc, Text.bytes_append (a ++ cs)]
  · cases hend

end Json
end Gatehouse
