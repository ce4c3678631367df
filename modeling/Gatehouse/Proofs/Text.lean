import Gatehouse.Text.Blank
/-!
# Text — bytes and pieces

The UTF-8 form of a text is that of its characters one after another (`utf8_ofList`) and reads back
(`ofUtf8?_bytes`).  `splitOn`, `splitFirst?` and `splitLast?` cut where the separator stands and nowhere else, so what
is joined is cut into the same pieces (`splitOn_intercalate`).
Trimming takes the blanks at both ends and nothing else (`trimChars_pad`, `exists_pad`), so it tells texts apart up to
their outer blanks (`sameInside_iff`); `unblanked` takes every blank.
-/
namespace Gatehouse
namespace Text

/-! ## UTF-8 -/

/-- The UTF-8 bytes of a list of characters. -/
def bytes (cs : List Char) : List UInt8 := cs.flatMap String.utf8EncodeChar

@[simp] theorem bytes_nil : bytes [] = [] := rfl

@[simp] theorem bytes_cons (c : Char) (cs : List Char) : bytes (c :: cs) = String.utf8EncodeChar c ++ bytes cs :=
  List.flatMap_cons

@[simp] theorem bytes_append (a b : List Char) : bytes (a ++ b) = bytes a ++ bytes b := List.flatMap_append

/-- What the loop behind `ByteArray.toList` has still to give. -/
theorem toList_loop (a : ByteArray) (i : Nat) (acc : List UInt8) :
    ByteArray.toList.loop a i acc = acc.reverse ++ a.data.toList.drop i := by
  fun_induction ByteArray.toList.loop a i acc with
  | case1 i acc h ih =>
    have hi : i < a.data.size := h
    have hget : a.get! i = a.data[i] := by
      cases a
      exact getElem!_pos _ i hi
    rw [ih, hget, List.reverse_cons, List.append_assoc, List.singleton_append]
    conv => rhs; rw [List.drop_eq_getElem_cons (by simpa using hi)]
    rfl
  | case2 i acc h =>
    have hi : a.data.size ≤ i := Nat.le_of_not_lt h
    rw [List.drop_eq_nil_of_le (by simpa using hi), List.append_nil]

theorem byteArray_toList (a : ByteArray) : a.toList = a.data.toList := by
  rw [ByteArray.toList, toList_loop]
  rfl

theorem utf8_ofList (cs : List Char) : utf8 (String.ofList cs) = bytes cs := by
  unfold utf8
  rw [String.toByteArray_ofList, byteArray_toList]
  simp [List.utf8Encode, bytes]

/-- **UTF-8 reads back.** -/
theorem ofUtf8?_bytes (cs : List Char) : ofUtf8? (bytes cs) = some (String.ofList cs) := by
  have ha : (⟨(bytes cs).toArray⟩ : ByteArray) = (String.ofList cs).toByteArray := by
    rw [← utf8_ofList, utf8, byteArray_toList]
  unfold ofUtf8? String.fromUTF8?
  rw [ha, dif_pos (String.ofList cs).isValidUTF8]
  rfl

theorem ofUtf8?_eq_some_iff {bs : List UInt8} {s : String} : ofUtf8? bs = some s ↔ bs = bytes s.toList := by
  constructor
  · intro h
    unfold ofUtf8? String.fromUTF8? at h
    split at h
    · rename_i hvalid
      cases h
      rw [← utf8_ofList, String.ofList_toList, utf8, byteArray_toList]
      rfl
    · cases h
  · rintro rfl
    rw [ofUtf8?_bytes, String.ofList_toList]

/-- UTF-8 in front of UTF-8 is a text in front of a text. -/
theorem prefix_of_bytes {cs ds : List Char} {bs : List UInt8} (h : bytes cs ++ bs = bytes ds) : cs <+: ds := by
  refine List.isPrefix_of_utf8Encode_append_eq_utf8Encode bs.toByteArray ?_
  rw [List.utf8Encode, List.utf8Encode, ← List.toByteArray_append]
  exact congrArg List.toByteArray h

/-- **A text in front of UTF-8 is in front of what it reads as.** -/
theorem ofUtf8?_append (cs : List Char) (bs : List UInt8) :
    ofUtf8? (bytes cs ++ bs) = (ofUtf8? bs).map (String.ofList cs ++ ·) := by
  ext s
  rw [ofUtf8?_eq_some_iff, Option.map_eq_some_iff]
  constructor
  · intro h
    obtain ⟨ds, hds⟩ := prefix_of_bytes h
    rw [← hds, bytes_append] at h
    refine ⟨String.ofList ds, ?_, ?_⟩
    · rw [List.append_cancel_left h, ofUtf8?_bytes]
    · rw [← String.toList_inj, String.toList_append, String.toList_ofList, String.toList_ofList, hds]
  · rintro ⟨t, ht, rfl⟩
    rw [String.toList_append, String.toList_ofList, bytes_append, ofUtf8?_eq_some_iff.1 ht]

/-! ## Pieces -/

variable {sep : Char}

theorem splitOn_of_not_mem : ∀ {cs : List Char}, sep ∉ cs → splitOn sep cs = [cs]
  | [], _ => rfl
  | c :: cs, h => by
    have hc : ¬ c = sep := fun e => h (e ▸ List.mem_cons_self)
    rw [splitOn, if_neg hc, splitOn_of_not_mem fun hm => h (List.mem_cons_of_mem c hm)]

/-- **The first piece ends at the first separator.** -/
theorem splitOn_append_cons : ∀ {a : List Char} (b : List Char), sep ∉ a →
    splitOn sep (a ++ sep :: b) = a :: splitOn sep b
  | [], b, _ => by rw [List.nil_append, splitOn, if_pos rfl]
  | c :: a, b, h => by
    have hc : ¬ c = sep := fun e => h (e ▸ List.mem_cons_self)
    rw [List.cons_append, splitOn, if_neg hc, splitOn_append_cons b fun hm => h (List.mem_cons_of_mem c hm)]

theorem splitOn_ne_nil : ∀ cs : List Char, splitOn sep cs ≠ []
  | [] => List.cons_ne_nil _ _
  | c :: cs => by
    unfold splitOn
    split
    · exact List.cons_ne_nil _ _
    · split <;> exact List.cons_ne_nil _ _

/-- **Both sides of a separator are cut by themselves.** -/
theorem splitOn_append_sep (b : List Char) : ∀ a : List Char, splitOn sep (a ++ sep :: b) = splitOn sep a ++ splitOn sep b
  | [] => by simp [splitOn]
  | c :: a => by
    have ih := splitOn_append_sep b a
    obtain ⟨first, rest, hsplit⟩ : ∃ first rest, splitOn sep a = first :: rest :=
      List.exists_cons_of_ne_nil (splitOn_ne_nil a)
    rw [hsplit] at ih
    rw [List.cons_append, splitOn, splitOn, ih, hsplit]
    split <;> rfl

/-- A text in one piece has no separator. -/
theorem not_mem_of_splitOn : ∀ {cs x : List Char}, splitOn sep cs = [x] → sep ∉ cs
  | [], _, _ => List.not_mem_nil
  | c :: cs, x, h => by
    unfold splitOn at h
    split at h
    · rw [List.cons.injEq] at h
      exact absurd h.2 (splitOn_ne_nil cs)
    · rename_i hc
      split at h
      · rename_i hnil
        exact absurd hnil (splitOn_ne_nil cs)
      · rename_i hrest
        rw [List.cons.injEq] at h
        rw [h.2] at hrest
        intro hmem
        rcases List.mem_cons.1 hmem with he | hmem
        · exact hc he.symm
        · exact not_mem_of_splitOn hrest hmem

/-- **Where a text with more than one piece is cut.** -/
theorem splitOn_eq_cons_cons {cs a b : List Char} {pieces : List (List Char)} (h : splitOn sep cs = a :: b :: pieces) :
    ∃ rest, cs = a ++ sep :: rest ∧ sep ∉ a ∧ splitOn sep rest = b :: pieces := by
  by_cases hmem : sep ∈ cs
  · obtain ⟨first, rest, rfl, hfirst⟩ := List.eq_append_cons_of_mem hmem
    rw [splitOn_append_cons rest hfirst, List.cons.injEq] at h
    obtain ⟨rfl, hrest⟩ := h
    exact ⟨rest, rfl, hfirst, hrest⟩
  · rw [splitOn_of_not_mem hmem, List.cons.injEq] at h
    cases h.2

/-- The pieces of a text hold its characters, and no separator. -/
theorem mem_of_mem_splitOn : ∀ {cs piece : List Char}, piece ∈ splitOn sep cs → ∀ c ∈ piece, c ∈ cs ∧ c ≠ sep
  | [], _, hpiece, c, hc => by
    rw [splitOn, List.mem_singleton] at hpiece
    rw [hpiece] at hc
    exact nomatch hc
  | d :: cs, piece, hpiece, c, hc => by
    have hrest : ∀ {p : List Char}, p ∈ splitOn sep cs → c ∈ p → c ∈ d :: cs ∧ c ≠ sep := fun hp hcp =>
      have ih := mem_of_mem_splitOn hp c hcp
      ⟨List.mem_cons_of_mem d ih.1, ih.2⟩
    unfold splitOn at hpiece
    split at hpiece
    · rcases List.mem_cons.1 hpiece with rfl | hpiece
      · exact nomatch hc
      · exact hrest hpiece hc
    rename_i hd
    split at hpiece
    · rename_i hnil
      exact absurd hnil (splitOn_ne_nil cs)
    rename_i first rest hsplit
    rcases List.mem_cons.1 hpiece with rfl | hpiece
    · rcases List.mem_cons.1 hc with rfl | hc
      · exact ⟨List.mem_cons_self, hd⟩
      · exact hrest (hsplit ▸ List.mem_cons_self) hc
    · exact hrest (hsplit ▸ List.mem_cons_of_mem first hpiece) hc

theorem mem_intercalate {mark : List Char} {c : Char} : ∀ {pieces : List (List Char)}, c ∈ mark.intercalate pieces →
    c ∈ mark ∨ ∃ piece ∈ pieces, c ∈ piece
  | [], h => nomatch h
  | [piece], h => by
    rw [List.intercalate_singleton] at h
    exact .inr ⟨piece, List.mem_cons_self, h⟩
  | first :: second :: rest, h => by
    rw [List.intercalate_cons_cons, List.append_assoc] at h
    rcases List.mem_append.1 h with hfirst | h
    · exact .inr ⟨first, List.mem_cons_self, hfirst⟩
    rcases List.mem_append.1 h with hmark | h
    · exact .inl hmark
    · exact (mem_intercalate h).imp_right fun ⟨piece, hpiece, hc⟩ => ⟨piece, List.mem_cons_of_mem first hpiece, hc⟩

/-- **Pieces that are joined are the pieces again**, each but the first with what stands behind the separator. -/
theorem splitOn_intercalate {pad : List Char} (hpad : sep ∉ pad) : ∀ {first : List Char} {rest : List (List Char)},
    (∀ piece ∈ first :: rest, sep ∉ piece) →
      splitOn sep ((sep :: pad).intercalate (first :: rest)) = first :: rest.map (pad ++ ·)
  | first, [], h => by
    rw [List.intercalate_singleton, splitOn_of_not_mem (h first List.mem_cons_self), List.map_nil]
  | first, second :: rest, h => by
    have hsecond : ∀ piece ∈ (pad ++ second) :: rest, sep ∉ piece := by
      intro piece hpiece
      rcases List.mem_cons.1 hpiece with rfl | hpiece
      · simp [hpad, h second (by simp)]
      · exact h piece (by simp [hpiece])
    have hjoined : (sep :: pad).intercalate (first :: second :: rest) =
        first ++ sep :: (sep :: pad).intercalate ((pad ++ second) :: rest) := by
      cases rest <;> simp
    rw [hjoined, splitOn_append_cons _ (h first List.mem_cons_self), splitOn_intercalate hpad hsecond, List.map_cons]

theorem splitFirst?_eq_some_iff : ∀ {cs a b : List Char},
    splitFirst? sep cs = some (a, b) ↔ cs = a ++ sep :: b ∧ sep ∉ a
  | [], a, b => by simp [splitFirst?]
  | c :: cs, a, b => by
    unfold splitFirst?
    by_cases hc : c = sep
    · subst hc
      rw [if_pos rfl]
      cases a with
      | nil => simp
      | cons x a => simp +contextual
    · rw [if_neg hc, Option.map_eq_some_iff]
      constructor
      · rintro ⟨⟨a', b'⟩, h, he⟩
        obtain ⟨rfl, hn⟩ := splitFirst?_eq_some_iff.1 h
        cases he
        exact ⟨rfl, by simpa [Ne.symm hc] using hn⟩
      · rintro ⟨h, hn⟩
        cases a with
        | nil => simp [hc] at h
        | cons x a =>
          simp only [List.cons_append, List.cons.injEq] at h
          obtain ⟨rfl, rfl⟩ := h
          exact ⟨(a, b), splitFirst?_eq_some_iff.2 ⟨rfl, fun hm => hn (List.mem_cons_of_mem _ hm)⟩, rfl⟩

/-- What does not hold the separator has no part in where it first stands. -/
theorem splitFirst?_pad {a b : List Char} (ha : sep ∉ a) (hb : sep ∉ b) (cs : List Char) :
    splitFirst? sep (a ++ cs ++ b) = (splitFirst? sep cs).map fun p => (a ++ p.1, p.2 ++ b) := by
  cases hinner : splitFirst? sep cs with
  | some p =>
    obtain ⟨rfl, hp⟩ := splitFirst?_eq_some_iff.1 hinner
    exact splitFirst?_eq_some_iff.2 ⟨by simp, by simp [ha, hp]⟩
  | none =>
    rw [Option.map_none, Option.eq_none_iff_forall_ne_some]
    rintro ⟨x, y⟩ hwhole
    have hmem : sep ∈ a ++ cs ++ b := by
      rw [(splitFirst?_eq_some_iff.1 hwhole).1]
      exact List.mem_append_right _ List.mem_cons_self
    have hinside : sep ∈ cs := by simpa [ha, hb] using hmem
    obtain ⟨first, rest, hcs, hfirst⟩ := List.eq_append_cons_of_mem hinside
    rw [splitFirst?_eq_some_iff.2 ⟨hcs, hfirst⟩] at hinner
    cases hinner

/-- **The last piece starts after the last separator.** -/
theorem splitLast?_eq_some_iff {cs a b : List Char} :
    splitLast? sep cs = some (a, b) ↔ cs = a ++ sep :: b ∧ sep ∉ b := by
  unfold splitLast?
  rw [Option.map_eq_some_iff]
  constructor
  · rintro ⟨⟨x, y⟩, h, he⟩
    obtain ⟨hcs, hn⟩ := splitFirst?_eq_some_iff.1 h
    cases he
    refine ⟨?_, by simpa using hn⟩
    rw [← List.reverse_reverse cs, hcs]
    simp
  · rintro ⟨rfl, hn⟩
    exact ⟨(b.reverse, a.reverse), splitFirst?_eq_some_iff.2 ⟨by simp, by simpa using hn⟩, by simp⟩

theorem dropEnd_of_forall {p : Char → Bool} {cs : List Char} (h : ∀ c ∈ cs, p c = false) : dropEnd p cs = cs := by
  unfold dropEnd
  have hr : cs.reverse.dropWhile p = cs.reverse := by
    cases hcs : cs.reverse with
    | nil => rfl
    | cons c rest =>
      have hc : p c = false := h c (List.mem_reverse.1 (hcs ▸ List.mem_cons_self))
      rw [List.dropWhile_cons, hc]
      rfl
  rw [hr, List.reverse_reverse]

theorem exists_dropEnd (p : Char → Bool) (cs : List Char) : ∃ tail, cs = dropEnd p cs ++ tail ∧ ∀ c ∈ tail, p c = true := by
  refine ⟨(cs.reverse.takeWhile p).reverse, ?_, fun c hc => ?_⟩
  · rw [dropEnd, ← List.reverse_append, List.takeWhile_append_dropWhile, List.reverse_reverse]
  · exact List.all_eq_true.1 List.all_takeWhile c (List.mem_reverse.1 hc)

theorem dropEnd_prefix (p : Char → Bool) (cs : List Char) : dropEnd p cs <+: cs := by
  obtain ⟨tail, hcs, -⟩ := exists_dropEnd p cs
  exact ⟨tail, hcs.symm⟩

/-- What is left is nothing, or ends with another character. -/
theorem dropEnd_eq_nil_or (p : Char → Bool) (cs : List Char) :
    dropEnd p cs = [] ∨ ∃ start last, dropEnd p cs = start ++ [last] ∧ p last = false := by
  unfold dropEnd
  cases hrest : cs.reverse.dropWhile p with
  | nil => exact .inl rfl
  | cons last start =>
    have hlast := List.head_dropWhile_not p (l := cs.reverse) (by rw [hrest]; exact List.cons_ne_nil _ _)
    simp only [hrest, List.head_cons] at hlast
    exact .inr ⟨start.reverse, last, List.reverse_cons, hlast⟩

theorem dropPrefix?_append : ∀ start rest : List Char, dropPrefix? start (start ++ rest) = some rest
  | [], _ => rfl
  | c :: start, rest => by rw [List.cons_append, dropPrefix?, if_pos rfl, dropPrefix?_append start rest]

theorem dropPrefix?_isSome_iff : ∀ {start cs : List Char}, (dropPrefix? start cs).isSome = true ↔ start <+: cs
  | [], cs => by simp [dropPrefix?]
  | _ :: _, [] => by simp [dropPrefix?]
  | p :: ps, c :: cs => by
    unfold dropPrefix?
    by_cases h : p = c
    · rw [if_pos h, dropPrefix?_isSome_iff, List.cons_prefix_cons]
      simp [h]
    · rw [if_neg h, List.cons_prefix_cons]
      simp [h]

theorem occursIn_iff {needle : List Char} : ∀ {cs : List Char}, occursIn needle cs = true ↔ needle <:+: cs
  | [] => by simp [occursIn]
  | c :: cs => by
    rw [occursIn, Bool.or_eq_true, dropPrefix?_isSome_iff, occursIn_iff, List.infix_cons_iff]

/-! ## Trimming -/

theorem dropEnd_append {p : Char → Bool} {b : List Char} (a : List Char) (h : ∀ c ∈ b, p c = true) :
    dropEnd p (a ++ b) = dropEnd p a := by
  have hb : ∀ c ∈ b.reverse, p c = true := fun c hc => h c (List.mem_reverse.1 hc)
  rw [dropEnd, dropEnd, List.reverse_append, List.dropWhile_append_of_pos hb]

/-- **Blanks around a text are trimmed away.** -/
theorem trimChars_pad {a b : List Char} (ha : ∀ c ∈ a, isBlank c = true) (hb : ∀ c ∈ b, isBlank c = true)
    (cs : List Char) : trimChars (a ++ cs ++ b) = trimChars cs := by
  rw [trimChars, trimChars, List.append_assoc, List.dropWhile_append_of_pos ha, List.dropWhile_append]
  split
  · rename_i hempty
    have hnone : b.dropWhile isBlank = [] := by
      rw [← List.append_nil b, List.dropWhile_append_of_pos hb]
      rfl
    rw [hnone, List.isEmpty_iff.1 hempty]
  · exact dropEnd_append _ hb

theorem trimChars_concat {last : Char} (h : isBlank last = true) (cs : List Char) :
    trimChars (cs ++ [last]) = trimChars cs :=
  trimChars_pad (a := []) nofun (fun c hc => by rwa [List.mem_singleton.1 hc]) cs

/-- **Nothing but blanks is trimmed away.** -/
theorem exists_pad (cs : List Char) : ∃ a b, cs = a ++ trimChars cs ++ b ∧ (∀ c ∈ a, isBlank c = true) ∧
    ∀ c ∈ b, isBlank c = true := by
  have hblank (l : List Char) : ∀ c ∈ l.takeWhile isBlank, isBlank c = true := List.all_eq_true.1 List.all_takeWhile
  refine ⟨cs.takeWhile isBlank, ((cs.dropWhile isBlank).reverse.takeWhile isBlank).reverse, ?_, hblank cs,
    fun c hc => hblank _ c (List.mem_reverse.1 hc)⟩
  rw [trimChars, dropEnd, List.append_assoc, ← List.reverse_append, List.takeWhile_append_dropWhile,
    List.reverse_reverse, List.takeWhile_append_dropWhile]

theorem trimChars_trimChars (cs : List Char) : trimChars (trimChars cs) = trimChars cs := by
  obtain ⟨a, b, hcs, ha, hb⟩ := exists_pad cs
  conv => rhs; rw [hcs]
  exact (trimChars_pad ha hb _).symm

/-- A text that starts and ends with something else than a blank is left as it is. -/
theorem trimChars_of_ends {first last : Char} (cs : List Char) (hfirst : isBlank first = false)
    (hlast : isBlank last = false) : trimChars (first :: (cs ++ [last])) = first :: (cs ++ [last]) := by
  rw [trimChars, List.dropWhile_cons_of_neg (by simp [hfirst]), dropEnd, List.reverse_cons, List.reverse_append]
  simp [hlast]

theorem trimChars_of_forall {cs : List Char} (h : ∀ c ∈ cs, isBlank c = false) : trimChars cs = cs := by
  have hstart : cs.dropWhile isBlank = cs := by
    cases cs with
    | nil => rfl
    | cons c rest => exact List.dropWhile_cons_of_neg (by simp [h c List.mem_cons_self])
  rw [trimChars, hstart, dropEnd_of_forall h]

theorem mem_of_mem_trimChars {cs : List Char} {c : Char} (h : c ∈ trimChars cs) : c ∈ cs := by
  obtain ⟨a, b, hcs, -, -⟩ := exists_pad cs
  rw [hcs]
  exact List.mem_append_left _ (List.mem_append_right _ h)

/-- What is left by trimming does not end with a blank. -/
theorem isBlank_of_trimChars_concat {cs : List Char} {last : Char} (h : trimChars (cs ++ [last]) = cs ++ [last]) :
    isBlank last = false := by
  rw [Bool.eq_false_iff]
  intro hlast
  have hpad := trimChars_concat hlast cs
  rw [h] at hpad
  obtain ⟨a, b, hcs, -, -⟩ := exists_pad cs
  have hlength := congrArg List.length hcs
  rw [← hpad] at hlength
  simp only [List.length_append, List.length_singleton] at hlength
  omega

/-- Two texts that differ in the blanks at their ends only. -/
def SameInside (s t : List Char) : Prop :=
  ∃ core a b a' b', s = a ++ core ++ b ∧ t = a' ++ core ++ b' ∧ ∀ c ∈ a ++ b ++ a' ++ b', isBlank c = true

theorem sameInside_iff {s t : List Char} : SameInside s t ↔ trimChars s = trimChars t := by
  constructor
  · rintro ⟨core, a, b, a', b', rfl, rfl, hblank⟩
    simp only [List.mem_append, or_imp, forall_and] at hblank
    obtain ⟨⟨⟨ha, hb⟩, ha'⟩, hb'⟩ := hblank
    rw [trimChars_pad ha hb, trimChars_pad ha' hb']
  · intro h
    obtain ⟨a, b, hs, ha, hb⟩ := exists_pad s
    obtain ⟨a', b', ht, ha', hb'⟩ := exists_pad t
    refine ⟨trimChars s, a, b, a', b', hs, by rwa [h], ?_⟩
    simp only [List.mem_append, or_imp, forall_and]
    exact ⟨⟨⟨ha, hb⟩, ha'⟩, hb'⟩

/-! ## Blanks anywhere -/

/-- A text without its blanks. -/
def unblanked (cs : List Char) : List Char := cs.filter fun c => !isBlank c

theorem unblanked_eq_nil_iff {cs : List Char} : unblanked cs = [] ↔ ∀ c ∈ cs, isBlank c = true := by
  rw [unblanked, List.filter_eq_nil_iff]
  simp only [Bool.not_eq_true', Bool.not_eq_false]

theorem unblanked_trimChars (cs : List Char) : unblanked (trimChars cs) = unblanked cs := by
  obtain ⟨a, b, hcs, ha, hb⟩ := exists_pad cs
  conv => rhs; rw [hcs]
  rw [unblanked, unblanked, List.filter_append, List.filter_append]
  have hstart : a.filter (fun c => !isBlank c) = [] := unblanked_eq_nil_iff.2 ha
  have hend : b.filter (fun c => !isBlank c) = [] := unblanked_eq_nil_iff.2 hb
  rw [hstart, hend, List.nil_append, List.append_nil]

/-- A text is trimmed to nothing when it holds nothing but blanks. -/
theorem trimChars_eq_nil_iff {cs : List Char} : trimChars cs = [] ↔ unblanked cs = [] := by
  constructor
  · intro h
    rw [← unblanked_trimChars, h]
    rfl
  · intro h
    have hpad := trimChars_pad (b := []) (unblanked_eq_nil_iff.1 h) (fun c hc => nomatch hc) []
    rwa [List.append_nil, List.append_nil] at hpad

end Text
end Gatehouse
