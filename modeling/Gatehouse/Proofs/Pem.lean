import Gatehouse.Pem
import Gatehouse.Proofs.Base64
/-!
# PEM — a block that is written is laid out strictly

`Pem.write` cuts a content into full lines and a last one (`hasWidth_wrap`) that join to its base64 (`flatten_wrap`), so
the reader that wants one block, laid out strictly, takes the content out again (`only?_written`).
-/
namespace Gatehouse
namespace Pem

variable {width fuel : Nat} {text label : List Char} {content : List UInt8}

/-! ## Lines -/

/-- **No character is lost between the lines.** -/
theorem flatten_wrap (hwidth : 0 < width) : ∀ {fuel : Nat} {text : List Char}, text.length ≤ fuel →
    (wrap width fuel text).flatten = text
  | 0, [], _ => rfl
  | _ + 1, [], _ => rfl
  | fuel + 1, c :: cs, h => by
    have hrest : ((c :: cs).drop width).length ≤ fuel := by
      rw [List.length_drop]
      simp only [List.length_cons] at h ⊢
      omega
    rw [wrap, List.flatten_cons, flatten_wrap hwidth hrest, List.take_append_drop]

theorem wrap_of_length_le (hne : text ≠ []) (hfuel : 0 < fuel) (h : text.length ≤ width) :
    wrap width fuel text = [text] := by
  obtain ⟨fuel, rfl⟩ : ∃ n, fuel = n + 1 := ⟨fuel - 1, by omega⟩
  cases text with
  | nil => exact absurd rfl hne
  | cons c cs =>
    rw [wrap, List.take_of_length_le h, List.drop_eq_nil_of_le h]
    cases fuel <;> rfl

theorem wrap_of_lt_length (hfuel : 0 < fuel) (h : width < text.length) :
    wrap width fuel text = text.take width :: wrap width (fuel - 1) (text.drop width) := by
  obtain ⟨fuel, rfl⟩ : ∃ n, fuel = n + 1 := ⟨fuel - 1, by omega⟩
  cases text with
  | nil => exact absurd h (Nat.not_lt_zero width)
  | cons c cs => rfl

theorem wrap_ne_nil (hne : text ≠ []) (hfuel : 0 < fuel) : wrap width fuel text ≠ [] := by
  obtain ⟨fuel, rfl⟩ : ∃ n, fuel = n + 1 := ⟨fuel - 1, by omega⟩
  cases text with
  | nil => exact absurd rfl hne
  | cons c cs => exact List.cons_ne_nil _ _

theorem ne_nil_of_mem_wrap (hwidth : 0 < width) {line : List Char} : ∀ {fuel : Nat} {text : List Char},
    line ∈ wrap width fuel text → line ≠ []
  | 0, _, h => nomatch h
  | _ + 1, [], h => nomatch h
  | fuel + 1, c :: cs, h => by
    rcases List.mem_cons.1 h with rfl | hrest
    · exact fun hnil => by simp [List.take_eq_nil_iff] at hnil; omega
    · exact ne_nil_of_mem_wrap hwidth hrest

/-- **All lines but the last are full**, and the last is not empty. -/
theorem hasWidth_wrap (hwidth : 0 < width) : ∀ {fuel : Nat} {text : List Char}, text.length ≤ fuel →
    hasWidth width (wrap width fuel text) = true
  | 0, _, _ => rfl
  | fuel + 1, text, h => by
    by_cases hne : text = []
    · rw [hne]
      rfl
    by_cases hlength : text.length ≤ width
    · rw [wrap_of_length_le hne (Nat.succ_pos fuel) hlength]
      simp [hasWidth, hlength, hne]
    · have hlong : width < text.length := Nat.lt_of_not_le hlength
      have hrest : (text.drop width).length ≤ fuel := by
        rw [List.length_drop]
        omega
      have hfull : (text.take width).length = width := List.length_take_of_le (Nat.le_of_lt hlong)
      have hmore : text.drop width ≠ [] := by
        rw [ne_eq, List.drop_eq_nil_iff]
        exact hlength
      obtain ⟨next, lines, hlines⟩ : ∃ next lines, wrap width fuel (text.drop width) = next :: lines :=
        List.exists_cons_of_ne_nil (wrap_ne_nil hmore (Nat.lt_of_lt_of_le (List.length_pos_iff.2 hmore) hrest))
      have ih := hasWidth_wrap hwidth hrest
      rw [hlines] at ih
      rw [wrap_of_lt_length (Nat.succ_pos fuel) hlong, Nat.succ_sub_one, hlines, hasWidth]
      · rw [hfull, ih, decide_eq_true rfl, Bool.and_self]
      · exact List.cons_ne_nil next lines

/-- The lines have the width of the first one. -/
theorem hasWidth_head (hwidth : 0 < width) (h : text.length ≤ fuel) :
    hasWidth (((wrap width fuel text).head?.map List.length).getD 0) (wrap width fuel text) = true := by
  by_cases hne : text = []
  · rw [hne]
    cases fuel <;> rfl
  have hfuel : 0 < fuel := Nat.lt_of_lt_of_le (List.length_pos_iff.2 hne) h
  by_cases hlength : text.length ≤ width
  · rw [wrap_of_length_le hne hfuel hlength]
    simp [hasWidth, hne]
  · have hlong : width < text.length := Nat.lt_of_not_le hlength
    have hhead : ((wrap width fuel text).head?.map List.length).getD 0 = width := by
      rw [wrap_of_lt_length hfuel hlong, List.head?_cons, Option.map_some, Option.getD_some,
        List.length_take_of_le (Nat.le_of_lt hlong)]
    rw [hhead]
    exact hasWidth_wrap hwidth h

/-- Lines of a width: none is empty or longer, and only the last may be shorter. -/
structure IsBody (width : Nat) (lines : List (List Char)) : Prop where
  filled : ∀ line ∈ lines, 1 ≤ line.length ∧ line.length ≤ width
  full : ∀ line ∈ lines.dropLast, line.length = width

theorem isBody_of_hasWidth (hwidth : 0 < width) : ∀ {lines : List (List Char)}, hasWidth width lines = true →
    IsBody width lines
  | [], _ => ⟨fun _ h => absurd h List.not_mem_nil, fun _ h => absurd h List.not_mem_nil⟩
  | [last], h => by
    simp only [hasWidth, Bool.and_eq_true, decide_eq_true_eq, Bool.not_eq_true', List.isEmpty_eq_false_iff] at h
    refine ⟨fun line hline => ?_, fun _ h => absurd h List.not_mem_nil⟩
    rw [List.mem_singleton.1 hline]
    exact ⟨List.length_pos_iff.2 h.2, h.1⟩
  | line :: next :: rest, h => by
    rw [hasWidth, Bool.and_eq_true, decide_eq_true_eq] at h
    · have ih := isBody_of_hasWidth hwidth h.2
      refine ⟨List.forall_mem_cons.2 ⟨by omega, ih.filled⟩, ?_⟩
      rw [List.dropLast_cons_of_ne_nil (List.cons_ne_nil next rest)]
      exact List.forall_mem_cons.2 ⟨h.1, ih.full⟩
    · exact List.cons_ne_nil next rest

/-- A text within one line. -/
def InLine (line : List Char) : Prop := ∀ c ∈ line, c ≠ '\n' ∧ c ≠ '\r'

theorem bodyLinesOf_feed (before rest : List Char) :
    bodyLinesOf before ('\n' :: rest) = before.reverse :: bodyLinesOf [] rest := by
  rw [bodyLinesOf]
  · rfl
  · intro rest' h
    exact absurd h (by decide)

theorem bodyLinesOf_cons {c : Char} (h : c ≠ '\n' ∧ c ≠ '\r') (before rest : List Char) :
    bodyLinesOf before (c :: rest) = bodyLinesOf (c :: before) rest := by
  rw [bodyLinesOf]
  · simp [h]
  · exact fun rest' hc => absurd hc h.2

theorem bodyLinesOf_append : ∀ {line : List Char}, InLine line → ∀ before rest,
    bodyLinesOf before (line ++ rest) = bodyLinesOf (line.reverse ++ before) rest
  | [], _, _, _ => rfl
  | c :: cs, h, before, rest => by
    have hcs : InLine cs := fun d hd => h d (List.mem_cons_of_mem c hd)
    rw [List.cons_append, bodyLinesOf_cons (h c List.mem_cons_self), bodyLinesOf_append hcs, List.reverse_cons,
      List.append_assoc, List.singleton_append]

/-- Lines, each ended by a line feed. -/
def ended (lines : List (List Char)) : List Char := lines.flatMap fun line => line ++ ['\n']

theorem ended_concat (lines : List (List Char)) (last : List Char) :
    ended (lines ++ [last]) = ended lines ++ last ++ ['\n'] := by
  rw [ended, List.flatMap_append, List.flatMap_singleton, List.append_assoc, ended]

/-- **Ended lines are cut into the lines again**, with nothing behind the last. -/
theorem splitOn_ended : ∀ {lines : List (List Char)}, (∀ line ∈ lines, '\n' ∉ line) →
    Text.splitOn '\n' (ended lines) = lines ++ [[]]
  | [], _ => rfl
  | line :: lines, h => by
    have ih := splitOn_ended fun l hl => h l (List.mem_cons_of_mem line hl)
    rw [ended] at ih
    rw [ended, List.flatMap_cons, List.append_assoc, List.singleton_append,
      Text.splitOn_append_cons _ (h line List.mem_cons_self), ih, List.cons_append]

/-- **Lines are read back.** -/
theorem bodyLinesOf_lines {last : List Char} (hlast : InLine last) : ∀ {lines : List (List Char)},
    (∀ line ∈ lines, InLine line) → bodyLinesOf [] (ended lines ++ last) = lines ++ [last]
  | [], _ => by
    have hend := bodyLinesOf_append hlast [] []
    rw [List.append_nil, List.append_nil] at hend
    rw [ended, List.flatMap_nil, List.nil_append, hend, bodyLinesOf, List.reverse_reverse, List.nil_append]
  | line :: lines, h => by
    have hline : InLine line := h line List.mem_cons_self
    have ih := bodyLinesOf_lines hlast fun l hl => h l (List.mem_cons_of_mem line hl)
    rw [ended] at ih
    rw [ended, List.flatMap_cons, List.append_assoc, List.append_assoc, bodyLinesOf_append hline, List.singleton_append,
      bodyLinesOf_feed, List.append_nil, List.reverse_reverse, ih, List.cons_append]

/-! ## Ends -/

theorem dropSuffix?_append (rest suffix : List Char) : dropSuffix? suffix (rest ++ suffix) = some rest := by
  rw [dropSuffix?, List.reverse_append, Text.dropPrefix?_append, Option.map_some, List.reverse_reverse]

theorem dropLastLineEnd?_feed {last : Char} (h : last ≠ '\r') (rest : List Char) :
    dropLastLineEnd? (rest ++ [last, '\n']) = some (rest ++ [last]) := by
  have hreverse : (rest ++ [last, '\n']).reverse = '\n' :: last :: rest.reverse := by simp
  unfold dropLastLineEnd?
  rw [hreverse]
  split
  · rename_i heq
    exact absurd (List.cons.inj (List.cons.inj heq).2).1 h
  · rename_i heq
    rw [← (List.cons.inj heq).2]
    simp
  · rename_i heq
    exact absurd (List.cons.inj heq).1 (by decide)
  · rename_i hfeed _
    exact absurd rfl (hfeed _)

theorem dropLastLineEnd?_other {last : Char} (h : last ≠ '\n' ∧ last ≠ '\r') (rest : List Char) :
    dropLastLineEnd? (rest ++ [last]) = none := by
  have hreverse : (rest ++ [last]).reverse = last :: rest.reverse := by simp
  unfold dropLastLineEnd?
  rw [hreverse]
  split
  · rename_i heq
    exact absurd (List.cons.inj heq).1 h.1
  · rename_i heq
    exact absurd (List.cons.inj heq).1 h.1
  · rename_i heq
    exact absurd (List.cons.inj heq).1 h.2
  · rfl

/-- **The lines of a body are read back from it.** -/
theorem bodyLinesOf_ended {lines : List (List Char)} {last : List Char} (h : ∀ line ∈ lines ++ [last], InLine line)
    (hne : last ≠ []) :
    ∃ body, dropLastLineEnd? (ended (lines ++ [last])) = some body ∧ bodyLinesOf [] body = lines ++ [last] := by
  have hlast : InLine last := h last (by simp)
  refine ⟨ended lines ++ last, ?_, bodyLinesOf_lines hlast fun line hline => h line (List.mem_append_left _ hline)⟩
  obtain ⟨start, c, rfl⟩ : ∃ start c, last = start ++ [c] := ⟨_, _, (List.dropLast_concat_getLast hne).symm⟩
  have hended : ended (lines ++ [start ++ [c]]) = (ended lines ++ start) ++ [c, '\n'] := by
    rw [ended_concat, List.append_assoc, List.append_assoc, List.append_assoc]
    rfl
  rw [hended, dropLastLineEnd?_feed (hlast c (by simp)).2, List.append_assoc]

/-! ## The one block -/

/-- **The lines of the body join to the base64 of the content.** -/
theorem flatten_bodyLines (content : List UInt8) : (bodyLines content).flatten = Base64.encodePadded .standard content :=
  flatten_wrap (by decide) (Nat.le_refl _)

theorem inLine_bodyLines {line : List Char} (h : line ∈ bodyLines content) : InLine line := by
  intro c hc
  have hmem : c ∈ Base64.encodePadded .standard content := by
    rw [← flatten_bodyLines]
    exact List.mem_flatten.2 ⟨line, h, hc⟩
  have hrange := Base64.range_of_mem_encodePadded hmem
  constructor <;> rintro rfl <;> revert hrange <;> decide

theorem isBody_bodyLines (content : List UInt8) : IsBody 64 (bodyLines content) :=
  isBody_of_hasWidth (by decide) (hasWidth_wrap (by decide) (Nat.le_refl _))

/-- Lines between the BEGIN and END lines of a label. -/
def framed (label : List Char) (lines : List (List Char)) : List Char :=
  ended ((beginMark ++ label ++ dashes) :: (lines ++ [endMark ++ label ++ dashes]))

theorem write_eq_framed (label : List Char) (content : List UInt8) :
    write label content = framed label (bodyLines content) := by
  simp only [write, framed, ended, List.flatMap_cons, List.flatMap_append, List.flatMap_nil, List.append_assoc,
    List.cons_append, List.nil_append, List.append_nil]

/-- A label that stands within its line. -/
theorem framed_inj {label other : List Char} {lines others : List (List Char)} (hlabel : '\n' ∉ label)
    (hother : '\n' ∉ other) (hlines : ∀ line ∈ lines, '\n' ∉ line) (hothers : ∀ line ∈ others, '\n' ∉ line)
    (h : framed label lines = framed other others) : lines = others := by
  have hmarks : '\n' ∉ beginMark ∧ '\n' ∉ endMark ∧ '\n' ∉ dashes := by decide
  have hcut : ∀ {l : List Char} {ls : List (List Char)}, '\n' ∉ l → (∀ line ∈ ls, '\n' ∉ line) →
      Text.splitOn '\n' (framed l ls) = (beginMark ++ l ++ dashes) :: (ls ++ [endMark ++ l ++ dashes]) ++ [[]] := by
    intro l ls hl hls
    refine splitOn_ended fun line hline => ?_
    simp only [List.mem_cons, List.mem_append, List.not_mem_nil, or_false] at hline
    rcases hline with rfl | hline | rfl
    · simp [hmarks, hl]
    · exact hls line hline
    · simp [hmarks, hl]
  have hcuts := hcut hlabel hlines
  rw [h, hcut hother hothers] at hcuts
  simp only [List.cons_append, List.cons.injEq, List.append_cancel_right_eq] at hcuts
  exact (List.append_inj_left' hcuts.2 rfl).symm

/-- A written block without its last line feed. -/
def written (label : List Char) (content : List UInt8) : List Char :=
  beginMark ++ (label ++ dashes) ++ '\n' :: ended (bodyLines content) ++
    (endMark ++ label ++ dashes)

theorem write_eq (label : List Char) (content : List UInt8) : write label content = written label content ++ ['\n'] := by
  simp only [write, written, ended, List.append_assoc, List.cons_append]

theorem beginMark_prefix_written (label : List Char) (content : List UInt8) : beginMark <+: written label content := by
  rw [written, List.append_assoc, List.append_assoc]
  exact List.prefix_append beginMark _

theorem trimChars_written (label : List Char) (content : List UInt8) :
    Text.trimChars (written label content) = written label content := by
  obtain ⟨middle, hmiddle⟩ : ∃ middle, written label content = '-' :: (middle ++ ['-']) := by
    have hbegin : beginMark = '-' :: "----BEGIN ".toList := rfl
    have hdashes : dashes = "----".toList ++ ['-'] := rfl
    refine ⟨"----BEGIN ".toList ++ (label ++ dashes) ++ '\n' :: ended (bodyLines content) ++
      (endMark ++ label ++ "----".toList), ?_⟩
    rw [written, hbegin, hdashes]
    simp only [List.append_assoc, List.cons_append, List.nil_append]
  rw [hmiddle]
  exact Text.trimChars_of_ends middle (by decide) (by decide)

theorem trimChars_write (label : List Char) (content : List UInt8) :
    Text.trimChars (write label content) = written label content := by
  rw [write_eq, Text.trimChars_concat (by decide), trimChars_written]

/-- The reader takes the lines of a written body out again. -/
theorem bodyLinesOf_bodyLines (hcontent : content ≠ []) :
    ∃ body, dropLastLineEnd? (ended (bodyLines content)) = some body ∧ bodyLinesOf [] body = bodyLines content := by
  have htext : Base64.encodePadded .standard content ≠ [] :=
    List.append_ne_nil_of_left_ne_nil (Base64.encode_ne_nil .standard hcontent) _
  obtain ⟨lines, last, hlines⟩ : ∃ lines last, bodyLines content = lines ++ [last] :=
    ⟨_, _, (List.dropLast_concat_getLast (wrap_ne_nil htext (List.length_pos_iff.2 htext))).symm⟩
  have hfilled : last ≠ [] := ne_nil_of_mem_wrap (by decide) (hlines ▸ List.mem_append_right _ List.mem_cons_self)
  rw [hlines]
  exact bodyLinesOf_ended (fun line hline => inLine_bodyLines (hlines ▸ hline)) hfilled

/-- **A block that is written is laid out strictly.** -/
theorem only?_written (label : List Char) (hcontent : content ≠ []) :
    only? label (written label content) = some content := by
  obtain ⟨body, hbody, hread⟩ := bodyLinesOf_bodyLines hcontent
  have hwidth : hasWidth (((bodyLines content).head?.map List.length).getD 0) (bodyLines content) = true :=
    hasWidth_head (by decide) (Nat.le_refl _)
  -- what the reader is left with after each part
  obtain ⟨last, hlast⟩ : ∃ last, last = endMark ++ label ++ dashes := ⟨_, rfl⟩
  obtain ⟨inside, hinside⟩ : ∃ inside, inside = ended (bodyLines content) := ⟨_, rfl⟩
  have hwritten : written label content = beginMark ++ ((label ++ dashes) ++ ('\n' :: (inside ++ last))) := by
    simp only [written, hlast, hinside, List.append_assoc, List.cons_append]
  have hbegin := Text.dropPrefix?_append beginMark ((label ++ dashes) ++ ('\n' :: (inside ++ last)))
  have hlabel := Text.dropPrefix?_append (label ++ dashes) ('\n' :: (inside ++ last))
  have hline : dropLineEnd? ('\n' :: (inside ++ last)) = some (inside ++ last) := rfl
  have hkeep : dropLastLineEnd? (inside ++ last) = none := by
    have hdashes : dashes = "----".toList ++ ['-'] := rfl
    rw [hlast, hdashes, ← List.append_assoc, ← List.append_assoc, ← List.append_assoc]
    exact dropLastLineEnd?_other (by decide) _
  have hend := dropSuffix?_append inside last
  rw [← hinside] at hbody
  unfold only?
  simp only [hwritten, hbegin, hlabel, hline, hkeep, Option.getD_none, ← hlast, hend, hbody, hread, Option.bind_eq_bind,
    Option.bind_some, flatten_bodyLines, Base64.decodePadded?_encodePadded]
  exact if_pos hwidth

end Pem
end Gatehouse
