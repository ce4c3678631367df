import Gatehouse.Proofs.Json.Document
/-!
# Given values — what a body says of a field

`given?` finds the text of the value that a body gives for a field, among the members of an object or the items of an
array, and nothing else of the body is looked at but passed over.  `gives_of_read`: in a record that is read, a field
has the value that is found, or its blank one where none is.
-/
namespace Gatehouse
namespace Json

/-! ## Passing over a scalar -/

theorem skipText?_codePoint {a b c d : UInt8} {n : Nat} (h : hex4? a b c d = some n) (rest : Input) :
    skipText? (byteOf '\\' :: byteOf 'u' :: a :: b :: c :: d :: rest) = skipText? rest := by
  conv => lhs; rw [skipText?.eq_def]
  dsimp only
  rw [if_neg (by decide), if_pos rfl, if_pos rfl, h]
  rfl

/-- **A text that is read is passed over alike.** -/
theorem skipText?_of_textBytes? {acc bs : List UInt8} {i rest : Input} (h : textBytes? acc i = some (bs, rest)) :
    skipText? i = some rest := by
  fun_induction textBytes? acc i
  all_goals conv => lhs; rw [skipText?.eq_def]
  all_goals simp_all
  -- What is left is a pair of escapes, of which the second has to be passed over as well.
  rwa [skipText?_codePoint ‹hex4? _ _ _ _ = some (_ : Nat)›]

theorem eq_some_of_map_pair {α β : Type} {o : Option β} {x y : α} {rest : β}
    (h : (o.map fun rest => (x, rest)) = some (y, rest)) : o = some rest := by
  obtain ⟨tail, ho, he⟩ := Option.map_eq_some_iff.1 h
  rw [ho, (Prod.mk.inj he).2]

/-- **A scalar that is read is passed over alike.** -/
theorem skipScalar?_of_scalar? {b : UInt8} {i rest : Input} {v : Json} (h : scalar? (b :: i) = some (v, rest)) :
    skipScalar? (b :: i) = some rest := by
  unfold scalar? at h
  unfold skipScalar?
  dsimp only at h ⊢
  split at h
  · rename_i hquote
    rw [if_pos hquote]
    obtain ⟨⟨s, tail⟩, htext, he⟩ := Option.map_eq_some_iff.1 h
    obtain ⟨⟨bs, tail'⟩, hbytes, htext⟩ := Option.bind_eq_some_iff.1 htext
    obtain ⟨s', -, htext⟩ := Option.bind_eq_some_iff.1 htext
    cases htext
    cases he
    exact skipText?_of_textBytes? hbytes
  rename_i hquote
  rw [if_neg hquote]
  split at h
  · rename_i hnull
    rw [if_pos hnull]
    exact eq_some_of_map_pair h
  rename_i hnull
  rw [if_neg hnull]
  split at h
  · rename_i htrue
    rw [if_pos htrue]
    exact eq_some_of_map_pair h
  rename_i htrue
  rw [if_neg htrue]
  split at h
  · rename_i hfalse
    rw [if_pos hfalse]
    exact eq_some_of_map_pair h
  · rename_i hfalse
    rw [if_neg hfalse]
    obtain ⟨⟨parts, tail⟩, hparts, h⟩ := Option.bind_eq_some_iff.1 h
    obtain ⟨n, -, h⟩ := Option.bind_eq_some_iff.1 h
    cases h
    rw [hparts]
    rfl

/-- A value that begins with no bracket is passed over as a scalar. -/
theorem skip?_of_scalar? {b : UInt8} {i tl rest : Input} {v : Json} (hnext : skipSpace i = b :: tl)
    (harray : ¬ b = byteOf '[') (hobject : ¬ b = byteOf '\x7b') (h : scalar? (b :: tl) = some (v, rest)) :
    skip? i = some rest := by
  have hlength : i.length ≠ 0 := by
    rintro hnil
    rw [List.length_eq_zero_iff.1 hnil] at hnext
    cases hnext
  obtain ⟨n, hfuel⟩ : ∃ n, 2 * i.length + 2 = n + 2 := ⟨2 * i.length, rfl⟩
  rw [skip?, hfuel, skipWithin?, hnext]
  simp only [if_neg harray, if_neg hobject, skipScalar?_of_scalar? h, Option.bind_some, skipWithin?]

namespace Document

variable {ρ α : Type} {r : Record ρ}

/-! ## Finding a value -/

/-- A member: its name, and the input from its value on. -/
def memberText? (i : Input) : Option ((String × Input) × Input) :=
  match name i with
  | .error _ => none
  | .ok (key, i) =>
    match expect (byteOf ':') i with
    | .error _ => none
    | .ok i => (skip? i).map fun rest => ((key, i), rest)

/-- The input from the value of a member on, the opening brace being read. -/
def memberGiven? (name : String) (i : Input) : Option Input :=
  match skipSpace i with
  | [] => none
  | b :: rest =>
    if b = byteOf '\x7d' then none
    else (items? memberText? (byteOf '\x7d') (i.length + 1) [] (b :: rest)).bind fun (members, _) =>
      Assoc.get? name members

/-- The input from an item on, the opening bracket or the item before being read.  `first` tells whether no comma is
due. -/
def itemGiven? (index : Nat) (first : Bool) (i : Input) : Option Input :=
  match skipSpace i with
  | [] => none
  | b :: rest =>
    if b = byteOf ']' then none
    else
      let start := if first then some (b :: rest) else if b = byteOf ',' then some rest else none
      match index with
      | 0 => start
      | index + 1 => start.bind fun i => (skip? i).bind (itemGiven? index false)

/-- The input from the value on that a body gives for a field, by the field's name or its index. -/
@[irreducible]
def given? (name : String) (index : Nat) (i : Input) : Option Input :=
  match skipSpace i with
  | [] => none
  | b :: rest =>
    if b = byteOf '\x7b' then memberGiven? name rest
    else if b = byteOf '[' then itemGiven? index true rest
    else none

/-- What a field has from a body: the value that it gives, or else, unless the field is required, the blank one. -/
def Gives (given : Option Input) (presence : Presence) (d : Decoder α) (blank x : α) : Prop :=
  match given with
  | some i => ∃ v rest, value? maxDepth i = some (v, rest) ∧ d v = .ok x
  | none => presence ≠ .required ∧ x = blank

/-! ## One value -/

/-- No field takes an array or an object. -/
def TakesScalars (r : Record ρ) : Prop :=
  ∀ f ∈ r.fields, ∀ a b, f.put (.array []) a ≠ .ok b ∧ f.put (.object []) a ≠ .ok b

/-- **The next value is read in full**, and is passed over alike. -/
theorem value_of_putNext {f : Field ρ} (hf : ∀ a b, f.put (.array []) a ≠ .ok b ∧ f.put (.object []) a ≠ .ok b)
    {path : String} {i rest : Input} {a b : ρ} (h : putNext f path i a = .ok (b, rest)) :
    ∃ v, value? maxDepth i = some (v, rest) ∧ skip? i = some rest ∧ f.put v a = .ok b := by
  unfold putNext at h
  split at h
  · cases h
  rename_i c tl hnext
  split at h
  · obtain ⟨x, hx, h⟩ := bind_eq_ok h
    exact absurd (atPath_eq_ok hx) (hf a x).1
  rename_i harray
  split at h
  · obtain ⟨x, hx, h⟩ := bind_eq_ok h
    exact absurd (atPath_eq_ok hx) (hf a x).2
  rename_i hobject
  obtain ⟨⟨v, tail⟩, hscalar, h⟩ := bind_eq_ok h
  obtain ⟨x, hx, h⟩ := bind_eq_ok h
  cases h
  have hread : scalar? (c :: tl) = some (v, rest) := by
    cases hs : scalar? (c :: tl) with
    | none => rw [hs] at hscalar; cases hscalar
    | some p => rw [hs] at hscalar; exact congrArg some (Except.ok.inj hscalar)
  refine ⟨v, ?_, skip?_of_scalar? hnext harray hobject hread, atPath_eq_ok hx⟩
  unfold value?
  simp only [hnext, if_neg harray, if_neg hobject, hread]

/-! ## Members -/

/-- **A member that is put into a record**, or that is passed over because no field has its name. -/
theorem memberText?_of_putMember (hscalars : TakesScalars r) {seen seen' : List String} {i rest : Input} {a b : ρ}
    (h : putMember r seen i a = .ok (seen', b, rest)) :
    ∃ key j, memberText? i = some ((key, j), rest) ∧
      (r.field? key = none ∧ seen' = seen ∧ b = a ∨
        ∃ f v, r.field? key = some f ∧ key ∉ seen ∧ seen' = key :: seen ∧ value? maxDepth j = some (v, rest) ∧
          f.put v a = .ok b) := by
  unfold putMember at h
  obtain ⟨⟨key, j⟩, hname, h⟩ := bind_eq_ok h
  dsimp only at h
  split at h
  · rename_i hunknown
    obtain ⟨j', hcolon, h⟩ := bind_eq_ok h
    obtain ⟨tail, hskip, h⟩ := bind_eq_ok h
    cases h
    have hrest : skip? j' = some rest := by
      cases hs : skip? j' with
      | none => rw [hs] at hskip; cases hskip
      | some p => rw [hs] at hskip; exact congrArg some (Except.ok.inj hskip)
    refine ⟨key, j', ?_, .inl ⟨hunknown, rfl, rfl⟩⟩
    simp only [memberText?, hname, hcolon, hrest, Option.map_some]
  rename_i f hfield
  split at h
  · cases h
  rename_i hseen
  obtain ⟨j', hcolon, h⟩ := bind_eq_ok h
  obtain ⟨⟨x, tail⟩, hput, h⟩ := bind_eq_ok h
  cases h
  obtain ⟨v, hvalue, hskip, hv⟩ := value_of_putNext (hscalars f (mem_of_field? hfield).1) hput
  refine ⟨key, j', ?_, .inr ⟨f, v, hfield, by simpa using hseen, rfl, hvalue, hv⟩⟩
  simp only [memberText?, hname, hcolon, hskip, Option.map_some]

variable {name : String} {d : Decoder α} {get : ρ → α}

/-- What is found of a field among members, given the names that came before them and the record that they are put
into: the one member of its name, which did not come before, or none. -/
structure Found (name : String) (d : Decoder α) (get : ρ → α) (members : List (String × Input)) (seen : List String)
    (a : ρ) (seen' : List String) (b : ρ) : Prop where
  given : ∀ j, Assoc.get? name members = some j →
    name ∉ seen ∧ ∃ v tail, value? maxDepth j = some (v, tail) ∧ d v = .ok (get b)
  left : Assoc.get? name members = none → (name ∈ seen' → name ∈ seen) ∧ get b = get a

theorem found_nil (seen : List String) (a : ρ) : Found name d get [] seen a seen a :=
  ⟨fun _ h => (nomatch h), fun _ => ⟨id, rfl⟩⟩

/-- A member of a name that no field has is passed over. -/
theorem Found.pass {ms : List (String × Input)} {seen seen' : List String} {a b : ρ}
    (h : Found name d get ms seen a seen' b) {key : String} (hkey : key ≠ name) (j : Input) :
    Found name d get ((key, j) :: ms) seen a seen' b := by
  have hget : Assoc.get? name ((key, j) :: ms) = Assoc.get? name ms := by rw [Assoc.get?, if_neg hkey]
  refine ⟨fun w hw => h.given w (by rwa [hget] at hw), fun hnone => h.left (by rwa [hget] at hnone)⟩

/-- A member that is put into its field. -/
theorem Found.put (hsees : r.Sees name d get) {ms : List (String × Input)} {seen seen' : List String} {a x b : ρ}
    {key : String} (h : Found name d get ms (key :: seen) x seen' b) {f : Field ρ} (hfield : r.field? key = some f)
    (hnew : key ∉ seen) {j rest : Input} {v : Json} (hvalue : value? maxDepth j = some (v, rest))
    (hput : f.put v a = .ok x) : Found name d get ((key, j) :: ms) seen a seen' b := by
  by_cases hkey : key = name
  · subst hkey
    obtain ⟨f', hf', hown⟩ := hsees.own
    rw [hfield, Option.some.injEq] at hf'
    subst hf'
    -- Its name has come now, so no member after this one has it.
    have hgone : Assoc.get? key ms = none := by
      cases hms : Assoc.get? key ms with
      | none => rfl
      | some w => exact absurd List.mem_cons_self (h.given w hms).1
    have hget : Assoc.get? key ((key, j) :: ms) = some j := by rw [Assoc.get?, if_pos rfl]
    refine ⟨fun w hw => ?_, fun hnone => ?_⟩
    · rw [hget, Option.some.injEq] at hw
      subst hw
      exact ⟨hnew, v, rest, hvalue, by rw [(h.left hgone).2]; exact hown v a x hput⟩
    · rw [hget] at hnone
      cases hnone
  · obtain ⟨hmem, hname⟩ := mem_of_field? hfield
    have hget : Assoc.get? name ((key, j) :: ms) = Assoc.get? name ms := by rw [Assoc.get?, if_neg hkey]
    have hsame : get x = get a := hsees.others f hmem (hname ▸ hkey) v a x hput
    refine ⟨fun w hw => ?_, fun hnone => ?_⟩
    · obtain ⟨hbefore, hread⟩ := h.given w (by rwa [hget] at hw)
      exact ⟨fun hseen => hbefore (List.mem_cons_of_mem key hseen), hread⟩
    · obtain ⟨hbefore, hkept⟩ := h.left (by rwa [hget] at hnone)
      exact ⟨fun hseen => (List.mem_cons.1 (hbefore hseen)).resolve_left (Ne.symm hkey), hkept.trans hsame⟩

/-- **Members that are put into a record are found.** -/
theorem found_of_members (hscalars : TakesScalars r) (hsees : r.Sees name d get) :
    ∀ (fuel : Nat) {seen seen' : List String} {i rest : Input} {a b : ρ},
      members r fuel seen i a = .ok (seen', b, rest) →
      ∃ ms, (∀ acc, items? memberText? (byteOf '\x7d') fuel acc i = some (acc.reverse ++ ms, rest)) ∧
        Found name d get ms seen a seen' b
  | 0, _, _, _, _, _, _, h => nomatch h
  | fuel + 1, seen, seen', i, rest, a, b, h => by
    unfold members at h
    obtain ⟨⟨seen₁, x, i₁⟩, hput, h⟩ := bind_eq_ok h
    obtain ⟨key, j, htext, hmember⟩ := memberText?_of_putMember hscalars hput
    have hrest : ∃ ms, (∀ acc, items? memberText? (byteOf '\x7d') (fuel + 1) acc i =
        some (acc.reverse ++ (key, j) :: ms, rest)) ∧ Found name d get ms seen₁ x seen' b := by
      dsimp only at h
      split at h
      · rename_i c tl hnext
        split at h
        · rename_i hcomma
          obtain ⟨ms, hms, hfound⟩ := found_of_members hscalars hsees fuel h
          refine ⟨ms, fun acc => ?_, hfound⟩
          simp only [items?, htext, hnext, if_pos hcomma, hms, List.reverse_cons, List.append_assoc,
            List.singleton_append]
        rename_i hcomma
        split at h
        · rename_i hclose
          cases h
          refine ⟨[], fun acc => ?_, found_nil _ _⟩
          simp only [items?, htext, hnext, if_neg hcomma, if_pos hclose, List.reverse_cons]
        · cases h
      · cases h
    obtain ⟨ms, hms, hfound⟩ := hrest
    refine ⟨(key, j) :: ms, hms, ?_⟩
    rcases hmember with ⟨hunknown, rfl, rfl⟩ | ⟨f, v, hfield, hnew, rfl, hvalue, hx⟩
    · obtain ⟨f, hf, -⟩ := hsees.own
      refine hfound.pass (fun hkey => ?_) j
      rw [← hkey, hunknown] at hf
      cases hf
    · exact Found.put hsees hfound hfield hnew hvalue hx

/-! ## Items -/

theorem skipSpace_of_eq {i : Input} {b : UInt8} {rest : Input} (h : skipSpace i = b :: rest) :
    skipSpace (b :: rest) = b :: rest := by
  refine skipSpace_cons ?_ rest
  have hne : List.dropWhile isSpace i ≠ [] := by
    unfold skipSpace at h
    rw [h]
    exact List.cons_ne_nil _ _
  have hhead := List.head_dropWhile_not isSpace hne
  unfold skipSpace at h
  simpa only [h, List.head_cons, Bool.not_eq_true] using hhead

theorem defaulted_of_endsEarly? : ∀ {fields : List (Field ρ)} {index : Nat}, Record.endsEarly? index fields = none →
    ∀ f ∈ fields, f.presence = .defaulted
  | [], _, _, _, hf => nomatch hf
  | g :: fields, index, h, f, hf => by
    unfold Record.endsEarly? at h
    split at h
    · rename_i hdefaulted
      rcases List.mem_cons.1 hf with rfl | hf
      · simpa using hdefaulted
      · exact defaulted_of_endsEarly? h f hf
    · cases h

/-- Where an item starts, a comma being read before it unless it is the first. -/
theorem start_of_item {c : UInt8} {i tl start : Input} (hnext : skipSpace i = c :: tl) {first : Bool}
    (h : (if first then .ok (c :: tl) else expect (byteOf ',') (c :: tl)) = Except.ok start) :
    (if first then some (c :: tl) else if c = byteOf ',' then some tl else none) = some start := by
  split at h
  · rename_i hfirst
    rw [if_pos hfirst]
    exact congrArg some (Except.ok.inj h)
  · rename_i hfirst
    rw [if_neg hfirst]
    unfold expect at h
    rw [skipSpace_of_eq hnext] at h
    dsimp only at h
    split at h
    · rename_i hcomma
      rw [if_pos hcomma]
      exact congrArg some (Except.ok.inj h)
    · cases h

/-- **Items that are put into a record are found.** -/
theorem gives_of_items (hscalars : TakesScalars r) (hsees : r.Sees name d get) {f : Field ρ}
    (hfield : r.field? name = some f) : ∀ {fields : List (Field ρ)} {index n : Nat} {first : Bool} {i rest : Input}
      {a b : ρ}, (∀ g ∈ fields, g ∈ r.fields) → (fields.map Field.name).Nodup → fields[index]? = some f →
      items r n first i a fields = .ok (b, rest) → Gives (itemGiven? index first i) f.presence d (get a) (get b)
  | [], index, _, _, _, _, _, _, _, _, hindex, _ => by simp at hindex
  | g :: fields, index, n, first, i, rest, a, b, hfields, hnodup, hindex, h => by
    have hname : f.name = name := (mem_of_field? hfield).2
    obtain ⟨hfresh, hnodup⟩ := List.nodup_cons.1 hnodup
    unfold itemGiven?
    cases go_of_items h with
    | ended hnext hearly hb =>
      have hdefaulted := defaulted_of_endsEarly? hearly f (List.mem_of_getElem? hindex)
      rw [hnext, hb]
      dsimp only
      rw [if_pos rfl]
      exact ⟨by rw [hdefaulted]; decide, rfl⟩
    | @item c tl start tail x hnext hmore hstart hput hrest =>
      obtain ⟨v, hvalue, hskip, hx⟩ := value_of_putNext (hscalars g (hfields g List.mem_cons_self)) hput
      rw [hnext]
      dsimp only
      rw [if_neg hmore, start_of_item hnext hstart]
      cases index with
      | zero =>
        rw [List.getElem?_cons_zero, Option.some.injEq] at hindex
        subst hindex
        obtain ⟨f', hf', hown⟩ := hsees.own
        rw [hfield, Option.some.injEq] at hf'
        subst hf'
        -- The items behind this one are put into other fields.
        have hkept : get b = get x := by
          refine items_keeps (P := fun y => get y = get x) fields (fun o ho v' a' b' ha' hput' => ?_) rfl hrest
          have hother : o.name ≠ name := fun he => hfresh (hname ▸ he ▸ List.mem_map_of_mem ho)
          exact (hsees.others o (hfields o (List.mem_cons_of_mem g ho)) hother v' a' b' hput').trans ha'
        exact ⟨v, tail, hvalue, by rw [hkept]; exact hown v a x hx⟩
      | succ index =>
        rw [List.getElem?_cons_succ] at hindex
        have hother : g.name ≠ name := fun he =>
          hfresh (he.trans hname.symm ▸ List.mem_map_of_mem (List.mem_of_getElem? hindex))
        rw [← hsees.others g (hfields g List.mem_cons_self) hother v a x hx]
        simp only [Option.bind_some, hskip]
        exact gives_of_items hscalars hsees hfield (fun o ho => hfields o (List.mem_cons_of_mem g ho)) hnodup hindex hrest

/-! ## Records -/

/-- **Members of an object that is read are found.** -/
theorem gives_of_object (hscalars : TakesScalars r) (hsees : r.Sees name d get) {f : Field ρ}
    (hfield : r.field? name = some f) {i rest : Input} {b : ρ} (h : object r i = .ok (b, rest)) :
    Gives (memberGiven? name i) f.presence d (get r.blank) (get b) := by
  obtain ⟨hmem, hname⟩ := mem_of_field? hfield
  -- A required name has come, so it was not left out.
  have hleft {seen : List String} (hall : r.missing? seen = none) (hout : name ∉ seen) : f.presence ≠ .required :=
    fun hrequired => hout (hname ▸ missing?_eq_none_iff.1 hall f hmem hrequired)
  unfold object at h
  unfold memberGiven?
  dsimp only at h
  split at h
  · rename_i c tl hnext
    rw [hnext]
    dsimp only
    split at h
    · rename_i hclose
      obtain ⟨hall, rfl⟩ := missing?_of_ok h
      rw [if_pos hclose]
      exact ⟨hleft hall List.not_mem_nil, rfl⟩
    · rename_i hclose
      obtain ⟨⟨seen, x, i₁⟩, hx, h⟩ := bind_eq_ok h
      obtain ⟨hall, rfl⟩ := missing?_of_ok h
      obtain ⟨ms, hms, hfound⟩ := found_of_members hscalars hsees _ hx
      rw [if_neg hclose, hms, List.reverse_nil, List.nil_append, Option.bind_some]
      cases hget : Assoc.get? name ms with
      | some j => exact (hfound.given j hget).2
      | none =>
        obtain ⟨hbefore, hkept⟩ := hfound.left hget
        exact ⟨hleft hall fun hseen => List.not_mem_nil (hbefore hseen), hkept⟩
  · cases h

/-- **A record that is read has what its text gives**, as an object or as an array. -/
theorem gives_of_read (hscalars : TakesScalars r) (hsees : r.Sees name d get) (hnodup : (r.fields.map Field.name).Nodup)
    {f : Field ρ} (hfield : r.field? name = some f) {index : Nat} (hindex : r.fields[index]? = some f) {i : Input} {b : ρ}
    (h : read r i = .ok b) : Gives (given? name index i) f.presence d (get r.blank) (get b) := by
  unfold given?
  obtain ⟨tl, rest, ⟨hnext, hobject⟩ | ⟨hnext, hitems⟩⟩ := exists_of_read h
  · rw [hnext]
    dsimp only
    rw [if_pos rfl]
    exact gives_of_object hscalars hsees hfield hobject
  · rw [hnext]
    dsimp only
    rw [if_neg (by decide), if_pos rfl]
    exact gives_of_items hscalars hsees hfield (fun _ hg => hg) hnodup hindex hitems

end Document
end Json
end Gatehouse
