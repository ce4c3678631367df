import Gatehouse.Json.Document
import Gatehouse.Proofs.Json.Shape
import Gatehouse.Proofs.Json.Value
/-!
# Bodies — what every field keeps, the record has

`read_keeps`: a property that holds of a record's blank form and that no field breaks holds of every record read, in
whichever form and order its members come, and so it does of a record that is decoded (`decode_keeps`).
`exists_of_read` and `go_of_items` say once what reading a record and its items does.  `read_single`: a record of one text is read from the object of it.
-/
namespace Gatehouse
namespace Json
namespace Document

variable {ρ : Type} {r : Record ρ} {P : ρ → Prop}

/-- No field breaks a property. -/
def FieldsKeep (r : Record ρ) (P : ρ → Prop) : Prop :=
  ∀ f ∈ r.fields, ∀ v a b, P a → f.put v a = .ok b → P b

theorem atPath_eq_ok {α : Type} {path : String} {x : Except Mismatch α} {a : α} (h : atPath path x = .ok a) :
    x = .ok a := by
  cases x with
  | ok b => exact congrArg Except.ok (Except.ok.inj h)
  | error m => cases h

theorem putNext_keeps {f : Field ρ} (hkeep : ∀ v a b, P a → f.put v a = .ok b → P b) {path : String} {i rest : Input}
    {a b : ρ} (ha : P a) (h : putNext f path i a = .ok (b, rest)) : P b := by
  unfold putNext at h
  split at h
  · cases h
  split at h
  · obtain ⟨x, hx, h⟩ := bind_eq_ok h
    cases h
    exact hkeep _ a _ ha (atPath_eq_ok hx)
  split at h
  · obtain ⟨x, hx, h⟩ := bind_eq_ok h
    cases h
    exact hkeep _ a _ ha (atPath_eq_ok hx)
  · obtain ⟨⟨v, i⟩, -, h⟩ := bind_eq_ok h
    obtain ⟨x, hx, h⟩ := bind_eq_ok h
    cases h
    exact hkeep v a _ ha (atPath_eq_ok hx)

theorem putMember_keeps (hkeep : FieldsKeep r P) {seen seen' : List String} {i rest : Input} {a b : ρ} (ha : P a)
    (h : putMember r seen i a = .ok (seen', b, rest)) : P b := by
  unfold putMember at h
  obtain ⟨⟨key, i⟩, -, h⟩ := bind_eq_ok h
  dsimp only at h
  split at h
  · obtain ⟨_, -, h⟩ := bind_eq_ok h
    obtain ⟨_, -, h⟩ := bind_eq_ok h
    cases h
    exact ha
  rename_i f hfield
  have hf : f ∈ r.fields := List.mem_of_find?_eq_some hfield
  split at h
  · cases h
  · obtain ⟨_, -, h⟩ := bind_eq_ok h
    obtain ⟨⟨x, i⟩, hput, h⟩ := bind_eq_ok h
    cases h
    exact putNext_keeps (hkeep f hf) ha hput

theorem members_keeps (hkeep : FieldsKeep r P) : ∀ (fuel : Nat) {seen seen' : List String} {i rest : Input} {a b : ρ},
    P a → members r fuel seen i a = .ok (seen', b, rest) → P b
  | 0, _, _, _, _, _, _, _, h => nomatch h
  | fuel + 1, _, _, _, _, _, _, ha, h => by
    unfold members at h
    obtain ⟨⟨seen, x, i⟩, hput, h⟩ := bind_eq_ok h
    have hx := putMember_keeps hkeep ha hput
    dsimp only at h
    split at h
    · split at h
      · exact members_keeps hkeep fuel hx h
      split at h
      · cases h
        exact hx
      · cases h
    · cases h

/-- The record is complete, or there is none. -/
theorem missing?_of_ok {seen : List String} {x b : ρ} {i rest : Input}
    (h : (match r.missing? seen with
      | some field => (.error (.mismatch "" (.missing field)) : Except Fault (ρ × Input))
      | none => pure (x, i)) = .ok (b, rest)) : r.missing? seen = none ∧ x = b := by
  split at h
  · cases h
  · rename_i hall
    cases h
    exact ⟨hall, rfl⟩

theorem object_keeps (hkeep : FieldsKeep r P) (hblank : P r.blank) {i rest : Input} {b : ρ}
    (h : object r i = .ok (b, rest)) : P b := by
  unfold object at h
  dsimp only at h
  split at h
  · split at h
    · exact (missing?_of_ok h).2 ▸ hblank
    · obtain ⟨⟨seen, x, i⟩, hx, h⟩ := bind_eq_ok h
      exact (missing?_of_ok h).2 ▸ members_keeps hkeep _ hblank hx
  · cases h

/-- How the items of a record go on: they end, where the fields that are left may be left out, or one more is put into
its field. -/
inductive ItemsGo (r : Record ρ) (index : Nat) (first : Bool) (i : Input) (a : ρ) (f : Field ρ) (fields : List (Field ρ))
    (b : ρ) (rest : Input) : Prop
  | ended {tl : Input} (hnext : skipSpace i = byteOf ']' :: tl) (hearly : Record.endsEarly? index (f :: fields) = none)
      (hb : b = a)
  | item {c : UInt8} {tl start tail : Input} {x : ρ} (hnext : skipSpace i = c :: tl) (hmore : ¬ c = byteOf ']')
      (hstart : (if first then .ok (c :: tl) else expect (byteOf ',') (c :: tl)) = Except.ok start)
      (hput : putNext f ("[" ++ toString index ++ "]") start a = .ok (x, tail))
      (hrest : items r (index + 1) false tail x fields = .ok (b, rest))

theorem go_of_items {index : Nat} {first : Bool} {i rest : Input} {f : Field ρ} {fields : List (Field ρ)} {a b : ρ}
    (h : items r index first i a (f :: fields) = .ok (b, rest)) : ItemsGo r index first i a f fields b rest := by
  unfold items at h
  cases hnext : skipSpace i with
  | nil =>
    rw [hnext] at h
    cases h
  | cons c tl =>
    rw [hnext] at h
    dsimp only at h
    split at h
    · rename_i hclose
      subst hclose
      unfold endEarly at h
      split at h
      · cases h
      · rename_i hearly
        cases h
        exact .ended hnext hearly rfl
    · rename_i hmore
      obtain ⟨start, hstart, h⟩ : ∃ start,
          (if first then .ok (c :: tl) else expect (byteOf ',') (c :: tl)) = Except.ok start ∧
            (putNext f ("[" ++ toString index ++ "]") start a >>= fun p => items r (index + 1) false p.2 p.1 fields) =
              .ok (b, rest) := by
        split at h
        · rename_i hfirst
          exact ⟨_, if_pos hfirst, h⟩
        · rename_i hfirst
          obtain ⟨start, hcomma, h⟩ := bind_eq_ok h
          exact ⟨start, by rw [if_neg hfirst, hcomma], h⟩
      obtain ⟨⟨x, tail⟩, hput, hrest⟩ := bind_eq_ok h
      exact .item hnext hmore hstart hput hrest

theorem items_keeps : ∀ (fields : List (Field ρ)) {index : Nat} {first : Bool} {i rest : Input} {a b : ρ},
    (∀ f ∈ fields, ∀ v a b, P a → f.put v a = .ok b → P b) → P a →
    items r index first i a fields = .ok (b, rest) → P b
  | [], _, _, _, _, _, _, _, ha, h => by
    unfold items at h
    obtain ⟨_, -, h⟩ := bind_eq_ok h
    cases h
    exact ha
  | f :: fields, index, first, i, rest, a, b, hkeep, ha, h => by
    cases go_of_items h with
    | ended _ _ hb => exact hb ▸ ha
    | item _ _ _ hput hrest =>
      exact items_keeps fields (fun g hg => hkeep g (List.mem_cons_of_mem f hg))
        (putNext_keeps (hkeep f List.mem_cons_self) ha hput) hrest

/-- A record is read from an object or from an array. -/
theorem exists_of_read {i : Input} {b : ρ} (h : read r i = .ok b) :
    ∃ tl rest, skipSpace i = byteOf '\x7b' :: tl ∧ object r tl = .ok (b, rest) ∨
      skipSpace i = byteOf '[' :: tl ∧ items r 0 true tl r.blank r.fields = .ok (b, rest) := by
  unfold read at h
  obtain ⟨⟨x, rest⟩, hrecord, h⟩ := bind_eq_ok h
  have hb : x = b := by
    dsimp only at h
    split at h
    · exact Except.ok.inj h
    · cases h
  subst hb
  unfold record at hrecord
  cases hnext : skipSpace i with
  | nil =>
    rw [hnext] at hrecord
    cases hrecord
  | cons c tl =>
    rw [hnext] at hrecord
    dsimp only at hrecord
    split at hrecord
    · rename_i hobject
      exact ⟨tl, rest, .inl ⟨by rw [hobject], hrecord⟩⟩
    split at hrecord
    · rename_i harray
      exact ⟨tl, rest, .inr ⟨by rw [harray], hrecord⟩⟩
    · obtain ⟨_, -, hrecord⟩ := bind_eq_ok hrecord
      cases hrecord

/-- **What every field keeps, the record has.** -/
theorem read_keeps (hkeep : FieldsKeep r P) (hblank : P r.blank) {i : Input} {b : ρ} (h : read r i = .ok b) : P b := by
  obtain ⟨tl, rest, ⟨-, hobject⟩ | ⟨-, hitems⟩⟩ := exists_of_read h
  · exact object_keeps hkeep hblank hobject
  · exact items_keeps r.fields hkeep hblank hitems

/-! ## A record of one text -/

theorem putMembers_keeps (hkeep : FieldsKeep r P) : ∀ {members : List (String × Json)} {a b : ρ}, P a →
    r.putMembers members a = .ok b → P b
  | [], _, _, ha, h => by
    cases h
    exact ha
  | (name, v) :: rest, a, b, ha, h => by
    unfold Record.putMembers at h
    split at h
    · exact putMembers_keeps hkeep ha h
    · rename_i f hf
      obtain ⟨x, hx, h⟩ := bind_eq_ok h
      exact putMembers_keeps hkeep (hkeep f (mem_of_field? hf).1 v a x ha hx) h

theorem putItems_keeps : ∀ {fields : List (Field ρ)} {i : Nat} {items : List Json} {a b : ρ},
    (∀ f ∈ fields, ∀ v a b, P a → f.put v a = .ok b → P b) → P a → r.putItems i fields items a = .ok b → P b
  | [], _, _, _, _, _, ha, h => by
    rw [Record.putItems] at h
    cases h
    exact ha
  | f :: fields, i, [], _, _, _, ha, h => by
    unfold Record.putItems at h
    split at h
    · cases h
    · cases h
      exact ha
  | f :: fields, i, v :: rest, a, b, hkeep, ha, h => by
    unfold Record.putItems at h
    obtain ⟨x, hx, h⟩ := bind_eq_ok h
    exact putItems_keeps (fun g hg => hkeep g (List.mem_cons_of_mem _ hg)) (hkeep f List.mem_cons_self v a x ha hx) h

/-- A property that holds of a record's blank form and that no field breaks holds of every record that is decoded. -/
theorem decode_keeps (hkeep : FieldsKeep r P) (hblank : P r.blank) {v : Json} {b : ρ}
    (h : r.decode v = .ok b) : P b := by
  cases v with
  | object members => exact putMembers_keeps hkeep hblank (putMembers_of_decode h).1
  | array items =>
    obtain ⟨x, hx, h⟩ := bind_eq_ok h
    split at h
    · cases h
    · cases h
      exact putItems_keeps hkeep hblank hx
  | _ => cases h

theorem expect_cons {b : UInt8} (h : isSpace b = false) (rest : Input) : expect b (b :: rest) = .ok rest := by
  rw [expect, skipSpace_cons h]
  exact if_pos rfl

theorem putNext_quote (f : Field ρ) (path : String) (text : String) (rest : Input) {a b : ρ}
    (hput : f.put (.text text) a = .ok b) :
    putNext f path (Text.bytes (quote text) ++ rest) a = .ok (b, rest) := by
  have hscalar := scalar?_text text rest
  have hspace : isSpace (byteOf '"') = false := by decide
  rw [bytes_quote, List.cons_append] at hscalar ⊢
  rw [putNext, skipSpace_cons hspace]
  simp only [show ¬ byteOf '"' = byteOf '[' by decide, show ¬ byteOf '"' = byteOf '\x7b' by decide, if_false, hscalar,
    unbroken, hput, atPath, bind, Except.bind, pure, Except.pure]

theorem putMember_quote {name : String} {f : Field ρ} (hfield : r.field? name = some f) {text : String} {a b : ρ}
    (hput : f.put (.text text) a = .ok b) (rest : Input) :
    putMember r [] (memberBytes (name, .text text) ++ rest) a = .ok ([name], b, rest) := by
  have hquote : isSpace (byteOf '"') = false := by decide
  have hcolon : isSpace (byteOf ':') = false := by decide
  have hname : Document.name (memberBytes (name, .text text) ++ rest) =
      .ok (name, byteOf ':' :: (Text.bytes (quote text) ++ rest)) := by
    rw [memberBytes, bytes_quote, List.cons_append, List.cons_append, List.append_assoc, List.cons_append,
      Document.name, expect_cons hquote]
    simp only [Except.bind, text?_quote, unbroken, chars]
  unfold putMember
  simp only [hname, hfield, List.contains_nil, Bool.false_eq_true, if_false, expect_cons hcolon,
    putNext_quote f name text rest hput, bind, Except.bind, pure, Except.pure]

/-- **A record of one text is read from the object of it.** -/
theorem read_single {name : String} {f : Field ρ} (hfield : r.field? name = some f) {text : String} {b : ρ}
    (hput : f.put (.text text) r.blank = .ok b) (hall : r.missing? [name] = none) :
    read r (Text.bytes (chars (.object [(name, .text text)]))) = .ok b := by
  have hbytes : Text.bytes (chars (.object [(name, .text text)])) =
      byteOf '\x7b' :: (memberBytes (name, .text text) ++ [byteOf '\x7d']) := by
    rw [chars, bytes_cons_ascii (by decide), Text.bytes_append, bytes_memberChars]
    rfl
  have hopen : isSpace (byteOf '\x7b') = false := by decide
  have hclose : isSpace (byteOf '\x7d') = false := by decide
  have hquote : isSpace (byteOf '"') = false := by decide
  have hmember := putMember_quote hfield hput [byteOf '\x7d']
  obtain ⟨tl, htl⟩ := memberBytes_begin (name, .text text)
  rw [htl, List.cons_append] at hmember
  rw [hbytes, htl, read, record, skipSpace_cons hopen]
  simp only [if_true, object, List.cons_append, skipSpace_cons hquote, show ¬ byteOf '"' = byteOf '\x7d' by decide,
    if_false, members, hmember, skipSpace_cons hclose, show ¬ byteOf '\x7d' = byteOf ',' by decide, bind, Except.bind,
    pure, Except.pure, hall]
  rfl

end Document
end Json
end Gatehouse
