import Gatehouse.Proofs.Registry.Calls
/-!
# Registries — one identity at a time

A registry isolates identities from one another if a call on an identity reads and changes nothing but what the registry
has under it.  `Slots` says so of single calls; then the calls on an identity are answered as if nobody had made any
others, calls on different identities commute, and clients whose calls are interleaved cannot tell how
(`Slots.isolates`).
-/
namespace Gatehouse
namespace Registry

/-- The identity that a call is on; a listing is on none. -/
def Call.identity? : Call → Option String
  | .get identity => some identity
  | .all => none
  | .insert identity _ _ => some identity
  | .update identity _ _ => some identity
  | .delete identity => some identity

/-- A call that one of several clients makes. -/
structure Sent (κ : Type) where
  client : κ
  call : Call

/-- Whether a call is on an identity. -/
def Sent.isOn {κ : Type} (identity : String) (x : Sent κ) : Bool := x.call.identity? = some identity

/-- Whether a call is a client's. -/
def Sent.isBy {κ : Type} [DecidableEq κ] (client : κ) (x : Sent κ) : Bool := x.client = client

section

variable {σ κ ν : Type} [Registry σ]

/-- The calls of a run, each with its answer. -/
def exchanges (s : σ) : List (Sent κ) → List (Sent κ × Answer)
  | [] => []
  | x :: rest => (x, (perform s x.call).1) :: exchanges (perform s x.call).2 rest

/-- The registry after a run. -/
def final (s : σ) (run : List (Sent κ)) : σ := after s (run.map Sent.call)

/-- Two registries answer alike, whatever they are asked from then on. -/
def Indistinguishable (s t : σ) : Prop := ∀ calls, answers s calls = answers t calls

/-- **A registry isolates identities.** -/
structure Isolates (same : σ → σ → Prop) (s : σ) : Prop where
  /-- The calls on an identity are answered as in the run that has no others. -/
  answers : ∀ {κ : Type} (run : List (Sent κ)) (identity : String),
    (exchanges s run).filter (fun e => e.1.isOn identity) = exchanges s (run.filter (Sent.isOn identity))
  /-- So is a look-up of it at the end. -/
  record : ∀ {κ : Type} (run : List (Sent κ)) (identity : String),
    (get (final s run) identity).1 = (get (final s (run.filter (Sent.isOn identity))) identity).1
  /-- Calls on different identities commute. -/
  commute : ∀ {a b : Call} {i j : String}, a.identity? = some i → b.identity? = some j → i ≠ j →
    (perform (perform s b).2 a).1 = (perform s a).1 ∧ (perform (perform s a).2 b).1 = (perform s b).1 ∧
      same (perform (perform s a).2 b).2 (perform (perform s b).2 a).2
  /-- Two ways to interleave the calls of some clients, with the calls on each identity in the same order, give every
  client the same answers and lead to the same registry. -/
  interleave : ∀ {κ : Type} [DecidableEq κ] (run other : List (Sent κ)), (∀ x ∈ run, x.call ≠ .all) →
    (∀ client, run.filter (Sent.isBy client) = other.filter (Sent.isBy client)) →
    (∀ identity, run.filter (Sent.isOn identity) = other.filter (Sent.isOn identity)) →
    (∀ client, (exchanges s run).filter (fun e => e.1.isBy client) =
      (exchanges s other).filter fun e => e.1.isBy client) ∧ same (final s run) (final s other)

/-- What a registry has under each identity, as far as single calls go: a call on an identity depends on its slot alone
and changes no other one, and a listing depends on the slots. -/
structure Slots (valid : σ → Prop) (slot : σ → String → ν) : Prop where
  keeps : ∀ {s : σ} (c : Call), valid s → valid (perform s c).2
  own : ∀ {s t : σ} {c : Call} {i : String}, valid s → valid t → c.identity? = some i → slot s i = slot t i →
    (perform s c).1 = (perform t c).1 ∧ slot (perform s c).2 i = slot (perform t c).2 i
  other : ∀ {s : σ} {c : Call} {i : String}, valid s → c.identity? ≠ some i → slot (perform s c).2 i = slot s i
  listing : ∀ {s t : σ}, valid s → valid t → (∀ i, slot s i = slot t i) → (perform s .all).1 = (perform t .all).1

end

/-! ## Runs -/

variable {σ κ ν : Type} [Registry σ] {s t : σ} {valid : σ → Prop} {slot : σ → String → ν}

theorem final_cons (s : σ) (x : Sent κ) (rest : List (Sent κ)) : final s (x :: rest) = final (perform s x.call).2 rest :=
  rfl

theorem exchanges_fst (s : σ) : ∀ run : List (Sent κ), (exchanges s run).map Prod.fst = run
  | [] => rfl
  | x :: rest => by rw [exchanges, List.map_cons, exchanges_fst _ rest]

theorem exchanges_fst_filter (s : σ) (run : List (Sent κ)) (p : Sent κ → Bool) :
    ((exchanges s run).filter fun e => p e.1).map Prod.fst = run.filter p := by
  have hcomp : (fun e : Sent κ × Answer => p e.1) = p ∘ Prod.fst := rfl
  rw [hcomp, ← List.filter_map, exchanges_fst]

theorem filter_exchanges_cons (s : σ) (x : Sent κ) (rest : List (Sent κ)) (p : Sent κ → Bool) :
    (exchanges s (x :: rest)).filter (fun e => p e.1) =
      if p x then (x, (perform s x.call).1) :: (exchanges (perform s x.call).2 rest).filter fun e => p e.1
      else (exchanges (perform s x.call).2 rest).filter fun e => p e.1 := by
  rw [exchanges, List.filter_cons]

theorem Slots.keeps_final (h : Slots valid slot) (run : List (Sent κ)) (hs : valid s) : valid (final s run) :=
  after_keeps (fun _ c => h.keeps c) _ hs

/-- **A run and what is left of it on one identity.** -/
theorem Slots.run (h : Slots valid slot) {i : String} : ∀ (run : List (Sent κ)) {s t : σ}, valid s → valid t →
    slot s i = slot t i →
    (exchanges s run).filter (fun e => e.1.isOn i) = exchanges t (run.filter (Sent.isOn i)) ∧
      slot (final s run) i = slot (final t (run.filter (Sent.isOn i))) i
  | [], _, _, _, _, hslot => ⟨rfl, hslot⟩
  | x :: rest, s, t, hs, ht, hslot => by
    -- the registries need not be the same for the rest, only what they have under the identity
    rw [filter_exchanges_cons, final_cons]
    by_cases hon : x.call.identity? = some i
    · have hx : x.isOn i = true := decide_eq_true hon
      obtain ⟨hanswer, hnext⟩ := h.own hs ht hon hslot
      obtain ⟨hrest, hlast⟩ := h.run rest (h.keeps x.call hs) (h.keeps x.call ht) hnext
      rw [if_pos hx, List.filter_cons_of_pos hx, exchanges, final_cons, hrest, hanswer]
      exact ⟨rfl, hlast⟩
    · have hx : ¬ x.isOn i = true := fun hx => hon (of_decide_eq_true hx)
      have hnext : slot (perform s x.call).2 i = slot t i := (h.other hs hon).trans hslot
      rw [if_neg hx, List.filter_cons_of_neg hx]
      exact h.run rest (h.keeps x.call hs) ht hnext

theorem Slots.final_of_filter (h : Slots valid slot) (hs : valid s) {i : String} {run other : List (Sent κ)}
    (hfilter : run.filter (Sent.isOn i) = other.filter (Sent.isOn i)) : slot (final s run) i = slot (final s other) i := by
  have hrun := (h.run run hs hs (rfl : slot s i = slot s i)).2
  have hother := (h.run other hs hs (rfl : slot s i = slot s i)).2
  rw [hrun, hother, hfilter]

/-- **Registries with the same slots cannot be told apart.** -/
theorem Slots.indistinguishable (h : Slots valid slot) (hs : valid s) (ht : valid t)
    (hslots : ∀ i, slot s i = slot t i) : Indistinguishable s t := by
  intro calls
  induction calls generalizing s t with
  | nil => rfl
  | cons c rest ih =>
    have hanswer : (perform s c).1 = (perform t c).1 := by
      cases hc : c.identity? with
      | some i => exact (h.own hs ht hc (hslots i)).1
      | none =>
        have hall : c = .all := by cases c <;> first | rfl | cases hc
        rw [hall]
        exact h.listing hs ht hslots
    have hnext : ∀ i, slot (perform s c).2 i = slot (perform t c).2 i := by
      intro i
      by_cases hc : c.identity? = some i
      · exact (h.own hs ht hc (hslots i)).2
      · rw [h.other hs hc, h.other ht hc, hslots i]
    rw [Registry.answers, Registry.answers, hanswer, ih (h.keeps c hs) (h.keeps c ht) hnext]

/-! ## Interleaving -/

/-- Two lists are the same if they are so under a function, and on each part that a second function makes of it. -/
theorem eq_of_map_of_filter {α β γ : Type} [DecidableEq γ] (f : α → β) (g : β → γ) : ∀ {l l' : List α},
    l.map f = l'.map f → (∀ c, l.filter (fun a => g (f a) = c) = l'.filter fun a => g (f a) = c) → l = l'
  | [], [], _, _ => rfl
  | a :: l, b :: l', hmap, hfilter => by
    obtain ⟨hab, htail⟩ := List.cons.inj hmap
    have hhead := hfilter (g (f a))
    rw [List.filter_cons_of_pos (by simp), List.filter_cons_of_pos (by simp [hab])] at hhead
    obtain ⟨rfl, -⟩ := List.cons.inj hhead
    have hrest : ∀ c, l.filter (fun a => g (f a) = c) = l'.filter fun a => g (f a) = c := by
      intro c
      have h := hfilter c
      by_cases hc : g (f a) = c
      · rw [List.filter_cons_of_pos (by simpa using hc), List.filter_cons_of_pos (by simpa using hc)] at h
        exact (List.cons.inj h).2
      · rwa [List.filter_cons_of_neg (by simpa using hc), List.filter_cons_of_neg (by simpa using hc)] at h
    rw [eq_of_map_of_filter f g htail hrest]

/-- The answers that a client has are settled by its calls and by the answers on each identity. -/
theorem filter_isBy_of_filter_isOn [DecidableEq κ] {run other : List (Sent κ)} (hcalls : ∀ x ∈ run, x.call ≠ .all)
    {client : κ} (hclient : run.filter (Sent.isBy client) = other.filter (Sent.isBy client))
    (hidentity : ∀ i, (exchanges s run).filter (fun e => e.1.isOn i) = (exchanges s other).filter fun e => e.1.isOn i) :
    (exchanges s run).filter (fun e => e.1.isBy client) = (exchanges s other).filter fun e => e.1.isBy client := by
  refine eq_of_map_of_filter Prod.fst (fun x : Sent κ => x.call.identity?) ?_ ?_
  · rw [exchanges_fst_filter, exchanges_fst_filter, hclient]
  · intro c
    cases c with
    | some i =>
      have hi := congrArg (List.filter fun e => e.1.isBy client) (hidentity i)
      rw [List.filter_filter, List.filter_filter] at hi ⊢
      simpa only [Sent.isOn, Bool.and_comm] using hi
    | none =>
      -- no call of a client is a listing
      have hnone : ∀ l : List (Sent κ × Answer), (∀ e ∈ l, e.1 ∈ run.filter (Sent.isBy client)) →
          l.filter (fun e => e.1.call.identity? = none) = [] := by
        intro l hl
        refine List.filter_eq_nil_iff.2 fun e he hidentity => ?_
        have hcall := hcalls e.1 (List.mem_filter.1 (hl e he)).1
        have hidentity := of_decide_eq_true hidentity
        cases hc : e.1.call <;> rw [hc] at hcall hidentity <;> first | exact hcall rfl | cases hidentity
      rw [hnone, hnone]
      · intro e he
        rw [hclient, ← exchanges_fst_filter s]
        exact List.mem_map_of_mem he
      · intro e he
        rw [← exchanges_fst_filter s]
        exact List.mem_map_of_mem he

/-- **Slots isolate.** -/
theorem Slots.isolates (h : Slots valid slot) {same : σ → σ → Prop}
    (hsame : ∀ {s t : σ}, valid s → valid t → (∀ i, slot s i = slot t i) → same s t) (hs : valid s) :
    Isolates same s where
  answers run i := (h.run run hs hs rfl).1
  record run i := by
    have hlookup := (h.own (c := .get i) (h.keeps_final run hs) (h.keeps_final (run.filter (Sent.isOn i)) hs) rfl
      (h.run run hs hs rfl).2).1
    injection hlookup
  commute := by
    intro a b i j ha hb hij
    have hab : a.identity? ≠ some j := fun hj => hij (Option.some.inj (ha.symm.trans hj))
    have hba : b.identity? ≠ some i := fun hi => hij (Option.some.inj (hi.symm.trans hb))
    refine ⟨(h.own (h.keeps b hs) hs ha (h.other hs hba)).1, (h.own (h.keeps a hs) hs hb (h.other hs hab)).1,
      hsame (h.keeps b (h.keeps a hs)) (h.keeps a (h.keeps b hs)) fun k => ?_⟩
    have hfilter : [Sent.mk () a, ⟨(), b⟩].filter (Sent.isOn k) = [Sent.mk () b, ⟨(), a⟩].filter (Sent.isOn k) := by
      by_cases hk : k = i
      · simp [List.filter_cons, Sent.isOn, hk, hba]
      · have hak : a.identity? ≠ some k := fun hak => hk (Option.some.inj (hak.symm.trans ha))
        simp [List.filter_cons, Sent.isOn, hak]
    exact h.final_of_filter hs hfilter
  interleave := by
    intro κ _ run other hcalls hclient hidentity
    refine ⟨fun client => filter_isBy_of_filter_isOn hcalls (hclient client) fun i => ?_,
      hsame (h.keeps_final run hs) (h.keeps_final other hs) fun i => h.final_of_filter hs (hidentity i)⟩
    rw [(h.run run hs hs rfl).1, hidentity i, (h.run other hs hs rfl).1]

end Registry
end Gatehouse
