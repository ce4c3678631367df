import Gatehouse.Proofs.Registry.Backends
import Gatehouse.Proofs.Registry.Isolation
/-!
# Registries of both kinds isolate identities

A registry in memory has one slot for each identity, its record.  A registry in a database with the default statements
has one too, its row, as long as it opens on a table that it can change; otherwise no call changes anything, and the
slot holds how the registry opens.  So both isolate identities (`isolates_of_backends`).
-/
namespace Gatehouse

open Registry (Call Slots Isolates Indistinguishable)

/-! ## In memory -/

namespace MemoryRegistry

variable {m n : MemoryRegistry} {i j : String}

/-- What a registry has under an identity, with what every change depends on. -/
def slot (m : MemoryRegistry) (identity : String) : KeyFamily × Bool × Option KeyRecord :=
  (m.family, m.readOnly, m.records.get? identity)

theorem slot_eq_iff : m.slot i = n.slot i ↔
    m.family = n.family ∧ m.readOnly = n.readOnly ∧ m.records.get? i = n.records.get? i := by
  simp only [slot, Prod.mk.injEq]

theorem ext_slot (h : ∀ i, m.slot i = n.slot i) : m = n := by
  obtain ⟨family, readOnly, records⟩ := m
  obtain ⟨family', readOnly', records'⟩ := n
  obtain ⟨hfamily, hreadOnly, -⟩ := slot_eq_iff.1 (h "")
  have hrecords : records = records' := SortedMap.ext_get? fun key => (slot_eq_iff.1 (h key)).2.2
  simp only at hfamily hreadOnly
  rw [hfamily, hreadOnly, hrecords]

/-- Changes that come to the same under an identity are answered the same, and leave the same there. -/
theorem change_of_slot (hslot : m.slot i = n.slot i) {result result' : Except RegistryError MemoryRegistry}
    (hresult : result.map (slot · i) = result'.map (slot · i)) :
    (m.change result).1 = (n.change result').1 ∧ (m.change result).2.slot i = (n.change result').2.slot i := by
  cases result <;> cases result' <;> simp only [Except.map, Except.ok.injEq, Except.error.injEq, reduceCtorEq] at hresult
  · rw [hresult]
    exact ⟨rfl, hslot⟩
  · exact ⟨rfl, hresult⟩

section

variable {family : KeyFamily} {readOnly : Bool} {records records' : SortedMap KeyRecord}

theorem slot_insert_self (r : KeyRecord) : slot ⟨family, readOnly, records.insert i r⟩ i = (family, readOnly, some r) := by
  simp only [slot, SortedMap.get?_insert, if_true]

theorem slot_erase_self : slot ⟨family, readOnly, records.erase i⟩ i = (family, readOnly, none) := by
  simp only [slot, SortedMap.get?_erase, if_true]

variable (hget : records.get? i = records'.get? i) (publicKey : String) (level : Nat)

include hget

theorem insert_own : (insert ⟨family, readOnly, records⟩ i publicKey level).map (slot · i) =
    (insert ⟨family, readOnly, records'⟩ i publicKey level).map (slot · i) := by
  unfold MemoryRegistry.insert SortedMap.contains
  dsimp only
  rw [hget]
  cases readOnly with
  | true => rfl
  | false =>
    cases KeyRecord.checkEntry family i publicKey with
    | error e => rfl
    | ok pem =>
      cases records'.get? i with
      | none => exact congrArg Except.ok ((slot_insert_self _).trans (slot_insert_self _).symm)
      | some r => rfl

theorem update_own : (update ⟨family, readOnly, records⟩ i publicKey level).map (slot · i) =
    (update ⟨family, readOnly, records'⟩ i publicKey level).map (slot · i) := by
  unfold MemoryRegistry.update
  dsimp only
  rw [hget]
  cases readOnly with
  | true => rfl
  | false =>
    cases KeyRecord.checkEntry family i publicKey with
    | error e => rfl
    | ok pem =>
      cases records'.get? i with
      | none => rfl
      | some r => exact congrArg Except.ok ((slot_insert_self _).trans (slot_insert_self _).symm)

theorem delete_own : (delete ⟨family, readOnly, records⟩ i).map (slot · i) =
    (delete ⟨family, readOnly, records'⟩ i).map (slot · i) := by
  unfold MemoryRegistry.delete SortedMap.contains
  dsimp only
  rw [hget]
  cases readOnly with
  | true => rfl
  | false =>
    cases records'.get? i with
    | none => rfl
    | some r => exact congrArg Except.ok (slot_erase_self.trans slot_erase_self.symm)

end

/-- **A call depends on the slot of its identity.** -/
theorem perform_own {c : Call} (hc : c.identity? = some i) (hslot : m.slot i = n.slot i) :
    (Registry.perform m c).1 = (Registry.perform n c).1 ∧
      (Registry.perform m c).2.slot i = (Registry.perform n c).2.slot i := by
  obtain ⟨family, readOnly, records⟩ := m
  obtain ⟨family', readOnly', records'⟩ := n
  have hsame := slot_eq_iff.1 hslot
  simp only at hsame
  obtain ⟨rfl, rfl, hget⟩ := hsame
  cases c with
  | all => cases hc
  | get identity =>
    cases hc
    exact ⟨congrArg (fun found => Registry.Answer.record (.answered (.ok found))) hget, hslot⟩
  | insert identity publicKey level =>
    cases hc
    obtain ⟨hanswer, hnext⟩ := change_of_slot hslot (insert_own hget publicKey level)
    exact ⟨congrArg Registry.Answer.done hanswer, hnext⟩
  | update identity publicKey level =>
    cases hc
    obtain ⟨hanswer, hnext⟩ := change_of_slot hslot (update_own hget publicKey level)
    exact ⟨congrArg Registry.Answer.done hanswer, hnext⟩
  | delete identity =>
    cases hc
    obtain ⟨hanswer, hnext⟩ := change_of_slot hslot (delete_own hget)
    exact ⟨congrArg Registry.Answer.done hanswer, hnext⟩

theorem slot_insert_of_ne (hij : j ≠ i) (r : KeyRecord) :
    slot { m with records := m.records.insert j r } i = m.slot i :=
  slot_eq_iff.2 ⟨rfl, rfl, by rw [SortedMap.get?_insert, if_neg hij]⟩

theorem slot_erase_of_ne (hij : j ≠ i) : slot { m with records := m.records.erase j } i = m.slot i :=
  slot_eq_iff.2 ⟨rfl, rfl, by rw [SortedMap.get?_erase, if_neg hij]⟩

/-- **A call changes no slot but the one of its identity.** -/
theorem perform_other {c : Call} (hc : c.identity? ≠ some i) : (Registry.perform m c).2.slot i = m.slot i := by
  have hne : ∀ {j}, c.identity? = some j → j ≠ i := fun hj hji => hc (by rw [hj, hji])
  cases c with
  | get identity => rfl
  | all => rfl
  | insert identity publicKey level =>
    refine change_keeps (Q := fun next => next.slot i = m.slot i) rfl fun next hnext => ?_
    obtain ⟨-, -, pem, -, rfl⟩ := insert_ok hnext
    exact slot_insert_of_ne (hne rfl) _
  | update identity publicKey level =>
    refine change_keeps (Q := fun next => next.slot i = m.slot i) rfl fun next hnext => ?_
    obtain ⟨-, r, pem, -, -, rfl⟩ := update_ok hnext
    exact slot_insert_of_ne (hne rfl) _
  | delete identity =>
    refine change_keeps (Q := fun next => next.slot i = m.slot i) rfl fun next hnext => ?_
    obtain ⟨-, -, rfl⟩ := delete_ok hnext
    exact slot_erase_of_ne (hne rfl)

theorem slots : Slots (fun _ : MemoryRegistry => True) slot where
  keeps _ _ := trivial
  own _ _ hc hslot := perform_own hc hslot
  other _ hc := perform_other hc
  listing _ _ hslots := by rw [ext_slot hslots]

end MemoryRegistry

/-! ## In a database -/

namespace DatabaseRegistry

variable {d e : DatabaseRegistry} {family : KeyFamily} {settings : DatabaseSettings} {rows rows' : SortedMap Sql.Row}
  {i j : String}

/-- The rows that a registry opens on, if it can change them. -/
def rows? (d : DatabaseRegistry) : Option (SortedMap Sql.Row) :=
  match d.connect.1 with
  | .error _ => none
  | .ok c => if c.isReadOnly then none else (content? d.connect.2.host.disk c).bind Sql.Database.keys

theorem rows?_of_serves (h : d.Serves family settings rows) : d.rows? = some rows := by
  obtain ⟨c, hconnect, hcontent⟩ := h.holds
  have hwritable := (h.writes c hconnect).isReadOnly
  simp only [rows?, hconnect, hwritable, hcontent, Option.bind_some, Bool.false_eq_true, if_false]

theorem serves_of_rows? (h : d.rows? = some rows) : d.Serves d.family d.settings rows := by
  unfold rows? at h
  split at h
  · cases h
  rename_i c hconnect
  split at h
  · cases h
  rename_i hwritable
  obtain ⟨⟨keys⟩, hcontent, rfl⟩ := Option.bind_eq_some_iff.1 h
  refine ⟨rfl, rfl, ⟨c, hconnect, hcontent⟩, fun x hx => ?_⟩
  rw [hconnect] at hx
  cases hx
  cases c with
  | file place readOnly => exact Bool.eq_false_iff.2 hwritable
  | memory content => trivial

/-- What a registry has under an identity: a row, or nothing, of a table that it can change.  Without such a table it has
for every identity just how it opens. -/
def slot (d : DatabaseRegistry) (identity : String) :
    KeyFamily × DatabaseSettings × (Option Sql.Row ⊕ (Except RegistryError Connection × DatabaseRegistry)) :=
  (d.family, d.settings,
    match d.rows? with
    | some rows => .inl (rows.get? identity)
    | none => .inr d.connect)

theorem slot_of_serves (h : d.Serves family settings rows) (i : String) :
    d.slot i = (family, settings, .inl (rows.get? i)) := by
  simp only [slot, h.family, h.settings, rows?_of_serves h]

theorem Alike.slot (h : Alike d e) (i : String) : d.slot i = e.slot i := by
  unfold DatabaseRegistry.slot rows?
  rw [h.family, h.settings, h.connect]

/-- Two registries with the same in a slot: both serve rows, or they open alike and neither does. -/
theorem cases_of_slot (h : d.slot i = e.slot i) :
    (∃ rows rows', d.Serves e.family e.settings rows ∧ e.Serves e.family e.settings rows' ∧
      rows.get? i = rows'.get? i) ∨ d.rows? = none ∧ Alike d e := by
  unfold slot at h
  rw [Prod.mk.injEq, Prod.mk.injEq] at h
  obtain ⟨hfamily, hsettings, hslot⟩ := h
  cases hd : d.rows? with
  | some rows =>
    cases he : e.rows? with
    | some rows' =>
      rw [hd, he] at hslot
      have hserves := serves_of_rows? hd
      rw [hfamily, hsettings] at hserves
      exact .inl ⟨rows, rows', hserves, serves_of_rows? he, Sum.inl.inj hslot⟩
    | none =>
      rw [hd, he] at hslot
      cases hslot
  | none =>
    cases he : e.rows? with
    | some rows' =>
      rw [hd, he] at hslot
      cases hslot
    | none =>
      rw [hd, he] at hslot
      exact .inr ⟨rfl, hfamily, hsettings, Sum.inr.inj hslot⟩

/-! ### Calls on a table -/

section

variable (hget : rows.get? i = rows'.get? i) (publicKey : String) (level : Nat)

include hget

theorem inserted_own : (inserted family rows i publicKey level).map (SortedMap.get? · i) =
    (inserted family rows' i publicKey level).map (SortedMap.get? · i) := by
  unfold inserted SortedMap.contains
  rw [hget]
  cases KeyRecord.checkEntry family i publicKey with
  | error e => rfl
  | ok pem => cases rows'.get? i <;> simp [Except.map, SortedMap.get?_insert]

theorem updated_own : (updated family rows i publicKey level).map (SortedMap.get? · i) =
    (updated family rows' i publicKey level).map (SortedMap.get? · i) := by
  unfold updated SortedMap.contains
  rw [hget]
  cases KeyRecord.checkEntry family i publicKey with
  | error e => rfl
  | ok pem => cases rows'.get? i <;> simp [Except.map, SortedMap.get?_insert]

theorem deleted_own : (deleted rows i).map (SortedMap.get? · i) = (deleted rows' i).map (SortedMap.get? · i) := by
  unfold deleted SortedMap.contains
  rw [hget]
  cases rows'.get? i <;> simp [Except.map, SortedMap.get?_erase]

end

theorem own_of_went {call call' : Except RegistryError Unit × DatabaseRegistry}
    {result result' : Except RegistryError (SortedMap Sql.Row)} (h : Went call family settings rows result)
    (h' : Went call' family settings rows' result') (hget : rows.get? i = rows'.get? i)
    (hresult : result.map (SortedMap.get? · i) = result'.map (SortedMap.get? · i)) :
    Reply.answered call.1 = .answered call'.1 ∧ call.2.slot i = call'.2.slot i := by
  cases result <;> cases result' <;> simp only [Except.map, Except.ok.injEq, Except.error.injEq, reduceCtorEq] at hresult
  · refine ⟨by rw [h.1, h'.1, hresult], ?_⟩
    rw [slot_of_serves h.2, slot_of_serves h'.2, hget]
  · refine ⟨by rw [h.1, h'.1], ?_⟩
    rw [slot_of_serves h.2, slot_of_serves h'.2, hresult]

theorem own_of_serves (hqueries : settings.queries = Queries.defaults) (hd : d.Serves family settings rows)
    (he : e.Serves family settings rows') (hget : rows.get? i = rows'.get? i) {c : Call} (hc : c.identity? = some i) :
    (Registry.perform d c).1 = (Registry.perform e c).1 ∧
      (Registry.perform d c).2.slot i = (Registry.perform e c).2.slot i := by
  cases c with
  | all => cases hc
  | get identity =>
    cases hc
    have hselect : settings.queries.select = Queries.defaults.select := by rw [hqueries]
    have hfound := get_of_holds (by rw [hd.settings, hselect]) hd.holds i
    have hfound' := get_of_holds (by rw [he.settings, hselect]) he.holds i
    simp only [Registry.perform, Registry.get, answered, hfound, hfound', hget, true_and]
    rw [slot_of_serves hd.connect, slot_of_serves he.connect, hget]
  | insert identity publicKey level =>
    cases hc
    obtain ⟨hanswer, hnext⟩ := own_of_went (insert_of_serves hd (by rw [hqueries]) i publicKey level)
      (insert_of_serves he (by rw [hqueries]) i publicKey level) hget (inserted_own hget publicKey level)
    exact ⟨congrArg Registry.Answer.done hanswer, hnext⟩
  | update identity publicKey level =>
    cases hc
    obtain ⟨hanswer, hnext⟩ := own_of_went (update_of_serves hd (by rw [hqueries]) i publicKey level)
      (update_of_serves he (by rw [hqueries]) i publicKey level) hget (updated_own hget publicKey level)
    exact ⟨congrArg Registry.Answer.done hanswer, hnext⟩
  | delete identity =>
    cases hc
    obtain ⟨hanswer, hnext⟩ := own_of_went (delete_of_serves hd (by rw [hqueries]) i)
      (delete_of_serves he (by rw [hqueries]) i) hget (deleted_own hget)
    exact ⟨congrArg Registry.Answer.done hanswer, hnext⟩

theorem other_of_went {call : Except RegistryError Unit × DatabaseRegistry}
    {result : Except RegistryError (SortedMap Sql.Row)} (h : Went call family settings rows result)
    (hresult : ∀ next, result = .ok next → next.get? i = rows.get? i) :
    call.2.slot i = (family, settings, .inl (rows.get? i)) := by
  cases result with
  | error e => exact slot_of_serves h.2 i
  | ok next => rw [slot_of_serves h.2 i, hresult next rfl]

theorem get?_of_inserted (hij : j ≠ i) {publicKey : String} {level : Nat} {next : SortedMap Sql.Row}
    (h : inserted family rows j publicKey level = .ok next) : next.get? i = rows.get? i := by
  unfold inserted at h
  split at h
  · cases h
  split at h
  · cases h
  · cases h
    rw [SortedMap.get?_insert, if_neg hij]

theorem get?_of_updated (hij : j ≠ i) {publicKey : String} {level : Nat} {next : SortedMap Sql.Row}
    (h : updated family rows j publicKey level = .ok next) : next.get? i = rows.get? i := by
  unfold updated at h
  split at h
  · cases h
  split at h
  · cases h
    rw [SortedMap.get?_insert, if_neg hij]
  · cases h

theorem get?_of_deleted (hij : j ≠ i) {next : SortedMap Sql.Row} (h : deleted rows j = .ok next) :
    next.get? i = rows.get? i := by
  unfold deleted at h
  split at h
  · cases h
    rw [SortedMap.get?_erase, if_neg hij]
  · cases h

theorem other_of_serves (hqueries : settings.queries = Queries.defaults) (hd : d.Serves family settings rows) {c : Call}
    (hc : c.identity? ≠ some i) : (Registry.perform d c).2.slot i = (family, settings, .inl (rows.get? i)) := by
  have hne : ∀ {j}, c.identity? = some j → j ≠ i := fun hj hji => hc (by rw [hj, hji])
  cases c with
  | get identity =>
    have hfound := get_of_holds (by rw [hd.settings, hqueries]) hd.holds identity
    simp only [Registry.perform, Registry.get, answered, hfound]
    exact slot_of_serves hd.connect i
  | all =>
    have hlisted := all_of_holds (by rw [hd.settings, hqueries]) hd.holds
    simp only [Registry.perform, Registry.all, answered, hlisted]
    exact slot_of_serves hd.connect i
  | insert identity publicKey level =>
    exact other_of_went (insert_of_serves hd (by rw [hqueries]) identity publicKey level) fun _ => get?_of_inserted (hne rfl)
  | update identity publicKey level =>
    exact other_of_went (update_of_serves hd (by rw [hqueries]) identity publicKey level) fun _ => get?_of_updated (hne rfl)
  | delete identity =>
    exact other_of_went (delete_of_serves hd (by rw [hqueries]) identity) fun _ => get?_of_deleted (hne rfl)

/-! ### Calls without a table -/

/-- A registry that serves no rows is only opened by a statement. -/
theorem execute_of_stuck (h : d.rows? = none) (text : String) (parameters : List Sql.Value) :
    (d.execute text parameters).2 = d.connect.2 := by
  rcases state_execute d text parameters with hopened | ⟨c, _, rows, _, _, hconnect, hreadOnly, hrows, -⟩
  · exact hopened
  · simp only [rows?, hconnect, hreadOnly, hrows, Bool.false_eq_true, if_false] at h
    cases h

/-- **A registry that serves no rows opens after any call as before it.** -/
theorem alike_of_stuck (h : d.rows? = none) (c : Call) : Alike d (Registry.perform d c).2 := by
  rcases runs_perform d c with hsame | ⟨text, parameters, hrun⟩
  · rw [hsame]
    exact .refl d
  · rw [hrun, execute_of_stuck h]
    exact alike_connect d

/-! ### Slots -/

theorem settings_execute (d : DatabaseRegistry) (text : String) (parameters : List Sql.Value) :
    (d.execute text parameters).2.settings = d.settings := by
  have hopened := (connect_settings d).1
  rcases state_execute d text parameters with hstate | ⟨_, _, _, _, _, -, -, -, -, -, -, hstate⟩
  · rwa [hstate]
  · rwa [hstate]

theorem settings_perform (d : DatabaseRegistry) (c : Call) : (Registry.perform d c).2.settings = d.settings := by
  rcases runs_perform d c with hsame | ⟨text, parameters, hrun⟩
  · rw [hsame]
  · rw [hrun, settings_execute]

theorem slots : Slots (fun d : DatabaseRegistry => d.settings.queries = Queries.defaults) slot where
  keeps {d} c hd := by rw [settings_perform, hd]
  own {d e c i} hd he hc hslot := by
    rcases cases_of_slot hslot with ⟨rows, rows', hrows, hrows', hget⟩ | ⟨-, halike⟩
    · exact own_of_serves he hrows hrows' hget hc
    · -- without a table the slot says how the registry opens, which settles every answer
      obtain ⟨hanswer, hnext⟩ := halike.perform c
      exact ⟨hanswer, hnext.slot i⟩
  other {d c i} hd hc := by
    cases hrows : d.rows? with
    | some rows =>
      have hserves := serves_of_rows? hrows
      rw [other_of_serves hd hserves hc, slot_of_serves hserves]
    | none => exact ((alike_of_stuck hrows c).slot i).symm
  listing {d e} hd he hslots := by
    rcases cases_of_slot (hslots "") with ⟨rows, rows', hrows, hrows', -⟩ | ⟨-, halike⟩
    · have hsame : rows = rows' := by
        refine SortedMap.ext_get? fun key => ?_
        have hslot := hslots key
        rw [slot_of_serves hrows, slot_of_serves hrows'] at hslot
        simpa using hslot
      have hlisted := all_of_holds (by rw [hrows.settings, he]) hrows.holds
      have hlisted' := all_of_holds (by rw [he]) hrows'.holds
      simp only [Registry.perform, Registry.all, answered, hlisted, hlisted', hsame]
    · exact (halike.perform .all).1

/-- **Identities are isolated from one another**, in memory whatever the records are and whether or not they can be
changed, and in a database with the default statements whatever state it is in. -/
theorem isolates_of_backends :
    (∀ m : MemoryRegistry, Isolates Eq m) ∧
      ∀ d : DatabaseRegistry, d.settings.queries = Queries.defaults → Isolates Indistinguishable d :=
  ⟨fun _ => MemoryRegistry.slots.isolates (fun _ _ hslots => MemoryRegistry.ext_slot hslots) trivial,
    fun _ hqueries => slots.isolates (fun hd he hslots => slots.indistinguishable hd he hslots) hqueries⟩

open MemoryRegistry (shortKey)

/-- Two clients: one registers an identity and looks it up, the other changes a second one and then replaces the key of
the first. -/
def twoClients : List (Registry.Sent Bool) :=
  [⟨true, .insert "ann" shortKey 1⟩, ⟨false, .delete "bob"⟩, ⟨true, .get "ann"⟩, ⟨false, .update "ann" shortKey 2⟩]

/-- The same with the second client's first call before all others. -/
def twoClientsAgain : List (Registry.Sent Bool) :=
  [⟨false, .delete "bob"⟩, ⟨true, .insert "ann" shortKey 1⟩, ⟨true, .get "ann"⟩, ⟨false, .update "ann" shortKey 2⟩]

/-- **Neither client can tell**, in a new file or in memory. -/
theorem isolates_newFile :
    newFile.settings.queries = Queries.defaults ∧ (∀ x ∈ twoClients, x.call ≠ .all) ∧
      (∀ client, (Registry.exchanges newFile twoClients).filter (fun e => e.1.isBy client) =
        (Registry.exchanges newFile twoClientsAgain).filter fun e => e.1.isBy client) ∧
      Indistinguishable (Registry.final newFile twoClients) (Registry.final newFile twoClientsAgain) ∧
      Registry.final (MemoryRegistry.empty .rsa) twoClients = Registry.final (MemoryRegistry.empty .rsa) twoClientsAgain := by
  have hcalls : ∀ x ∈ twoClients, x.call ≠ .all := by simp [twoClients]
  have hclient : ∀ client, twoClients.filter (Registry.Sent.isBy client) =
      twoClientsAgain.filter (Registry.Sent.isBy client) := by
    intro client
    cases client <;> rfl
  have hidentity : ∀ identity, twoClients.filter (Registry.Sent.isOn identity) =
      twoClientsAgain.filter (Registry.Sent.isOn identity) := by
    intro identity
    by_cases hann : "ann" = identity
    · subst hann
      rfl
    · simp [twoClients, twoClientsAgain, Registry.Sent.isOn, Registry.Call.identity?, List.filter_cons, hann]
  obtain ⟨hanswers, hfinal⟩ := (isolates_of_backends.2 newFile rfl).interleave twoClients twoClientsAgain hcalls hclient hidentity
  obtain ⟨-, hmemory⟩ := (isolates_of_backends.1 (MemoryRegistry.empty .rsa)).interleave twoClients twoClientsAgain hcalls
    hclient hidentity
  exact ⟨rfl, hcalls, hanswers, hfinal, hmemory⟩

end DatabaseRegistry
end Gatehouse
