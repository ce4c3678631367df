import Mathlib.Data.List.Induction
import Gatehouse.Proofs.SortedMap
import Gatehouse.Proofs.Text
import Gatehouse.Proofs.Text.Words
import Gatehouse.Registry.Backends
/-!
# Selecting a backend — which names the settings can reach

Settings are read in small letters and without the blanks around them, names are registered as they are.  So a name in
small letters is reached by every text that writes it (`selects_iff`), with what was registered last under it, and a
name with a capital or with blanks at its ends by none (`built_of_registered`).
-/
namespace Gatehouse
namespace Backends

open Text (SameWord)

variable {σ : Type} {regs : List (String × Backend σ)} {name text : String} {build : Backend σ}

/-! ## Registrations -/

/-- The backends after registrations one after another. -/
def registered (regs : List (String × Backend σ)) : Backends σ := regs.foldl (fun b r => b.register r.1 r.2) empty

/-- What was registered last under a name. -/
def Last (regs : List (String × Backend σ)) (name : String) (build : Backend σ) : Prop :=
  ∃ earlier later, regs = earlier ++ (name, build) :: later ∧ name ∉ later.map Prod.fst

theorem registered_concat (regs : List (String × Backend σ)) (r : String × Backend σ) :
    registered (regs ++ [r]) = (registered regs).register r.1 r.2 := List.foldl_append

theorem last_concat (r : String × Backend σ) :
    Last (regs ++ [r]) name build ↔ if r.1 = name then r.2 = build else Last regs name build := by
  constructor
  · rintro ⟨earlier, later, hregs, hlater⟩
    rcases List.eq_nil_or_concat later with rfl | ⟨later, l, rfl⟩
    · obtain ⟨-, hr⟩ := List.append_inj' hregs rfl
      rw [List.singleton_inj.1 hr, if_pos rfl]
    · rw [List.concat_eq_append] at hregs hlater
      rw [← List.cons_append, ← List.append_assoc] at hregs
      obtain ⟨hearlier, hr⟩ := List.append_inj' hregs rfl
      rw [List.map_append, List.mem_append, not_or] at hlater
      have hne : r.1 ≠ name := fun he => hlater.2 (by rw [← he, List.singleton_inj.1 hr]; exact List.mem_cons_self)
      rw [if_neg hne]
      exact ⟨earlier, later, hearlier, hlater.1⟩
  · by_cases hname : r.1 = name
    · rw [if_pos hname]
      rintro rfl
      exact ⟨regs, [], by rw [← hname], List.not_mem_nil⟩
    · rw [if_neg hname]
      rintro ⟨earlier, later, rfl, hlater⟩
      refine ⟨earlier, later ++ [r], by rw [List.append_assoc, List.cons_append], ?_⟩
      rw [List.map_append, List.mem_append, not_or]
      exact ⟨hlater, fun hmem => hname (List.mem_singleton.1 hmem).symm⟩

/-- **What is found under a name was registered last under it.** -/
theorem get?_registered_iff : (registered regs).builders.get? name = some build ↔ Last regs name build := by
  induction regs using List.reverseRecOn with
  | nil =>
    refine ⟨(nomatch ·), ?_⟩
    rintro ⟨earlier, later, hregs, -⟩
    exact absurd hregs.symm (by simp)
  | append_singleton regs r ih =>
    rw [registered_concat, last_concat, register, SortedMap.get?_insert]
    split
    · rw [Option.some.injEq]
    · exact ih

theorem exists_last_iff : (∃ build, Last regs name build) ↔ name ∈ regs.map Prod.fst := by
  induction regs using List.reverseRecOn with
  | nil =>
    refine ⟨?_, fun h => nomatch h⟩
    rintro ⟨build, earlier, later, hregs, -⟩
    exact absurd hregs.symm (by simp)
  | append_singleton regs r ih =>
    rw [List.map_append, List.mem_append, List.map_singleton, List.mem_singleton]
    simp only [last_concat]
    by_cases hname : r.1 = name
    · simp [hname]
    · simp only [if_neg hname, ih, Ne.symm hname, or_false]

/-- Registrations under other names have no part in what is found. -/
theorem get?_registered_filter {other : String} (h : other ≠ name) :
    (registered (regs.filter fun r => r.1 ≠ name)).builders.get? other = (registered regs).builders.get? other := by
  induction regs using List.reverseRecOn with
  | nil => rfl
  | append_singleton regs r ih =>
    rw [List.filter_append, registered_concat, register, SortedMap.get?_insert]
    by_cases hr : r.1 = name
    · rw [List.filter_cons_of_neg (by simp [hr]), List.filter_nil, List.append_nil, ih, if_neg (hr.trans_ne h.symm)]
    · rw [List.filter_cons_of_pos (by simp [hr]), List.filter_nil, registered_concat, register, SortedMap.get?_insert, ih]

theorem mem_names_iff {b : Backends σ} : name ∈ b.names ↔ ∃ build, b.builders.get? name = some build :=
  ⟨Assoc.get?_of_mem_keys, fun ⟨_, h⟩ => Assoc.mem_keys_of_get? h⟩

theorem pairwise_names (b : Backends σ) : b.names.Pairwise (· < ·) := List.pairwise_map.2 b.builders.sorted

/-! ## Texts that select a name -/

/-- A text selects a name: it is the name in any case of its letters, with blanks around it. -/
def Selects (text name : String) : Prop :=
  ∃ before word after, text.toList = before ++ word ++ after ∧ (∀ c ∈ before ++ after, Text.isBlank c = true) ∧
    SameWord (String.ofList word) name

/-- A name without capitals and without blanks at its ends. -/
def Reachable (name : String) : Prop := (∀ c ∈ name.toList, c.isUpper = false) ∧ Text.trim name = name

theorem lower_eq_self_iff : Text.lower name = name ↔ ∀ c ∈ name.toList, c.isUpper = false := by
  rw [Text.lower, ← String.toList_inj, String.toList_ofList]
  conv => lhs; rhs; rw [← List.map_id name.toList]
  rw [List.map_inj_left]
  simp only [id_eq, Text.toLower_eq_self_iff]

theorem reachable_iff : Reachable name ↔ Text.lower (Text.trim name) = name := by
  rw [Reachable, ← lower_eq_self_iff]
  constructor
  · rintro ⟨hlower, htrim⟩
    rw [htrim, hlower]
  · intro h
    refine ⟨?_, ?_⟩
    · rw [← h, Text.lower_lower]
    · rw [← h, ← Text.lower_trim, Text.trim_trim]

/-- What the settings are read as can be reached. -/
theorem reachable_lower_trim (text : String) : Reachable (Text.lower (Text.trim text)) := by
  rw [reachable_iff, ← Text.lower_trim, Text.trim_trim, Text.lower_lower]

/-- **A name that can be reached is what the settings that select it are read as.** -/
theorem selects_iff (hname : Reachable name) : Selects text name ↔ Text.lower (Text.trim text) = name := by
  constructor
  · rintro ⟨before, word, after, htext, hblank, hword⟩
    have htrim : Text.trim text = Text.trim (String.ofList word) := by
      rw [Text.trim, Text.trim, htext, String.toList_ofList,
        Text.trimChars_pad (fun c hc => hblank c (List.mem_append_left _ hc)) fun c hc =>
          hblank c (List.mem_append_right _ hc)]
    rw [htrim, Text.lower_trim, Text.sameWord_iff_lower.1 hword, ← Text.lower_trim, reachable_iff.1 hname]
  · intro hread
    obtain ⟨before, after, htext, hbefore, hafter⟩ := Text.exists_pad text.toList
    refine ⟨before, Text.trimChars text.toList, after, htext, ?_, ?_⟩
    · intro c hc
      exact (List.mem_append.1 hc).elim (hbefore c) (hafter c)
    · rw [Text.sameWord_iff_lower, ← hread, Text.lower_lower]
      rfl

/-! ## Building what is selected -/

theorem build_of_get? {b : Backends σ} {h : Host} {s : RegistrySettings} {family : KeyFamily}
    (hfound : b.builders.get? (Text.lower (Text.trim s.backend)) = some build) :
    b.build h s family = (build h s family).mapError fun e => .registry e.message := by
  simp only [Backends.build, hfound]
  cases build h s family <;> rfl

/-- **Which backend the settings get.**  After any registrations the names are listed in ascending order, each once.  A
name without capitals and without blanks at its ends is selected by every text that writes it, in any case and with
blanks around, and what was registered last under it is run.  All other names are listed and have no part in any start;
a text that selects no name of the first kind is reported as it was configured. -/
theorem built_of_registered (regs : List (String × Backend σ)) :
    (registered regs).names.Pairwise (· < ·) ∧
      (∀ name, name ∈ (registered regs).names ↔ name ∈ regs.map Prod.fst) ∧
      (∀ (name : String) (build : Backend σ) (h : Host) (s : RegistrySettings) (family : KeyFamily), Reachable name →
        Last regs name build → Selects s.backend name →
          (registered regs).build h s family = (build h s family).mapError fun e => .registry e.message) ∧
      (∀ (h : Host) (s : RegistrySettings) (family : KeyFamily),
        (∀ name ∈ (registered regs).names, Reachable name → ¬ Selects s.backend name) →
          (registered regs).build h s family = .error (.unknownBackend s.backend)) ∧
      ∀ (name : String) (h : Host) (s : RegistrySettings) (family : KeyFamily), ¬ Reachable name →
        (registered regs).build h s family = (registered (regs.filter fun r => r.1 ≠ name)).build h s family := by
  refine ⟨pairwise_names _, fun name => ?_, fun name build h s family hname hlast hselects => ?_,
    fun h s family hnone => ?_, fun name h s family hname => ?_⟩
  · simp only [mem_names_iff, get?_registered_iff, exists_last_iff]
  · refine build_of_get? ?_
    rw [(selects_iff hname).1 hselects]
    exact get?_registered_iff.2 hlast
  · have hread := reachable_lower_trim s.backend
    have hunknown : (registered regs).builders.get? (Text.lower (Text.trim s.backend)) = none := by
      rw [Option.eq_none_iff_forall_ne_some]
      exact fun build hfound => hnone _ (mem_names_iff.2 ⟨build, hfound⟩) hread ((selects_iff hread).2 rfl)
    simp only [Backends.build, hunknown]
  · have hother : Text.lower (Text.trim s.backend) ≠ name := fun he => hname (he ▸ reachable_lower_trim s.backend)
    simp only [Backends.build, get?_registered_filter hother]

/-! ## Names that are reached, and one that is not -/

/-- A backend whose registries are its number. -/
def numbered (n : Nat) : Backend Nat := fun _ _ _ => .ok n

def bareHost : Host := ⟨SortedMap.empty, Disk.empty, "/"⟩

/-- Settings that choose a backend. -/
def choosing (text : String) : RegistrySettings := { RegistrySettings.defaults with backend := text }

/-- The last of two registrations is run, for a text with capitals and blanks. -/
theorem built_of_replaced :
    Reachable "redis" ∧ Last [("redis", numbered 1), ("etcd", numbered 2), ("redis", numbered 3)] "redis" (numbered 3) ∧
      Selects " ReDis\n" "redis" ∧
      (registered [("redis", numbered 1), ("etcd", numbered 2), ("redis", numbered 3)]).build bareHost
        (choosing " ReDis\n") .rsa = .ok 3 := by
  have hname : Reachable "redis" := reachable_iff.2 (by decide)
  have hlast : Last [("redis", numbered 1), ("etcd", numbered 2), ("redis", numbered 3)] "redis" (numbered 3) :=
    ⟨[("redis", numbered 1), ("etcd", numbered 2)], [], rfl, List.not_mem_nil⟩
  have hselects : Selects " ReDis\n" "redis" := (selects_iff hname).2 (by decide)
  exact ⟨hname, hlast, hselects, (built_of_registered _).2.2.1 "redis" (numbered 3) bareHost (choosing " ReDis\n") .rsa
    hname hlast hselects⟩

/-- **A name with a capital is listed and cannot be selected**, not even as it is listed. -/
theorem capital_not_selected :
    (registered [("Redis", numbered 1)]).names = ["Redis"] ∧ Last [("Redis", numbered 1)] "Redis" (numbered 1) ∧
      Selects "Redis" "Redis" ∧
      (registered [("Redis", numbered 1)]).build bareHost (choosing "Redis") .rsa = .error (.unknownBackend "Redis") := by
  have hselects : Selects "Redis" "Redis" :=
    ⟨[], "Redis".toList, [], by simp, by simp, Text.sameWord_iff.2 (by rw [String.ofList_toList])⟩
  exact ⟨rfl, ⟨[], [], rfl, List.not_mem_nil⟩, hselects, by decide⟩

end Backends
end Gatehouse
