import Gatehouse.Host.Disk
import Gatehouse.Proofs.SortedMap
/-!
# Disks — what making directories and files keeps

Directories are only ever added (`Grows`), so a path that could be followed can be followed again, and directories that
were made are there when they are made again (`createDirectories_again`).
-/
namespace Gatehouse
namespace Disk

variable {d d' d'' : Disk}

theorem node?_put (d : Disk) (place : List String) (node : Node) (other : List String) :
    (d.put place node).node? other =
      if other.isEmpty then some .directory
      else if address place = address other then some node else d.node? other := by
  unfold node?
  by_cases h : other.isEmpty = true
  · rw [if_pos h, if_pos h]
  · rw [if_neg h, if_neg h, if_neg h]
    exact Assoc.get?_insert _ _ _ _

theorem no_directory {place : List String} (h : d.node? place = none) : d.node? place ≠ some .directory := by
  rw [h]
  nofun

theorem node?_put_self {place : List String} (h : d.node? place ≠ some .directory) (node : Node) :
    (d.put place node).node? place = some node := by
  have hne : ¬ place.isEmpty = true := fun hempty => h (by rw [node?, if_pos hempty])
  rw [node?_put, if_neg hne, if_pos rfl]

/-! ## Growing -/

/-- A disk with all directories of another one. -/
def Grows (d d' : Disk) : Prop := ∀ place, d.node? place = some .directory → d'.node? place = some .directory

theorem Grows.refl (d : Disk) : Grows d d := fun _ h => h

theorem Grows.trans (h : Grows d d') (h' : Grows d' d'') : Grows d d'' := fun place hp => h' place (h place hp)

/-- A node in no directory's place takes no directory away. -/
theorem grows_put {place : List String} (h : d.node? place ≠ some .directory) (node : Node) :
    Grows d (d.put place node) := by
  intro other ho
  rw [node?_put]
  by_cases hempty : other.isEmpty = true
  · rw [if_pos hempty]
  · rw [if_neg hempty]
    by_cases ha : address place = address other
    · unfold node? at h ho
      rw [if_neg hempty, ← ha] at ho
      split at h
      · exact absurd rfl h
      · exact absurd ho h
    · rwa [if_neg ha]

/-! ## Paths -/

theorem enter_of_grows (h : Grows d d') {place : List String} (he : d.enter place = .ok ()) :
    d'.enter place = .ok () := by
  unfold enter at he ⊢
  split at he
  · rename_i hdir
    rw [h place hdir]
  · cases he
  · cases he

theorem follow_of_grows (h : Grows d d') : ∀ {names place found : List String},
    d.follow place names = .ok found → d'.follow place names = .ok found
  | [], _, _, hf => hf
  | name :: rest, place, found, hf => by
    unfold follow at hf ⊢
    split at hf
    · cases hf
    · rename_i he
      rw [enter_of_grows h he]
      dsimp only
      split at hf
      · rename_i hdot
        rw [if_pos hdot]
        exact follow_of_grows h hf
      rename_i hdot
      rw [if_neg hdot]
      split at hf
      · rename_i hdots
        rw [if_pos hdots]
        exact follow_of_grows h hf
      · rename_i hdots
        rw [if_neg hdots]
        exact follow_of_grows h hf

theorem resolve_of_grows (h : Grows d d') {directory path : String} {found : List String}
    (hf : d.resolve directory path = .ok found) : d'.resolve directory path = .ok found := by
  unfold resolve at hf ⊢
  split at hf
  · cases hf
  rename_i hpath
  rw [if_neg hpath]
  split at hf
  · rename_i habsolute
    rw [if_pos habsolute]
    exact follow_of_grows h hf
  · rename_i habsolute
    rw [if_neg habsolute]
    exact follow_of_grows h hf

/-! ## Making directories -/

/-- Where a name leads from a directory. -/
def step (place : List String) (name : String) : List String :=
  if name = "." then place else if name = ".." then place.dropLast else place ++ [name]

/-- Every name leads to a directory. -/
def Leads (d : Disk) : List String → List String → Prop
  | _, [] => True
  | place, name :: rest => d.node? (step place name) = some .directory ∧ d.Leads (step place name) rest

theorem Leads.grows (h : Grows d d') : ∀ {names place : List String}, d.Leads place names → d'.Leads place names
  | [], _, _ => trivial
  | _ :: _, _, hl => ⟨h _ hl.1, hl.2.grows h⟩

theorem createFrom_of_leads : ∀ {names place : List String}, d.Leads place names → d.createFrom place names = .ok d
  | [], _, _ => rfl
  | name :: rest, place, hl => by
    have hnode : d.node? (step place name) = some .directory := hl.1
    unfold step at hnode
    unfold createFrom
    simp only [hnode]
    exact createFrom_of_leads hl.2

/-- **What was made is there.** -/
theorem leads_of_createFrom : ∀ {names place : List String} {d : Disk}, d.createFrom place names = .ok d' →
    Grows d d' ∧ d'.Leads place names
  | [], _, _, h => by
    cases h
    exact ⟨Grows.refl d', trivial⟩
  | name :: rest, place, _, h => by
    unfold createFrom at h
    dsimp only at h
    split at h
    · rename_i hdir
      obtain ⟨hgrows, hleads⟩ := leads_of_createFrom h
      exact ⟨hgrows, hgrows _ hdir, hleads⟩
    · cases h
    · rename_i hnone
      obtain ⟨hgrows, hleads⟩ := leads_of_createFrom h
      have hfree := no_directory hnone
      exact ⟨(grows_put hfree .directory).trans hgrows, hgrows _ (node?_put_self hfree .directory), hleads⟩

/-- **Making directories again changes nothing**, also when the disk has grown since. -/
theorem createDirectories_again {directory path : String} (h : d.createDirectories directory path = .ok d')
    (hgrows : Grows d' d'') : d''.createDirectories directory path = .ok d'' := by
  unfold createDirectories at h ⊢
  split at h
  · rename_i habsolute
    rw [if_pos habsolute]
    exact createFrom_of_leads ((leads_of_createFrom h).2.grows hgrows)
  · rename_i habsolute
    rw [if_neg habsolute]
    exact createFrom_of_leads ((leads_of_createFrom h).2.grows hgrows)

end Disk
end Gatehouse
