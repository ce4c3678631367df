import Gatehouse.Proofs.Host.Disk
import Gatehouse.Proofs.Result
import Gatehouse.Proofs.Text
/-!
# Paths — which names they have and which nodes they pass

A path is its names, cut at slashes (`names_append`), and its parent has all of them but the last (`names_parent?`).
`walk` is where names lead from a place; directories that are made for a path lie on the way there and nowhere else
(`sameBut_createFrom`).  A text that is written over another is found where that was (`writeText_of_look`).
-/
namespace Gatehouse
namespace Disk

variable {d d' d'' : Disk} {path parent : String} {cs a b : List Char} {place ns : List String}

/-! ## Names -/

/-- A slash, as the condition that a path is cut at. -/
def isSlash (c : Char) : Bool := c = '/'

theorem names_ofList (cs : List Char) :
    names (String.ofList cs) = ((Text.splitOn '/' cs).map String.ofList).filter fun name => !name.isEmpty := by
  rw [names, String.toList_ofList]

/-- **The names of a path are those on both sides of a slash.** -/
theorem names_append (a b : List Char) :
    names (String.ofList (a ++ '/' :: b)) = names (String.ofList a) ++ names (String.ofList b) := by
  rw [names_ofList, names_ofList, names_ofList, Text.splitOn_append_sep, List.map_append, List.filter_append]

theorem names_nil : names (String.ofList []) = [] := rfl

theorem names_of_not_mem (hslash : '/' ∉ cs) (hne : cs ≠ []) : names (String.ofList cs) = [String.ofList cs] := by
  have hfilled : (String.ofList cs).isEmpty = false := by
    rw [← Bool.not_eq_true, String.isEmpty_iff, ← String.toList_inj, String.toList_ofList]
    exact hne
  rw [names_ofList, Text.splitOn_of_not_mem hslash]
  simp [hfilled]

theorem names_append_slashes : ∀ {tail : List Char}, (∀ c ∈ tail, isSlash c = true) → ∀ cs : List Char,
    names (String.ofList (cs ++ tail)) = names (String.ofList cs)
  | [], _, cs => by rw [List.append_nil]
  | c :: tail, h, cs => by
    obtain rfl : c = '/' := of_decide_eq_true (h c List.mem_cons_self)
    have ih := names_append_slashes (fun d hd => h d (List.mem_cons_of_mem _ hd)) []
    rw [names_append, ← List.nil_append tail, ih, names_nil, List.append_nil]

theorem names_dropEnd (cs : List Char) : names (String.ofList (Text.dropEnd isSlash cs)) = names (String.ofList cs) := by
  obtain ⟨tail, hcs, htail⟩ := Text.exists_dropEnd isSlash cs
  conv => rhs; rw [hcs, names_append_slashes htail]

/-- A path that does not end with a slash: what stands up to its last slash, and a last name. -/
theorem names_of_concat (start : List Char) {last : Char} (hlast : isSlash last = false) :
    ∃ name, names (String.ofList (start ++ [last])) =
      names (String.ofList (Text.dropEnd (fun c => !isSlash c) (start ++ [last]))) ++ [name] := by
  obtain ⟨tail, hsplit, htail⟩ := Text.exists_dropEnd (fun c => !isSlash c) (start ++ [last])
  have hslash : '/' ∉ tail := fun hmem => absurd (htail '/' hmem) (by decide)
  -- without a slash the whole path is the name; else the tail behind the last slash is, which is not empty
  rcases Text.dropEnd_eq_nil_or (fun c => !isSlash c) (start ++ [last]) with hnil | ⟨upTo, slash, hupTo, hnot⟩
  · rw [hnil, List.nil_append] at hsplit
    refine ⟨String.ofList tail, ?_⟩
    rw [hnil, hsplit, names_of_not_mem hslash (by rw [← hsplit]; simp), names_nil, List.nil_append]
  · obtain rfl : slash = '/' := by simpa [isSlash] using hnot
    rw [hupTo] at hsplit
    have hne : tail ≠ [] := by
      rintro rfl
      rw [List.append_nil] at hsplit
      have hend := (List.append_inj' hsplit rfl).2
      rw [List.cons.injEq] at hend
      rw [hend.1] at hlast
      cases hlast
    refine ⟨String.ofList tail, ?_⟩
    rw [hupTo, hsplit, names_append, names_nil, List.append_nil, List.append_assoc, List.singleton_append, names_append,
      names_of_not_mem hslash hne]

/-- **The parent of a path has all its names but the last.** -/
theorem names_parent? (h : parent? path = some parent) : ∃ last, names path = names parent ++ [last] := by
  have htrimmed := names_dropEnd path.toList
  rw [String.ofList_toList] at htrimmed
  unfold parent? at h
  dsimp only at h
  split at h
  · cases h
  rename_i hfilled
  rcases Text.dropEnd_eq_nil_or isSlash path.toList with hnil | ⟨start, last, hconcat, hlast⟩
  · exact absurd (List.isEmpty_iff.2 hnil) hfilled
  obtain ⟨name, hname⟩ := names_of_concat start hlast
  refine ⟨name, ?_⟩
  rw [Option.some.injEq] at h
  rw [← htrimmed, hconcat, hname, ← names_dropEnd, ← hconcat, ← h]
  split
  · rename_i hroot
    rw [Bool.and_eq_true, List.isEmpty_iff] at hroot
    have habove := congrArg (fun cs => names (String.ofList cs)) hroot.1
    exact congrArg (· ++ [name]) (habove.trans (show names (String.ofList []) = names (String.ofList ['/']) from rfl))
  · rfl

theorem exists_parent? (h : names path ≠ []) : ∃ parent, parent? path = some parent := by
  unfold parent?
  dsimp only
  split
  · rename_i hempty
    have htrimmed := names_dropEnd path.toList
    rw [String.ofList_toList] at htrimmed
    have hnil : Text.dropEnd isSlash path.toList = [] := List.isEmpty_iff.1 hempty
    rw [hnil, names_nil] at htrimmed
    exact absurd htrimmed.symm h
  · exact ⟨_, rfl⟩

theorem isAbsolute_prefix (hne : cs ≠ []) (h : cs <+: path.toList) :
    isAbsolute (String.ofList cs) = isAbsolute path := by
  obtain ⟨tail, hpath⟩ := h
  cases cs with
  | nil => exact absurd rfl hne
  | cons c cs =>
    rw [isAbsolute, isAbsolute, ← hpath, String.toList_ofList]
    rfl

/-- The first letter of a text tells whether it is an absolute path. -/
theorem isAbsolute_of_forall {absolute : Bool} (hne : cs ≠ []) (h : ∀ c ∈ cs, isSlash c = absolute) :
    isAbsolute (String.ofList cs) = absolute := by
  cases cs with
  | nil => exact absurd rfl hne
  | cons c cs =>
    rw [← h c List.mem_cons_self, isAbsolute, String.toList_ofList, isSlash]
    exact Bool.eq_iff_iff.2 (by simp)

/-- **A path and its parent are both absolute, or neither is.** -/
theorem isAbsolute_parent? (h : parent? path = some parent) : isAbsolute parent = isAbsolute path := by
  unfold parent? at h
  dsimp only at h
  split at h
  · cases h
  rename_i hfilled
  obtain ⟨trimmed, htrimmed⟩ : ∃ trimmed, trimmed = Text.dropEnd isSlash path.toList := ⟨_, rfl⟩
  obtain ⟨upTo, hupTo⟩ : ∃ upTo, upTo = Text.dropEnd (fun c => !isSlash c) trimmed := ⟨_, rfl⟩
  have hparent : parent = String.ofList
      (if (Text.dropEnd isSlash upTo).isEmpty && !upTo.isEmpty then ['/'] else Text.dropEnd isSlash upTo) := by
    rw [hupTo, htrimmed]
    exact (Option.some.inj h).symm
  have hne : trimmed ≠ [] := fun hnil => hfilled (List.isEmpty_iff.2 (htrimmed.symm.trans hnil))
  have hstart : trimmed <+: path.toList := htrimmed ▸ Text.dropEnd_prefix _ _
  have hprefix : upTo <+: path.toList := (hupTo ▸ Text.dropEnd_prefix _ _ : upTo <+: trimmed).trans hstart
  by_cases hnone : Text.dropEnd isSlash upTo = []
  · by_cases hflat : upTo = []
    -- a single name lies in the directory without a name
    · obtain ⟨name, hname, hletters⟩ := Text.exists_dropEnd (fun c => !isSlash c) trimmed
      rw [← hupTo, hflat, List.nil_append] at hname
      have hplain : ∀ c ∈ trimmed, isSlash c = false := fun c hc => by simpa using hletters c (hname ▸ hc)
      rw [hparent, hflat, ← isAbsolute_prefix hne hstart, isAbsolute_of_forall hne hplain]
      rfl
    -- the root is the parent of what has slashes only before its name
    · obtain ⟨slashes, habove, hslashes⟩ := Text.exists_dropEnd isSlash upTo
      rw [hnone, List.nil_append] at habove
      have hall : ∀ c ∈ upTo, isSlash c = true := fun c hc => hslashes c (habove ▸ hc)
      rw [hparent, if_pos (by simp [hnone, hflat]), ← isAbsolute_prefix hflat hprefix, isAbsolute_of_forall hflat hall]
      rfl
  · rw [hparent, if_neg (by simp [hnone])]
    exact isAbsolute_prefix hnone ((Text.dropEnd_prefix _ _).trans hprefix)

/-! ## Where names lead -/

/-- Where names lead from a place, whatever is there. -/
def walk (place ns : List String) : List String := ns.foldl step place

@[simp] theorem walk_nil (place : List String) : walk place [] = place := rfl

@[simp] theorem walk_cons (place : List String) (name : String) (rest : List String) :
    walk place (name :: rest) = walk (step place name) rest := rfl

/-- Names that lead further down: neither the place itself nor the one above it. -/
def Descend (ns : List String) : Prop := ∀ name ∈ ns, name ≠ "." ∧ name ≠ ".."

theorem step_of_descend {name : String} (h : name ≠ "." ∧ name ≠ "..") (place : List String) :
    step place name = place ++ [name] := by
  rw [step, if_neg h.1, if_neg h.2]

theorem Descend.walk_eq : ∀ {ns : List String}, Descend ns → ∀ place, walk place ns = place ++ ns
  | [], _, place => (List.append_nil place).symm
  | name :: rest, h, place => by
    have hrest : Descend rest := fun n hn => h n (List.mem_cons_of_mem name hn)
    rw [walk_cons, hrest.walk_eq, step_of_descend (h name List.mem_cons_self), List.append_assoc, List.singleton_append]

/-- **A path that can be followed leads where its names lead.** -/
theorem walk_of_follow : ∀ {ns place found : List String}, d.follow place ns = .ok found → found = walk place ns
  | [], _, _, h => (Except.ok.inj h).symm
  | name :: rest, place, found, h => by
    unfold follow at h
    split at h
    · cases h
    · rw [walk_cons, step]
      split at h
      · rename_i hdot
        rw [if_pos hdot, walk_of_follow h]
      rename_i hdot
      rw [if_neg hdot]
      split at h
      · rename_i hdots
        rw [if_pos hdots, walk_of_follow h]
      · rename_i hdots
        rw [if_neg hdots, walk_of_follow h]

theorem follow_cons (hplace : d.node? place = some .directory) (name : String) (rest : List String) :
    d.follow place (name :: rest) = d.follow (step place name) rest := by
  have henter : d.enter place = .ok () := by rw [enter, hplace]
  rw [follow, henter, step]
  dsimp only
  split
  · rfl
  split
  · rfl
  · rfl

/-- **A path through directories can be followed**, whatever its last name leads to. -/
theorem follow_of_leads : ∀ {ns place : List String}, d.node? place = some .directory → d.Leads place ns →
    ∀ last, d.follow place (ns ++ [last]) = .ok (walk place (ns ++ [last]))
  | [], _, hplace, _, last => by
    rw [List.nil_append, follow_cons hplace]
    rfl
  | name :: rest, _, hplace, h, last => by
    rw [List.cons_append, follow_cons hplace, follow_of_leads h.1 h.2, walk_cons]

theorem node?_of_follow {name : String} {rest found : List String} (h : d.follow place (name :: rest) = .ok found) :
    d.node? place = some .directory := by
  unfold follow enter at h
  split at h
  · cases h
  · rename_i henter
    split at henter
    · assumption
    · cases henter
    · cases henter

/-- **A path that can be followed leads through directories**, whatever its last name leads to. -/
theorem leads_of_follow : ∀ {ns place found : List String} {last : String},
    d.follow place (ns ++ [last]) = .ok found → d.Leads place ns
  | [], _, _, _, _ => trivial
  | name :: rest, place, found, last, h => by
    rw [List.cons_append, follow_cons (node?_of_follow h)] at h
    refine ⟨?_, leads_of_follow h⟩
    cases rest with
    | nil => exact node?_of_follow h
    | cons next rest => exact node?_of_follow h

theorem node?_walk_of_leads : ∀ {ns place : List String}, d.node? place = some .directory → d.Leads place ns →
    d.node? (walk place ns) = some .directory
  | [], _, hplace, _ => hplace
  | _ :: _, _, _, h => by
    rw [walk_cons]
    exact node?_walk_of_leads h.1 h.2

/-! ## What is on the way -/

/-- A node is where names lead from a place, or some of them. -/
def OnWay (place ns other : List String) : Prop :=
  ∃ taken, taken <+: ns ∧ taken ≠ [] ∧ address other = address (walk place taken)

theorem OnWay.mono {ns' other : List String} (h : OnWay place ns other) (hns : ns <+: ns') : OnWay place ns' other := by
  obtain ⟨taken, htaken, hne, hother⟩ := h
  exact ⟨taken, htaken.trans hns, hne, hother⟩

theorem onWay_walk (hne : ns ≠ []) {other : List String} (h : address other = address (walk place ns)) :
    OnWay place ns other :=
  ⟨ns, List.prefix_refl ns, hne, h⟩

/-- Two disks with the same nodes, but for those with a property. -/
def SameBut (P : List String → Prop) (d d' : Disk) : Prop := ∀ other, ¬ P other → d'.node? other = d.node? other

variable {P : List String → Prop}

theorem SameBut.refl (d : Disk) : SameBut P d d := fun _ _ => rfl

theorem SameBut.trans (h : SameBut P d d') (h' : SameBut P d' d'') : SameBut P d d'' := fun other hother =>
  (h' other hother).trans (h other hother)

theorem SameBut.mono {Q : List String → Prop} (h : SameBut P d d') (hPQ : ∀ other, P other → Q other) : SameBut Q d d' :=
  fun other hother => h other fun hP => hother (hPQ other hP)

theorem sameBut_put (h : ∀ other, address other = address place → P other) (node : Node) :
    SameBut P d (d.put place node) := by
  intro other hother
  rw [node?_put]
  by_cases hempty : other.isEmpty = true
  · rw [if_pos hempty, node?, if_pos hempty]
  · rw [if_neg hempty, if_neg fun haddress => hother (h other haddress.symm)]

theorem createFrom_cons (d : Disk) (place : List String) (name : String) (rest : List String) :
    d.createFrom place (name :: rest) = match d.node? (step place name) with
      | some .directory => d.createFrom (step place name) rest
      | some _ => .error (if rest.isEmpty then .exists else .notDirectory)
      | none => (d.put (step place name) .directory).createFrom (step place name) rest := rfl

/-- **Directories that are made lie on the way.** -/
theorem sameBut_createFrom : ∀ {ns place : List String} {d : Disk}, d.createFrom place ns = .ok d' →
    SameBut (OnWay place ns) d d'
  | [], _, _, h => by
    cases h
    exact .refl d'
  | name :: rest, place, d, h => by
    have hfirst : ∀ other, address other = address (step place name) → OnWay place (name :: rest) other := fun _ ho =>
      ⟨[name], ⟨rest, rfl⟩, List.cons_ne_nil _ _, ho⟩
    have hlater : ∀ other, OnWay (step place name) rest other → OnWay place (name :: rest) other := by
      rintro other ⟨taken, htaken, -, ho⟩
      exact ⟨name :: taken, List.cons_prefix_cons.2 ⟨rfl, htaken⟩, List.cons_ne_nil _ _, ho⟩
    rw [createFrom_cons] at h
    split at h
    · exact (sameBut_createFrom h).mono hlater
    · cases h
    · exact (sameBut_put hfirst .directory).trans ((sameBut_createFrom h).mono hlater)

/-- There is nothing at a place, or a directory. -/
def Passable (d : Disk) (place : List String) : Prop := d.node? place = none ∨ d.node? place = some .directory

theorem Passable.put {other : List String} (h : d.Passable other) (place : List String) :
    (d.put place .directory).Passable other := by
  unfold Passable
  rw [node?_put]
  split
  · exact .inr rfl
  split
  · exact .inr rfl
  · exact h

/-- **Directories can be made where there is nothing else on the way.** -/
theorem exists_createFrom : ∀ {ns place : List String} {d : Disk},
    (∀ taken, taken <+: ns → taken ≠ [] → d.Passable (walk place taken)) → ∃ d', d.createFrom place ns = .ok d'
  | [], _, d, _ => ⟨d, rfl⟩
  | name :: rest, place, d, h => by
    have hlater : ∀ taken, taken <+: rest → d.Passable (walk (step place name) taken) := fun taken htaken =>
      h (name :: taken) (List.cons_prefix_cons.2 ⟨rfl, htaken⟩) (List.cons_ne_nil _ _)
    rw [createFrom_cons]
    rcases hlater [] List.nil_prefix with hnone | hdirectory
    · rw [walk_nil] at hnone
      simp only [hnone]
      exact exists_createFrom fun taken htaken _ => (hlater taken htaken).put _
    · rw [walk_nil] at hdirectory
      simp only [hdirectory]
      exact exists_createFrom fun taken htaken _ => hlater taken htaken

/-! ## Addresses -/

theorem address_append (a b : List String) : address (a ++ b) = address a ++ address b := by
  rw [address, List.map_append, String.join_append, address, address]

theorem address_ne_empty (h : ns ≠ []) : address ns ≠ "" := by
  cases ns with
  | nil => exact absurd rfl h
  | cons name rest =>
    intro hempty
    have hlist := congrArg String.toList hempty
    simp [address, String.join_cons] at hlist

theorem address_append_ne (place : List String) (h : ns ≠ []) : address (place ++ ns) ≠ address place := by
  intro heq
  rw [address_append] at heq
  have hlist := congrArg String.toList heq
  rw [String.toList_append] at hlist
  have hnil : (address ns).toList = [] := by simpa using hlist
  exact address_ne_empty h (String.toList_inj.1 hnil)

/-- The same names below different places are different places. -/
theorem address_append_inj {place place' : List String} (h : address (place ++ ns) = address (place' ++ ns)) :
    address place = address place' := by
  rw [address_append, address_append] at h
  exact (String.append_left_inj _).1 h

/-! ## Files -/

variable {directory old : String}

/-- The directory of what a path leads to is there. -/
theorem createDirectories_of_resolve (hparent : parent? path = some parent)
    (h : d.resolve directory path = .ok place) : d.createDirectories directory parent = .ok d := by
  obtain ⟨last, hnames⟩ := names_parent? hparent
  unfold resolve at h
  rw [hnames, ← isAbsolute_parent? hparent] at h
  unfold createDirectories
  split at h
  · cases h
  split at h
  · rename_i habsolute
    rw [if_pos habsolute]
    exact createFrom_of_leads (leads_of_follow h)
  · rename_i hrelative
    rw [if_neg hrelative]
    exact createFrom_of_leads (leads_of_follow h)

theorem look_eq_text_iff : d.look directory path = .ok (.text old) ↔
    ∃ place, d.resolve directory path = .ok place ∧ d.node? place = some (.text old) ∧ namesDirectory path = false := by
  constructor
  · intro h
    obtain ⟨place, hplace, h⟩ := bind_eq_ok h
    refine ⟨place, hplace, ?_⟩
    split at h
    · rename_i node hnode
      split at h
      · cases h
      · split at h
        · cases h
        · rename_i hname
          cases h
          exact ⟨hnode, Bool.eq_false_iff.2 hname⟩
    · cases h
  · rintro ⟨place, hplace, hnode, hname⟩
    unfold look
    rw [hplace]
    simp only [bind, Except.bind, hnode, hname, Bool.false_eq_true, if_false]

/-- **A text takes the place of another in its file.** -/
theorem writeText_of_look (h : d.look directory path = .ok (.text old)) (content : String) :
    ∃ d', d.writeText directory path content = .ok d' ∧ d'.look directory path = .ok (.text content) := by
  obtain ⟨place, hplace, hnode, hname⟩ := look_eq_text_iff.1 h
  have hfree : d.node? place ≠ some .directory := by
    rw [hnode]
    nofun
  refine ⟨d.put place (.text content), ?_, ?_⟩
  · unfold writeText
    rw [hplace]
    simp only [bind, Except.bind, hnode, hname, Bool.false_eq_true, if_false]
  · exact look_eq_text_iff.2 ⟨place, resolve_of_grows (grows_put hfree _) hplace, node?_put_self hfree _, hname⟩

end Disk
end Gatehouse
