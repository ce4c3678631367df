import Gatehouse.Proofs.Host.Path
import Gatehouse.Proofs.Registry.Database
/-!
# Relative databases — where they are

A database of a relative name lies below the directory that the process runs in.  No call leaves the way there (`Stays`),
and where nothing is on it the database is made (`connect_of_free`).  A tilde stands for the home directory where a text
begins with it; a url begins with its scheme, so the tilde behind that is a relative name like any other:
`tilde_below_directory`.
-/
namespace Gatehouse

variable {p q : String}

/-! ## Urls -/

namespace Location

theorem dropAll_append (lead rest : List Char) (fuel : Nat) :
    dropAll lead (fuel + 1) (lead ++ rest) = dropAll lead fuel rest := by
  rw [dropAll, Text.dropPrefix?_append]

theorem dropAll_of_none {lead text : List Char} (h : Text.dropPrefix? lead text = none) (fuel : Nat) :
    dropAll lead fuel text = text := by
  cases fuel with
  | zero => rfl
  | succ fuel => rw [dropAll, h]

/-- What a name below a tilde reads as. -/
theorem unescaped?_tilde (cs : List Char) :
    unescaped? ("~/".toList ++ cs) = (unescaped? cs).map fun q => "~/" ++ q := by
  have htilde : unescape 0 (Text.bytes "~/".toList ++ Text.bytes cs) =
      Text.bytes "~/".toList ++ unescape 0 (Text.bytes cs) := rfl
  rw [unescaped?, Text.utf8_ofList, Text.bytes_append, htilde, Text.ofUtf8?_append, unescaped?, Text.utf8_ofList,
    String.ofList_toList]

/-- **A tilde behind the scheme is part of a name.** -/
theorem ofUrl?_tilde (hp : '?' ∉ p.toList) : ofUrl? ("sqlite://~/" ++ p) =
    (unescaped? p.toList).map fun q => ⟨some ("~/" ++ q), "~/" ++ q, false⟩ := by
  have htext : ("sqlite://~/" ++ p).toList = "sqlite:".toList ++ ("//".toList ++ ("~/".toList ++ p.toList)) := by
    rw [String.toList_append]
    rfl
  obtain ⟨fuel, hfuel⟩ : ∃ n, ("sqlite://~/" ++ p).toList.length = n + 1 := ⟨_, by rw [htext]; rfl⟩
  have hscheme : dropAll "sqlite:".toList (fuel + 1) ("sqlite://~/" ++ p).toList = "//".toList ++ ("~/".toList ++ p.toList) := by
    rw [htext, dropAll_append, dropAll_of_none rfl]
  have hslashes : dropAll "//".toList (fuel + 1) ("//".toList ++ ("~/".toList ++ p.toList)) = "~/".toList ++ p.toList := by
    rw [dropAll_append, dropAll_of_none rfl]
  have hsplit : Text.splitFirst? '?' ("~/".toList ++ p.toList) = none := by
    rw [Option.eq_none_iff_forall_ne_some]
    rintro ⟨a, b⟩ hsome
    have hmem : '?' ∈ "~/".toList ++ p.toList := by
      rw [(Text.splitFirst?_eq_some_iff.1 hsome).1]
      exact List.mem_append_right _ List.mem_cons_self
    simp [hp] at hmem
  have hmemory : ¬ (decide ("~/".toList ++ p.toList = ":memory:".toList) || ("~/".toList ++ p.toList).isEmpty) = true := by
    simp
  unfold ofUrl?
  dsimp only
  rw [hfuel, hscheme, hslashes, hsplit]
  dsimp only
  rw [unescaped?_tilde]
  simp only [if_neg hmemory]
  cases unescaped? p.toList <;> rfl

/-- A location of a file with a relative name. -/
structure Relative (l : Location) : Prop where
  file : l.file = some l.name
  relative : Disk.isAbsolute l.name = false
  named : Disk.names l.name ≠ []

/-- Where the file of a relative location is, from a directory. -/
def place (l : Location) (directory : String) : List String := Disk.walk (Disk.names directory) (Disk.names l.name)

/-- A node on the way from a directory to the file of a location. -/
def OnWay (l : Location) (directory : String) : List String → Prop := Disk.OnWay (Disk.names directory) (Disk.names l.name)

theorem Relative.onWay_place {l : Location} (h : l.Relative) {directory : String} {other : List String}
    (hother : Disk.address other = Disk.address (l.place directory)) : l.OnWay directory other :=
  Disk.onWay_walk h.named hother

end Location

/-! ## Relative databases -/

namespace DatabaseRegistry

variable {l : Location} {host : Host} {disk disk' : Disk} {directory : String} {c : Connection}
  {start r : DatabaseRegistry}

theorem sameBut_makeDirectory (hl : l.Relative) (h : makeDirectory host l = .ok disk) :
    Disk.SameBut (l.OnWay host.directory) host.disk disk := by
  unfold makeDirectory at h
  split at h
  · cases h
    exact .refl _
  rename_i parent hparent
  split at h
  · cases h
    exact .refl _
  split at h
  · rename_i made hmade
    cases h
    rw [Disk.createDirectories, if_neg (by simp [Disk.isAbsolute_parent? hparent, hl.relative])] at hmade
    obtain ⟨last, hlast⟩ := Disk.names_parent? hparent
    exact (Disk.sameBut_createFrom hmade).mono fun other hother => hother.mono (hlast ▸ List.prefix_append _ _)
  · cases h

theorem openFile_ok {path : String} {readOnly : Bool} {place : List String}
    (h : openFile disk directory path readOnly = .ok (disk', place)) :
    disk.resolve directory path = .ok place ∧ (disk' = disk ∨ disk' = disk.put place (.text "")) := by
  unfold openFile at h
  split at h
  · cases h
  rename_i found hfound
  split at h
  · cases h
  · cases h
    exact ⟨hfound, .inl rfl⟩
  split at h
  · split at h
    · cases h
    · cases h
      exact ⟨hfound, .inr rfl⟩
  · cases h

/-- **Where a relative database is opened.** -/
theorem place_of_opening (hl : l.Relative) (h : opening disk directory l = .ok (disk', c)) :
    c = .file (l.place directory) l.readOnly ∧ Disk.SameBut (l.OnWay directory) disk disk' := by
  unfold opening at h
  rw [hl.file] at h
  dsimp only at h
  cases hopen : openFile disk directory l.name l.readOnly with
  | error e =>
    rw [hopen] at h
    cases h
  | ok opened =>
    obtain ⟨disk'', found⟩ := opened
    rw [hopen] at h
    cases h
    obtain ⟨hresolve, hdisk⟩ := openFile_ok hopen
    have hfound : found = l.place directory := by
      unfold Disk.resolve at hresolve
      split at hresolve
      · cases hresolve
      · rw [if_neg (by simp [hl.relative])] at hresolve
        exact Disk.walk_of_follow hresolve
    rw [hfound] at hdisk ⊢
    refine ⟨rfl, ?_⟩
    rcases hdisk with rfl | rfl
    · exact .refl _
    · exact Disk.sameBut_put (fun _ hother => hl.onWay_place hother) _

theorem write?_file {place : List String} {readOnly : Bool} {content : Sql.Database} {next : Connection}
    (h : write? disk (.file place readOnly) content = some (disk', next)) :
    next = .file place readOnly ∧ disk' = disk.put place (.database content) := by
  unfold write? at h
  dsimp only at h
  split at h
  · cases h
  · cases h
    exact ⟨rfl, rfl⟩

theorem sameBut_write? (hl : l.Relative) {content : Sql.Database} {next : Connection}
    (h : write? disk (.file (l.place directory) l.readOnly) content = some (disk', next)) :
    next = .file (l.place directory) l.readOnly ∧ Disk.SameBut (l.OnWay directory) disk disk' := by
  obtain ⟨rfl, rfl⟩ := write?_file h
  exact ⟨rfl, Disk.sameBut_put (fun _ hother => hl.onWay_place hother) _⟩

theorem sameBut_preparing (hl : l.Relative) {settings : DatabaseSettings} {next : Connection}
    (h : preparing settings disk (.file (l.place directory) l.readOnly) = .ok (disk', next)) :
    next = .file (l.place directory) l.readOnly ∧ Disk.SameBut (l.OnWay directory) disk disk' := by
  unfold preparing at h
  split at h
  · unfold createTable at h
    split at h
    · cases h
    split at h
    · cases h
      exact ⟨rfl, .refl _⟩
    split at h
    · rename_i result hwrite
      cases h
      exact sameBut_write? hl hwrite
    · cases h
  · cases h
    exact ⟨rfl, .refl _⟩

/-! ## Calls -/

/-- A registry whose host is that of another one, but for the way to its database, where it is open if at all. -/
structure Stays (l : Location) (start r : DatabaseRegistry) : Prop where
  settings : r.settings = start.settings
  host : r.host = { start.host with disk := r.host.disk }
  disk : Disk.SameBut (l.OnWay start.host.directory) start.host.disk r.host.disk
  connection : ∀ c, r.connection = some c → c = .file (l.place start.host.directory) l.readOnly

theorem Stays.refl (hfresh : start.connection = none) : Stays l start start :=
  ⟨rfl, rfl, .refl _, fun c hc => by rw [hfresh] at hc; cases hc⟩

theorem Stays.directory_eq (h : Stays l start r) : r.host.directory = start.host.directory := by rw [h.host]

theorem Stays.withDisk (h : Stays l start r) (hdisk : Disk.SameBut (l.OnWay start.host.directory) r.host.disk disk) :
    Stays l start (r.withDisk disk) := by
  refine ⟨h.settings, ?_, h.disk.trans hdisk, h.connection⟩
  rw [DatabaseRegistry.withDisk, h.host]

/-- **A registry that is opened** is opened at its place. -/
theorem Stays.connect (hl : l.Relative)
    (hurl : Location.ofUrl? (start.host.expandTilde start.settings.url) = some l) (h : Stays l start r) :
    Stays l start r.connect.2 ∧ ∀ c, r.connect.1 = .ok c → c = .file (l.place start.host.directory) l.readOnly := by
  cases hconnection : r.connection with
  | some c =>
    rw [connect_of_connection hconnection]
    refine ⟨h, fun c' hc' => ?_⟩
    cases hc'
    exact h.connection c hconnection
  | none =>
    have hlocation : Location.ofUrl? (r.host.expandTilde r.settings.url) = some l := by
      rw [h.settings, h.host]
      exact hurl
    -- opening goes on in three steps, each of which may fail, and each touches the way only
    cases hmade : makeDirectory r.host l with
    | error e =>
      have hconnect : r.connect = (.error e, r) := by simp only [DatabaseRegistry.connect, hconnection, hlocation, hmade]
      rw [hconnect]
      exact ⟨h, fun c hc => by cases hc⟩
    | ok disk =>
      have hway := sameBut_makeDirectory hl hmade
      rw [h.directory_eq] at hway
      rw [connect_of_made hconnection hlocation hmade, h.directory_eq]
      cases hopen : opening disk start.host.directory l with
      | error e => exact ⟨h.withDisk hway, fun c hc => by cases hc⟩
      | ok opened =>
        obtain ⟨disk', c⟩ := opened
        obtain ⟨rfl, hopened⟩ := place_of_opening hl hopen
        dsimp only
        cases hprepared : preparing r.settings disk' (.file (l.place start.host.directory) l.readOnly) with
        | error e => exact ⟨h.withDisk (hway.trans hopened), fun c hc => by cases hc⟩
        | ok prepared =>
          obtain ⟨disk'', next⟩ := prepared
          obtain ⟨rfl, hwritten⟩ := sameBut_preparing hl hprepared
          obtain ⟨hsettings, hhost, hdisk, -⟩ := h.withDisk ((hway.trans hopened).trans hwritten)
          exact ⟨⟨hsettings, hhost, hdisk, fun c hc => (Option.some.inj hc).symm⟩, fun c hc => (Except.ok.inj hc).symm⟩

theorem Stays.execute (hl : l.Relative)
    (hurl : Location.ofUrl? (start.host.expandTilde start.settings.url) = some l) (h : Stays l start r) (text : String)
    (parameters : List Sql.Value) : Stays l start (r.execute text parameters).2 := by
  obtain ⟨hopened, hplace⟩ := h.connect hl hurl
  rcases state_execute r text parameters with hstate | ⟨c, -, -, disk, next, hc, -, -, -, -, ⟨content, hwrite⟩, hstate⟩
  · rwa [hstate]
  · obtain rfl := hplace c hc
    obtain ⟨rfl, hwritten⟩ := sameBut_write? hl hwrite
    obtain ⟨hsettings, hhost, hdisk, -⟩ := hopened.withDisk hwritten
    rw [hstate]
    exact ⟨hsettings, hhost, hdisk, fun c hc => (Option.some.inj hc).symm⟩

/-- **No call leaves the way**, and none leads to another database. -/
theorem Stays.perform (hl : l.Relative)
    (hurl : Location.ofUrl? (start.host.expandTilde start.settings.url) = some l) (h : Stays l start r)
    (call : Registry.Call) : Stays l start (Registry.perform r call).2 := by
  rcases runs_perform r call with hsame | ⟨text, parameters, hrun⟩
  · rwa [hsame]
  · rw [hrun]
    exact h.execute hl hurl text parameters

/-- **Nor does any run.** -/
theorem stays_after (hl : l.Relative)
    (hurl : Location.ofUrl? (start.host.expandTilde start.settings.url) = some l) (hfresh : start.connection = none)
    (calls : List Registry.Call) : Stays l start (Registry.after start calls) :=
  Registry.after_keeps (P := Stays l start) (fun _ c h => h.perform hl hurl c) calls (.refl hfresh)

/-! ## Opening where nothing is -/

/-- A directory that is there, with nothing on the way from it to the file of a location. -/
structure Free (l : Location) (h : Host) : Prop where
  directory : h.disk.node? (Disk.names h.directory) = some .directory
  free : ∀ taken, taken <+: Disk.names l.name → taken ≠ [] → h.disk.node? (Disk.names h.directory ++ taken) = none

/-- The directory of a relative database can be made. -/
theorem exists_makeDirectory (hl : l.Relative) (hdown : Disk.Descend (Disk.names l.name)) (hfree : Free l host) :
    ∃ above last disk, Disk.names l.name = above ++ [last] ∧ makeDirectory host l = .ok disk ∧
      host.disk.Grows disk ∧ disk.Leads (Disk.names host.directory) above ∧
      Disk.SameBut (Disk.OnWay (Disk.names host.directory) above) host.disk disk := by
  obtain ⟨parent, hparent⟩ := Disk.exists_parent? hl.named
  obtain ⟨last, hnames⟩ := Disk.names_parent? hparent
  unfold makeDirectory
  rw [hparent]
  dsimp only
  by_cases hempty : parent.isEmpty = true
  · obtain rfl : parent = "" := String.isEmpty_iff.1 hempty
    exact ⟨[], last, host.disk, hnames, if_pos hempty, .refl _, trivial, .refl _⟩
  · have hpassable : ∀ taken, taken <+: Disk.names parent → taken ≠ [] →
        host.disk.Passable (Disk.walk (Disk.names host.directory) taken) := by
      intro taken htaken hne
      have hon : taken <+: Disk.names l.name := htaken.trans (hnames ▸ List.prefix_append _ _)
      rw [(show Disk.Descend taken from fun name hname => hdown name (hon.subset hname)).walk_eq]
      exact .inl (hfree.free taken hon hne)
    obtain ⟨disk, hcreated⟩ := Disk.exists_createFrom hpassable
    obtain ⟨hgrows, hleads⟩ := Disk.leads_of_createFrom hcreated
    refine ⟨_, last, disk, hnames, ?_, hgrows, hleads, Disk.sameBut_createFrom hcreated⟩
    rw [if_neg hempty, Disk.createDirectories, if_neg (by simp [Disk.isAbsolute_parent? hparent, hl.relative]), hcreated]

/-- **A relative database opens where nothing is.**  It is an empty file at its place. -/
theorem opening_of_free (hl : l.Relative) (hwritable : l.readOnly = false) (hdown : Disk.Descend (Disk.names l.name))
    (hfree : Free l host) :
    ∃ disk, makeDirectory host l = .ok disk ∧
      opening disk host.directory l =
        .ok (disk.put (l.place host.directory) (.text ""), .file (l.place host.directory) false) := by
  obtain ⟨above, last, disk, hnames, hmade, hgrows, hleads, hsame⟩ := exists_makeDirectory hl hdown hfree
  refine ⟨disk, hmade, ?_⟩
  have hdirectory := hgrows _ hfree.directory
  have habove : Disk.Descend above := fun name hname => hdown name (hnames ▸ List.mem_append_left _ hname)
  have hplace : l.place host.directory = Disk.names host.directory ++ (above ++ [last]) := by
    rw [Location.place, hdown.walk_eq, hnames]
  have hresolve : disk.resolve host.directory l.name = .ok (l.place host.directory) := by
    have hne : ¬ l.name.isEmpty = true := fun hempty => by
      have hnamed := hl.named
      rw [String.isEmpty_iff.1 hempty] at hnamed
      exact hnamed rfl
    rw [Disk.resolve, if_neg hne, if_neg (by simp [hl.relative]), Location.place, hnames]
    exact Disk.follow_of_leads hdirectory hleads last
  -- the file lies deeper than every directory that was made
  have hnew : disk.node? (l.place host.directory) = none := by
    have hnot : ¬ Disk.OnWay (Disk.names host.directory) above (l.place host.directory) := by
      rintro ⟨taken, ⟨rest, rfl⟩, -, haddress⟩
      have htaken : Disk.Descend taken := fun name hname => habove name (List.mem_append_left _ hname)
      rw [hplace, htaken.walk_eq, List.append_assoc, ← List.append_assoc] at haddress
      exact Disk.address_append_ne _ (List.append_ne_nil_of_right_ne_nil _ (List.cons_ne_nil _ _)) haddress
    rw [hsame _ hnot, hplace, ← hnames]
    exact hfree.free _ (List.prefix_refl _) hl.named
  have henter : disk.enter (l.place host.directory).dropLast = .ok () := by
    have hup := Disk.node?_walk_of_leads hdirectory hleads
    rw [habove.walk_eq] at hup
    rw [hplace, ← List.append_assoc, List.dropLast_concat, Disk.enter, hup]
  rw [opening, hl.file]
  dsimp only
  rw [openFile, hresolve]
  simp only [hnew, henter, hwritable]
  rfl

theorem content?_put {place : List String} (hne : place ≠ []) (node : Node) (readOnly : Bool) :
    content? (disk.put place node) (.file place readOnly) = fileContent? node := by
  have hnode : (disk.put place node).node? place = some node := by
    rw [Disk.node?_put, if_neg (by simp [hne]), if_pos rfl]
  rw [content?, hnode, Option.bind_some]

/-- **A relative database is made where nothing is**, with its table if it is asked for. -/
theorem connect_of_free (hl : l.Relative) (hwritable : l.readOnly = false) (hdown : Disk.Descend (Disk.names l.name))
    (hfresh : r.connection = none) (hurl : Location.ofUrl? (r.host.expandTilde r.settings.url) = some l)
    (hfree : Free l r.host) :
    r.connect.1 = .ok (.file (l.place r.host.directory) false) ∧
      content? r.connect.2.host.disk (.file (l.place r.host.directory) false) =
        some (if r.settings.createSchema then Sql.Database.blank.withTable else Sql.Database.blank) := by
  obtain ⟨disk, hmade, hopen⟩ := opening_of_free hl hwritable hdown hfree
  have hne : l.place r.host.directory ≠ [] := by
    rw [Location.place, hdown.walk_eq]
    exact List.append_ne_nil_of_right_ne_nil _ hl.named
  have hempty : content? (disk.put (l.place r.host.directory) (.text "")) (.file (l.place r.host.directory) false) =
      some Sql.Database.blank := content?_put hne _ _
  rw [connect_of_made hfresh hurl hmade, hopen]
  dsimp only
  cases hschema : r.settings.createSchema with
  | false =>
    rw [preparing, hschema, if_neg Bool.false_ne_true]
    exact ⟨rfl, hempty⟩
  | true =>
    rw [preparing, hschema, if_pos rfl, createTable, hempty]
    exact ⟨rfl, content?_put hne _ _⟩

end DatabaseRegistry

/-! ## Below a tilde -/

/-- Statements that are read or left blank.  Another text may be a statement to a database that goes beyond the table of
keys, such as one that attaches another file. -/
def Queries.Readable (q : Queries) : Prop :=
  ∀ text ∈ [q.select, q.index, q.insert, q.update, q.delete],
    Text.isBlankText text = true ∨ (Sql.Statement.read? text).isSome = true

instance (q : Queries) : Decidable q.Readable := inferInstanceAs (Decidable (∀ _ ∈ _, _))

/-- A file below a tilde. -/
def Location.tilde (q : String) : Location := ⟨some ("~/" ++ q), "~/" ++ q, false⟩

theorem Location.names_tilde (q : String) : Disk.names (tilde q).name = "~" :: Disk.names q := by
  have hname : "~/" ++ q = String.ofList (['~'] ++ '/' :: q.toList) := by
    rw [← String.toList_inj, String.toList_append, String.toList_ofList, String.toList_ofList]
    rfl
  have htilde : Disk.names (String.ofList ['~']) = ["~"] := rfl
  rw [tilde, hname, Disk.names_append, htilde, String.ofList_toList, List.singleton_append]

theorem Location.relative_tilde (q : String) : (tilde q).Relative := by
  refine ⟨rfl, ?_, ?_⟩
  · rw [tilde, Disk.isAbsolute, String.toList_append]
    rfl
  · rw [names_tilde]
    exact List.cons_ne_nil _ _

theorem Host.expandTilde_url (h : Host) (p : String) : h.expandTilde ("sqlite://~/" ++ p) = "sqlite://~/" ++ p := by
  have htext : ("sqlite://~/" ++ p).toList = 's' :: ("qlite://~/".toList ++ p.toList) := by
    rw [String.toList_append]
    rfl
  rw [expandTilde, htext]
  rfl

theorem Disk.Descend.tilde {ns : List String} (h : Disk.Descend ns) : Disk.Descend ("~" :: ns) := by
  intro name hname
  rcases List.mem_cons.1 hname with rfl | hname
  · exact ⟨by decide, by decide⟩
  · exact h name hname

namespace DatabaseRegistry

variable {r : DatabaseRegistry}

theorem ofSettings_tilde (h : Host) (family : KeyFamily) {s : DatabaseSettings} (hurl : s.url = "sqlite://~/" ++ p) :
    ofSettings h family s = .ok ⟨family, s, h, none⟩ := by
  have hfilled : Text.isBlankText s.url = false := by
    rw [hurl, Text.isBlankText, String.toList_append]
    rfl
  rw [ofSettings, hfilled]
  rfl

theorem ofUrl?_of_tilde (hurl : r.settings.url = "sqlite://~/" ++ p) (hp : '?' ∉ p.toList)
    (hq : Location.unescaped? p.toList = some q) :
    Location.ofUrl? (r.host.expandTilde r.settings.url) = some (.tilde q) := by
  rw [hurl, Host.expandTilde_url, Location.ofUrl?_tilde hp, hq]
  rfl

/-- However a registry below a tilde is used, its database stays where the url leads from the current directory. -/
theorem tilde_after (hfresh : r.connection = none) (hurl : r.settings.url = "sqlite://~/" ++ p) (hp : '?' ∉ p.toList)
    (hq : Location.unescaped? p.toList = some q) (calls : List Registry.Call) :
    (∀ c, (Registry.after r calls).connect.1 = .ok c →
      c = .file (Disk.walk (Disk.names r.host.directory) ("~" :: Disk.names q)) false) ∧
    Disk.SameBut (Disk.OnWay (Disk.names r.host.directory) ("~" :: Disk.names q)) r.host.disk
      (Registry.after r calls).host.disk := by
  have hlocation := ofUrl?_of_tilde hurl hp hq
  have hl := Location.relative_tilde q
  have hstays := stays_after hl hlocation hfresh calls
  have hplace := (hstays.connect hl hlocation).2
  have hdisk := hstays.disk
  rw [Location.place, Location.names_tilde] at hplace
  rw [Location.OnWay, Location.names_tilde] at hdisk
  exact ⟨hplace, hdisk⟩

/-- Where nothing is on the way, a database below a tilde is made. -/
theorem tilde_made (hfresh : r.connection = none) (hurl : r.settings.url = "sqlite://~/" ++ p) (hp : '?' ∉ p.toList)
    (hq : Location.unescaped? p.toList = some q) (hdown : Disk.Descend (Disk.names q)) (hfree : Free (.tilde q) r.host) :
    r.connect.1 = .ok (.file (Disk.names r.host.directory ++ "~" :: Disk.names q) false) ∧
      content? r.connect.2.host.disk (.file (Disk.names r.host.directory ++ "~" :: Disk.names q) false) =
        some (if r.settings.createSchema then Sql.Database.blank.withTable else Sql.Database.blank) := by
  have hlocation := ofUrl?_of_tilde hurl hp hq
  have htilde : Disk.Descend (Disk.names (Location.tilde q).name) := by
    rw [Location.names_tilde]
    exact hdown.tilde
  have hmade := connect_of_free (Location.relative_tilde q) rfl htilde hfresh hlocation hfree
  rwa [Location.place, Location.names_tilde, hdown.tilde.walk_eq] at hmade

/-- **A tilde behind the scheme names a directory in the current one**, whatever the home directory is.  However the
registry is used, its database is there if it is anywhere, and with statements that are read no node is touched that is
not on the way there from the current directory.  Where nothing is on that way the database is made; and from two
directories the same url leads to two databases.  A name that cannot be read leads nowhere. -/
theorem tilde_below_directory (h : Host) (family : KeyFamily) {s : DatabaseSettings}
    (hurl : s.url = "sqlite://~/" ++ p) (hp : '?' ∉ p.toList) :
    ∃ r, ofSettings h family s = .ok r ∧
      (Location.unescaped? p.toList = none → r.connect = (.error (trouble "invalid url"), r)) ∧
      ∀ q, Location.unescaped? p.toList = some q →
        (∀ calls,
          (∀ c, (Registry.after r calls).connect.1 = .ok c →
            c = .file (Disk.walk (Disk.names h.directory) ("~" :: Disk.names q)) false) ∧
          (s.queries.Readable →
            Disk.SameBut (Disk.OnWay (Disk.names h.directory) ("~" :: Disk.names q)) h.disk
              (Registry.after r calls).host.disk)) ∧
        (Disk.Descend (Disk.names q) → Free (.tilde q) h →
          r.connect.1 = .ok (.file (Disk.names h.directory ++ "~" :: Disk.names q) false) ∧
          content? r.connect.2.host.disk (.file (Disk.names h.directory ++ "~" :: Disk.names q) false) =
            some (if s.createSchema then Sql.Database.blank.withTable else Sql.Database.blank)) ∧
        (Disk.Descend (Disk.names q) → ∀ directory,
          Disk.address (Disk.names directory) ≠ Disk.address (Disk.names h.directory) →
          Disk.address (Disk.walk (Disk.names directory) ("~" :: Disk.names q)) ≠
            Disk.address (Disk.walk (Disk.names h.directory) ("~" :: Disk.names q))) := by
  refine ⟨⟨family, s, h, none⟩, ofSettings_tilde h family hurl, fun hnone => ?_, fun q hq => ⟨?_, ?_, ?_⟩⟩
  · simp only [DatabaseRegistry.connect, hurl, Host.expandTilde_url, Location.ofUrl?_tilde hp, hnone, Option.map_none]
  · intro calls
    obtain ⟨hplace, hdisk⟩ := tilde_after (r := ⟨family, s, h, none⟩) rfl hurl hp hq calls
    exact ⟨hplace, fun _ => hdisk⟩
  · exact tilde_made (r := ⟨family, s, h, none⟩) rfl hurl hp hq
  · intro hdown directory hother hsame
    rw [hdown.tilde.walk_eq, hdown.tilde.walk_eq] at hsame
    exact hother (Disk.address_append_inj hsame)

/-- A process that runs in another directory than its home. -/
def away : Host where
  environment := SortedMap.empty.insert "HOME" "/home/x"
  disk := ((Disk.empty.put ["home"] .directory).put ["home", "x"] .directory).put ["srv"] .directory
  directory := "/srv"

theorem free_away (hnone : ∀ n < ("~" :: Disk.names q).length,
    (away.disk.node? (["srv"] ++ ("~" :: Disk.names q).take (n + 1))).isNone = true) : Free (.tilde q) away := by
  refine ⟨rfl, fun taken htaken hne => ?_⟩
  have hdirectory : Disk.names away.directory = ["srv"] := rfl
  rw [Location.names_tilde] at htaken
  obtain ⟨n, hn⟩ : ∃ n, taken.length = n + 1 := Nat.exists_eq_add_one.2 (List.length_pos_iff.2 hne)
  have hlength := htaken.length_le
  rw [hdirectory, List.prefix_iff_eq_take.1 htaken, hn]
  exact Option.isNone_iff_eq_none.1 (hnone n (by omega))

/-- Away from home, the default settings make their database in the current directory, and touch nothing else. -/
theorem tilde_of_defaults : ∃ r, ofSettings away .rsa .defaults = .ok r ∧
    r.connect.1 = .ok (.file ["srv", "~", ".local", "share", "adsisto", "keys.db"] false) ∧
    DatabaseSettings.defaults.queries.Readable ∧
    ∀ calls, Disk.SameBut (Disk.OnWay ["srv"] ["~", ".local", "share", "adsisto", "keys.db"]) away.disk
      (Registry.after r calls).host.disk := by
  have hurl : DatabaseSettings.defaults.url = "sqlite://~/" ++ ".local/share/adsisto/keys.db" := rfl
  have hread : Location.unescaped? ".local/share/adsisto/keys.db".toList = some ".local/share/adsisto/keys.db" := by
    rw [Location.unescaped?, Text.utf8_ofList]
    exact Text.ofUtf8?_bytes ".local/share/adsisto/keys.db".toList
  obtain ⟨r, hr, -, hall⟩ := tilde_below_directory away .rsa hurl (by decide)
  have hdown : Disk.Descend (Disk.names ".local/share/adsisto/keys.db") := by
    unfold Disk.Descend
    decide
  have hreadable : DatabaseSettings.defaults.queries.Readable := by decide
  obtain ⟨hused, hmade, -⟩ := hall _ hread
  exact ⟨r, hr, (hmade hdown (free_away (by decide))).1, hreadable, fun calls => (hused calls).2 hreadable⟩

/-- Settings with a short url of the same form. -/
def tildeSettings : DatabaseSettings := { DatabaseSettings.defaults with url := "sqlite://~/k.db" }

/-- **The home directory is not looked at.**  The database is made below the current directory, and however the registry
is used there is nothing in the home directory. -/
theorem tilde_not_home : away.home = "/home/x" ∧ ∃ r, ofSettings away .rsa tildeSettings = .ok r ∧
    r.connect.1 = .ok (.file ["srv", "~", "k.db"] false) ∧
    ∀ calls, (Registry.after r calls).host.disk.node? ["home", "x", "k.db"] = none := by
  have hurl : tildeSettings.url = "sqlite://~/" ++ "k.db" := rfl
  have hread : Location.unescaped? "k.db".toList = some "k.db" := by
    rw [Location.unescaped?, Text.utf8_ofList]
    exact Text.ofUtf8?_bytes "k.db".toList
  have hnames : Disk.names "k.db" = ["k.db"] := rfl
  have hdown : Disk.Descend (Disk.names "k.db") := by
    unfold Disk.Descend
    decide
  refine ⟨rfl, ⟨.rsa, tildeSettings, away, none⟩, ofSettings_tilde away .rsa hurl, ?_, fun calls => ?_⟩
  · exact (tilde_made (r := ⟨.rsa, tildeSettings, away, none⟩) rfl hurl (by decide) hread hdown
      (free_away (by decide))).1
  · have hsame := (tilde_after (r := ⟨.rsa, tildeSettings, away, none⟩) rfl hurl (by decide) hread calls).2
    rw [hsame]
    · rfl
    -- what is on the way lies below `/srv`
    · rintro ⟨taken, htaken, -, haddress⟩
      have hdirectory : Disk.names away.directory = ["srv"] := rfl
      have htakenDown : Disk.Descend taken := fun name hname => hdown.tilde name (htaken.subset hname)
      rw [htakenDown.walk_eq, hdirectory, Disk.address_append] at haddress
      have hstart := congrArg (fun s => s.toList.take 2) haddress
      rw [String.toList_append] at hstart
      exact absurd hstart (by simp [Disk.address])

end DatabaseRegistry
end Gatehouse
