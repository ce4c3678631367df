import Gatehouse.Proofs.Host.Path
import Gatehouse.Settings.File
/-!
# The settings file — what its text gives

A file's text gives settings by itself (`Settings.ofText?`), and they are what is loaded where no variable of the host
overrides any (`load_of_look`).  The text that is written anew gives the defaults, whatever line its path makes in the
comments at its start (`ofText?_defaultText`).
-/
namespace Gatehouse

/-! ## Lines of a document -/

namespace Toml

variable {p : Progress} {cs rest : List Char}

/-- Characters that stand on one line. -/
def IsLine (cs : List Char) : Prop := ∀ c ∈ cs, isLineChar c = true

theorem isLine_of_all (h : cs.all isLineChar = true) : IsLine cs := List.all_eq_true.1 h

theorem IsLine.append {a b : List Char} (ha : IsLine a) (hb : IsLine b) : IsLine (a ++ b) := fun c hc =>
  (List.mem_append.1 hc).elim (ha c) (hb c)

theorem comment?_line : ∀ {cs : List Char}, IsLine cs → comment? (cs ++ '\n' :: rest) = some ('\n' :: rest)
  | [], _ => rfl
  | c :: cs, h => by
    have hline : isLineChar c = true := h c List.mem_cons_self
    have hnewline : c ≠ '\n' := by
      rintro rfl
      exact absurd hline (by decide)
    have hreturn : c ≠ '\r' := by
      rintro rfl
      exact absurd hline (by decide)
    rw [List.cons_append, comment?, if_pos hline]
    · exact comment?_line fun d hd => h d (List.mem_cons_of_mem c hd)
    · exact hnewline
    · exact fun _ h => absurd h hreturn

theorem document?_cons (fuel : Nat) (c : Char) (i : List Char) :
    document? (fuel + 1) p (c :: i) = (line? p (c :: i)).bind fun next => document? fuel next.1 next.2 := rfl

theorem line?_of_lineEnd? {i : List Char} (h : lineEnd? ('#' :: i) = some rest) : line? p ('#' :: i) = some (p, rest) := by
  have hskip : skipSpace ('#' :: i) = '#' :: i := rfl
  unfold line?
  rw [hskip]
  split
  · rename_i hheader
    exact absurd (List.cons.inj hheader).1 (by decide)
  · rename_i hheader
    exact absurd (List.cons.inj hheader).1 (by decide)
  · rw [h]

/-- **A comment on a line of its own changes nothing.** -/
theorem document?_comment (h : IsLine cs) (fuel : Nat) :
    document? (fuel + 1) p ('#' :: (cs ++ '\n' :: rest)) = document? fuel p rest := by
  have hend : lineEnd? ('#' :: (cs ++ '\n' :: rest)) = (comment? (cs ++ '\n' :: rest)).bind fun i =>
      if i.isEmpty then some [] else newline? i := rfl
  rw [comment?_line h] at hend
  rw [document?_cons, line?_of_lineEnd? hend]
  rfl

theorem document?_blank (fuel : Nat) : document? (fuel + 1) p ('\n' :: rest) = document? fuel p rest := rfl

/-- More fuel changes nothing once a document is read. -/
theorem document?_mono : ∀ {fuel fuel' : Nat} {p : Progress} {i : List Char} {e : Entries}, fuel ≤ fuel' →
    document? fuel p i = some e → document? fuel' p i = some e
  | _, _, _, [], _, _, h => by
    rw [document?] at h ⊢
    exact h
  | 0, _, _, _ :: _, _, _, h => by cases h
  | fuel + 1, fuel' + 1, p, c :: i, e, hle, h => by
    unfold document? at h ⊢
    obtain ⟨⟨q, rest⟩, hline, h⟩ := Option.bind_eq_some_iff.1 h
    rw [hline]
    exact document?_mono (Nat.le_of_succ_le_succ hle) h

/-- A text is the document that is read with less fuel than it has letters. -/
theorem parse?_of_document? {text : List Char} (hmark : text.head? ≠ some '\ufeff') {fuel : Nat}
    (hfuel : fuel ≤ text.length) {e : Entries} (h : document? fuel ⟨[], []⟩ text = some e) :
    parse? text = some (.object (entriesJson e)) := by
  unfold parse?
  split
  · exact absurd rfl hmark
  · dsimp only
    rw [document?_mono hfuel h]
    rfl

end Toml

-- settings can be compared, so that what is read back can be checked by evaluation
deriving instance DecidableEq for SortedMap
deriving instance DecidableEq for MemorySettings
deriving instance DecidableEq for RegistrySettings
deriving instance DecidableEq for Settings

namespace Settings

variable {h : Host} {path text : String} {s : Settings}

/-! ## What is loaded -/

/-- The settings that the text of a file gives by itself. -/
def ofText? (text : String) : Option Settings :=
  (Toml.parse? text.toList).bind fun v =>
    ((shape .lenient).decode (Layers.apply Layers.builtIn (Layers.membersOf v))).toOption

/-- No variable of the host overrides a setting. -/
def Unoverridden (h : Host) : Prop :=
  ∀ e ∈ h.environment.entries, ¬ (Text.lower (Host.variablePrefix ++ "__")).toList <+: (Text.lower e.1).toList

theorem Unoverridden.ofVariables_eq (h : Unoverridden host) : Layers.ofVariables host = [] := by
  rw [Layers.ofVariables, List.filterMap_eq_nil_iff]
  intro e he
  rw [Option.map_eq_none_iff, ← Option.not_isSome_iff_eq_none, Text.dropPrefix?_isSome_iff]
  exact h e he

/-- **What is loaded from a file is what its text gives**, and every error is about its path. -/
theorem load_of_look (hfile : h.disk.look h.directory path = .ok (.text text)) (hunset : Unoverridden h) :
    load h path = match ofText? text with
      | some s => .ok s
      | none => .error (if (Toml.parse? text.toList).isSome then .decode path else .load path) := by
  have hnode : fileNode? h path = some (.text text) := by rw [fileNode?, hfile]
  unfold load fileMembers ofText?
  rw [hnode, Option.some_or]
  dsimp only
  cases Toml.parse? text.toList with
  | none => rfl
  | some v =>
    have hstack : Layers.stack h (Layers.membersOf v) = Layers.apply Layers.builtIn (Layers.membersOf v) := by
      unfold Layers.stack
      rw [hunset.ofVariables_eq]
      rfl
    dsimp only
    rw [hstack, Option.bind_some]
    cases (shape .lenient).decode (Layers.apply Layers.builtIn (Layers.membersOf v)) with
    | ok s => rfl
    | error mismatch => rfl

/-! ## The defaults -/

/-- The entries that the written defaults are, and the settings that they give. -/
theorem exists_defaults : ∃ e, Toml.document? 60 ⟨[], []⟩ (Toml.write defaults.members) = some e ∧
    (shape .lenient).decode (Layers.apply Layers.builtIn (Toml.entriesJson e)) = .ok defaults := by
  have hread : ((Toml.document? 60 ⟨[], []⟩ (Toml.write defaults.members)).bind fun e =>
      ((shape .lenient).decode (Layers.apply Layers.builtIn (Toml.entriesJson e))).toOption) = some defaults := by
    decide +kernel
  obtain ⟨e, hdocument, hdecode⟩ := Option.bind_eq_some_iff.1 hread
  exact ⟨e, hdocument, toOption_eq_some_iff.1 hdecode⟩

theorem lt_length_write : 59 < (Toml.write defaults.members).length := by
  have hrest : (Toml.write defaults.members).drop 59 ≠ [] := List.isEmpty_eq_false_iff.1 (by decide +kernel)
  exact List.length_lt_of_drop_ne_nil hrest

/-- The last comment of a new file. -/
def fileHint : List Char := " Set auth.public_key_path and auth.private_key_path before serving.".toList

/-- A new file begins with four comments and a blank line. -/
theorem fileHeader_append (path : String) (body : List Char) : fileHeader path ++ body =
    '#' :: (" Configuration for adsisto".toList ++ '\n' ::
    '#' :: (" File: ".toList ++ path.toList ++ '\n' ::
    '#' :: ([] ++ '\n' ::
    '#' :: (fileHint ++ '\n' :: '\n' :: body)))) := by
  have hstart : ("# Configuration for " ++ Host.appName ++ "\n# File: ").toList =
      '#' :: (" Configuration for adsisto".toList ++ '\n' :: '#' :: " File: ".toList) := by decide +kernel
  have hend : "\n#\n# Set auth.public_key_path and auth.private_key_path before serving.\n\n".toList =
      '\n' :: '#' :: '\n' :: '#' :: (fileHint ++ ['\n', '\n']) := by
    decide +kernel
  rw [fileHeader, String.toList_append, String.toList_append, hstart, hend]
  simp only [List.cons_append, List.append_assoc, List.nil_append]

/-- **The header of a new file gives nothing**, if its path fits on a line. -/
theorem document?_fileHeader (hpath : Toml.IsLine path.toList) (fuel : Nat) (p : Toml.Progress) (body : List Char) :
    Toml.document? (fuel + 5) p (fileHeader path ++ body) = Toml.document? fuel p body := by
  have htitle : Toml.IsLine " Configuration for adsisto".toList := Toml.isLine_of_all (by decide +kernel)
  have hlabel : Toml.IsLine " File: ".toList := Toml.isLine_of_all (by decide +kernel)
  have hhint : Toml.IsLine fileHint := Toml.isLine_of_all (by decide +kernel)
  rw [fileHeader_append, Toml.document?_comment htitle, Toml.document?_comment (hlabel.append hpath),
    Toml.document?_comment (Toml.isLine_of_all rfl), Toml.document?_comment hhint, Toml.document?_blank]

theorem parse?_fileHeader (hpath : Toml.IsLine path.toList) {body : List Char} {fuel : Nat}
    (hfuel : fuel ≤ body.length) {e : Toml.Entries} (h : Toml.document? fuel ⟨[], []⟩ body = some e) :
    Toml.parse? (fileHeader path ++ body) = some (.object (Toml.entriesJson e)) := by
  refine Toml.parse?_of_document? ?_ ?_ ((document?_fileHeader hpath fuel _ body).trans h)
  · rw [fileHeader_append, List.head?_cons]
    decide
  · rw [fileHeader_append]
    simp only [List.length_append, List.length_cons, List.length_nil]
    omega

/-- **The text that is written anew gives the defaults**, if its path fits on a line. -/
theorem ofText?_defaultText (hpath : Toml.IsLine path.toList) : ofText? (defaultText path) = some defaults := by
  obtain ⟨e, hdocument, hdecode⟩ := exists_defaults
  rw [ofText?, defaultText, String.toList_ofList, parse?_fileHeader hpath lt_length_write hdocument, Option.bind_some,
    Layers.membersOf, hdecode]
  rfl

end Settings
end Gatehouse
