import Gatehouse.Guard
import Gatehouse.Proofs.Key.Signature
import Gatehouse.Proofs.Pem
import Gatehouse.Proofs.Registry.Memory
import Gatehouse.Proofs.Text.Words
/-!
# Starting up — the first check that fails is reported

`Guard.Starts` lists how a start ends, in the order of the checks, each with what its check found and with the checks
before it passed: the name of the algorithm (`Algorithm.Names`), the settings that must not be zero or blank
(`AuthSettings.InOrder`), the texts of the two keys (`AuthSettings.Yields`), the keys, the signature that the pair is
tried with, the backend and what it builds.  `start_eq_iff`: a start ends as it is listed.  With the settings of
`pairedSettings` it succeeds on every host (`starts_pairedSettings`).
-/
namespace Gatehouse

open Text (Blank SameWord)

/-! ## The name of the algorithm -/

namespace Algorithm

/-- The accepted names. -/
def spellings : List (String × Algorithm) :=
  [("RS256", rs256), ("RS384", rs384), ("RS512", rs512), ("ES256", es256), ("ES384", es384), ("ES512", es512)]

/-- What a name says: an algorithm, one with a shared secret, or nothing known. -/
inductive Names (s : String) : Except Rejection Algorithm → Prop
  | symmetric {name : String} (hmem : name ∈ ["HS256", "HS384", "HS512"]) (hsame : SameWord (Text.trim s) name) :
      Names s (.error (.symmetric name))
  | accepted {name : String} {a : Algorithm} (hmem : (name, a) ∈ spellings) (hsame : SameWord (Text.trim s) name) :
      Names s (.ok a)
  | unknown (hsecret : ∀ name ∈ ["HS256", "HS384", "HS512"], ¬ SameWord (Text.trim s) name)
      (hother : ∀ name a, (name, a) ∈ spellings → ¬ SameWord (Text.trim s) name) :
      Names s (.error (.unknown (Text.trim s)))

theorem mem_spellings (a : Algorithm) : (a.name, a) ∈ spellings := by cases a <;> simp [spellings, name]

theorem eq_name_of_mem {spelling : String} {a : Algorithm} (h : (spelling, a) ∈ spellings) : spelling = a.name := by
  simp only [spellings, List.mem_cons, List.not_mem_nil, or_false, Prod.mk.injEq] at h
  rcases h with ⟨rfl, rfl⟩ | ⟨rfl, rfl⟩ | ⟨rfl, rfl⟩ | ⟨rfl, rfl⟩ | ⟨rfl, rfl⟩ | ⟨rfl, rfl⟩ <;> rfl

theorem sameWord_name_iff {s : String} {a : Algorithm} : SameWord s a.name ↔ a.name = Text.upper s := by
  have hupper : Text.upper a.name = a.name := by cases a <;> decide
  rw [Text.sameWord_iff, hupper, eq_comm]

theorem sameWord_symmetric_iff {s spelling : String} (h : spelling ∈ symmetricNames) :
    SameWord s spelling ↔ Text.upper s = spelling := by
  have hupper : ∀ name ∈ symmetricNames, Text.upper name = name := by decide
  rw [Text.sameWord_iff, hupper spelling h]

theorem contains_symmetricNames_iff {s : String} :
    symmetricNames.contains (Text.upper s) = true ↔ ∃ name ∈ symmetricNames, SameWord s name := by
  rw [List.contains_iff_mem]
  constructor
  · exact fun h => ⟨_, h, (sameWord_symmetric_iff h).2 rfl⟩
  · rintro ⟨name, hmem, hsame⟩
    rwa [(sameWord_symmetric_iff hmem).1 hsame]

theorem Names.ofName?_eq {s : String} {v : Except Rejection Algorithm} (h : Names s v) : ofName? s = v := by
  cases h with
  | symmetric hmem hsame =>
    unfold ofName?
    rw [(sameWord_symmetric_iff hmem).1 hsame]
    exact if_pos (List.contains_iff_mem.2 hmem)
  | @accepted spelling a hmem hsame =>
    rw [eq_name_of_mem hmem, sameWord_name_iff] at hsame
    unfold ofName?
    rw [← hsame]
    cases a <;> rfl
  | unknown hsecret hother =>
    have hsymmetric : ¬ symmetricNames.contains (Text.upper (Text.trim s)) = true := fun h => by
      obtain ⟨name, hmem, hsame⟩ := contains_symmetricNames_iff.1 h
      exact hsecret name hmem hsame
    have hnone : (all.find? fun a => a.name == Text.upper (Text.trim s)) = none :=
      List.find?_eq_none.2 fun a _ h => hother a.name a (mem_spellings a) (sameWord_name_iff.2 (eq_of_beq h))
    simp only [ofName?, if_neg hsymmetric, hnone]

theorem names_ofName? (s : String) : Names s (ofName? s) := by
  unfold ofName?
  dsimp only
  split
  · rename_i h
    have hmem := List.contains_iff_mem.1 h
    exact .symmetric hmem ((sameWord_symmetric_iff hmem).2 rfl)
  rename_i hsymmetric
  split
  · rename_i a hfind
    have hname := List.find?_some hfind
    rw [beq_iff_eq] at hname
    exact .accepted (mem_spellings a) (sameWord_name_iff.2 hname)
  · rename_i hnone
    refine .unknown (fun name hmem hsame => hsymmetric (contains_symmetricNames_iff.2 ⟨name, hmem, hsame⟩))
      fun name a hmem hsame => ?_
    rw [eq_name_of_mem hmem, sameWord_name_iff] at hsame
    refine List.find?_eq_none.1 hnone a ?_ (beq_iff_eq.2 hsame)
    cases a <;> decide

/-- **A name says one thing**, and it is what is made of it. -/
theorem ofName?_eq_iff {s : String} {v : Except Rejection Algorithm} : ofName? s = v ↔ Names s v :=
  ⟨fun h => h ▸ names_ofName? s, Names.ofName?_eq⟩

end Algorithm

/-! ## The texts of the keys -/

namespace AuthSettings

/-- A setting is not given, or it is blank. -/
def Ungiven (setting : Option String) : Prop := ∀ s, setting = some s → Blank s

/-- What the text of a key is taken from: the value for it, the variable that the value names, or the file at its
path.  `missing` is how its absence is reported. -/
inductive Yields (h : Host) (missing : String → StartupError) (value path : Option String) :
    Except StartupError String → Prop
  | inline {text : String} (hvalue : value = some text) (hfilled : ¬ Blank text) (hplain : ∀ name, text ≠ "env:" ++ name) :
      Yields h missing value path (.ok text)
  | named {name text : String} (hvalue : value = some ("env:" ++ name)) (hset : h.lookup? name = some text)
      (hfilled : ¬ Blank text) : Yields h missing value path (.ok text)
  | unset {name : String} (hvalue : value = some ("env:" ++ name)) (hunset : h.lookup? name = none) :
      Yields h missing value path (.error (.variableNotFound name))
  | blank {name text : String} (hvalue : value = some ("env:" ++ name)) (hset : h.lookup? name = some text)
      (hblank : Blank text) : Yields h missing value path (.error (.variableEmpty name))
  | file {p text : String} (hvalue : Ungiven value) (hpath : path = some p) (hfilled : ¬ Blank p)
      (hread : h.readText (h.expandTilde p) = .ok text) : Yields h missing value path (.ok text)
  | unreadable {p : String} {fault : Disk.Fault} (hvalue : Ungiven value) (hpath : path = some p) (hfilled : ¬ Blank p)
      (hread : h.readText (h.expandTilde p) = .error fault) :
      Yields h missing value path (.error (missing (p ++ ": " ++ fault.message)))
  | absent (hvalue : Ungiven value) (hpath : Ungiven path) :
      Yields h missing value path (.error (missing "not configured"))

theorem exists_of_not_ungiven {setting : Option String} (hgiven : ¬ Ungiven setting) :
    ∃ s, setting = some s ∧ ¬ Blank s := by
  simpa only [Ungiven, not_forall, exists_prop] using hgiven

theorem filter_eq_some_iff {setting : Option String} {s : String} :
    (setting.filter fun v => !Text.isBlankText v) = some s ↔ setting = some s ∧ ¬ Blank s := by
  rw [Option.filter_eq_some_iff, Bool.not_eq_true', ← Bool.not_eq_true, Text.isBlankText_iff]

theorem filter_eq_none_iff {setting : Option String} :
    (setting.filter fun v => !Text.isBlankText v) = none ↔ Ungiven setting := by
  simp only [Option.filter_eq_none_iff, Bool.not_eq_true', Bool.not_eq_false, Text.isBlankText_iff, Ungiven]

theorem dropPrefix?_env {value : String} {name : List Char} :
    Text.dropPrefix? "env:".toList value.toList = some name ↔ value = "env:" ++ String.ofList name := by
  constructor
  · intro h
    obtain ⟨rest, hrest⟩ := Text.dropPrefix?_isSome_iff.1 (Option.isSome_of_eq_some h)
    rw [← hrest, Text.dropPrefix?_append, Option.some.injEq] at h
    rw [← String.toList_inj, ← hrest, h, String.toList_append, @String.toList_ofList name]
  · rintro rfl
    rw [String.toList_append, @String.toList_ofList name, Text.dropPrefix?_append]

theorem not_blank_env (name : String) : ¬ Blank ("env:" ++ name) := by
  intro h
  rw [Blank, String.toList_append] at h
  exact absurd (h 'e' (List.mem_append_left _ (by decide))) (by decide)

theorem dropPrefix?_named (name : String) :
    Text.dropPrefix? "env:".toList ("env:" ++ name).toList = some name.toList :=
  dropPrefix?_env.2 (by rw [String.ofList_toList])

theorem resolve_unset {h : Host} {name : String} (hunset : h.lookup? name = none) :
    resolve h ("env:" ++ name) = .error (.variableNotFound name) := by
  simp only [resolve, dropPrefix?_named, String.ofList_toList, hunset]

theorem resolve_set {h : Host} {name text : String} (hset : h.lookup? name = some text) :
    resolve h ("env:" ++ name) = if Text.isBlankText text then .error (.variableEmpty name) else .ok text := by
  simp only [resolve, dropPrefix?_named, String.ofList_toList, hset]

theorem resolve_plain {h : Host} {text : String} (hplain : ∀ name, text ≠ "env:" ++ name) :
    resolve h text = .ok text := by
  have hnone : Text.dropPrefix? "env:".toList text.toList = none :=
    Option.eq_none_iff_forall_ne_some.2 fun name hname => hplain _ (dropPrefix?_env.1 hname)
  unfold resolve
  rw [hnone]

/-- A value that is not blank is resolved. -/
theorem keyText_of_value {h : Host} {missing : String → StartupError} {path : Option String} {text : String}
    (hfilled : ¬ Blank text) : keyText h missing (some text) path = resolve h text := by
  rw [keyText, filter_eq_some_iff.2 ⟨rfl, hfilled⟩]

theorem Yields.keyText_eq {h : Host} {missing : String → StartupError} {value path : Option String}
    {v : Except StartupError String} (hyields : Yields h missing value path v) :
    keyText h missing value path = v := by
  cases hyields with
  | inline hvalue hfilled hplain => rw [hvalue, keyText_of_value hfilled, resolve_plain hplain]
  | named hvalue hset hfilled =>
    rw [hvalue, keyText_of_value (not_blank_env _), resolve_set hset, if_neg (mt Text.isBlankText_iff.1 hfilled)]
  | unset hvalue hunset => rw [hvalue, keyText_of_value (not_blank_env _), resolve_unset hunset]
  | blank hvalue hset hblank =>
    rw [hvalue, keyText_of_value (not_blank_env _), resolve_set hset, if_pos (Text.isBlankText_iff.2 hblank)]
  | file hvalue hpath hfilled hread =>
    simp only [keyText, filter_eq_none_iff.2 hvalue, filter_eq_some_iff.2 ⟨hpath, hfilled⟩, hread]
  | unreadable hvalue hpath hfilled hread =>
    simp only [keyText, filter_eq_none_iff.2 hvalue, filter_eq_some_iff.2 ⟨hpath, hfilled⟩, hread]
  | absent hvalue hpath => simp only [keyText, filter_eq_none_iff.2 hvalue, filter_eq_none_iff.2 hpath]

/-- There is some source, or an error that says what is wrong. -/
theorem exists_yields (h : Host) (missing : String → StartupError) (value path : Option String) :
    ∃ v, Yields h missing value path v := by
  by_cases hvalue : Ungiven value
  · by_cases hpath : Ungiven path
    · exact ⟨_, .absent hvalue hpath⟩
    obtain ⟨p, hp, hfilled⟩ := exists_of_not_ungiven hpath
    cases hread : h.readText (h.expandTilde p) with
    | ok text => exact ⟨_, .file hvalue hp hfilled hread⟩
    | error fault => exact ⟨_, .unreadable hvalue hp hfilled hread⟩
  obtain ⟨text, htext, hfilled⟩ := exists_of_not_ungiven hvalue
  by_cases hplain : ∀ name, text ≠ "env:" ++ name
  · exact ⟨_, .inline htext hfilled hplain⟩
  obtain ⟨name, rfl⟩ : ∃ name, text = "env:" ++ name := by simpa only [not_forall, not_not] using hplain
  cases hset : h.lookup? name with
  | none => exact ⟨_, .unset htext hset⟩
  | some v =>
    by_cases hblank : Blank v
    · exact ⟨_, .blank htext hset hblank⟩
    · exact ⟨_, .named htext hset hblank⟩

/-- **The text of a key comes from one source**, and it is what is loaded. -/
theorem keyText_eq_iff {h : Host} {missing : String → StartupError} {value path : Option String}
    {v : Except StartupError String} : keyText h missing value path = v ↔ Yields h missing value path v := by
  refine ⟨?_, Yields.keyText_eq⟩
  rintro rfl
  obtain ⟨v, hv⟩ := exists_yields h missing value path
  rwa [hv.keyText_eq]

theorem exists_write_eq (label : List Char) (content : List UInt8) : ∃ rest, Pem.write label content = '-' :: rest := by
  obtain ⟨rest, hrest⟩ := Pem.beginMark_prefix_written label content
  rw [Pem.write_eq, ← hrest]
  exact ⟨_, rfl⟩

theorem not_blank_write (label : List Char) (content : List UInt8) :
    ¬ Blank (String.ofList (Pem.write label content)) := by
  obtain ⟨rest, hrest⟩ := exists_write_eq label content
  intro hblank
  rw [Blank, String.toList_ofList, hrest] at hblank
  exact absurd (hblank '-' List.mem_cons_self) (by decide)

/-- **A PEM text in the settings is taken as it stands.** -/
theorem yields_write (h : Host) (missing : String → StartupError) (label : List Char) (content : List UInt8)
    (path : Option String) :
    Yields h missing (some (String.ofList (Pem.write label content))) path
      (.ok (String.ofList (Pem.write label content))) := by
  refine .inline rfl (not_blank_write label content) fun name hname => ?_
  obtain ⟨rest, hrest⟩ := exists_write_eq label content
  have hstart := congrArg String.toList hname
  rw [String.toList_ofList, hrest, String.toList_append] at hstart
  exact absurd (List.cons.inj hstart).1 (by decide)

/-! ## The values -/

/-- The settings that are no keys pass their checks. -/
structure InOrder (settings : AuthSettings) (a : Algorithm) : Prop where
  name : Algorithm.Names settings.algorithm (.ok a)
  assertion : settings.assertionTimeout ≠ 0
  session : settings.sessionTimeout ≠ 0
  registry : settings.registryTimeout ≠ 0
  cookie : ¬ Blank settings.cookieName

theorem InOrder.validate_eq {settings : AuthSettings} {a : Algorithm} (hvalues : InOrder settings a) :
    settings.validate = .ok a := by
  have hcookie := mt Text.isBlankText_iff.1 hvalues.cookie
  simp only [validate, hvalues.name.ofName?_eq, if_neg hvalues.assertion, if_neg hvalues.session,
    if_neg hvalues.registry, if_neg hcookie]

/-- The texts of both keys are there. -/
structure Given (h : Host) (settings : AuthSettings) (publicText privateText : String) : Prop where
  publicKey : Yields h .missingPublicKey settings.publicKey settings.publicKeyPath (.ok publicText)
  privateKey : Yields h .missingPrivateKey settings.privateKey settings.privateKeyPath (.ok privateText)

/-- The texts of both keys are there, and they are keys of the algorithm. -/
structure Parsed (h : Host) (settings : AuthSettings) (a : Algorithm) (publicText privateText : String)
    (pub : PublicKey) (priv : PrivateKey) : Prop extends Given h settings publicText privateText where
  parsedPublic : PublicKey.ofPem a publicText.toList = .ok pub
  parsedPrivate : PrivateKey.ofPem a privateText.toList = .ok priv

end AuthSettings

/-! ## The pair -/

/-- A pair is tried with one signature of its private half. -/
theorem KeyPair.check_eq {k : KeyPair} (hk : k.Encodes) :
    k.check =
      match k.sign (signingInput k.algorithm probe) with
      | .error fault => .error (.privateKey fault)
      | .ok signature =>
        if k.accepts (signingInput k.algorithm probe) signature then .ok k else .error .mismatch := by
  unfold check token
  dsimp only
  cases hsign : k.sign (signingInput k.algorithm probe) with
  | error fault => rfl
  | ok signature =>
    simp only [Except.map, verify, acceptsToken_append _ _ (hk.dot_not_mem hsign)]

/-! ## The start -/

namespace Guard

open AuthSettings (Given InOrder Parsed Yields keyText_eq_iff)

variable {σ : Type}

/-- A pair that was tried: the public half accepts what the private half signs. -/
inductive Paired (h : Host) (settings : AuthSettings) (a : Algorithm) : KeyPair → Prop
  | intro {publicText privateText : String} {pub : PublicKey} {priv : PrivateKey} {signature : List Char}
      (hparsed : Parsed h settings a publicText privateText pub priv)
      (hsign : priv.sign (KeyPair.signingInput a KeyPair.probe) = .ok signature)
      (haccepts : pub.accepts (KeyPair.signingInput a KeyPair.probe) signature = true) :
      Paired h settings a ⟨a, priv.sign, pub.accepts⟩

/-- How a start ends, by the first check that fails. -/
inductive Starts (h : Host) (settings : AuthSettings) (registry : RegistrySettings) (backends : Backends σ) :
    Except StartupError (Guard × σ) → Prop
  | algorithm {rejection : Algorithm.Rejection} (hname : Algorithm.Names settings.algorithm (.error rejection)) :
      Starts h settings registry backends (.error (.algorithm rejection))
  | assertionTimeout {a : Algorithm} (hname : Algorithm.Names settings.algorithm (.ok a))
      (hzero : settings.assertionTimeout = 0) :
      Starts h settings registry backends (.error (.zeroTimeout "authn_timeout_secs"))
  | sessionTimeout {a : Algorithm} (hname : Algorithm.Names settings.algorithm (.ok a))
      (hassertion : settings.assertionTimeout ≠ 0) (hzero : settings.sessionTimeout = 0) :
      Starts h settings registry backends (.error (.zeroTimeout "session_timeout_secs"))
  | registryTimeout {a : Algorithm} (hname : Algorithm.Names settings.algorithm (.ok a))
      (hassertion : settings.assertionTimeout ≠ 0) (hsession : settings.sessionTimeout ≠ 0)
      (hzero : settings.registryTimeout = 0) :
      Starts h settings registry backends (.error (.zeroTimeout "registry_timeout_ms"))
  | cookieName {a : Algorithm} (hname : Algorithm.Names settings.algorithm (.ok a))
      (hassertion : settings.assertionTimeout ≠ 0) (hsession : settings.sessionTimeout ≠ 0)
      (hregistry : settings.registryTimeout ≠ 0) (hblank : Blank settings.cookieName) :
      Starts h settings registry backends (.error .emptyCookieName)
  | publicText {a : Algorithm} {e : StartupError} (hvalues : InOrder settings a)
      (hpublic : Yields h .missingPublicKey settings.publicKey settings.publicKeyPath (.error e)) :
      Starts h settings registry backends (.error e)
  | privateText {a : Algorithm} {publicText : String} {e : StartupError} (hvalues : InOrder settings a)
      (hpublic : Yields h .missingPublicKey settings.publicKey settings.publicKeyPath (.ok publicText))
      (hprivate : Yields h .missingPrivateKey settings.privateKey settings.privateKeyPath (.error e)) :
      Starts h settings registry backends (.error e)
  | publicKey {a : Algorithm} {publicText privateText : String} {fault : Key.Fault} (hvalues : InOrder settings a)
      (hgiven : Given h settings publicText privateText) (hparse : PublicKey.ofPem a publicText.toList = .error fault) :
      Starts h settings registry backends (.error (.keys (.publicKey fault)))
  | privateKey {a : Algorithm} {publicText privateText : String} {pub : PublicKey} {fault : Key.Fault}
      (hvalues : InOrder settings a) (hgiven : Given h settings publicText privateText)
      (hpublic : PublicKey.ofPem a publicText.toList = .ok pub)
      (hparse : PrivateKey.ofPem a privateText.toList = .error fault) :
      Starts h settings registry backends (.error (.keys (.privateKey fault)))
  | unsigned {a : Algorithm} {publicText privateText : String} {pub : PublicKey} {priv : PrivateKey}
      {fault : Key.Fault} (hvalues : InOrder settings a)
      (hparsed : Parsed h settings a publicText privateText pub priv)
      (hsign : priv.sign (KeyPair.signingInput a KeyPair.probe) = .error fault) :
      Starts h settings registry backends (.error (.keys (.privateKey fault)))
  | mismatch {a : Algorithm} {publicText privateText : String} {pub : PublicKey} {priv : PrivateKey}
      {signature : List Char} (hvalues : InOrder settings a)
      (hparsed : Parsed h settings a publicText privateText pub priv)
      (hsign : priv.sign (KeyPair.signingInput a KeyPair.probe) = .ok signature)
      (hrefuses : pub.accepts (KeyPair.signingInput a KeyPair.probe) signature = false) :
      Starts h settings registry backends (.error (.keys .mismatch))
  | unknownBackend {a : Algorithm} {keys : KeyPair} (hvalues : InOrder settings a)
      (hpaired : Paired h settings a keys)
      (hnone : backends.builders.get? (Text.lower (Text.trim registry.backend)) = none) :
      Starts h settings registry backends (.error (.unknownBackend registry.backend))
  | registry {a : Algorithm} {keys : KeyPair} {build : Backend σ} {e : RegistryError} (hvalues : InOrder settings a)
      (hpaired : Paired h settings a keys)
      (hbackend : backends.builders.get? (Text.lower (Text.trim registry.backend)) = some build)
      (hbuild : build h registry a.family = .error e) :
      Starts h settings registry backends (.error (.registry e.message))
  | started {a : Algorithm} {keys : KeyPair} {build : Backend σ} {store : σ} (hvalues : InOrder settings a)
      (hpaired : Paired h settings a keys)
      (hbackend : backends.builders.get? (Text.lower (Text.trim registry.backend)) = some build)
      (hbuild : build h registry a.family = .ok store) :
      Starts h settings registry backends (.ok (⟨settings, keys⟩, store))

variable {h : Host} {settings : AuthSettings} {registry : RegistrySettings} {backends : Backends σ}

/-- What a start with parsed keys goes on with: the pair is tried, and the registry is built. -/
theorem start_of_parsed {a : Algorithm} {publicText privateText : String} {pub : PublicKey} {priv : PrivateKey}
    (hvalues : InOrder settings a) (hparsed : Parsed h settings a publicText privateText pub priv) :
    start h settings registry backends =
      match KeyPair.check ⟨a, priv.sign, pub.accepts⟩ with
      | .error fault => .error (.keys fault)
      | .ok keys =>
        match backends.build h registry a.family with
        | .error e => .error e
        | .ok store => .ok (⟨settings, keys⟩, store) := by
  simp only [start, hvalues.validate_eq, AuthSettings.loadKeys, hparsed.publicKey.keyText_eq,
    hparsed.privateKey.keyText_eq, KeyPair.ofPem, hparsed.parsedPublic, hparsed.parsedPrivate]
  cases KeyPair.check ⟨a, priv.sign, pub.accepts⟩ <;> rfl

theorem start_of_paired {a : Algorithm} {keys : KeyPair} (hvalues : InOrder settings a)
    (hpaired : Paired h settings a keys) :
    start h settings registry backends =
      match backends.build h registry a.family with
      | .error e => .error e
      | .ok store => .ok (⟨settings, keys⟩, store) := by
  cases hpaired with
  | intro hparsed hsign haccepts =>
    rw [start_of_parsed hvalues hparsed, KeyPair.check_eq (KeyPair.encodes_of_sign _ _ _)]
    simp only [hsign, haccepts, if_true]

/-- An end that is listed is the one that a start comes to. -/
theorem Starts.start_eq {v : Except StartupError (Guard × σ)} (hstarts : Starts h settings registry backends v) :
    start h settings registry backends = v := by
  cases hstarts with
  | algorithm hname => simp only [start, AuthSettings.validate, hname.ofName?_eq]
  | assertionTimeout hname hzero => simp only [start, AuthSettings.validate, hname.ofName?_eq, if_pos hzero]
  | sessionTimeout hname hassertion hzero =>
    simp only [start, AuthSettings.validate, hname.ofName?_eq, if_neg hassertion, if_pos hzero]
  | registryTimeout hname hassertion hsession hzero =>
    simp only [start, AuthSettings.validate, hname.ofName?_eq, if_neg hassertion, if_neg hsession, if_pos hzero]
  | cookieName hname hassertion hsession hregistry hblank =>
    simp only [start, AuthSettings.validate, hname.ofName?_eq, if_neg hassertion, if_neg hsession, if_neg hregistry,
      if_pos (Text.isBlankText_iff.2 hblank)]
  | publicText hvalues hpublic => simp only [start, hvalues.validate_eq, AuthSettings.loadKeys, hpublic.keyText_eq]
  | privateText hvalues hpublic hprivate =>
    simp only [start, hvalues.validate_eq, AuthSettings.loadKeys, hpublic.keyText_eq, hprivate.keyText_eq]
  | publicKey hvalues hgiven hparse =>
    simp only [start, hvalues.validate_eq, AuthSettings.loadKeys, hgiven.publicKey.keyText_eq,
      hgiven.privateKey.keyText_eq, KeyPair.ofPem, hparse]
  | privateKey hvalues hgiven hpublic hparse =>
    simp only [start, hvalues.validate_eq, AuthSettings.loadKeys, hgiven.publicKey.keyText_eq,
      hgiven.privateKey.keyText_eq, KeyPair.ofPem, hpublic, hparse]
  | unsigned hvalues hparsed hsign =>
    rw [start_of_parsed hvalues hparsed, KeyPair.check_eq (KeyPair.encodes_of_sign _ _ _)]
    simp only [hsign]
  | mismatch hvalues hparsed hsign hrefuses =>
    rw [start_of_parsed hvalues hparsed, KeyPair.check_eq (KeyPair.encodes_of_sign _ _ _)]
    simp only [hsign, hrefuses, Bool.false_eq_true, if_false]
  | unknownBackend hvalues hpaired hnone => simp only [start_of_paired hvalues hpaired, Backends.build, hnone]
  | registry hvalues hpaired hbackend hbuild =>
    simp only [start_of_paired hvalues hpaired, Backends.build, hbackend, hbuild]
  | started hvalues hpaired hbackend hbuild =>
    simp only [start_of_paired hvalues hpaired, Backends.build, hbackend, hbuild]

/-! ## Some end is listed for every start -/

theorem exists_starts_of_paired {a : Algorithm} {keys : KeyPair} (hvalues : InOrder settings a)
    (hpaired : Paired h settings a keys) : ∃ v, Starts h settings registry backends v := by
  cases hbackend : backends.builders.get? (Text.lower (Text.trim registry.backend)) with
  | none => exact ⟨_, .unknownBackend hvalues hpaired hbackend⟩
  | some build =>
    cases hbuild : build h registry a.family with
    | error e => exact ⟨_, .registry hvalues hpaired hbackend hbuild⟩
    | ok store => exact ⟨_, .started hvalues hpaired hbackend hbuild⟩

theorem exists_starts_of_given {a : Algorithm} {publicText privateText : String} (hvalues : InOrder settings a)
    (hgiven : Given h settings publicText privateText) : ∃ v, Starts h settings registry backends v := by
  cases hpublic : PublicKey.ofPem a publicText.toList with
  | error fault => exact ⟨_, .publicKey hvalues hgiven hpublic⟩
  | ok pub =>
    cases hprivate : PrivateKey.ofPem a privateText.toList with
    | error fault => exact ⟨_, .privateKey hvalues hgiven hpublic hprivate⟩
    | ok priv =>
      have hparsed : Parsed h settings a publicText privateText pub priv := ⟨hgiven, hpublic, hprivate⟩
      cases hsign : priv.sign (KeyPair.signingInput a KeyPair.probe) with
      | error fault => exact ⟨_, .unsigned hvalues hparsed hsign⟩
      | ok signature =>
        cases haccepts : pub.accepts (KeyPair.signingInput a KeyPair.probe) signature with
        | false => exact ⟨_, .mismatch hvalues hparsed hsign haccepts⟩
        | true => exact exists_starts_of_paired hvalues (.intro hparsed hsign haccepts)

theorem exists_starts_of_values {a : Algorithm} (hvalues : InOrder settings a) :
    ∃ v, Starts h settings registry backends v := by
  cases hpublic : AuthSettings.keyText h .missingPublicKey settings.publicKey settings.publicKeyPath with
  | error e => exact ⟨_, .publicText hvalues (keyText_eq_iff.1 hpublic)⟩
  | ok publicText =>
    cases hprivate : AuthSettings.keyText h .missingPrivateKey settings.privateKey settings.privateKeyPath with
    | error e => exact ⟨_, .privateText hvalues (keyText_eq_iff.1 hpublic) (keyText_eq_iff.1 hprivate)⟩
    | ok privateText =>
      exact exists_starts_of_given hvalues ⟨keyText_eq_iff.1 hpublic, keyText_eq_iff.1 hprivate⟩

theorem exists_starts (h : Host) (settings : AuthSettings) (registry : RegistrySettings) (backends : Backends σ) :
    ∃ v, Starts h settings registry backends v := by
  cases hofName : Algorithm.ofName? settings.algorithm with
  | error rejection => exact ⟨_, .algorithm (Algorithm.ofName?_eq_iff.1 hofName)⟩
  | ok a =>
    have hname := Algorithm.ofName?_eq_iff.1 hofName
    by_cases hassertion : settings.assertionTimeout = 0
    · exact ⟨_, .assertionTimeout hname hassertion⟩
    by_cases hsession : settings.sessionTimeout = 0
    · exact ⟨_, .sessionTimeout hname hassertion hsession⟩
    by_cases hregistry : settings.registryTimeout = 0
    · exact ⟨_, .registryTimeout hname hassertion hsession hregistry⟩
    by_cases hcookie : Blank settings.cookieName
    · exact ⟨_, .cookieName hname hassertion hsession hregistry hcookie⟩
    · exact exists_starts_of_values ⟨hname, hassertion, hsession, hregistry, hcookie⟩

/-- **The first check that fails is reported.**  A start ends as it is listed: with the guard and the registry when all
checks pass, with the error of the first one that does not otherwise.  An algorithm with a shared secret is refused as
such, whatever else the settings, the host and the backends are. -/
theorem start_eq_iff (h : Host) (settings : AuthSettings) (registry : RegistrySettings) (backends : Backends σ) :
    (∀ v, start h settings registry backends = v ↔ Starts h settings registry backends v) ∧
      ∀ name ∈ ["HS256", "HS384", "HS512"], SameWord (Text.trim settings.algorithm) name →
        start h settings registry backends = .error (.algorithm (.symmetric name)) := by
  refine ⟨fun v => ⟨?_, Starts.start_eq⟩, fun name hmem hsame => Starts.start_eq (.algorithm (.symmetric hmem hsame))⟩
  rintro rfl
  obtain ⟨v, hv⟩ := exists_starts h settings registry backends
  rwa [hv.start_eq]

/-! ## A start that succeeds -/

theorem parsed_of_given (hgiven : Given h settings (String.ofList Rsa.publicText) (String.ofList Rsa.brokenText)) :
    Parsed h settings .rs256 (String.ofList Rsa.publicText) (String.ofList Rsa.brokenText)
      ⟨.rs256, Rsa.brokenKey.public.der⟩ (.rsa .sha256 Rsa.brokenKey.der) where
  toGiven := hgiven
  parsedPublic := by
    rw [String.toList_ofList]
    exact PublicKey.ofPem_publicText
  parsedPrivate := by
    rw [String.toList_ofList]
    exact PrivateKey.ofPem_brokenText

/-- **The broken key signs what it is tried with**, wherever its texts come from. -/
theorem paired_of_given (hgiven : Given h settings (String.ofList Rsa.publicText) (String.ofList Rsa.brokenText)) :
    Paired h settings .rs256 KeyPair.broken := by
  obtain ⟨signature, hsign⟩ := PrivateKey.exists_sign_probe
  obtain ⟨hkey, hpublic⟩ := Rsa.ofDer?_brokenKey
  exact .intro (parsed_of_given hgiven) hsign (PublicKey.accepts_of_sign (a := .rs256) rfl hkey hpublic hsign)

/-- The default settings with a pair of keys. -/
def pairedSettings : AuthSettings :=
  { AuthSettings.defaults with
    publicKey := some (String.ofList Rsa.publicText)
    privateKey := some (String.ofList Rsa.brokenText) }

def ann : KeyRecord := ⟨"ann", String.ofList Rsa.publicText, 10⟩

/-- A registry in memory that `ann` is in from the start, with the same public key. -/
def annSettings : RegistrySettings :=
  { RegistrySettings.defaults with
    backend := " Memory "
    memory := ⟨false, SortedMap.empty.insert "ann" ⟨some (String.ofList Rsa.publicText), none, 10⟩⟩ }

def annRegistry : MemoryRegistry := ⟨.rsa, false, SortedMap.empty.insert "ann" ann⟩

theorem inOrder_pairedSettings : InOrder pairedSettings .rs256 where
  name := Algorithm.ofName?_eq_iff.1 rfl
  assertion := by decide
  session := by decide
  registry := by decide
  cookie := mt Text.isBlankText_iff.2 (by decide)

theorem given_pairedSettings (h : Host) :
    Given h pairedSettings (String.ofList Rsa.publicText) (String.ofList Rsa.brokenText) where
  publicKey := AuthSettings.yields_write h _ _ _ _
  privateKey := AuthSettings.yields_write h _ _ _ _

theorem ofSettings_annSettings (h : Host) : MemoryRegistry.ofSettings h .rsa annSettings.memory = .ok annRegistry :=
  MemoryRegistry.ofSettings_single h rfl
    (Bool.eq_false_iff.2 (mt Text.isBlankText_iff.1 (AuthSettings.not_blank_write _ _)))
    (toOption_eq_some_iff.1 (by decide +kernel))

/-- **A start with a pair that signs what it is tried with**, whatever the host, on the registry that the settings
describe. -/
theorem starts_pairedSettings (h : Host) :
    Starts h pairedSettings annSettings Backends.standard (.ok (⟨pairedSettings, KeyPair.broken⟩, .memory annRegistry)) := by
  have hbackend : Backends.standard.builders.get? (Text.lower (Text.trim annSettings.backend)) =
      some fun h s family => (MemoryRegistry.ofSettings h family s.memory).map .memory := rfl
  refine .started inOrder_pairedSettings (paired_of_given (given_pairedSettings h)) hbackend ?_
  show (MemoryRegistry.ofSettings h .rsa annSettings.memory).map Store.memory = _
  rw [ofSettings_annSettings]
  rfl

/-- The same start with the name of an algorithm that needs a shared secret. -/
theorem start_of_pairedSettings :
    start ⟨SortedMap.empty, Disk.empty, "/"⟩ pairedSettings annSettings Backends.standard =
        .ok (⟨pairedSettings, KeyPair.broken⟩, .memory annRegistry) ∧
      start ⟨SortedMap.empty, Disk.empty, "/"⟩ { pairedSettings with algorithm := " hs256" } annSettings
        Backends.standard = .error (.algorithm (.symmetric "HS256")) := by
  have hsame : SameWord (Text.trim " hs256") "HS256" := (Algorithm.sameWord_symmetric_iff (by decide)).2 (by decide)
  exact ⟨((start_eq_iff _ _ _ _).1 _).2 (starts_pairedSettings _), (start_eq_iff _ _ _ _).2 _ (by decide) hsame⟩

end Guard
end Gatehouse
