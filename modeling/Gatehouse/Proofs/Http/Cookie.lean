import Gatehouse.Proofs.Http.Exchange
import Gatehouse.Proofs.Token.Signed
/-!
# The session cookie — whether it comes back

The cookie that is set bears its name as the settings give it; the reader cuts a Cookie header at each `;`, a pair at
its first `=`, and trims what it gets.  A name that this leaves alone (`IsReadable`) is found again wherever its pair
stands.  Any other is never found, though the settings are accepted: `token_of_cookie`.
-/
namespace Gatehouse
namespace Http

variable {name value : String} {token pair : List Char} {pairs before after : List (List Char)} {r : Request}

/-! ## Names -/

/-- A name that the reader of a Cookie header can find. -/
structure IsReadable (name : String) : Prop where
  visible : IsVisible name
  trimmed : Text.trimChars name.toList = name.toList
  equals : '=' ∉ name.toList
  semicolon : ';' ∉ name.toList

/-- **Only a readable name is ever found.** -/
theorem isReadable_of_cookieGives (hvisible : IsVisible value) (h : CookieGives name value token) : IsReadable name := by
  obtain ⟨before, pair, after, hsplit, ⟨key, rest, rfl, hequals, rfl, -, -⟩, -⟩ := h
  have hpiece := Text.mem_of_mem_splitOn (hsplit ▸ List.mem_append_right before List.mem_cons_self)
  have hkey : ∀ c ∈ Text.trimChars key, c ∈ value.toList ∧ c ≠ ';' := fun c hc =>
    hpiece c (List.mem_append_left _ (Text.mem_of_mem_trimChars hc))
  constructor
  · unfold IsVisible
    rw [String.toList_ofList]
    exact fun c hc => hvisible c (hkey c hc).1
  · rw [String.toList_ofList, Text.trimChars_trimChars]
  · rw [String.toList_ofList]
    exact fun hmem => hequals (Text.mem_of_mem_trimChars hmem)
  · rw [String.toList_ofList]
    exact fun hmem => (hkey ';' hmem).2 rfl

/-! ## Pairs -/

/-- What a client keeps of a cookie that is set, and sends back: what stands before the first `;`. -/
def sent (cookie : String) : List Char := cookie.toList.takeWhile fun c => c ≠ ';'

/-- The Cookie header of a client with some pairs. -/
def cookieHeader (pairs : List (List Char)) : String := String.ofList ("; ".toList.intercalate pairs)

/-- A pair of another name, that can be read as text and is in one piece. -/
structure IsOther (name : String) (pair : List Char) : Prop where
  visible : ∀ c ∈ pair, Text.isVisibleAscii c = true
  semicolon : ';' ∉ pair
  named : ∀ key rest, pair = key ++ '=' :: rest → '=' ∉ key → String.ofList (Text.trimChars key) ≠ name

theorem IsOther.not_gives (h : IsOther name pair) (value : List Char) : ¬ PairGives name pair value := by
  rintro ⟨key, rest, hpair, hequals, hname, -⟩
  exact h.named key rest hpair hequals hname

theorem sent_cookie (g : Guard) (maxAge : Int) (hname : ';' ∉ g.settings.cookieName.toList) (hvalue : ';' ∉ token) :
    sent (g.cookie token maxAge) = g.settings.cookieName.toList ++ '=' :: token := by
  obtain ⟨rest, hcookie⟩ : ∃ rest, (g.cookie token maxAge).toList =
      (g.settings.cookieName.toList ++ '=' :: token) ++ ';' :: rest := by
    refine ⟨" Path=/; HttpOnly; SameSite=Lax; Max-Age=".toList ++ (toString maxAge).toList ++
      (if g.settings.cookieSecure then "; Secure" else "").toList, ?_⟩
    simp [Guard.cookie]
  have hkept : ∀ c ∈ g.settings.cookieName.toList ++ '=' :: token, decide (c ≠ ';') = true := by
    intro c hc
    rw [decide_eq_true_iff]
    rintro rfl
    simp [hname, hvalue] at hc
  rw [sent, hcookie, List.takeWhile_append_of_pos hkept, List.takeWhile_cons_of_neg (by simp), List.append_nil]

/-- The pair of a session gives its token to a readable name. -/
theorem pairGives_token (hname : IsReadable name) (htoken : IsTokenText token) (hne : token ≠ []) :
    PairGives name (name.toList ++ '=' :: token) token := by
  refine ⟨name.toList, token, rfl, hname.equals, ?_, ?_, hne⟩
  · rw [hname.trimmed, String.ofList_toList]
  · exact Text.trimChars_of_forall fun c hc => isBlank_of_range (htoken.range c hc)

theorem not_pairGives_nil (hname : IsReadable name) (value : List Char) : ¬ PairGives name (name.toList ++ ['=']) value := by
  rw [pairGives_iff, Text.splitFirst?_eq_some_iff.2 ⟨rfl, hname.equals⟩]
  rintro ⟨p, hp, -, hvalue, hne⟩
  cases hp
  exact hne hvalue.symm

/-! ## Headers -/

/-- **Which pair of a header counts**: the first that gives the name a value. -/
theorem cookieGives_header_iff (h : ∀ pair ∈ pairs, ';' ∉ pair) : CookieGives name (cookieHeader pairs) token ↔
    ∃ before pair after, pairs = before ++ pair :: after ∧ PairGives name pair token ∧
      ∀ other ∈ before, ∀ value, ¬ PairGives name other value := by
  -- the reader's pieces differ from the pairs in a blank in front, which it trims away
  have hread : cookieToken? name (cookieHeader pairs) =
      pairs.findSome? fun pair => pairValue? name (Text.trimChars pair) := by
    unfold cookieToken? cookieHeader
    rw [String.toList_ofList]
    cases pairs with
    | nil => rfl
    | cons first rest =>
      have hblank : ∀ pair : List Char, Text.trimChars ([' '] ++ pair) = Text.trimChars pair := fun _ => rfl
      have hmark : "; ".toList = [';', ' '] := rfl
      rw [hmark, Text.splitOn_intercalate (by decide) h, List.findSome?_cons, List.findSome?_cons, List.findSome?_map]
      simp only [Function.comp_def, hblank]
  rw [← cookieToken?_eq_some_iff, hread, List.findSome?_eq_some_iff]
  simp only [pairValue?_eq_some_iff, pairGives_trimChars_iff, pairValue?_trimChars_eq_none_iff]

theorem isVisible_cookieHeader (h : ∀ pair ∈ pairs, ∀ c ∈ pair, Text.isVisibleAscii c = true) :
    IsVisible (cookieHeader pairs) := by
  intro c hc
  rw [cookieHeader, String.toList_ofList] at hc
  rcases Text.mem_intercalate hc with hmark | ⟨pair, hpair, hc⟩
  · have hvisible : "; ".toList.all Text.isVisibleAscii = true := by decide
    exact List.all_eq_true.1 hvisible c hmark
  · exact h pair hpair c hc

theorem eq_or_isOther (hothers : ∀ pair ∈ before ++ after, IsOther name pair) {own : List Char}
    (h : pair ∈ before ++ own :: after) : pair = own ∨ IsOther name pair := by
  rcases List.mem_append.1 h with hbefore | h
  · exact .inr (hothers pair (List.mem_append_left _ hbefore))
  rcases List.mem_cons.1 h with rfl | hafter
  · exact .inl rfl
  · exact .inr (hothers pair (List.mem_append_right _ hafter))

/-- **The pair of a session gives the name its token**, wherever it stands among pairs of other names. -/
theorem cookieGives_token (hname : IsReadable name) (htoken : IsTokenText token) (hne : token ≠ [])
    (hothers : ∀ pair ∈ before ++ after, IsOther name pair) :
    IsVisible (cookieHeader (before ++ (name.toList ++ '=' :: token) :: after)) ∧
      CookieGives name (cookieHeader (before ++ (name.toList ++ '=' :: token) :: after)) token := by
  constructor
  · refine isVisible_cookieHeader fun pair hpair c hc => ?_
    rcases eq_or_isOther hothers hpair with rfl | hother
    · rcases List.mem_append.1 hc with hc | hc
      · exact hname.visible c hc
      rcases List.mem_cons.1 hc with rfl | hc
      · decide
      · exact isVisibleAscii_of_range (htoken.range c hc)
    · exact hother.visible c hc
  · have hsemicolon : ';' ∉ token := htoken.not_mem (by decide) (by decide)
    have hpieces : ∀ pair ∈ before ++ (name.toList ++ '=' :: token) :: after, ';' ∉ pair := by
      intro pair hpair
      rcases eq_or_isOther hothers hpair with rfl | hother
      · simp [hname.semicolon, hsemicolon]
      · exact hother.semicolon
    exact (cookieGives_header_iff hpieces).2 ⟨before, _, after, rfl, pairGives_token hname htoken hne,
      fun other hother => (hothers other (List.mem_append_left _ hother)).not_gives⟩

/-- **A pair without a value gives none**, and nor do pairs of other names. -/
theorem not_cookieGives_cleared (hname : IsReadable name) (hothers : ∀ pair ∈ before ++ after, IsOther name pair) :
    ¬ CookieGives name (cookieHeader (before ++ (name.toList ++ ['=']) :: after)) token := by
  have hpieces : ∀ pair ∈ before ++ (name.toList ++ ['=']) :: after, ';' ∉ pair := by
    intro pair hpair
    rcases eq_or_isOther hothers hpair with rfl | hother
    · simp [hname.semicolon]
    · exact hother.semicolon
  rw [cookieGives_header_iff hpieces]
  rintro ⟨first, pair, rest, hpairs, hgives, -⟩
  rcases eq_or_isOther hothers (hpairs ▸ List.mem_append_right first List.mem_cons_self) with rfl | hother
  · exact not_pairGives_nil hname token hgives
  · exact hother.not_gives token hgives

/-! ## Requests -/

/-- Without an Authorization header, a token comes from the cookie of a readable name. -/
theorem Request.Carries.readable (h : r.Carries name token) (hnone : r.header? "authorization" = none) :
    IsReadable name ∧ ∃ value, r.header? "cookie" = some value ∧ CookieGives name value token := by
  cases h with
  | header hheader =>
    rw [hnone] at hheader
    cases hheader
  | cookie _ hheader hvisible hgives => exact ⟨isReadable_of_cookieGives hvisible hgives, _, hheader, hgives⟩

theorem ofPem_of_loadKeys {settings : AuthSettings} {h : Host} {a : Algorithm} {keys : KeyPair}
    (hload : settings.loadKeys h a = .ok keys) :
    ∃ publicText privateText, KeyPair.ofPem a publicText privateText = .ok keys := by
  unfold AuthSettings.loadKeys at hload
  split at hload
  · cases hload
  split at hload
  · cases hload
  split at hload
  · rename_i hread
    cases hload
    exact ⟨_, _, hread⟩
  · cases hload

theorem start_ok {σ : Type} {h : Host} {settings : AuthSettings} {registry : RegistrySettings} {backends : Backends σ}
    {g : Guard} {store : σ} (hstart : Guard.start h settings registry backends = .ok (g, store)) :
    ∃ a, settings.validate = .ok a ∧ settings.loadKeys h a = .ok g.keys ∧ g.settings = settings := by
  unfold Guard.start at hstart
  split at hstart
  · cases hstart
  rename_i a hvalid
  split at hstart
  · cases hstart
  rename_i keys hload
  split at hstart
  · cases hstart
  · cases hstart
    exact ⟨a, hvalid, hload, rfl⟩

/-- The key pair of a guard that was started was read. -/
theorem encodes_of_start {σ : Type} {h : Host} {settings : AuthSettings} {registry : RegistrySettings}
    {backends : Backends σ} {g : Guard} {store : σ} (hstart : Guard.start h settings registry backends = .ok (g, store)) :
    g.keys.Encodes := by
  obtain ⟨a, -, hload, -⟩ := start_ok hstart
  obtain ⟨publicText, privateText, hread⟩ := ofPem_of_loadKeys hload
  exact KeyPair.encodes_of_ofPem hread

/-- **Whether the session cookie comes back.**  The key pair of a guard that was started encodes its signatures.  If a
guard's pair does, then of any session that it issues: in a request without an Authorization header, the pair of its
cookie gives the session's token, wherever it stands among readable pairs of other names, if the name that is configured
is readable; and the pair of the clearing cookie in its place gives none.  A name that is not readable never gives a
token, whatever the request holds. -/
theorem token_of_cookie (g : Guard) :
    (∀ {σ : Type} (h : Host) (settings : AuthSettings) (registry : RegistrySettings) (backends : Backends σ) (store : σ),
      Guard.start h settings registry backends = .ok (g, store) → g.keys.Encodes) ∧
      ∀ (record : KeyRecord) (now : Int) (id : String) (issued : Session.Issued) (r : Request)
        (before after : List (List Char)), g.keys.Encodes → g.issue record now id = .ok issued →
        r.header? "authorization" = none → (∀ pair ∈ before ++ after, IsOther g.settings.cookieName pair) →
        (IsReadable g.settings.cookieName →
          r.header? "cookie" = some (cookieHeader (before ++ sent (g.sessionCookie issued.token) :: after)) →
          r.token g.settings.cookieName g.settings.loginPath = .ok issued.token) ∧
        (r.header? "cookie" = some (cookieHeader (before ++ sent g.clearingCookie :: after)) →
          ∀ token, r.token g.settings.cookieName g.settings.loginPath ≠ .ok token) ∧
        (¬ IsReadable g.settings.cookieName →
          ∀ token, r.token g.settings.cookieName g.settings.loginPath ≠ .ok token) := by
  refine ⟨fun h settings registry backends store => encodes_of_start, ?_⟩
  intro record now id issued r before after hkeys hissue hnone hothers
  obtain ⟨htoken, hne⟩ := KeyPair.isTokenText_token hkeys (Session.token_of_issue (issue_eq_ok_iff.1 hissue)).2
  refine ⟨fun hname hheader => ?_, fun hheader token => ?_, fun hname token => ?_⟩
  · have hsent := sent_cookie g g.sessionTimeout hname.semicolon (htoken.not_mem (by decide) (by decide))
    rw [Guard.sessionCookie, hsent] at hheader
    obtain ⟨hvisible, hgives⟩ := cookieGives_token hname htoken hne hothers
    exact token_eq_ok_iff.2 (.cookie hnone hheader hvisible hgives)
  · rw [ne_eq, token_eq_ok_iff]
    intro hcarries
    obtain ⟨hname, value, hvalue, hgives⟩ := hcarries.readable hnone
    rw [hheader, Guard.clearingCookie, sent_cookie g 0 hname.semicolon List.not_mem_nil, Option.some.injEq] at hvalue
    rw [← hvalue] at hgives
    exact not_cookieGives_cleared hname hothers hgives
  · rw [ne_eq, token_eq_ok_iff]
    exact fun hcarries => hname (hcarries.readable hnone).1

theorem isReadable_session : IsReadable "session" :=
  ⟨List.all_eq_true.1 (by decide), by decide, by decide, by decide⟩

theorem isOther_of_splitFirst? (key rest : List Char) (hvisible : pair.all Text.isVisibleAscii = true)
    (hsemicolon : ';' ∉ pair) (hsplit : Text.splitFirst? '=' pair = some (key, rest))
    (hname : String.ofList (Text.trimChars key) ≠ name) : IsOther name pair := by
  refine ⟨List.all_eq_true.1 hvisible, hsemicolon, fun key' rest' hpair hequals => ?_⟩
  rw [Text.splitFirst?_eq_some_iff.2 ⟨hpair, hequals⟩] at hsplit
  cases hsplit
  exact hname

/-- **The root's session comes back** between two pairs that hold its name in other places. -/
theorem token_of_cookie_root :
    (⟨"GET", "/api/me", [("cookie", cookieHeader (["a=session".toList] ++
      sent (rootService.guard.sessionCookie rootToken) :: ["session2=b".toList]))], []⟩ : Request).token "session" "/" =
        .ok rootToken := by
  have hothers : ∀ pair ∈ ["a=session".toList] ++ ["session2=b".toList], IsOther "session" pair := by
    intro pair hpair
    simp only [List.cons_append, List.nil_append, List.mem_cons, List.not_mem_nil, or_false] at hpair
    rcases hpair with rfl | rfl
    · exact isOther_of_splitFirst? "a".toList "session".toList (by decide) (by decide) (by decide) (by decide)
    · exact isOther_of_splitFirst? "session2".toList "b".toList (by decide) (by decide) (by decide) (by decide)
  exact ((token_of_cookie rootService.guard).2 root 0 "a" ⟨rootToken, rootClaims⟩ _ _ _ encodes_root issue_root rfl
    hothers).1 isReadable_session rfl

/-- The root's guard, with a blank behind the name of its cookie. -/
def spacedGuard : Guard :=
  { rootService.guard with settings := { rootService.guard.settings with cookieName := "session " } }

/-- **A name that is accepted and never found.**  The settings pass their check and a session is issued; a request with
the pair of its cookie and nothing else gives no token. -/
theorem token_of_spaced :
    spacedGuard.settings.validate = .ok .es256 ∧ spacedGuard.issue root 0 "a" = .ok ⟨rootToken, rootClaims⟩ ∧
      (⟨"GET", "/api/me", [("cookie", cookieHeader [sent (spacedGuard.sessionCookie rootToken)])], []⟩ : Request).token
        spacedGuard.settings.cookieName spacedGuard.settings.loginPath = .error .missingToken := by
  have hnone : ∀ token, ¬ (⟨"GET", "/api/me", [("cookie", cookieHeader [sent (spacedGuard.sessionCookie rootToken)])],
      []⟩ : Request).Carries spacedGuard.settings.cookieName token := by
    intro token hcarries
    have htrimmed := (hcarries.readable rfl).1.trimmed
    exact absurd htrimmed (by decide)
  refine ⟨rfl, issue_root, ?_⟩
  rw [token_of_nothing rfl hnone]
  rfl

end Http
end Gatehouse
