import Gatehouse.Http.Credentials
import Gatehouse.Proofs.Base64
import Gatehouse.Proofs.Text
/-!
# Credentials — the grammar of the headers that carry a token

`Bears` says which Authorization headers there are, and `CookieGives` which cookie of a Cookie header counts.  A request
carries a token in one of the two (`token_eq_ok_iff`); `exists_carries` says what is wrong with one that carries none.
-/
namespace Gatehouse

namespace Text

theorem isAlphanum_iff {c : Char} : c.isAlphanum = true ↔
    (0x41 ≤ c.toNat ∧ c.toNat ≤ 0x5A) ∨ (0x61 ≤ c.toNat ∧ c.toNat ≤ 0x7A) ∨ (0x30 ≤ c.toNat ∧ c.toNat ≤ 0x39) := by
  have hranges : c.isAlphanum = (decide (0x41 ≤ c.val ∧ c.val ≤ 0x5A) ||
      (decide (0x61 ≤ c.val) && decide (c.val ≤ 0x7A)) || (decide (0x30 ≤ c.val) && decide (c.val ≤ 0x39))) := rfl
  rw [hranges]
  simp only [Bool.or_eq_true, Bool.and_eq_true, decide_eq_true_eq, UInt32.le_iff_toNat_le, or_assoc]
  exact Iff.rfl

end Text

namespace Http

variable {value name loginPath : String} {token : List Char} {r : Request}

/-! ## The Authorization header -/

/-- A value that can be read as text. -/
def IsVisible (value : String) : Prop := ∀ c ∈ value.toList, Text.isVisibleAscii c = true

theorem visible?_eq_some_iff {text : String} : visible? value = some text ↔ IsVisible value ∧ text = value := by
  unfold visible? IsVisible
  rw [← List.all_eq_true]
  by_cases h : value.toList.all Text.isVisibleAscii = true
  · simp [h, eq_comm]
  · simp [h]

/-- One or more token characters, then any number of `=`. -/
def IsBearerToken (token : List Char) : Prop :=
  ∃ body padding, token = body ++ padding ∧ body ≠ [] ∧ (∀ c ∈ body, isTokenChar c = true) ∧ ∀ c ∈ padding, c = '='

theorem not_isTokenChar_padding : isTokenChar '=' = false := by decide

theorem isBearerToken_iff : isBearerToken token = true ↔ IsBearerToken token := by
  unfold isBearerToken
  rw [Bool.and_eq_true, Bool.not_eq_true', List.isEmpty_eq_false_iff, List.all_eq_true]
  constructor
  · rintro ⟨hbody, hpadding⟩
    exact ⟨_, _, List.takeWhile_append_dropWhile.symm, hbody, List.all_eq_true.1 List.all_takeWhile,
      fun c hc => of_decide_eq_true (hpadding c hc)⟩
  · rintro ⟨body, padding, rfl, hbody, hchars, hpadding⟩
    have hstop : padding.takeWhile isTokenChar = [] ∧ padding.dropWhile isTokenChar = padding := by
      cases padding with
      | nil => exact ⟨rfl, rfl⟩
      | cons c rest =>
        have hc : isTokenChar c = false := by
          rw [hpadding c List.mem_cons_self]
          exact not_isTokenChar_padding
        exact ⟨List.takeWhile_cons_of_neg (by simp [hc]), List.dropWhile_cons_of_neg (by simp [hc])⟩
    rw [List.takeWhile_append_of_pos hchars, List.dropWhile_append_of_pos hchars, hstop.1, hstop.2, List.append_nil]
    exact ⟨hbody, fun c hc => decide_eq_true (hpadding c hc)⟩

/-- An Authorization header bears a token: blanks at its ends apart it is the word `bearer` in any case, one or more
blanks, and the token. -/
def Bears (value : String) (token : List Char) : Prop :=
  ∃ word gap, Text.trimChars value.toList = word ++ gap ++ token ∧ Text.lower (String.ofList word) = "bearer" ∧
    gap ≠ [] ∧ (∀ c ∈ gap, Text.isBlank c = true) ∧ IsBearerToken token

theorem range_of_isTokenChar {c : Char} (h : isTokenChar c = true) : 0x20 < c.toNat ∧ c.toNat < 0x7F := by
  have hspecial : ∀ d, d = '-' ∨ d = '.' ∨ d = '_' ∨ d = '~' ∨ d = '+' ∨ d = '/' → 0x20 < d.toNat ∧ d.toNat < 0x7F := by
    rintro d (rfl | rfl | rfl | rfl | rfl | rfl) <;> decide
  simp only [isTokenChar, Bool.or_eq_true, decide_eq_true_eq, or_assoc] at h
  rcases h with halnum | hother
  · rw [Text.isAlphanum_iff] at halnum
    omega
  · exact hspecial c hother

theorem isBlank_of_range {c : Char} (h : 0x20 < c.toNat ∧ c.toNat < 0x7F) : Text.isBlank c = false := by
  simp only [Text.isBlank, Bool.or_eq_false_iff, Bool.and_eq_false_iff, decide_eq_false_iff_not, beq_eq_false_iff_ne]
  omega

theorem isVisibleAscii_of_range {c : Char} (h : 0x20 < c.toNat ∧ c.toNat < 0x7F) : Text.isVisibleAscii c = true := by
  simp only [Text.isVisibleAscii, Bool.or_eq_true, Bool.and_eq_true, decide_eq_true_eq]
  omega

/-- A token begins where the blanks before it end. -/
theorem IsBearerToken.dropWhile (h : IsBearerToken token) : token.dropWhile Text.isBlank = token := by
  obtain ⟨body, padding, rfl, hbody, hchars, -⟩ := h
  cases body with
  | nil => exact absurd rfl hbody
  | cons c rest =>
    have hc := isBlank_of_range (range_of_isTokenChar (hchars c List.mem_cons_self))
    rw [List.cons_append, List.dropWhile_cons_of_neg (by simp [hc])]

/-- **Which token a header bears.** -/
theorem bearerToken?_eq_some_iff : bearerToken? value = some token ↔ Bears value token := by
  unfold bearerToken? Bears
  generalize Text.trimChars value.toList = text
  constructor
  · intro h
    dsimp only at h
    split at h
    · rename_i hall
      simp only [Bool.and_eq_true, decide_eq_true_eq] at hall
      obtain ⟨⟨hword, hlength⟩, htoken⟩ := hall
      rw [Option.some.injEq] at h
      subst h
      have hsplit : (text.drop 6).takeWhile Text.isBlank ++ (text.drop 6).dropWhile Text.isBlank = text.drop 6 :=
        List.takeWhile_append_dropWhile
      refine ⟨text.take 6, (text.drop 6).takeWhile Text.isBlank, ?_, hword, fun hnil => ?_,
        List.all_eq_true.1 List.all_takeWhile, isBearerToken_iff.1 htoken⟩
      · rw [List.append_assoc, hsplit, List.take_append_drop]
      · rw [hnil, List.nil_append] at hsplit
        rw [hsplit] at hlength
        exact Nat.lt_irrefl _ hlength
    · cases h
  · rintro ⟨word, gap, rfl, hword, hgap, hblank, htoken⟩
    -- writing a word in small letters keeps its length, so it is what the reader takes for the word
    have hsix : word.length = 6 := by
      have hlower := congrArg (fun s => s.toList.length) hword
      simpa [Text.lower] using hlower
    have htake : (word ++ gap ++ token).take 6 = word := by
      rw [List.append_assoc, ← hsix, List.take_left]
    have hdrop : (word ++ gap ++ token).drop 6 = gap ++ token := by
      rw [List.append_assoc, ← hsix, List.drop_left]
    have hrest : (gap ++ token).dropWhile Text.isBlank = token := by
      rw [List.dropWhile_append_of_pos hblank, htoken.dropWhile]
    have hlength : token.length < (gap ++ token).length := by
      rw [List.length_append]
      have := List.length_pos_iff.2 hgap
      omega
    simp only [htake, hdrop, hrest, hword, hlength, isBearerToken_iff.2 htoken, decide_true, Bool.and_self, if_true]

theorem IsBearerToken.ne_nil (h : IsBearerToken token) : token ≠ [] := by
  obtain ⟨body, padding, rfl, hbody, -, -⟩ := h
  exact List.append_ne_nil_of_left_ne_nil hbody padding

theorem IsBearerToken.isBlank (h : IsBearerToken token) : ∀ c ∈ token, Text.isBlank c = false := by
  obtain ⟨body, padding, rfl, -, hchars, hpadding⟩ := h
  intro c hc
  rcases List.mem_append.1 hc with hc | hc
  · exact isBlank_of_range (range_of_isTokenChar (hchars c hc))
  · rw [hpadding c hc]
    decide

theorem bears_of_token (h : IsBearerToken token) : Bears ("Bearer " ++ String.ofList token) token := by
  have hlist : ("Bearer " ++ String.ofList token).toList = "Bearer".toList ++ [' '] ++ token := by
    rw [String.toList_append, String.toList_ofList, String.toList_ofList]
    rfl
  have hlast : Text.isBlank (token.getLast h.ne_nil) = false := h.isBlank _ (List.getLast_mem h.ne_nil)
  have htrim : Text.trimChars ("Bearer".toList ++ [' '] ++ token) = "Bearer".toList ++ [' '] ++ token := by
    have hends := Text.trimChars_of_ends ("earer ".toList ++ token.dropLast) (show Text.isBlank 'B' = false by decide)
      hlast
    rwa [List.append_assoc, List.dropLast_concat_getLast] at hends
  have hblank : ∀ c ∈ [' '], Text.isBlank c = true := fun c hc => by
    rw [List.mem_singleton.1 hc]
    decide
  exact ⟨"Bearer".toList, [' '], by rw [hlist, htrim], by decide, List.cons_ne_nil _ _, hblank, h⟩

/-! ## The session cookie -/

/-- A pair of a Cookie header gives a name a value: they stand before and after its first `=`, with blanks around them
that do not count, and the value is not empty. -/
def PairGives (name : String) (pair value : List Char) : Prop :=
  ∃ key rest, pair = key ++ '=' :: rest ∧ '=' ∉ key ∧ String.ofList (Text.trimChars key) = name ∧
    Text.trimChars rest = value ∧ value ≠ []

theorem pairGives_iff {pair value : List Char} : PairGives name pair value ↔
    ∃ p, Text.splitFirst? '=' pair = some p ∧ String.ofList (Text.trimChars p.1) = name ∧ Text.trimChars p.2 = value ∧
      value ≠ [] := by
  simp only [PairGives, Prod.exists, Text.splitFirst?_eq_some_iff, and_assoc]

/-- Blanks around a pair do not count. -/
theorem pairGives_trimChars_iff {pair value : List Char} :
    PairGives name (Text.trimChars pair) value ↔ PairGives name pair value := by
  obtain ⟨left, right, hpair, hleft, hright⟩ := Text.exists_pad pair
  have hequals : ∀ {cs : List Char}, (∀ c ∈ cs, Text.isBlank c = true) → '=' ∉ cs := fun hblank hmem =>
    absurd (hblank '=' hmem) (by decide)
  have hkey : ∀ cs, Text.trimChars (left ++ cs) = Text.trimChars cs := fun cs => by
    rw [← List.append_nil (left ++ cs), Text.trimChars_pad (b := []) hleft nofun]
  have hrest : ∀ cs, Text.trimChars (cs ++ right) = Text.trimChars cs := fun cs => by
    rw [← List.nil_append cs, Text.trimChars_pad (a := []) nofun hright, List.nil_append]
  -- the blanks around hold no `=`: they go to the outer ends of the name and the value, where they are trimmed
  rw [pairGives_iff, pairGives_iff]
  conv => rhs; rw [hpair, Text.splitFirst?_pad (hequals hleft) (hequals hright)]
  simp only [Option.map_eq_some_iff, Prod.exists, Prod.mk.injEq]
  constructor
  · rintro ⟨key, rest, hsplit, hgives⟩
    refine ⟨_, _, ⟨key, rest, hsplit, rfl, rfl⟩, ?_⟩
    rwa [hkey, hrest]
  · rintro ⟨_, _, ⟨key, rest, hsplit, rfl, rfl⟩, hgives⟩
    rw [hkey, hrest] at hgives
    exact ⟨key, rest, hsplit, hgives⟩

theorem pairValue?_eq_some_iff {pair value : List Char} : pairValue? name pair = some value ↔ PairGives name pair value := by
  rw [pairGives_iff]
  unfold pairValue?
  cases Text.splitFirst? '=' pair with
  | none => simp
  | some p =>
    simp only [Option.ite_none_right_eq_some, Bool.and_eq_true, decide_eq_true_eq, Bool.not_eq_true',
      List.isEmpty_eq_false_iff, Option.some.injEq, exists_eq_left']
    constructor
    · rintro ⟨⟨hname, hvalue⟩, rfl⟩
      exact ⟨hname, rfl, hvalue⟩
    · rintro ⟨hname, rfl, hvalue⟩
      exact ⟨⟨hname, hvalue⟩, rfl⟩

theorem pairValue?_trimChars_eq_none_iff {pair : List Char} :
    pairValue? name (Text.trimChars pair) = none ↔ ∀ value, ¬ PairGives name pair value := by
  rw [Option.eq_none_iff_forall_ne_some]
  exact forall_congr' fun value => not_congr (pairValue?_eq_some_iff.trans pairGives_trimChars_iff)

/-- The first pair of a Cookie header that gives a name a value gives it this one. -/
def CookieGives (name header : String) (token : List Char) : Prop :=
  ∃ before pair after, Text.splitOn ';' header.toList = before ++ pair :: after ∧ PairGives name pair token ∧
    ∀ other ∈ before, ∀ value, ¬ PairGives name other value

theorem cookieToken?_eq_some_iff {header : String} :
    cookieToken? name header = some token ↔ CookieGives name header token := by
  unfold cookieToken? CookieGives
  rw [List.findSome?_eq_some_iff]
  simp only [pairValue?_eq_some_iff, pairGives_trimChars_iff, pairValue?_trimChars_eq_none_iff]

/-! ## The token of a request -/

/-- What a request carries as a token, for the name of the session cookie. -/
inductive Request.Carries (r : Request) (name : String) : List Char → Prop
  | header {value : String} {token : List Char} (hheader : r.header? "authorization" = some value)
      (hvisible : IsVisible value) (hbears : Bears value token) : Carries r name token
  | cookie {value : String} {token : List Char} (hnone : r.header? "authorization" = none)
      (hheader : r.header? "cookie" = some value) (hvisible : IsVisible value) (hgives : CookieGives name value token) :
      Carries r name token

/-- The first Accept header can be read and asks for HTML. -/
def Request.AsksForHtml (r : Request) : Prop :=
  ∃ value, r.header? "accept" = some value ∧ IsVisible value ∧ "text/html".toList <:+: value.toList

theorem wantsHtml_iff : r.wantsHtml = true ↔ r.AsksForHtml := by
  unfold Request.wantsHtml Request.AsksForHtml
  cases hheader : r.header? "accept" with
  | none => simp
  | some value =>
    by_cases hvisible : IsVisible value
    · simp [visible?_eq_some_iff.2 ⟨hvisible, rfl⟩, Text.occursIn_iff, hvisible]
    · have hnone : visible? value = none := by
        rw [Option.eq_none_iff_forall_ne_some]
        exact fun text htext => hvisible (visible?_eq_some_iff.1 htext).1
      simp [hnone, hvisible]

theorem Request.Carries.token_eq (h : r.Carries name token) : r.token name loginPath = .ok token := by
  unfold Request.token
  cases h with
  | header hheader hvisible hbears =>
    simp only [hheader, visible?_eq_some_iff.2 ⟨hvisible, rfl⟩, Option.bind_some, bearerToken?_eq_some_iff.2 hbears]
  | cookie hnone hheader hvisible hgives =>
    simp only [hnone, Request.cookieToken?, hheader, Option.bind_some, visible?_eq_some_iff.2 ⟨hvisible, rfl⟩,
      cookieToken?_eq_some_iff.2 hgives]

/-- A header that bears no token is not passed over. -/
theorem token_of_unreadable (hheader : r.header? "authorization" = some value)
    (hbad : ¬ (IsVisible value ∧ ∃ token, Bears value token)) :
    r.token name loginPath = .error .invalidAuthHeader := by
  have hnone : (visible? value).bind bearerToken? = none := by
    rw [Option.eq_none_iff_forall_ne_some]
    intro token htoken
    obtain ⟨text, htext, hbearer⟩ := Option.bind_eq_some_iff.1 htoken
    obtain ⟨hvisible, rfl⟩ := visible?_eq_some_iff.1 htext
    exact hbad ⟨hvisible, token, bearerToken?_eq_some_iff.1 hbearer⟩
  unfold Request.token
  simp only [hheader, hnone]

theorem token_of_nothing (hnone : r.header? "authorization" = none) (hno : ∀ token, ¬ r.Carries name token) :
    r.token name loginPath = .error (if r.wantsHtml then .loginRequired loginPath else .missingToken) := by
  have hcookie : r.cookieToken? name = none := by
    rw [Option.eq_none_iff_forall_ne_some]
    intro token htoken
    unfold Request.cookieToken? at htoken
    simp only [Option.bind_eq_some_iff] at htoken
    obtain ⟨text, ⟨value, hheader, htext⟩, hgives⟩ := htoken
    obtain ⟨hvisible, rfl⟩ := visible?_eq_some_iff.1 htext
    exact hno token (.cookie hnone hheader hvisible (cookieToken?_eq_some_iff.1 hgives))
  unfold Request.token
  simp only [hnone, hcookie]

/-- **What a request carries, or why nothing.** -/
theorem exists_carries (r : Request) (name : String) :
    (∃ token, r.Carries name token) ∨
      (∃ value, r.header? "authorization" = some value ∧ ¬ (IsVisible value ∧ ∃ token, Bears value token)) ∨
      (r.header? "authorization" = none ∧ ∀ token, ¬ r.Carries name token) := by
  by_cases hcarries : ∃ token, r.Carries name token
  · exact .inl hcarries
  cases hheader : r.header? "authorization" with
  | none => exact .inr (.inr ⟨rfl, fun token h => hcarries ⟨token, h⟩⟩)
  | some value =>
    refine .inr (.inl ⟨value, rfl, ?_⟩)
    rintro ⟨hvisible, token, hbears⟩
    exact hcarries ⟨token, .header hheader hvisible hbears⟩

/-- **The token of a request is the one that it carries.** -/
theorem token_eq_ok_iff : r.token name loginPath = .ok token ↔ r.Carries name token := by
  constructor
  · intro h
    rcases exists_carries r name with ⟨found, hcarries⟩ | ⟨value, hheader, hbad⟩ | ⟨hnone, hno⟩
    · rw [hcarries.token_eq, Except.ok.injEq] at h
      rwa [← h]
    · rw [token_of_unreadable hheader hbad] at h
      cases h
    · rw [token_of_nothing hnone hno] at h
      cases h
  · exact Request.Carries.token_eq

end Http
end Gatehouse
