import Gatehouse.Proofs.Http.Credentials
import Gatehouse.Proofs.Text.Words
/-!
# Bearer headers — the grammar, written out

`Written` spells an Authorization header out from its first character to its last, with the alphabet of tokens
listed and the word compared letter by letter.  `bears_iff_written`: these are the headers that bear a token, and
`bearer_iff_written`: the reader takes them, their token and nothing else.
-/
namespace Gatehouse
namespace Http

open Text (SameWord)

variable {value : String} {token : List Char} {c : Char}

/-! ## The alphabet of tokens -/

/-- The characters of a token before its padding. -/
def InAlphabet (c : Char) : Prop :=
  'A' ≤ c ∧ c ≤ 'Z' ∨ 'a' ≤ c ∧ c ≤ 'z' ∨ '0' ≤ c ∧ c ≤ '9' ∨ c ∈ ['-', '.', '_', '~', '+', '/']

instance : DecidablePred InAlphabet := fun _ => inferInstanceAs (Decidable (_ ∨ _))

theorem isTokenChar_iff : isTokenChar c = true ↔ InAlphabet c := by
  have hle : ∀ a b : Char, a ≤ b ↔ a.toNat ≤ b.toNat := fun _ _ => UInt32.le_iff_toNat_le
  have halnum : c.isAlphanum = true ↔ 'A' ≤ c ∧ c ≤ 'Z' ∨ 'a' ≤ c ∧ c ≤ 'z' ∨ '0' ≤ c ∧ c ≤ '9' := by
    simp only [Text.isAlphanum_iff, hle]
    exact Iff.rfl
  simp only [isTokenChar, InAlphabet, Bool.or_eq_true, decide_eq_true_eq, halnum, List.mem_cons, List.not_mem_nil,
    or_false, or_assoc]

/-! ## The whole header -/

/-- A header from its first character to its last: blanks, the word `bearer` in any case of its letters, one or more
blanks, the token, and blanks again.  The token is one or more characters of the alphabet and any number of `=`. -/
inductive Written (value : String) : List Char → Prop
  | intro (before word gap body padding after : List Char)
      (hvalue : value.toList = before ++ word ++ gap ++ (body ++ padding) ++ after)
      (hbefore : ∀ c ∈ before, Text.isBlank c = true) (hword : SameWord (String.ofList word) "bearer")
      (hsome : gap ≠ []) (hgap : ∀ c ∈ gap, Text.isBlank c = true) (hfilled : body ≠ [])
      (hbody : ∀ c ∈ body, InAlphabet c) (hpadding : ∀ c ∈ padding, c = '=')
      (hafter : ∀ c ∈ after, Text.isBlank c = true) : Written value (body ++ padding)

theorem lower_eq_bearer_iff {s : String} : Text.lower s = "bearer" ↔ SameWord s "bearer" := by
  have hlower : Text.lower "bearer" = "bearer" := by decide
  rw [Text.sameWord_iff_lower, hlower]

/-- The word begins with a letter. -/
theorem exists_letter {word : List Char} (h : SameWord (String.ofList word) "bearer") :
    ∃ first rest, word = first :: rest ∧ Text.isBlank first = false := by
  rw [SameWord, String.toList_ofList, show "bearer".toList = 'b' :: "earer".toList by decide] at h
  cases h with
  | @cons first _ rest _ hfirst _ =>
    refine ⟨first, rest, rfl, ?_⟩
    rcases hfirst with rfl | ⟨hupper, -⟩ | ⟨hupper, -⟩
    · decide
    · rw [Text.isUpper_iff] at hupper
      exact isBlank_of_range (by omega)
    · exact absurd hupper (by decide)

theorem isBearerToken_of_alphabet {body padding : List Char} (hfilled : body ≠ []) (hbody : ∀ c ∈ body, InAlphabet c)
    (hpadding : ∀ c ∈ padding, c = '=') : IsBearerToken (body ++ padding) :=
  ⟨body, padding, rfl, hfilled, fun c hc => isTokenChar_iff.2 (hbody c hc), hpadding⟩

/-- A word, blanks and a token have no blanks at their ends. -/
theorem trimChars_bearer {word gap : List Char} (hword : SameWord (String.ofList word) "bearer")
    (htoken : IsBearerToken token) : Text.trimChars (word ++ gap ++ token) = word ++ gap ++ token := by
  obtain ⟨first, rest, rfl, hfirst⟩ := exists_letter hword
  have hlast : Text.isBlank (token.getLast htoken.ne_nil) = false := htoken.isBlank _ (List.getLast_mem htoken.ne_nil)
  have hends := Text.trimChars_of_ends (rest ++ gap ++ token.dropLast) hfirst hlast
  rwa [List.append_assoc, List.dropLast_concat_getLast] at hends

/-- **The headers that bear a token are the ones that are written so.** -/
theorem bears_iff_written : Bears value token ↔ Written value token := by
  constructor
  · rintro ⟨word, gap, htrim, hword, hsome, hgap, body, padding, rfl, hfilled, hbody, hpadding⟩
    obtain ⟨before, after, hvalue, hbefore, hafter⟩ := Text.exists_pad value.toList
    refine .intro before word gap body padding after ?_ hbefore (lower_eq_bearer_iff.1 hword) hsome hgap hfilled
      (fun c hc => isTokenChar_iff.1 (hbody c hc)) hpadding hafter
    rw [hvalue, htrim]
    simp only [List.append_assoc]
  · rintro ⟨before, word, gap, body, padding, after, hvalue, hbefore, hword, hsome, hgap, hfilled, hbody, hpadding, hafter⟩
    have htoken := isBearerToken_of_alphabet hfilled hbody hpadding
    refine ⟨word, gap, ?_, lower_eq_bearer_iff.2 hword, hsome, hgap, htoken⟩
    have hinner : value.toList = before ++ (word ++ gap ++ (body ++ padding)) ++ after := by
      rw [hvalue]
      simp only [List.append_assoc]
    rw [hinner, Text.trimChars_pad hbefore hafter, trimChars_bearer hword htoken]

/-- A request whose Authorization header is text carries the token that is written there, and no other. -/
theorem token_eq_ok_iff_written {r : Request} {name loginPath : String} (hheader : r.header? "authorization" = some value)
    (hvisible : IsVisible value) : r.token name loginPath = .ok token ↔ Written value token := by
  rw [token_eq_ok_iff, ← bears_iff_written]
  constructor
  · intro hcarries
    cases hcarries with
    | header hother _ hbears =>
      rw [hheader, Option.some.injEq] at hother
      rwa [hother]
    | cookie hnone =>
      rw [hheader] at hnone
      cases hnone
  · exact .header hheader hvisible

/-- **A bearer header is read by its grammar.**  The reader finds a token exactly where one is written, and there is at
most one; without one it finds nothing.  A request with such a header as text carries that token, and is refused for its
header otherwise. -/
theorem bearer_iff_written (value : String) :
    (∀ token, bearerToken? value = some token ↔ Written value token) ∧
      (bearerToken? value = none ↔ ¬ ∃ token, Written value token) ∧
      (∀ a b, Written value a → Written value b → a = b) ∧
      ∀ (r : Request) (name loginPath : String), r.header? "authorization" = some value → IsVisible value →
        (∀ token, r.token name loginPath = .ok token ↔ Written value token) ∧
          (r.token name loginPath = .error .invalidAuthHeader ↔ ¬ ∃ token, Written value token) := by
  have hread : ∀ token, bearerToken? value = some token ↔ Written value token := fun token =>
    bearerToken?_eq_some_iff.trans bears_iff_written
  have hnone : bearerToken? value = none ↔ ¬ ∃ token, Written value token := by
    simp only [Option.eq_none_iff_forall_ne_some, ne_eq, hread, not_exists]
  refine ⟨hread, hnone, fun a b ha hb => ?_, fun r name loginPath hheader hvisible => ?_⟩
  · exact Option.some.inj (((hread a).2 ha).symm.trans ((hread b).2 hb))
  refine ⟨fun token => token_eq_ok_iff_written hheader hvisible, fun herror => ?_, fun hunwritten => ?_⟩
  · rintro ⟨token, hwritten⟩
    rw [(token_eq_ok_iff_written hheader hvisible).2 hwritten] at herror
    cases herror
  · exact token_of_unreadable hheader fun ⟨_, token, hbears⟩ => hunwritten ⟨token, bears_iff_written.1 hbears⟩

/-- A header with a tab for a blank, with blanks around it and the word in mixed case. -/
def mixedHeader : String := "  bEaReR\ta+b/c== "

def mixedRequest : Request := ⟨"GET", "/api/me", [("Authorization", mixedHeader)], []⟩

/-- The token of that header. -/
theorem bearer_of_mixed :
    mixedRequest.header? "authorization" = some mixedHeader ∧ IsVisible mixedHeader ∧
      mixedRequest.token "session" "/" = .ok "a+b/c==".toList := by
  have hheader : mixedRequest.header? "authorization" = some mixedHeader := by decide
  have hvisible : IsVisible mixedHeader := List.all_eq_true.1 (by decide)
  have hword : SameWord (String.ofList "bEaReR".toList) "bearer" := lower_eq_bearer_iff.1 (by decide)
  have hbody : ∀ c ∈ "a+b/c".toList, InAlphabet c := fun c hc =>
    isTokenChar_iff.1 (List.all_eq_true.1 (show "a+b/c".toList.all isTokenChar = true by decide) c hc)
  have hpadding : ∀ c ∈ "==".toList, c = '=' := fun c hc => List.eq_of_mem_replicate (n := 2) hc
  have hwritten : Written mixedHeader "a+b/c==".toList :=
    .intro "  ".toList "bEaReR".toList "\t".toList "a+b/c".toList "==".toList " ".toList (by decide)
      (List.all_eq_true.1 (by decide)) hword (by decide) (List.all_eq_true.1 (by decide)) (by decide) hbody hpadding
      (List.all_eq_true.1 (by decide))
  exact ⟨hheader, hvisible, (((bearer_iff_written _).2.2.2 _ "session" "/" hheader hvisible).1 _).2 hwritten⟩

end Http
end Gatehouse
