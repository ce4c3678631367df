import Gatehouse.Proofs.Http.Credentials
import Gatehouse.Proofs.Json.Order
import Gatehouse.Proofs.Key.Signature
import Gatehouse.Proofs.Session
/-!
# Tokens — parsing undoes signing

`Token.parse_token`: a token that a key pair makes of a JSON object says the pair's algorithm and that object, and it
goes through an Authorization header as it is.
-/
namespace Gatehouse

variable {k : KeyPair} {token : List Char}

/-- The characters of a token: base64url digits and dots. -/
def IsTokenText (token : List Char) : Prop := ∀ c ∈ token, Base64.isDigit .urlSafe c = true ∨ c = '.'

theorem isTokenChar_of_isDigit {c : Char} (h : Base64.isDigit .urlSafe c = true) : Http.isTokenChar c = true := by
  obtain ⟨n, hn⟩ := Option.isSome_iff_exists.1 h
  obtain ⟨hlt, rfl⟩ := Base64.eq_digit_of_value? hn
  have hall : ∀ n < 64, Http.isTokenChar (Base64.digit .urlSafe n) = true := by decide
  exact hall n hlt

theorem IsTokenText.bearer (h : IsTokenText token) (hne : token ≠ []) :
    Http.bearerToken? ("Bearer " ++ String.ofList token) = some token := by
  have hchars : ∀ c ∈ token, Http.isTokenChar c = true := by
    intro c hc
    rcases h c hc with hdigit | rfl
    · exact isTokenChar_of_isDigit hdigit
    · decide
  have htoken : Http.IsBearerToken token := ⟨token, [], (List.append_nil token).symm, hne, hchars, nofun⟩
  exact Http.bearerToken?_eq_some_iff.2 (Http.bears_of_token htoken)

theorem KeyPair.isTokenText_segment (text : String) : IsTokenText (segment text) := fun c hc =>
  .inl (Base64.isDigit_of_mem_encode .urlSafe _ c hc)

theorem IsTokenText.append_dot {a b : List Char} (ha : IsTokenText a) (hb : IsTokenText b) :
    IsTokenText (a ++ '.' :: b) := by
  intro c hc
  rcases List.mem_append.1 hc with hc | hc
  · exact ha c hc
  rcases List.mem_cons.1 hc with rfl | hc
  · exact .inr rfl
  · exact hb c hc

theorem IsTokenText.not_mem (h : IsTokenText token) {c : Char} (hdigit : Base64.isDigit .urlSafe c = false)
    (hdot : c ≠ '.') : c ∉ token := by
  intro hc
  rcases h c hc with hyes | hyes
  · rw [hdigit] at hyes
    cases hyes
  · exact hdot hyes

/-- The characters of a token are visible. -/
theorem IsTokenText.range (h : IsTokenText token) : ∀ c ∈ token, 0x20 < c.toNat ∧ c.toNat < 0x7F := by
  intro c hc
  rcases h c hc with hdigit | rfl
  · exact Base64.range_of_isDigit hdigit
  · decide

/-- **What a pair that encodes its signatures makes is a token's text.** -/
theorem KeyPair.isTokenText_token (hkeys : k.Encodes) {payload : String} (h : k.token payload = .ok token) :
    IsTokenText token ∧ token ≠ [] := by
  obtain ⟨signature, hsign, rfl⟩ := token_eq_ok_iff.1 h
  have hinput := (isTokenText_segment (header k.algorithm).compact).append_dot (isTokenText_segment payload)
  exact ⟨hinput.append_dot fun c hc => .inl ((hkeys _ _ hsign).2 c hc),
    List.append_ne_nil_of_right_ne_nil _ (List.cons_ne_nil _ _)⟩

namespace Token

/-- **Parsing undoes signing.**  Whatever object without floating-point numbers a pair signs, in whatever order its
members stand: the token has three segments and says the pair's algorithm and the same object, which is the very object
if its members are in ascending order.  A client that sends the token as a bearer token has it read unchanged. -/
theorem parse_token (k : KeyPair) {members : List (String × Json)} (hfits : (Json.object members).Fits Json.maxDepth)
    (hdistinct : (Json.object members).Distinct) {signature : List Char}
    (hsign : k.sign (KeyPair.signingInput k.algorithm (Json.object members).compact) = .ok signature)
    (hne : signature ≠ []) (hdigits : ∀ c ∈ signature, Base64.isDigit .urlSafe c = true) :
    ∃ token claims, k.token (Json.object members).compact = .ok token ∧ (Text.splitOn '.' token).length = 3 ∧
      parse token = .ok ⟨k.algorithm.name, claims⟩ ∧ Json.Same (.object members) (.object claims) ∧
      ((Json.object members).Ascending → claims = members) ∧ IsTokenText token ∧
      Http.bearerToken? ("Bearer " ++ String.ofList token) = some token := by
  have hdot : '.' ∉ signature := fun h => (Base64.ne_of_isDigit (hdigits '.' h)).1 rfl
  obtain ⟨claims, hclaims⟩ : ∃ claims, (Json.object members).normal = .object claims := ⟨_, rfl⟩
  have hmade := KeyPair.token_eq_ok_iff.2 ⟨signature, hsign, rfl⟩
  have hsegments := splitOn_signed k.algorithm (Json.object members).compact signature
  have hparse := parse_signed k.algorithm hfits hclaims hne hdot
  have hsame := Json.same_normal hdistinct
  have htext : IsTokenText (KeyPair.signingInput k.algorithm (Json.object members).compact ++ '.' :: signature) :=
    ((KeyPair.isTokenText_segment _).append_dot (KeyPair.isTokenText_segment _)).append_dot fun c hc => .inl (hdigits c hc)
  refine ⟨_, claims, hmade, ?_, hparse, ?_, fun hascending => ?_, htext,
    htext.bearer (List.append_ne_nil_of_right_ne_nil _ (List.cons_ne_nil _ _))⟩
  · rw [hsegments, Text.splitOn_of_not_mem hdot]
    rfl
  · rwa [hclaims] at hsame
  · have hkept := Json.normal_of_ascending hascending
    rw [hclaims] at hkept
    injection hkept

/-- Claims with names and texts that have to be escaped, and the least and the greatest integer. -/
def intricateClaims : List (String × Json) :=
  [("", .text "\"\\\u0001é"), ("iat", .array [.int (-9223372036854775808), .int 18446744073709551615, .null]),
    ("é\n", .object [("alg", .bool true)])]

theorem fits_intricateClaims : (Json.object intricateClaims).Fits Json.maxDepth := by
  have hleast : Json.IsExact (-9223372036854775808) := ⟨by decide, by decide⟩
  have hgreatest : Json.IsExact 18446744073709551615 := ⟨by decide, by decide⟩
  exact ⟨126, rfl, trivial, ⟨125, rfl, hleast, hgreatest, trivial, trivial⟩, ⟨125, rfl, trivial, trivial⟩, trivial⟩

theorem ascending_intricateClaims : (Json.object intricateClaims).Ascending := by
  have hsorted : Assoc.Sorted intricateClaims := by
    simp only [Assoc.Sorted, intricateClaims]
    decide
  exact ⟨hsorted, trivial, ⟨trivial, trivial, trivial, trivial⟩, ⟨List.pairwise_singleton _ _, trivial, trivial⟩, trivial⟩

/-- **Intricate claims come back.** -/
theorem parse_token_intricate :
    (Json.object intricateClaims).Fits Json.maxDepth ∧ (Json.object intricateClaims).Distinct ∧
      ∃ token, Session.lastPair.token (Json.object intricateClaims).compact = .ok token ∧
        parse token = .ok ⟨"ES256", intricateClaims⟩ ∧
        Http.bearerToken? ("Bearer " ++ String.ofList token) = some token := by
  have hdistinct : (Json.object intricateClaims).Distinct :=
    ⟨by decide, trivial, ⟨trivial, trivial, trivial, trivial⟩, ⟨by decide, trivial, trivial⟩, trivial⟩
  have hne : Session.lastSignature ≠ [] := List.cons_ne_nil _ _
  obtain ⟨token, claims, hmade, -, hparse, -, hkept, -, hbearer⟩ :=
    parse_token Session.lastPair fits_intricateClaims hdistinct rfl (Base64.encode_ne_nil .urlSafe hne)
      (Base64.isDigit_of_mem_encode .urlSafe Session.lastSignature)
  rw [hkept ascending_intricateClaims] at hparse
  exact ⟨fits_intricateClaims, hdistinct, token, hmade, hparse, hbearer⟩

end Token
end Gatehouse
