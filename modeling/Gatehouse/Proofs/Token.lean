import Gatehouse.Key.Pair
import Gatehouse.Proofs.Base64
import Gatehouse.Proofs.Json.Value
import Gatehouse.Token
/-!
# Tokens — what is signed parses

`Token.parse_signed`: header and payload of a signed token are read back.  Header and payload are segments of Base64
digits, so the last dot of a token is the one before its signature, and the signature is checked over the text before
that (`acceptsToken_eq_true_iff`).
-/
namespace Gatehouse

theorem KeyPair.dot_not_mem_segment (text : String) : '.' ∉ segment text := Base64.dot_not_mem_encode _

/-- **Whose signature is checked, and over what**: the text after the last dot, over the text before it. -/
theorem acceptsToken_eq_true_iff (accepts : List Char → List Char → Bool) (token : List Char) :
    acceptsToken accepts token = true ↔
      ∃ message signature, token = message ++ '.' :: signature ∧ '.' ∉ signature ∧
        accepts message signature = true := by
  unfold acceptsToken
  constructor
  · intro h
    split at h
    · rename_i message signature hsplit
      obtain ⟨htoken, hdot⟩ := Text.splitLast?_eq_some_iff.1 hsplit
      exact ⟨message, signature, htoken, hdot, h⟩
    · cases h
  · rintro ⟨message, signature, htoken, hdot, h⟩
    rw [Text.splitLast?_eq_some_iff.2 ⟨htoken, hdot⟩]
    exact h

theorem acceptsToken_append (accepts : List Char → List Char → Bool) (message : List Char) {signature : List Char}
    (hdot : '.' ∉ signature) : acceptsToken accepts (message ++ '.' :: signature) = accepts message signature := by
  rw [acceptsToken, Text.splitLast?_eq_some_iff.2 ⟨rfl, hdot⟩]

/-- A token is its signing input, a dot and a signature over it. -/
theorem KeyPair.token_eq_ok_iff {k : KeyPair} {payload : String} {text : List Char} :
    k.token payload = .ok text ↔
      ∃ signature, k.sign (signingInput k.algorithm payload) = .ok signature ∧
        text = signingInput k.algorithm payload ++ '.' :: signature := by
  unfold token
  cases hsign : k.sign (signingInput k.algorithm payload) with
  | error fault => simp [hsign, Except.map]
  | ok signature => simp [hsign, Except.map, eq_comm]

/-- The characters of a token are visible. -/
theorem KeyPair.range_of_mem_token {a : Algorithm} {payload : String} {bytes : List UInt8} {c : Char}
    (h : c ∈ signingInput a payload ++ '.' :: Base64.encode .urlSafe bytes) : 0x20 < c.toNat ∧ c.toNat < 0x7F := by
  have hdot : 0x20 < '.'.toNat ∧ '.'.toNat < 0x7F := by decide
  have hdigit (l : List UInt8) (hc : c ∈ Base64.encode .urlSafe l) : 0x20 < c.toNat ∧ c.toNat < 0x7F :=
    Base64.range_of_isDigit (Base64.isDigit_of_mem_encode .urlSafe l c hc)
  simp only [signingInput, segment, List.mem_append, List.mem_cons] at h
  rcases h with (hheader | rfl | hpayload) | rfl | hsignature
  · exact hdigit _ hheader
  · exact hdot
  · exact hdigit _ hpayload
  · exact hdot
  · exact hdigit _ hsignature

/-- A pair signs a message, and accepts its signature, which is a text of base64url digits. -/
def KeyPair.Signs (k : KeyPair) (message : List Char) : Prop :=
  ∃ signature, k.sign message = .ok signature ∧ k.accepts message signature = true ∧ signature ≠ [] ∧
    ∀ c ∈ signature, Base64.isDigit .urlSafe c = true

theorem KeyPair.signs_of_encode {k : KeyPair} {message : List Char} {bytes : List UInt8} (hne : bytes ≠ [])
    (hsign : k.sign message = .ok (Base64.encode .urlSafe bytes))
    (haccepts : k.accepts message (Base64.encode .urlSafe bytes) = true) : k.Signs message :=
  ⟨_, hsign, haccepts, Base64.encode_ne_nil .urlSafe hne, Base64.isDigit_of_mem_encode .urlSafe bytes⟩

/-- A signature is checked as bytes. -/
theorem PublicKey.accepts_encode (k : PublicKey) (message : List Char) (bytes : List UInt8) :
    k.accepts message (Base64.encode .urlSafe bytes) = k.acceptsBytes (Text.bytes message) bytes := by
  rw [accepts, Base64.decode?_encode, Text.utf8_ofList]

namespace Token

/-- A segment reads back as the members of its object. -/
theorem decodeSegment_segment (part : Part) {v : Json} {members : List (String × Json)} (hf : v.Fits Json.maxDepth)
    (hn : v.normal = .object members) : decodeSegment part (KeyPair.segment v.compact) = .ok members := by
  have hpadding : ∀ c ∈ KeyPair.segment v.compact, decide (c = '=') = false := fun c hc =>
    decide_eq_false (Base64.ne_of_isDigit (Base64.isDigit_of_mem_encode .urlSafe _ c hc)).2
  unfold decodeSegment
  rw [Text.dropEnd_of_forall hpadding, KeyPair.segment, Base64.decode?_encode]
  simp only [Json.parse?_compact hf, hn]

theorem normal_header (a : Algorithm) :
    (KeyPair.header a).normal = .object [("alg", .text a.name), ("typ", .text "JWT")] := by
  simp only [KeyPair.header, Json.normal, Json.normalMembers, Json.ofMembers, List.foldl_cons, List.foldl_nil,
    Assoc.insert, String.reduceEq, String.reduceLT, if_false]

theorem fits_header (a : Algorithm) : (KeyPair.header a).Fits Json.maxDepth := by
  refine ⟨126, rfl, ?_⟩
  simp only [Json.FitsMembers, Json.Fits, and_self]

/-- The segments of a text that begins with a signing input. -/
theorem splitOn_signed (a : Algorithm) (payload : String) (signature : List Char) :
    Text.splitOn '.' (KeyPair.signingInput a payload ++ '.' :: signature) =
      KeyPair.segment (KeyPair.header a).compact :: KeyPair.segment payload :: Text.splitOn '.' signature := by
  rw [KeyPair.signingInput, List.append_assoc, List.cons_append,
    Text.splitOn_append_cons _ (KeyPair.dot_not_mem_segment _), Text.splitOn_append_cons _ (KeyPair.dot_not_mem_segment _)]

/-- **A signed token says its algorithm and its payload.** -/
theorem parse_signed (a : Algorithm) {payload : Json} {members : List (String × Json)}
    (hf : payload.Fits Json.maxDepth) (hn : payload.normal = .object members) {signature : List Char}
    (hne : signature ≠ []) (hdot : '.' ∉ signature) :
    parse (KeyPair.signingInput a payload.compact ++ '.' :: signature) = .ok ⟨a.name, members⟩ := by
  have hsplit : Text.splitOn '.' (KeyPair.signingInput a payload.compact ++ '.' :: signature) =
      [KeyPair.segment (KeyPair.header a).compact, KeyPair.segment payload.compact, signature] := by
    rw [splitOn_signed, Text.splitOn_of_not_mem hdot]
  have hsig : signature.isEmpty = false := List.isEmpty_eq_false_iff.2 hne
  have halg : (Assoc.get? "alg" [("alg", Json.text a.name), ("typ", .text "JWT")]).bind Json.asText? = some a.name := rfl
  unfold parse
  rw [hsplit]
  simp only [hsig, Bool.false_eq_true, if_false, decodeSegment_segment .header (fits_header a) (normal_header a), halg,
    decodeSegment_segment .payload hf hn]

/-- What follows a message is a signature without a dot, if the token parses. -/
theorem signature_of_parse {a : Algorithm} {payload : String} {signature : List Char} {t : Token}
    (h : parse (KeyPair.signingInput a payload ++ '.' :: signature) = .ok t) : signature ≠ [] ∧ '.' ∉ signature := by
  have hsplit := splitOn_signed a payload signature
  unfold parse at h
  split at h
  · rename_i header segment piece hpieces
    rw [hsplit, List.cons.injEq, List.cons.injEq] at hpieces
    have hdot := Text.not_mem_of_splitOn hpieces.2.2
    rw [Text.splitOn_of_not_mem hdot, List.cons.injEq] at hpieces
    refine ⟨fun hnil => ?_, hdot⟩
    rw [← hpieces.2.2.1, hnil] at h
    cases h
  · cases h

/-- **A token that is signed over a known message says what the message says.** -/
theorem eq_of_parse_signed {a : Algorithm} {payload : Json} {members : List (String × Json)}
    (hf : payload.Fits Json.maxDepth) (hn : payload.normal = .object members) {signature : List Char} {t : Token}
    (h : parse (KeyPair.signingInput a payload.compact ++ '.' :: signature) = .ok t) : t = ⟨a.name, members⟩ := by
  obtain ⟨hne, hdot⟩ := signature_of_parse h
  rw [parse_signed a hf hn hne hdot, Except.ok.injEq] at h
  exact h.symm

theorem fits_probe : (Json.object [("sub", .text "adsisto-key-check")]).Fits Json.maxDepth :=
  ⟨126, rfl, by simp only [Json.FitsMembers, Json.Fits, and_self]⟩

theorem normal_probe : (Json.object [("sub", .text "adsisto-key-check")]).normal =
    .object [("sub", .text "adsisto-key-check")] := by
  simp only [Json.normal, Json.normalMembers]
  rfl

/-! ## What parses -/

theorem decodeSegment_eq_ok_iff {part : Part} {segment : List Char} {members : List (String × Json)} :
    decodeSegment part segment = .ok members ↔
      ∃ bytes, Base64.decode? .urlSafe (Text.dropEnd (· = '=') segment) = some bytes ∧
        Json.parse? bytes = some (.object members) := by
  unfold decodeSegment
  cases hbytes : Base64.decode? .urlSafe (Text.dropEnd (· = '=') segment) with
  | none => simp
  | some bytes =>
    dsimp only
    constructor
    · intro h
      split at h
      · rename_i members' hparse
        cases h
        exact ⟨bytes, rfl, hparse⟩
      · cases h
    · rintro ⟨_, hb, hparse⟩
      cases hb
      rw [hparse]

/-- The two dots of a text that parses, and what stands between them. -/
theorem segments_of_parse {text : List Char} {t : Token} (h : parse text = .ok t) :
    ∃ header payload signature,
      text = header ++ '.' :: (payload ++ '.' :: signature) ∧ '.' ∉ header ∧ '.' ∉ payload ∧ '.' ∉ signature ∧
        signature ≠ [] ∧ decodeSegment .payload payload = .ok t.claims := by
  unfold parse at h
  split at h
  · rename_i header payload signature hsplit
    obtain ⟨rest, htext, hheader, hrest⟩ := Text.splitOn_eq_cons_cons hsplit
    obtain ⟨last, hlast, hpayload, hsplit⟩ := Text.splitOn_eq_cons_cons hrest
    have hdot := Text.not_mem_of_splitOn hsplit
    rw [Text.splitOn_of_not_mem hdot, List.cons.injEq] at hsplit
    obtain ⟨rfl, -⟩ := hsplit
    split at h
    · cases h
    rename_i hne
    split at h
    · cases h
    split at h
    · cases h
    split at h
    · cases h
    rename_i claims hclaims
    cases h
    refine ⟨header, payload, last, by rw [htext, hlast], hheader, hpayload, hdot, fun hnil => ?_, hclaims⟩
    rw [hnil] at hne
    exact hne rfl
  · cases h

/-- The claims of a text that parses are sorted. -/
theorem sorted_of_parse {text : List Char} {t : Token} (h : parse text = .ok t) : Assoc.Sorted t.claims := by
  obtain ⟨_, _, _, -, -, -, -, -, hclaims⟩ := segments_of_parse h
  obtain ⟨bytes, -, hbytes⟩ := decodeSegment_eq_ok_iff.1 hclaims
  exact Json.sorted_of_parse? hbytes

end Token
end Gatehouse
