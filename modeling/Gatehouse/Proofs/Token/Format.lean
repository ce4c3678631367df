import Gatehouse.Proofs.Json.Limits
import Gatehouse.Proofs.Json.Syntax
import Gatehouse.Proofs.Token
/-!
# The format of a token

`Reads` lists what a text is read as, in the order of the checks: two dots, a signature, a header, its algorithm and a
payload.  Every check is one of the grammar, of a text that writes an object and of a segment that writes a text.
`parse_iff_reads`: a text is read as what is listed, and padding is all in which two tokens of one content differ.
-/
namespace Gatehouse
namespace Token

open Json (Tree Letter Keeps last? name?)

/-! ## Segments -/

structure Cut (text header payload signature : List Char) : Prop where
  text_eq : text = header ++ '.' :: (payload ++ '.' :: signature)
  header : '.' ∉ header
  payload : '.' ∉ payload
  signature : '.' ∉ signature

/-- A segment writes bytes as base64url digits, behind which any number of equals signs stands. -/
def Encodes (segment : List Char) (bytes : List UInt8) : Prop :=
  ∃ k, segment = Base64.encode .urlSafe bytes ++ List.replicate k '='

/-- A segment writes an object. -/
def Holds (segment : List Char) (members : List (List Letter × Tree)) : Prop :=
  ∃ cs, Encodes segment (Text.bytes cs) ∧ Json.Writes (.object members) cs

/-- A segment writes an object within the limits of a reader. -/
structure Tells (segment : List Char) (members : List (List Letter × Tree)) : Prop where
  holds : Holds segment members
  within : (Tree.object members).Within Json.maxDepth

/-- Why a segment is refused. -/
inductive Refused (part : Part) (segment : List Char) : Fault → Prop
  | notBase64 (h : ∀ bytes, ¬ Encodes segment bytes) : Refused part segment (.notBase64 part)
  | notJson {bytes : List UInt8} (hbytes : Encodes segment bytes) (h : ∀ members, ¬ Tells segment members) :
      Refused part segment (.notJson part)

/-- What a text is read as, by the first check that fails. -/
inductive Reads (text : List Char) : Except Fault Token → Prop
  | segmentCount (h : ∀ header payload signature, ¬ Cut text header payload signature) : Reads text (.error .segmentCount)
  | emptySignature {header payload : List Char} (hcut : Cut text header payload []) : Reads text (.error .emptySignature)
  | header {header payload signature : List Char} {fault : Fault} (hcut : Cut text header payload signature)
      (hsignature : signature ≠ []) (hheader : Refused .header header fault) : Reads text (.error fault)
  | noAlgorithm {header payload signature : List Char} {head : List (List Letter × Tree)}
      (hcut : Cut text header payload signature) (hsignature : signature ≠ []) (hheader : Tells header head)
      (halg : ∀ letters, last? "alg" head ≠ some (.text letters)) : Reads text (.error .noAlgorithm)
  | payload {header payload signature : List Char} {head : List (List Letter × Tree)} {letters : List Letter}
      {fault : Fault} (hcut : Cut text header payload signature) (hsignature : signature ≠ [])
      (hheader : Tells header head) (halg : last? "alg" head = some (.text letters))
      (hpayload : Refused .payload payload fault) : Reads text (.error fault)
  | token {header payload signature : List Char} {head body : List (List Letter × Tree)} {letters : List Letter}
      {algorithm : String} {claims : List (String × Json)} (hcut : Cut text header payload signature)
      (hsignature : signature ≠ []) (hheader : Tells header head) (halg : last? "alg" head = some (.text letters))
      (halgorithm : name? letters = some algorithm) (hpayload : Tells payload body)
      (hclaims : Keeps (Json.maxDepth - 1) body claims) : Reads text (.ok ⟨algorithm, claims⟩)

variable {text segment header payload signature : List Char} {bytes : List UInt8} {part : Part} {fault : Fault}
  {members : List (List Letter × Tree)} {kept : List (String × Json)}

/-- **A text falls into three pieces if it has two dots.** -/
theorem splitOn_eq_iff_cut : Text.splitOn '.' text = [header, payload, signature] ↔ Cut text header payload signature := by
  constructor
  · intro hsplit
    obtain ⟨rest, htext, hheader, hrest⟩ := Text.splitOn_eq_cons_cons hsplit
    obtain ⟨last, hlast, hpayload, hsplit⟩ := Text.splitOn_eq_cons_cons hrest
    have hdot := Text.not_mem_of_splitOn hsplit
    rw [Text.splitOn_of_not_mem hdot, List.cons.injEq] at hsplit
    obtain ⟨rfl, -⟩ := hsplit
    exact ⟨by rw [htext, hlast], hheader, hpayload, hdot⟩
  · rintro ⟨rfl, hheader, hpayload, hsignature⟩
    rw [Text.splitOn_append_cons _ hheader, Text.splitOn_append_cons _ hpayload, Text.splitOn_of_not_mem hsignature]

theorem decode?_dropEnd_iff :
    Base64.decode? .urlSafe (Text.dropEnd (· = '=') segment) = some bytes ↔ Encodes segment bytes := by
  rw [Base64.decode?_eq_some_iff]
  constructor
  · intro h
    obtain ⟨tail, hsegment, htail⟩ := Text.exists_dropEnd (· = '=') segment
    have hequals := List.eq_replicate_iff.2 ⟨rfl, fun c hc => of_decide_eq_true (htail c hc)⟩
    exact ⟨tail.length, by rw [← hequals, ← h, ← hsegment]⟩
  · rintro ⟨k, rfl⟩
    have hequals : ∀ c ∈ List.replicate k '=', decide (c = '=') = true := fun c hc =>
      decide_eq_true (List.mem_replicate.1 hc).2
    have hdigits : ∀ c ∈ Base64.encode .urlSafe bytes, decide (c = '=') = false := fun c hc =>
      decide_eq_false (Base64.ne_of_isDigit (Base64.isDigit_of_mem_encode .urlSafe bytes c hc)).2
    rw [Text.dropEnd_append _ hequals, Text.dropEnd_of_forall hdigits]

theorem Encodes.dot_not_mem (h : Encodes segment bytes) : '.' ∉ segment := by
  obtain ⟨k, rfl⟩ := h
  simp [Base64.dot_not_mem_encode]

theorem decodeSegment_of_tells (h : Tells segment members) (hkept : Keeps (Json.maxDepth - 1) members kept) :
    decodeSegment part segment = .ok kept := by
  obtain ⟨⟨cs, hencodes, hwrites⟩, hwithin⟩ := h
  have hvalue : (Tree.object members).value? Json.maxDepth = some (.object kept) :=
    Json.value?_object_eq_some_iff.2 ⟨hwithin, kept, rfl, hkept⟩
  refine decodeSegment_eq_ok_iff.2 ⟨_, decode?_dropEnd_iff.2 hencodes, ?_⟩
  rw [Json.parse?_of_writes hwrites, hvalue]

theorem exists_tells (h : decodeSegment part segment = .ok kept) :
    ∃ members, Tells segment members ∧ Keeps (Json.maxDepth - 1) members kept := by
  obtain ⟨bytes, hbytes, hparse⟩ := decodeSegment_eq_ok_iff.1 h
  obtain ⟨t, cs, hwrites, rfl, hvalue⟩ := Json.exists_writes hparse
  obtain ⟨members, rfl⟩ := Json.object_of_value? hvalue
  obtain ⟨hwithin, kept', hkept', hkeeps⟩ := Json.value?_object_eq_some_iff.1 hvalue
  cases hkept'
  exact ⟨members, ⟨⟨cs, decode?_dropEnd_iff.1 hbytes, hwrites⟩, hwithin⟩, hkeeps⟩

theorem Tells.exists_keeps (h : Tells segment members) : ∃ kept, Keeps (Json.maxDepth - 1) members kept := by
  obtain ⟨v, hv⟩ := Json.exists_value_iff.2 h.within
  obtain ⟨-, kept, -, hkeeps⟩ := Json.value?_object_eq_some_iff.1 hv
  exact ⟨kept, hkeeps⟩

theorem not_tells_iff :
    (∀ members, ¬ Tells segment members) ↔ ∀ kept, decodeSegment part segment ≠ .ok kept := by
  constructor
  · intro h kept hok
    obtain ⟨members, htells, -⟩ := exists_tells hok
    exact h members htells
  · intro h members htells
    obtain ⟨kept, hkeeps⟩ := htells.exists_keeps
    exact h kept (decodeSegment_of_tells htells hkeeps)

/-- **A segment is refused if it writes no object within the limits.** -/
theorem decodeSegment_eq_error_iff : decodeSegment part segment = .error fault ↔ Refused part segment fault := by
  constructor
  · intro h
    cases hbytes : Base64.decode? .urlSafe (Text.dropEnd (· = '=') segment) with
    | none =>
      simp only [decodeSegment, hbytes, Except.error.injEq] at h
      subst h
      refine .notBase64 fun bytes hencodes => ?_
      rw [decode?_dropEnd_iff.2 hencodes] at hbytes
      cases hbytes
    | some bytes =>
      have htells := not_tells_iff.2 fun kept hok => by
        rw [h] at hok
        cases hok
      have hfault : fault = .notJson part := by
        simp only [decodeSegment, hbytes] at h
        split at h <;> cases h
        rfl
      subst hfault
      exact .notJson (decode?_dropEnd_iff.1 hbytes) htells
  · rintro (h | ⟨hbytes, h⟩)
    · have hbytes : Base64.decode? .urlSafe (Text.dropEnd (· = '=') segment) = none := by
        rw [Option.eq_none_iff_forall_ne_some]
        intro bytes hbytes
        exact h bytes (decode?_dropEnd_iff.1 hbytes)
      simp only [decodeSegment, hbytes]
    · have hok : ∀ kept, decodeSegment part segment ≠ .ok kept := not_tells_iff.1 h
      simp only [decodeSegment, decode?_dropEnd_iff.2 hbytes] at hok ⊢
      split
      · rename_i kept hparse
        rw [hparse] at hok
        exact absurd rfl (hok kept)
      · rfl

/-! ## The algorithm -/

theorem asText?_value? {depth : Nat} {t : Tree} {s : String} :
    (t.value? depth).bind Json.asText? = some s ↔ ∃ letters, t = .text letters ∧ name? letters = some s := by
  cases t with
  | text letters =>
    rw [Tree.value?]
    cases hname : name? letters with
    | none => simp [hname]
    | some name => simp [hname, Json.asText?]
  | array items => cases depth <;> simp [Tree.value?, Option.bind_map, Function.comp_def, Json.asText?]
  | object members => cases depth <;> simp [Tree.value?, Option.bind_map, Function.comp_def, Json.asText?, Json.ofMembers]
  | _ => simp [Tree.value?, Option.bind_map, Function.comp_def, Json.asText?]

/-- The algorithm is read from the last member that is called so. -/
theorem algorithm_eq_some_iff (hkept : Keeps (Json.maxDepth - 1) members kept) {algorithm : String} :
    (Assoc.get? "alg" kept).bind Json.asText? = some algorithm ↔
      ∃ letters, last? "alg" members = some (.text letters) ∧ name? letters = some algorithm := by
  rw [hkept.get?_eq]
  cases last? "alg" members with
  | none => simp
  | some t =>
    rw [Option.bind_some, asText?_value?]
    simp

theorem Tells.exists_name (h : Tells segment members) {name : String} {letters : List Letter}
    (hlast : last? name members = some (.text letters)) : ∃ s, name? letters = some s := by
  obtain ⟨m, hm, htext⟩ := Option.map_eq_some_iff.1 hlast
  have hmem := List.mem_reverse.1 (List.mem_of_find?_eq_some hm)
  cases h.within with
  | object hname hwithin =>
    have hletters := hwithin m hmem
    rw [htext] at hletters
    cases hletters with
    | text hs => exact ⟨_, hs⟩

theorem algorithm_eq_none_iff (h : Tells segment members) (hkept : Keeps (Json.maxDepth - 1) members kept) :
    (Assoc.get? "alg" kept).bind Json.asText? = none ↔ ∀ letters, last? "alg" members ≠ some (.text letters) := by
  rw [Option.eq_none_iff_forall_ne_some]
  constructor
  · intro hnone letters hlast
    obtain ⟨s, hs⟩ := h.exists_name hlast
    exact hnone s ((algorithm_eq_some_iff hkept).2 ⟨letters, hlast, hs⟩)
  · intro hne s hs
    obtain ⟨letters, hlast, -⟩ := (algorithm_eq_some_iff hkept).1 hs
    exact hne letters hlast

/-! ## The verdict -/

theorem parse_of_cut (hcut : Cut text header payload signature) (hsignature : signature ≠ []) :
    parse text =
      match decodeSegment .header header with
      | .error fault => .error fault
      | .ok members =>
        match (Assoc.get? "alg" members).bind Json.asText? with
        | none => .error .noAlgorithm
        | some algorithm =>
          match decodeSegment .payload payload with
          | .error fault => .error fault
          | .ok claims => .ok ⟨algorithm, claims⟩ := by
  have hgiven : ¬ signature.isEmpty = true := fun h => hsignature (List.isEmpty_iff.1 h)
  unfold parse
  rw [splitOn_eq_iff_cut.2 hcut]
  exact if_neg hgiven

/-- What is listed is what is read. -/
theorem Reads.parse_eq {r : Except Fault Token} (h : Reads text r) : parse text = r := by
  cases h with
  | segmentCount h =>
    unfold parse
    split
    · rename_i hsplit
      exact absurd (splitOn_eq_iff_cut.1 hsplit) (h _ _ _)
    · rfl
  | emptySignature hcut =>
    unfold parse
    rw [splitOn_eq_iff_cut.2 hcut]
    rfl
  | header hcut hsignature hheader => rw [parse_of_cut hcut hsignature, decodeSegment_eq_error_iff.2 hheader]
  | noAlgorithm hcut hsignature hheader halg =>
    obtain ⟨kept, hkept⟩ := hheader.exists_keeps
    rw [parse_of_cut hcut hsignature, decodeSegment_of_tells hheader hkept]
    dsimp only
    rw [(algorithm_eq_none_iff hheader hkept).2 halg]
  | payload hcut hsignature hheader halg hpayload =>
    obtain ⟨kept, hkept⟩ := hheader.exists_keeps
    obtain ⟨algorithm, halgorithm⟩ := hheader.exists_name halg
    rw [parse_of_cut hcut hsignature, decodeSegment_of_tells hheader hkept]
    dsimp only
    rw [(algorithm_eq_some_iff hkept).2 ⟨_, halg, halgorithm⟩]
    dsimp only
    rw [decodeSegment_eq_error_iff.2 hpayload]
  | token hcut hsignature hheader halg halgorithm hpayload hclaims =>
    obtain ⟨kept, hkept⟩ := hheader.exists_keeps
    rw [parse_of_cut hcut hsignature, decodeSegment_of_tells hheader hkept]
    dsimp only
    rw [(algorithm_eq_some_iff hkept).2 ⟨_, halg, halgorithm⟩]
    dsimp only
    rw [decodeSegment_of_tells hpayload hclaims]

/-- Something is listed for every text. -/
theorem exists_reads (text : List Char) : ∃ r, Reads text r := by
  rcases Classical.em (∃ header payload signature, Cut text header payload signature) with hcut | hcut
  case inr => exact ⟨_, .segmentCount fun header payload signature h => hcut ⟨header, payload, signature, h⟩⟩
  obtain ⟨header, payload, signature, hcut⟩ := hcut
  by_cases hsignature : signature = []
  · subst hsignature
    exact ⟨_, .emptySignature hcut⟩
  cases hheader : decodeSegment .header header with
  | error fault => exact ⟨_, .header hcut hsignature (decodeSegment_eq_error_iff.1 hheader)⟩
  | ok kept =>
    obtain ⟨head, htells, hkept⟩ := exists_tells hheader
    cases halgorithm : (Assoc.get? "alg" kept).bind Json.asText? with
    | none => exact ⟨_, .noAlgorithm hcut hsignature htells ((algorithm_eq_none_iff htells hkept).1 halgorithm)⟩
    | some algorithm =>
      obtain ⟨letters, halg, hname⟩ := (algorithm_eq_some_iff hkept).1 halgorithm
      cases hpayload : decodeSegment .payload payload with
      | error fault => exact ⟨_, .payload hcut hsignature htells halg (decodeSegment_eq_error_iff.1 hpayload)⟩
      | ok claims =>
        obtain ⟨body, hbody, hclaims⟩ := exists_tells hpayload
        exact ⟨_, .token hcut hsignature htells halg hname hbody hclaims⟩

/-! ## Padding -/

/-- Two segments differ in the equals signs at their ends at most. -/
def Alike (segment segment' : List Char) : Prop :=
  ∃ digits i j, segment = digits ++ List.replicate i '=' ∧ segment' = digits ++ List.replicate j '='

theorem Encodes.alike {segment' : List Char} (h : Encodes segment bytes) (h' : Encodes segment' bytes) :
    Alike segment segment' := by
  obtain ⟨i, hi⟩ := h
  obtain ⟨j, hj⟩ := h'
  exact ⟨_, i, j, hi, hj⟩

def segmentOf (cs : List Char) : List Char := Base64.encode .urlSafe (Text.bytes cs)

def header256 : List Char := Json.single "alg".toList "\"RS256\"".toList

def withPayload (payload : List Char) : List Char :=
  segmentOf header256 ++ '.' :: (segmentOf payload ++ '.' :: "AA".toList)

theorem encodes_segmentOf (cs : List Char) : Encodes (segmentOf cs) (Text.bytes cs) := ⟨0, (List.append_nil _).symm⟩

theorem cut_withPayload (payload : List Char) :
    Cut (withPayload payload) (segmentOf header256) (segmentOf payload) "AA".toList :=
  ⟨rfl, Base64.dot_not_mem_encode _, Base64.dot_not_mem_encode _, by decide⟩

theorem tells_header256 (h : Encodes segment (Text.bytes header256)) :
    Tells segment [("alg".toList.map .char, .text ("RS256".toList.map .char))] where
  holds := ⟨_, h, Json.writes_single (by decide) (.text (Json.letters_plain (by decide)))⟩
  within := Json.within_single.2 (.text (Json.name?_plain _))

/-- **A text is read as what is listed for it**, and of two tokens whose headers and payloads write the same bytes
these segments differ in their padding at most. -/
theorem parse_iff_reads :
    (∀ (text : List Char) (r : Except Fault Token), parse text = r ↔ Reads text r) ∧
      ∀ {text text' header header' payload payload' signature signature' : List Char} {head body : List UInt8},
        Cut text header payload signature → Cut text' header' payload' signature' →
          Base64.decode? .urlSafe (Text.dropEnd (· = '=') header) = some head →
          Base64.decode? .urlSafe (Text.dropEnd (· = '=') header') = some head →
          Base64.decode? .urlSafe (Text.dropEnd (· = '=') payload) = some body →
          Base64.decode? .urlSafe (Text.dropEnd (· = '=') payload') = some body →
            Alike header header' ∧ Alike payload payload' := by
  refine ⟨fun text r => ⟨fun h => ?_, Reads.parse_eq⟩, ?_⟩
  · obtain ⟨r', hreads⟩ := exists_reads text
    rwa [← h, hreads.parse_eq]
  · intro text text' header header' payload payload' signature signature' head body _ _ hheader hheader' hpayload hpayload'
    exact ⟨(decode?_dropEnd_iff.1 hheader).alike (decode?_dropEnd_iff.1 hheader'),
      (decode?_dropEnd_iff.1 hpayload).alike (decode?_dropEnd_iff.1 hpayload')⟩

/-- A token without padding and one with it. -/
theorem parse_padded :
    parse (segmentOf header256 ++ "==".toList ++ '.' :: (segmentOf "\x7b\x7d".toList ++ "=".toList ++ '.' :: "AA".toList)) =
        .ok ⟨"RS256", []⟩ ∧
      Alike (segmentOf header256) (segmentOf header256 ++ "==".toList) ∧
      Alike (segmentOf "\x7b\x7d".toList) (segmentOf "\x7b\x7d".toList ++ "=".toList) := by
  have hhead : Encodes (segmentOf header256 ++ "==".toList) (Text.bytes header256) := ⟨2, rfl⟩
  have hbody : Encodes (segmentOf "\x7b\x7d".toList ++ "=".toList) (Text.bytes "\x7b\x7d".toList) := ⟨1, rfl⟩
  have hempty : Tells (segmentOf "\x7b\x7d".toList ++ "=".toList) [] :=
    ⟨⟨_, hbody, [], _, [], rfl, nofun, @Json.Spells.object [] [] (.nil nofun), nofun⟩, .object nofun nofun⟩
  have hcut : Cut (segmentOf header256 ++ "==".toList ++ '.' :: (segmentOf "\x7b\x7d".toList ++ "=".toList ++ '.' :: "AA".toList))
      (segmentOf header256 ++ "==".toList) (segmentOf "\x7b\x7d".toList ++ "=".toList) "AA".toList :=
    ⟨rfl, hhead.dot_not_mem, hbody.dot_not_mem, by decide⟩
  have htoken := Reads.token hcut (by decide) (tells_header256 hhead)
    (Json.last?_single "alg" _) (Json.name?_plain _) hempty ⟨List.Pairwise.nil, fun _ => rfl⟩
  exact ⟨(parse_iff_reads.1 _ _).2 htoken,
    parse_iff_reads.2 (cut_withPayload _) hcut (decode?_dropEnd_iff.2 (encodes_segmentOf _)) (decode?_dropEnd_iff.2 hhead)
      (decode?_dropEnd_iff.2 (encodes_segmentOf _)) (decode?_dropEnd_iff.2 hbody)⟩

/-! ## Beyond the limits -/

/-- A text has the format of a token, whatever a reader's limits. -/
inductive Formatted (text : List Char) : Prop
  | mk {header payload signature : List Char} {head body : List (List Letter × Tree)} {letters : List Letter}
      (hcut : Cut text header payload signature) (hsignature : signature ≠ []) (hheader : Holds header head)
      (halg : last? "alg" head = some (.text letters)) (hpayload : Holds payload body) : Formatted text

theorem formatted_withPayload {body : List (List Letter × Tree)} {cs : List Char}
    (hwrites : Json.Writes (.object body) cs) : Formatted (withPayload cs) :=
  .mk (cut_withPayload cs) (by decide) (tells_header256 (encodes_segmentOf _)).holds (Json.last?_single "alg" _)
    ⟨cs, encodes_segmentOf cs, hwrites⟩

/-- What stands beyond the limits is no JSON to a reader. -/
theorem parse_withPayload_of_beyond {t : Tree} {cs : List Char} (hwrites : Json.Writes t cs)
    (hwithin : ¬ t.Within Json.maxDepth) : parse (withPayload cs) = .error (.notJson .payload) := by
  have hrefused : Refused .payload (segmentOf cs) (.notJson .payload) := by
    refine .notJson (encodes_segmentOf cs) fun members ⟨⟨ds, hencodes, hwrites'⟩, hwithin'⟩ => ?_
    have hbytes : Text.bytes cs = Text.bytes ds :=
      Option.some.inj ((decode?_dropEnd_iff.2 (encodes_segmentOf cs)).symm.trans (decode?_dropEnd_iff.2 hencodes))
    obtain ⟨v, hv⟩ := Json.exists_value_iff.2 hwithin'
    rw [← Json.parse?_of_writes hwrites', ← hbytes, Json.parse?_of_writes hwrites] at hv
    exact hwithin (Json.exists_value_iff.1 ⟨v, hv⟩)
  exact (Reads.payload (cut_withPayload cs) (by decide) (tells_header256 (encodes_segmentOf _))
    (Json.last?_single "alg" _) hrefused).parse_eq

def great : Json.Number.Parts := ⟨false, [1], none, some (false, [4, 0, 0])⟩

theorem spells_great : Json.Spells (.number great) "1e400".toList :=
  have hexponent : Json.Exponent great.exponent "e400".toList :=
    @Json.Exponent.present 'e' false [] [4, 0, 0] (.inl rfl) .absent ⟨by decide, by decide⟩
  .number (@Json.Numeral.mk great [] "e400".toList ⟨by decide, by decide⟩ (by decide) .absent hexponent)

theorem not_within_great {depth : Nat} : ¬ (Tree.number great).Within depth := by
  rintro (_ | _ | h)
  rw [show Json.Number.ofParts? great = none by rfl] at h
  cases h

theorem spells_half : Json.Spells (.text [.code 0xD800]) "\"\\ud800\"".toList :=
  have hcode : Json.LetterOf (.code 0xD800) "\\ud800".toList := .code (i := 13) (j := 8) (k := 0) (l := 0) rfl rfl rfl rfl
  .text (Json.Letters.cons hcode .nil)

theorem not_within_half {depth : Nat} : ¬ (Tree.text [.code 0xD800]).Within depth := by
  rintro (_ | _ | _ | h)
  cases h

theorem formatted_of_beyond {t : Tree} {cs : List Char} (hspells : Json.Spells t cs)
    (hwithin : ¬ t.Within (Json.maxDepth - 1)) :
    Formatted (withPayload (Json.single "a".toList cs)) ∧
      parse (withPayload (Json.single "a".toList cs)) = .error (.notJson .payload) := by
  have hplain : "a".toList.all Json.isPlain = true := by decide
  have hwrites := Json.writes_single hplain hspells
  exact ⟨formatted_withPayload hwrites, parse_withPayload_of_beyond hwrites fun h => hwithin (Json.within_single.1 h)⟩

/-- Three texts that have the format and are refused: for a number, for half a pair, and for the depth of an array. -/
theorem notJson_of_formatted :
    (Formatted (withPayload (Json.single "a".toList "1e400".toList)) ∧
        parse (withPayload (Json.single "a".toList "1e400".toList)) = .error (.notJson .payload)) ∧
      (Formatted (withPayload (Json.single "a".toList "\"\\ud800\"".toList)) ∧
        parse (withPayload (Json.single "a".toList "\"\\ud800\"".toList)) = .error (.notJson .payload)) ∧
      (Formatted (withPayload (Json.single "a".toList (List.replicate 127 '[' ++ List.replicate 127 ']'))) ∧
        parse (withPayload (Json.single "a".toList (List.replicate 127 '[' ++ List.replicate 127 ']'))) =
          .error (.notJson .payload)) :=
  ⟨formatted_of_beyond spells_great not_within_great, formatted_of_beyond spells_half not_within_half,
    formatted_of_beyond (Json.spells_nested 126) (Json.not_within_nested 126)⟩

end Token
end Gatehouse
