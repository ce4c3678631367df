import Gatehouse.Proofs.Json.Integer
import Gatehouse.Proofs.Token.Format
/-!
# Times in a token — an integer is itself or the nearer end

`time?_of_integer`: an integer in a payload, however long, is read as the time nearest to it, whichever of the reader's
three kinds of number it was kept as.
-/
namespace Gatehouse
namespace Token

open Json (Tree Letter Keeps AreDigits last? name?)
open Json.Number (signed ofDigits)
open Seconds (IsTime clamp latest earliest)

/-- A tree is that of an integer: a sign and digits, and nothing behind them. -/
inductive IsInteger : Int → Tree → Prop
  | mk {negative : Bool} {digits : List Nat} (h : AreDigits digits) :
      IsInteger (signed negative (ofDigits digits)) (.number ⟨negative, digits, none, none⟩)

/-- What the last member of a name is in the payload of a text that is read as a token. -/
inductive Member (text : List Char) (t : Token) (name : String) (member : Option Tree) : Prop
  | mk {header payload signature : List Char} {body : List (List Letter × Tree)}
      (hcut : Cut text header payload signature) (hparse : parse text = .ok t) (hpayload : Holds payload body)
      (hlast : last? name body = member) : Member text t name member

variable {text header payload signature : List Char} {body : List (List Letter × Tree)} {t : Token} {name : String}
  {tree : Tree} {n : Int}

theorem natAbs_signed (negative : Bool) (m : Nat) : (signed negative m).natAbs = m := by
  cases negative
  · exact Int.natAbs_natCast m
  · exact (Int.natAbs_neg _).trans (Int.natAbs_natCast m)

/-- **The claims of a token are what its payload keeps.** -/
theorem keeps_of_parse (hcut : Cut text header payload signature) (hparse : parse text = .ok t)
    (hpayload : Holds payload body) : Keeps (Json.maxDepth - 1) body t.claims := by
  obtain ⟨header', payload', signature', htext, hheader, hdot, hsignature, -, hclaims⟩ := segments_of_parse hparse
  have hsplit := splitOn_eq_iff_cut.2 hcut
  rw [splitOn_eq_iff_cut.2 ⟨htext, hheader, hdot, hsignature⟩] at hsplit
  obtain ⟨-, rfl, -⟩ : header' = header ∧ payload' = payload ∧ signature' = signature := by simpa using hsplit
  obtain ⟨cs, hencodes, hwrites⟩ := hpayload
  obtain ⟨bytes, hbytes, hvalue⟩ := decodeSegment_eq_ok_iff.1 hclaims
  rw [decode?_dropEnd_iff.2 hencodes, Option.some.injEq] at hbytes
  rw [← hbytes, Json.parse?_of_writes hwrites] at hvalue
  obtain ⟨-, kept, hkept, hkeeps⟩ := Json.value?_object_eq_some_iff.1 hvalue
  cases hkept
  exact hkeeps

theorem Member.time?_eq {member : Option Tree} (h : Member text t name member) :
    t.time? name = (member.bind (Tree.value? (Json.maxDepth - 1))).bind wholeNumber? := by
  obtain ⟨hcut, hparse, hpayload, rfl⟩ := h
  rw [time?, (keeps_of_parse hcut hparse hpayload).get?_eq]

/-- An integer of at most 1023 bits is within the limits of a reader. -/
theorem IsInteger.within (h : IsInteger n tree) (hn : n.natAbs < 2 ^ 1023) {depth : Nat} : tree.Within depth := by
  obtain @⟨negative, digits, hdigits⟩ := h
  rw [natAbs_signed] at hn
  obtain ⟨x, z, hx, -, -⟩ := Json.Number.exists_ofParts? negative hdigits.2 hn
  exact .number hx

theorem IsInteger.wholeNumber? (h : IsInteger n tree) (hn : n.natAbs < 2 ^ 1023) (depth : Nat) :
    (tree.value? depth).bind wholeNumber? = some (clamp n) := by
  obtain @⟨negative, digits, hdigits⟩ := h
  rw [natAbs_signed] at hn
  obtain ⟨x, z, hx, hz, hclamp⟩ := Json.Number.exists_ofParts? negative hdigits.2 hn
  rw [Tree.value?, hx, Option.map_some, Option.bind_some]
  exact (wholeNumber?_eq_some_iff _ _).2 ⟨x, z, rfl, hz, hclamp.symm⟩

/-- **An integer is read as the time nearest to it.** -/
theorem Member.time?_eq_clamp (h : Member text t name (some tree)) (hinteger : IsInteger n tree)
    (hn : n.natAbs < 2 ^ 1023) : t.time? name = some (clamp n) := by
  rw [h.time?_eq, Option.bind_some, hinteger.wholeNumber? hn]

theorem wholeNumber?_value? {depth : Nat} (h : ∀ p, tree ≠ .number p) : (tree.value? depth).bind wholeNumber? = none := by
  cases tree with
  | number p => exact absurd rfl (h p)
  | array items => cases depth <;> simp [Tree.value?, Option.bind_map, Function.comp_def, wholeNumber?]
  | object members => cases depth <;> simp [Tree.value?, Option.bind_map, Function.comp_def, wholeNumber?, Json.ofMembers]
  | _ => simp [Tree.value?, Option.bind_map, Function.comp_def, wholeNumber?]

theorem Member.time?_eq_none {member : Option Tree} (h : Member text t name member)
    (hmember : ∀ p, member ≠ some (.number p)) : t.time? name = none := by
  rw [h.time?_eq]
  cases member with
  | none => rfl
  | some tree => exact wholeNumber?_value? fun p hp => hmember p (congrArg some hp)

theorem lt_pow_of_lt {m k l : Nat} (h : m < 2 ^ k) (hkl : k ≤ l) : m < 2 ^ l :=
  Nat.lt_of_lt_of_le h (Nat.pow_le_pow_right (by decide) hkl)

/-- **An unsigned integer may as well be read through the binary64 nearest to it.** -/
theorem toInt?_nearest {m : Nat} (hlo : 2 ^ 63 ≤ m) (hhi : m < 2 ^ 64) :
    ((Binary64.ofRatio? false m 1).bind Binary64.toInt?).map clamp = wholeNumber? (.number (.int m)) := by
  obtain ⟨x, hx, hnegative, hnear⟩ := Json.Number.near_one_of_lt (by omega) (lt_pow_of_lt hhi (by decide))
  have hwhole : x.magnitude.2 = 1 := hnear.whole (by omega)
  have hkeeps := hnear.keeps 63 (by omega)
  rw [hwhole, Nat.mul_one] at hkeeps
  have hclamp := Json.Number.clamp_signed hkeeps hlo false
  have hinteger := Json.Number.isInteger_float hwhole
  rw [hnegative] at hinteger
  have htime := (wholeNumber?_eq_some_iff (.number (.float x)) _).2 ⟨_, _, rfl, hinteger, rfl⟩
  rw [hx, Option.bind_some]
  exact htime.trans (congrArg some hclamp)

/-- A text is read as a token if its members are within the limits or integers of at most 1023 bits. -/
theorem exists_token {head : List (List Letter × Tree)} {letters : List Letter}
    (hcut : Cut text header payload signature) (hsignature : signature ≠ []) (hheader : Tells header head)
    (halg : last? "alg" head = some (.text letters)) (hpayload : Holds payload body)
    (hbody : ∀ m ∈ body, (∃ s, name? m.1 = some s) ∧
      (m.2.Within (Json.maxDepth - 1) ∨ ∃ n : Int, IsInteger n m.2 ∧ n.natAbs < 2 ^ 1023)) :
    ∃ t, parse text = .ok t := by
  have hwithin : (Tree.object body).Within Json.maxDepth := by
    refine .object (fun m hm => (hbody m hm).1) fun m hm => ?_
    rcases (hbody m hm).2 with h | ⟨n, hinteger, hn⟩
    · exact h
    · exact hinteger.within hn
  have htells : Tells payload body := ⟨hpayload, hwithin⟩
  obtain ⟨claims, hclaims⟩ := htells.exists_keeps
  obtain ⟨algorithm, halgorithm⟩ := hheader.exists_name halg
  exact ⟨_, (Reads.token hcut hsignature hheader halg halgorithm htells hclaims).parse_eq⟩

/-- **An integer in a payload is read as itself or as the nearer end of the range**, so greater integers as later times;
it does not stand in the way of the token, nothing but numbers is read so, and whether an integer beyond the range is
kept as it is or as a binary64 makes no difference. -/
theorem time?_of_integer :
    (∀ {text header payload signature : List Char} {head body : List (List Letter × Tree)} {letters : List Letter},
      Cut text header payload signature → signature ≠ [] → Tells header head →
        last? "alg" head = some (.text letters) → Holds payload body →
        (∀ m ∈ body, (∃ s, name? m.1 = some s) ∧
          (m.2.Within (Json.maxDepth - 1) ∨ ∃ n : Int, IsInteger n m.2 ∧ n.natAbs < 2 ^ 1023)) →
          ∃ t, parse text = .ok t) ∧
      (∀ {text : List Char} {t : Token} {name : String} {tree : Tree} {n : Int}, Member text t name (some tree) →
        IsInteger n tree → n.natAbs < 2 ^ 1023 →
          (IsTime n → t.time? name = some n) ∧ (latest < n → t.time? name = some latest) ∧
            (n < earliest → t.time? name = some earliest)) ∧
      (∀ {text text' : List Char} {t t' : Token} {name name' : String} {tree tree' : Tree} {n n' : Int},
        Member text t name (some tree) → Member text' t' name' (some tree') → IsInteger n tree → IsInteger n' tree' →
          n.natAbs < 2 ^ 1023 → n'.natAbs < 2 ^ 1023 → n ≤ n' →
            ∃ v v', t.time? name = some v ∧ t'.time? name' = some v' ∧ v ≤ v') ∧
      (∀ {text : List Char} {t : Token} {name : String} {member : Option Tree}, Member text t name member →
        (∀ p, member ≠ some (.number p)) → t.time? name = none) ∧
      ∀ {m : Nat}, 2 ^ 63 ≤ m → m < 2 ^ 64 →
        ((Binary64.ofRatio? false m 1).bind Binary64.toInt?).map clamp = wholeNumber? (.number (.int m)) := by
  refine ⟨exists_token, fun hmember hinteger hn => ?_, fun hmember hmember' hinteger hinteger' hn hn' hle => ?_,
    Member.time?_eq_none, toInt?_nearest⟩
  · rw [hmember.time?_eq_clamp hinteger hn]
    refine ⟨fun h => ?_, fun h => ?_, fun h => ?_⟩
    · rw [Seconds.clamp_of_isTime h]
    · rw [Seconds.clamp_of_latest_lt h]
    · rw [Seconds.clamp_of_lt_earliest h]
  · exact ⟨_, _, hmember.time?_eq_clamp hinteger hn, hmember'.time?_eq_clamp hinteger' hn', Seconds.clamp_mono hle⟩

/-! ## Long integers -/

theorem spells_digits {negative : Bool} {digits : List Nat} (h : AreDigits digits)
    (hzero : digits.head? = some 0 → digits = [0]) :
    Json.Spells (.number ⟨negative, digits, none, none⟩)
      ((if negative then ['-'] else []) ++ digits.map Nat.digitChar) := by
  have hnumeral : Json.Numeral ⟨negative, digits, none, none⟩ _ := .mk h hzero .absent .absent
  rw [List.append_nil, List.append_nil] at hnumeral
  exact .number hnumeral

theorem holds_exp {cs : List Char} (hspells : Json.Spells tree cs) :
    Holds (segmentOf (Json.single "exp".toList cs)) [("exp".toList.map .char, tree)] :=
  ⟨_, encodes_segmentOf _, Json.writes_single (by decide) hspells⟩

theorem forall_mem_exp (hinteger : IsInteger n tree) (hn : n.natAbs < 2 ^ 1023) :
    ∀ m ∈ [("exp".toList.map Letter.char, tree)], (∃ s, name? m.1 = some s) ∧
      (m.2.Within (Json.maxDepth - 1) ∨ ∃ n : Int, IsInteger n m.2 ∧ n.natAbs < 2 ^ 1023) := by
  intro m hm
  rw [List.mem_singleton.1 hm]
  exact ⟨⟨_, Json.name?_plain _⟩, .inr ⟨n, hinteger, hn⟩⟩

theorem member_exp {cs : List Char} (hspells : Json.Spells tree cs)
    (hparse : parse (withPayload (Json.single "exp".toList cs)) = .ok t) :
    Member (withPayload (Json.single "exp".toList cs)) t "exp" (some tree) ∧
      Member (withPayload (Json.single "exp".toList cs)) t "nbf" none := by
  refine ⟨.mk (cut_withPayload _) hparse (holds_exp hspells) (Json.last?_single "exp" tree),
    .mk (cut_withPayload _) hparse (holds_exp hspells) ?_⟩
  rw [Json.last?_cons, Json.name?_plain, String.ofList_toList]
  rfl

/-- Twenty-one digits, and one below the first time. -/
theorem time?_of_long_integers :
    ∃ t t', parse (withPayload (Json.single "exp".toList "100000000000000000000".toList)) = .ok t ∧
      parse (withPayload (Json.single "exp".toList "-9223372036854775809".toList)) = .ok t' ∧
      t.time? "exp" = some latest ∧ t'.time? "exp" = some earliest ∧ t.time? "nbf" = none ∧
      (∃ v v', t'.time? "exp" = some v ∧ t.time? "exp" = some v' ∧ v ≤ v') ∧
      ((Binary64.ofRatio? false (2 ^ 63) 1).bind Binary64.toInt?).map clamp = wholeNumber? (.number (.int (2 ^ 63 : Nat))) := by
  have hlong : AreDigits (1 :: List.replicate 20 0) := ⟨by decide, by decide⟩
  have hlow : AreDigits [9, 2, 2, 3, 3, 7, 2, 0, 3, 6, 8, 5, 4, 7, 7, 5, 8, 0, 9] := ⟨by decide, by decide⟩
  have hn : (signed false (ofDigits (1 :: List.replicate 20 0))).natAbs < 2 ^ 1023 :=
    lt_pow_of_lt (show _ < 2 ^ 67 by decide) (by decide)
  have hn' : (signed true (ofDigits [9, 2, 2, 3, 3, 7, 2, 0, 3, 6, 8, 5, 4, 7, 7, 5, 8, 0, 9])).natAbs < 2 ^ 1023 :=
    lt_pow_of_lt (show _ < 2 ^ 64 by decide) (by decide)
  have hspells : Json.Spells (.number ⟨false, _, none, none⟩) "100000000000000000000".toList :=
    spells_digits hlong (by decide)
  have hspells' : Json.Spells (.number ⟨true, _, none, none⟩) "-9223372036854775809".toList :=
    spells_digits hlow (by decide)
  have haccepts {cs : List Char} {tree : Tree} {n : Int} (hspells : Json.Spells tree cs) (hinteger : IsInteger n tree)
      (hn : n.natAbs < 2 ^ 1023) : ∃ t, parse (withPayload (Json.single "exp".toList cs)) = .ok t :=
    time?_of_integer.1 (cut_withPayload _) (by decide) (tells_header256 (encodes_segmentOf _))
      (Json.last?_single "alg" _) (holds_exp hspells) (forall_mem_exp hinteger hn)
  obtain ⟨t, ht⟩ := haccepts hspells (.mk hlong) hn
  obtain ⟨t', ht'⟩ := haccepts hspells' (.mk hlow) hn'
  obtain ⟨hmember, habsent⟩ := member_exp hspells ht
  obtain ⟨hmember', -⟩ := member_exp hspells' ht'
  exact ⟨t, t', ht, ht', (time?_of_integer.2.1 hmember (.mk hlong) hn).2.1 (by decide),
    (time?_of_integer.2.1 hmember' (.mk hlow) hn').2.2 (by decide), time?_of_integer.2.2.2.1 habsent nofun,
    time?_of_integer.2.2.1 hmember' hmember (.mk hlow) (.mk hlong) hn' hn (by decide),
    time?_of_integer.2.2.2.2 (by decide) (by decide)⟩

end Token
end Gatehouse
