import Gatehouse.Proofs.Json.Number
/-!
# JSON values — what is written reads back

`parse?_compact`: the reader gives back a written value with the members of its objects sorted, the last of repeated
ones counting (`normal`), when its numbers are integers that a reader keeps and it nests no deeper than a reader goes
(`Fits`).  The induction is on the depth; inside one level the items of a collection are followed by `items?_commas`,
the same for arrays and objects.
-/
namespace Gatehouse
namespace Json

open Text (bytes)

mutual
/-- A value as a reader keeps it. -/
def normal : Json → Json
  | .array items => .array (normalItems items)
  | .object members => ofMembers (normalMembers members)
  | .null => .null
  | .bool b => .bool b
  | .number n => .number n
  | .text s => .text s

def normalItems : List Json → List Json
  | [] => []
  | v :: rest => normal v :: normalItems rest

def normalMembers : List (String × Json) → List (String × Json)
  | [] => []
  | (k, v) :: rest => (k, normal v) :: normalMembers rest
end

mutual
/-- A value that a reader takes in `depth` levels without loss: its numbers are exact integers. -/
def Fits : Nat → Json → Prop
  | depth, .array items => ∃ d, depth = d + 1 ∧ FitsItems d items
  | depth, .object members => ∃ d, depth = d + 1 ∧ FitsMembers d members
  | _, .number (.int n) => IsExact n
  | _, .number (.float _) => False
  | _, .null => True
  | _, .bool _ => True
  | _, .text _ => True

def FitsItems : Nat → List Json → Prop
  | _, [] => True
  | d, v :: rest => Fits d v ∧ FitsItems d rest

def FitsMembers : Nat → List (String × Json) → Prop
  | _, [] => True
  | d, (_, v) :: rest => Fits d v ∧ FitsMembers d rest
end

theorem normalItems_eq : ∀ items, normalItems items = items.map normal
  | [] => rfl
  | v :: rest => by rw [normalItems, normalItems_eq rest, List.map_cons]

theorem normalMembers_eq : ∀ members, normalMembers members = members.map fun m => (m.1, normal m.2)
  | [] => rfl
  | (k, v) :: rest => by rw [normalMembers, normalMembers_eq rest, List.map_cons]

theorem fits_of_mem_items {d : Nat} : ∀ {items}, FitsItems d items → ∀ v ∈ items, Fits d v
  | [], _, _, h => nomatch h
  | w :: rest, hf, v, h => by
    rw [FitsItems] at hf
    rcases List.mem_cons.1 h with rfl | h
    · exact hf.1
    · exact fits_of_mem_items hf.2 v h

theorem fits_of_mem_members {d : Nat} : ∀ {members}, FitsMembers d members → ∀ m ∈ members, Fits d m.2
  | [], _, _, h => nomatch h
  | (k, w) :: rest, hf, m, h => by
    rw [FitsMembers] at hf
    rcases List.mem_cons.1 h with rfl | h
    · exact hf.1
    · exact fits_of_mem_members hf.2 m h

/-! ## Collections -/

/-- Written items, a comma between any two. -/
def commas (write : β → Input) : List β → Input
  | [] => []
  | [x] => write x
  | x :: rest => write x ++ byteOf ',' :: commas write rest

theorem commas_cons_cons (write : β → Input) (x y : β) (rest : List β) :
    commas write (x :: y :: rest) = write x ++ byteOf ',' :: commas write (y :: rest) := rfl

theorem length_le_commas (write : β → Input) : ∀ xs : List β, xs.length ≤ (commas write xs).length + 1
  | [] => Nat.zero_le _
  | [_] => Nat.le_add_left _ _
  | x :: y :: rest => by
    have ih := length_le_commas write (y :: rest)
    rw [commas_cons_cons, List.length_append, List.length_cons (a := byteOf ','), List.length_cons (a := x)]
    omega

theorem bytes_itemChars : ∀ items, bytes (itemChars items) = commas (fun v => bytes (chars v)) items
  | [] => rfl
  | [v] => by rw [itemChars, commas]
  | v :: w :: rest => by
    rw [itemChars, Text.bytes_append, bytes_cons_ascii (by decide), bytes_itemChars (w :: rest), commas_cons_cons]
    exact fun h => nomatch h

/-- A written member. -/
def memberBytes (m : String × Json) : Input := bytes (quote m.1) ++ byteOf ':' :: bytes (chars m.2)

theorem bytes_memberChars : ∀ members, bytes (memberChars members) = commas memberBytes members
  | [] => rfl
  | [(k, v)] => by rw [memberChars, Text.bytes_append, bytes_cons_ascii (by decide), commas, memberBytes]
  | (k, v) :: w :: rest => by
    rw [memberChars, Text.bytes_append, bytes_cons_ascii (by decide), Text.bytes_append, bytes_cons_ascii (by decide),
      bytes_memberChars (w :: rest), commas_cons_cons, memberBytes, List.append_assoc, List.cons_append]
    exact fun h => nomatch h

/-- A byte that ends a collection. -/
def IsClosing (b : UInt8) : Prop := b = byteOf ']' ∨ b = byteOf '}'

theorem ends_comma (rest : Input) : Ends (byteOf ',' :: rest) := by
  intro b h
  cases h
  decide

theorem IsClosing.ends {b : UInt8} (h : IsClosing b) (rest : Input) : Ends (b :: rest) := by
  intro c hc
  cases hc
  rcases h with rfl | rfl <;> decide

theorem skipSpace_cons {b : UInt8} (h : isSpace b = false) (rest : Input) : skipSpace (b :: rest) = b :: rest := by
  rw [skipSpace, List.dropWhile_cons, h]
  rfl

theorem IsClosing.isSpace {b : UInt8} (h : IsClosing b) : Json.isSpace b = false := by
  rcases h with rfl | rfl <;> decide

theorem IsClosing.ne_comma {b : UInt8} (h : IsClosing b) : ¬ b = byteOf ',' := by
  rcases h with rfl | rfl <;> decide

variable {one : Input → Option (α × Input)} {close : UInt8} {write : β → Input} {read : β → α}

/-- **Items read back one after another.** -/
theorem items?_commas (hclose : IsClosing close) (rest : Input) : ∀ (x : β) (xs : List β) (fuel : Nat) (acc : List α),
    xs.length < fuel →
    (∀ y ∈ x :: xs, ∀ rest, Ends rest → one (write y ++ rest) = some (read y, rest)) →
    items? one close fuel acc (commas write (x :: xs) ++ close :: rest) =
      some (acc.reverse ++ (x :: xs).map read, rest)
  | x, xs, 0, _, hf, _ => absurd hf (Nat.not_lt_zero _)
  | x, [], fuel + 1, acc, _, hone => by
    rw [commas, items?, hone x List.mem_cons_self _ (hclose.ends rest)]
    simp only [skipSpace_cons hclose.isSpace, if_neg hclose.ne_comma, if_true, List.reverse_cons, List.map_cons,
      List.map_nil]
  | x, y :: ys, fuel + 1, acc, hf, hone => by
    rw [commas_cons_cons, List.append_assoc, List.cons_append, items?, hone x List.mem_cons_self _ (ends_comma _)]
    simp only [skipSpace_cons (show Json.isSpace (byteOf ',') = false from rfl), if_true]
    rw [items?_commas hclose rest y ys fuel (read x :: acc) (Nat.lt_of_succ_lt_succ hf)
      fun z hz => hone z (List.mem_cons_of_mem x hz)]
    simp only [List.reverse_cons, List.append_assoc, List.singleton_append, List.map_cons]

/-- **A collection reads back**, provided that no item begins with a blank or the closing byte. -/
theorem collection?_commas (hclose : IsClosing close) (rest : Input) (xs : List β)
    (hone : ∀ y ∈ xs, ∀ rest, Ends rest → one (write y ++ rest) = some (read y, rest))
    (hbegin : ∀ y ∈ xs, ∃ b tl, write y = b :: tl ∧ Json.isSpace b = false ∧ ¬ b = close) :
    collection? one close (commas write xs ++ close :: rest) = some (xs.map read, rest) := by
  cases xs with
  | nil =>
    rw [commas, List.nil_append, collection?, skipSpace_cons hclose.isSpace]
    exact if_pos rfl
  | cons x xs =>
    have hfuel : xs.length < (commas write (x :: xs) ++ close :: rest).length := by
      have h := length_le_commas write (x :: xs)
      rw [List.length_cons] at h
      rw [List.length_append, List.length_cons]
      omega
    have hitems := items?_commas hclose rest x xs _ [] hfuel hone
    obtain ⟨b, tl, hb, hspace, hne⟩ := hbegin x List.mem_cons_self
    have hcommas : ∃ tl, commas write (x :: xs) = b :: tl := by
      cases xs with
      | nil => exact ⟨tl, hb⟩
      | cons y ys => exact ⟨_, by rw [commas_cons_cons, hb, List.cons_append]⟩
    obtain ⟨tl', htl⟩ := hcommas
    rw [htl, List.cons_append] at hitems ⊢
    rw [collection?, skipSpace_cons hspace]
    simp only [if_neg hne]
    exact hitems

/-! ## Values -/

theorem isSpace_of_begins {b : UInt8} (h : b = byteOf '-' ∨ (digit? b).isSome = true) : Json.isSpace b = false := by
  have hne := ne_of_begins h
  simp only [Json.isSpace, Bool.or_eq_false_iff, beq_eq_false_iff_ne]
  exact ⟨⟨⟨hne _ (by decide), hne _ (by decide)⟩, hne _ (by decide)⟩, hne _ (by decide)⟩

/-- A value begins with a byte that is neither a blank nor closes a collection. -/
theorem bytes_chars_begin {depth : Nat} {v : Json} (h : Fits depth v) :
    ∃ b tl, bytes (chars v) = b :: tl ∧ Json.isSpace b = false ∧ ∀ c, IsClosing c → ¬ b = c := by
  have hne : ∀ {b : UInt8}, ¬ b = byteOf ']' → ¬ b = byteOf '}' → ∀ c, IsClosing c → ¬ b = c := by
    intro b h1 h2 c hc hbc
    rcases hc with rfl | rfl
    · exact h1 hbc
    · exact h2 hbc
  cases v with
  | null => exact ⟨byteOf 'n', _, rfl, by decide, hne (by decide) (by decide)⟩
  | bool b =>
    cases b
    · exact ⟨byteOf 'f', _, rfl, by decide, hne (by decide) (by decide)⟩
    · exact ⟨byteOf 't', _, rfl, by decide, hne (by decide) (by decide)⟩
  | number n =>
    cases n with
    | float x => exact (by rw [Fits] at h; exact h.elim)
    | int n =>
      obtain ⟨b, tl, hb, hbegins⟩ := bytes_int n
      exact ⟨b, tl, hb, isSpace_of_begins hbegins,
        hne (ne_of_begins hbegins _ (by decide)) (ne_of_begins hbegins _ (by decide))⟩
  | text s => exact ⟨byteOf '"', _, bytes_quote s, by decide, hne (by decide) (by decide)⟩
  | array items =>
    exact ⟨byteOf '[', _, by rw [chars, bytes_cons_ascii (by decide)], by decide, hne (by decide) (by decide)⟩
  | object members =>
    exact ⟨byteOf '\x7b', _, by rw [chars, bytes_cons_ascii (by decide)], by decide, hne (by decide) (by decide)⟩

theorem memberBytes_begin (m : String × Json) : ∃ tl, memberBytes m = byteOf '"' :: tl :=
  ⟨_, by rw [memberBytes, bytes_quote, List.cons_append]⟩

/-- A member reads back when its value does. -/
theorem memberOf?_memberBytes {value : Input → Option (Json × Input)} {m : String × Json} {rest : Input} {v : Json}
    (hv : value (bytes (chars m.2) ++ rest) = some (v, rest)) :
    memberOf? value (memberBytes m ++ rest) = some ((m.1, v), rest) := by
  have hquote : Json.isSpace (byteOf '"') = false := by decide
  have hcolon : Json.isSpace (byteOf ':') = false := by decide
  rw [memberBytes, bytes_quote, List.cons_append, List.cons_append, List.append_assoc, List.cons_append]
  simp only [memberOf?, skipSpace_cons hquote, if_true, text?_quote, Option.bind_eq_bind, Option.bind_some,
    skipSpace_cons hcolon, hv, Option.pure_def]

theorem scalar?_text (s : String) (rest : Input) : scalar? (bytes (quote s) ++ rest) = some (.text s, rest) := by
  rw [bytes_quote, List.cons_append, scalar?]
  simp only [if_true, text?_quote, Option.map_some]

/-- A value that begins with no bracket is a scalar. -/
theorem value?_scalar {depth : Nat} {b : UInt8} {rest : Input} (hspace : Json.isSpace b = false)
    (harray : ¬ b = byteOf '[') (hobject : ¬ b = byteOf '\x7b') :
    value? depth (b :: rest) = scalar? (b :: rest) := by
  unfold value?
  rw [skipSpace_cons hspace]
  simp only [if_neg harray, if_neg hobject]

/-- Values of a level read back. -/
def ReadsBack (depth : Nat) : Prop :=
  ∀ v rest, Fits depth v → Ends rest → value? depth (bytes (chars v) ++ rest) = some (normal v, rest)

theorem value?_array {depth : Nat} {items : List Json} (hlevel : ReadsBack depth) (hf : FitsItems depth items)
    (rest : Input) :
    value? (depth + 1) (bytes (chars (.array items)) ++ rest) = some (normal (.array items), rest) := by
  have hitem := fits_of_mem_items hf
  have hbytes : bytes (chars (.array items)) ++ rest =
      byteOf '[' :: (commas (fun v => bytes (chars v)) items ++ byteOf ']' :: rest) := by
    rw [chars, bytes_cons_ascii (by decide), Text.bytes_append, bytes_itemChars, List.cons_append, List.append_assoc]
    rfl
  have hitems : collection? (value? depth) (byteOf ']') (commas (fun v => bytes (chars v)) items ++ byteOf ']' :: rest) =
      some (items.map normal, rest) :=
    collection?_commas (.inl rfl) rest items (fun v hv rest hr => hlevel v rest (hitem v hv) hr) fun v hv => by
      obtain ⟨b, tl, hb, hspace, hne⟩ := bytes_chars_begin (hitem v hv)
      exact ⟨b, tl, hb, hspace, hne _ (.inl rfl)⟩
  have hspace : Json.isSpace (byteOf '[') = false := by decide
  rw [hbytes, value?, skipSpace_cons hspace]
  simp only [if_true, hitems, Option.map_some, normal, normalItems_eq]

theorem value?_object {depth : Nat} {members : List (String × Json)} (hlevel : ReadsBack depth)
    (hf : FitsMembers depth members) (rest : Input) :
    value? (depth + 1) (bytes (chars (.object members)) ++ rest) = some (normal (.object members), rest) := by
  have hmember := fits_of_mem_members hf
  have hbytes : bytes (chars (.object members)) ++ rest =
      byteOf '\x7b' :: (commas memberBytes members ++ byteOf '\x7d' :: rest) := by
    rw [chars, bytes_cons_ascii (by decide), Text.bytes_append, bytes_memberChars, List.cons_append,
      List.append_assoc]
    rfl
  have hmembers : collection? (memberOf? (value? depth)) (byteOf '\x7d')
      (commas memberBytes members ++ byteOf '\x7d' :: rest) =
      some (members.map fun m => (m.1, normal m.2), rest) :=
    collection?_commas (.inr rfl) rest members
      (fun m hm rest hr => memberOf?_memberBytes (hlevel m.2 rest (hmember m hm) hr)) fun m _ => by
        obtain ⟨tl, htl⟩ := memberBytes_begin m
        exact ⟨byteOf '"', tl, htl, by decide, by decide⟩
  have hspace : Json.isSpace (byteOf '\x7b') = false := by decide
  rw [hbytes, value?, skipSpace_cons hspace]
  simp only [show ¬ byteOf '\x7b' = byteOf '[' by decide, if_false, if_true, hmembers, Option.map_some, normal,
    normalMembers_eq]

/-- **A value reads back**, its objects sorted. -/
theorem value?_chars (depth : Nat) : ReadsBack depth := by
  induction depth using Nat.strongRecOn with
  | _ depth ih =>
    intro v rest hf hr
    cases v with
    | null => exact value?_scalar (by decide) (by decide) (by decide)
    | bool b =>
      cases b
      · exact value?_scalar (by decide) (by decide) (by decide)
      · exact value?_scalar (by decide) (by decide) (by decide)
    | number n =>
      cases n with
      | float x => rw [Fits] at hf; exact hf.elim
      | int n =>
        rw [Fits] at hf
        obtain ⟨b, tl, hb, hbegins⟩ := bytes_int n
        have hne := ne_of_begins hbegins
        show value? depth (bytes (toString n).toList ++ rest) = some (int n, rest)
        rw [← scalar?_int hf hr, hb, List.cons_append]
        exact value?_scalar (isSpace_of_begins hbegins) (hne _ (by decide)) (hne _ (by decide))
    | text s =>
      rw [normal, ← scalar?_text s rest, chars, bytes_quote, List.cons_append]
      exact value?_scalar (by decide) (by decide) (by decide)
    | array items =>
      rw [Fits] at hf
      obtain ⟨d, rfl, hitems⟩ := hf
      exact value?_array (ih d (Nat.lt_succ_self d)) hitems rest
    | object members =>
      rw [Fits] at hf
      obtain ⟨d, rfl, hmembers⟩ := hf
      exact value?_object (ih d (Nat.lt_succ_self d)) hmembers rest

/-- **A written text reads back**, its objects sorted. -/
theorem parse?_compact {v : Json} (hf : Fits maxDepth v) : parse? (Text.utf8 v.compact) = some v.normal := by
  have hends : Ends [] := fun b h => nomatch h
  have hvalue := value?_chars maxDepth v [] hf hends
  rw [List.append_nil] at hvalue
  rw [compact, Text.utf8_ofList, parse?, hvalue]
  rfl

/-! ## Objects -/

theorem sorted_foldl_insert : ∀ (members : List (String × Json)) {acc : List (String × Json)}, Assoc.Sorted acc →
    Assoc.Sorted (members.foldl (fun acc e => Assoc.insert e.1 e.2 acc) acc)
  | [], _, h => h
  | _ :: members, _, h => sorted_foldl_insert members (Assoc.sorted_insert h)

theorem scalar?_ne_object {i rest : Input} {members : List (String × Json)} :
    scalar? i ≠ some (.object members, rest) := by
  intro h
  unfold scalar? at h
  split at h
  · cases h
  split at h
  · simp at h
  split at h
  · simp at h
  split at h
  · simp at h
  split at h
  · simp at h
  · simp [Option.bind_eq_some_iff] at h

/-- **An object that is read is sorted.** -/
theorem sorted_of_parse? {i : Input} {members : List (String × Json)} (h : parse? i = some (.object members)) :
    Assoc.Sorted members := by
  unfold parse? at h
  obtain ⟨⟨v, rest⟩, hvalue, h⟩ := Option.bind_eq_some_iff.1 h
  have hv : v = .object members := by
    dsimp only at h
    split at h
    · exact Option.some.inj h
    · cases h
  subst hv
  unfold value? at hvalue
  split at hvalue
  · cases hvalue
  split at hvalue
  · split at hvalue
    · cases hvalue
    · simp at hvalue
  split at hvalue
  · split at hvalue
    · cases hvalue
    · obtain ⟨⟨ms, tail⟩, -, he⟩ := Option.map_eq_some_iff.1 hvalue
      simp only [ofMembers, Prod.mk.injEq, Json.object.injEq] at he
      rw [← he.1]
      exact sorted_foldl_insert ms List.Pairwise.nil
  · exact absurd hvalue scalar?_ne_object

end Json
end Gatehouse
