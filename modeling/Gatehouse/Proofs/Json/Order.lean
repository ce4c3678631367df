import Gatehouse.Proofs.Json.Value
import Gatehouse.Proofs.SortedMap
/-!
# JSON values — the order of members

A reader keeps the members of an object in ascending order, a writer takes them in any.  `Same` relates two values that
differ in that order at most.  If every object of a value names its members once, the reader keeps the same value
(`same_normal`); if they are in ascending order as well, it keeps the very value (`normal_of_ascending`).
-/
namespace Gatehouse
namespace Json

mutual
/-- The members of every object in a value have a property. -/
def Objects (P : List (String × Json) → Prop) : Json → Prop
  | .array items => ObjectsOfItems P items
  | .object members => P members ∧ ObjectsOfMembers P members
  | .null => True
  | .bool _ => True
  | .number _ => True
  | .text _ => True

def ObjectsOfItems (P : List (String × Json) → Prop) : List Json → Prop
  | [] => True
  | v :: rest => Objects P v ∧ ObjectsOfItems P rest

def ObjectsOfMembers (P : List (String × Json) → Prop) : List (String × Json) → Prop
  | [] => True
  | (_, v) :: rest => Objects P v ∧ ObjectsOfMembers P rest
end

/-- No object names a member twice. -/
def Distinct (v : Json) : Prop := v.Objects fun members => (members.map Prod.fst).Nodup

/-- Every object has its members in ascending order. -/
def Ascending (v : Json) : Prop := v.Objects Assoc.Sorted

mutual
/-- The same value, whatever order the members of its objects stand in. -/
inductive Same : Json → Json → Prop
  | null : Same .null .null
  | bool (b : Bool) : Same (.bool b) (.bool b)
  | number (n : Number) : Same (.number n) (.number n)
  | text (s : String) : Same (.text s) (.text s)
  | array {as bs : List Json} (h : SameItems as bs) : Same (.array as) (.array bs)
  | object {ms ns os : List (String × Json)} (h : SameMembers ms ns) (hperm : ns.Perm os) : Same (.object ms) (.object os)

inductive SameItems : List Json → List Json → Prop
  | nil : SameItems [] []
  | cons {v w : Json} {as bs : List Json} (h : Same v w) (hrest : SameItems as bs) : SameItems (v :: as) (w :: bs)

inductive SameMembers : List (String × Json) → List (String × Json) → Prop
  | nil : SameMembers [] []
  | cons {name : String} {v w : Json} {ms ns : List (String × Json)} (h : Same v w) (hrest : SameMembers ms ns) :
      SameMembers ((name, v) :: ms) ((name, w) :: ns)
end

theorem keys_normalMembers (members : List (String × Json)) :
    (normalMembers members).map Prod.fst = members.map Prod.fst := by
  rw [normalMembers_eq, List.map_map]
  rfl

mutual
/-- **A reader keeps the same value**, if no object names a member twice. -/
theorem same_normal : ∀ {v : Json}, v.Distinct → Same v v.normal
  | .null, _ => .null
  | .bool b, _ => .bool b
  | .number n, _ => .number n
  | .text s, _ => .text s
  | .array _, h => .array (sameItems_normal h)
  | .object members, h => by
    have hnodup : ((normalMembers members).map Prod.fst).Nodup := by
      rw [keys_normalMembers]
      exact h.1
    -- no name is inserted twice, so inserting the members one after another only permutes them
    exact .object (sameMembers_normal h.2) (Assoc.perm_foldl_insert (normalMembers members) [] hnodup).symm

theorem sameItems_normal : ∀ {items : List Json},
    ObjectsOfItems (fun members => (members.map Prod.fst).Nodup) items → SameItems items (normalItems items)
  | [], _ => .nil
  | _ :: _, h => .cons (same_normal h.1) (sameItems_normal h.2)

theorem sameMembers_normal : ∀ {members : List (String × Json)},
    ObjectsOfMembers (fun members => (members.map Prod.fst).Nodup) members →
      SameMembers members (normalMembers members)
  | [], _ => .nil
  | (_, _) :: _, h => .cons (same_normal h.1) (sameMembers_normal h.2)
end

mutual
/-- **A value in ascending order is kept as it is.** -/
theorem normal_of_ascending : ∀ {v : Json}, v.Ascending → v.normal = v
  | .null, _ => rfl
  | .bool _, _ => rfl
  | .number _, _ => rfl
  | .text _, _ => rfl
  | .array _, h => congrArg Json.array (normalItems_of_ascending h)
  | .object members, h => by
    rw [normal, normalMembers_of_ascending h.2, ofMembers, Assoc.foldl_insert_of_sorted members [] h.1, List.nil_append]

theorem normalItems_of_ascending : ∀ {items : List Json}, ObjectsOfItems Assoc.Sorted items → normalItems items = items
  | [], _ => rfl
  | _ :: _, h => by rw [normalItems, normal_of_ascending h.1, normalItems_of_ascending h.2]

theorem normalMembers_of_ascending : ∀ {members : List (String × Json)}, ObjectsOfMembers Assoc.Sorted members →
    normalMembers members = members
  | [], _ => rfl
  | (_, _) :: _, h => by rw [normalMembers, normal_of_ascending h.1, normalMembers_of_ascending h.2]
end

end Json
end Gatehouse
