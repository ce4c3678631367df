import Gatehouse.SortedMap
/-!
# The table of registered keys

One table, in which an identity is the unique key of a row with a public key and an access level.  Levels are 64-bit
integers: other programs may write what a registry would not.
-/
namespace Gatehouse
namespace Sql

/-- The columns beside the identity. -/
structure Row where
  publicKey : String
  accessLevel : Int
  deriving DecidableEq, Repr, Inhabited

/-- A database as far as the registry uses it: the table of keys, once it has been created. -/
structure Database where
  keys : Option (SortedMap Row)

/-- The database of an empty file. -/
def Database.blank : Database := ⟨none⟩

instance : Inhabited Database := ⟨Database.blank⟩

/-- The database in which the table exists. -/
def Database.withTable (d : Database) : Database := ⟨some (d.keys.getD SortedMap.empty)⟩

end Sql
end Gatehouse
