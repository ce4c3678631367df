import Gatehouse.Json.Printer
import Gatehouse.Text.Blank
/-!
# Random identifiers

The text of a version 4 UUID, made from sixteen random bytes: lower-case hexadecimal digits in five groups, with the
version and the variant written over six of the random bits.
-/
namespace Gatehouse
namespace Uuid

/-- The two hexadecimal digits of a byte. -/
def hex (b : UInt8) : List Char := [Json.hexDigit (b.toNat / 16), Json.hexDigit (b.toNat % 16)]

/-- The bytes with version and variant set. -/
def marked (bytes : List UInt8) : List UInt8 :=
  (bytes.modify 6 fun b => b % 16 + 0x40).modify 8 fun b => b % 64 + 0x80

/-- The identifier of sixteen random bytes. -/
def version4 (bytes : List UInt8) : String :=
  let part (start count : Nat) : List Char := (((marked bytes).drop start).take count).flatMap hex
  String.ofList (part 0 4 ++ '-' :: part 4 2 ++ '-' :: part 6 2 ++ '-' :: part 8 2 ++ '-' :: part 10 6)

/-- Whether a text is such an identifier. -/
def isVersion4 (s : String) : Bool :=
  match Text.splitOn '-' s.toList with
  | [a, b, c, d, e] =>
    [a, b, c, d, e].map List.length = [8, 4, 4, 4, 12] && c.head? == some '4' &&
      (d.head?.any fun x => "89ab".toList.contains x) &&
      [a, b, c, d, e].all fun group => group.all fun x => x.isDigit || ('a' ≤ x && x ≤ 'f')
  | _ => false

end Uuid
end Gatehouse
