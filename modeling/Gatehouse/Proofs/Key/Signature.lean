import Gatehouse.Key.Pair
import Gatehouse.Proofs.Result
import Gatehouse.Proofs.Token
/-!
# Key pairs — what signatures are written in

A pair that is read from two PEM texts signs with base64url digits and never with nothing (`KeyPair.encodes_of_ofPem`):
an RSA signature is checked before it is given out, and the two numbers of an elliptic-curve signature have the length
of the curve.  So what an RSA key signs, its public half accepts (`PublicKey.accepts_of_sign`); but a key that is broken
may sign one message and fail to sign the next (`Rsa.brokenKey`).
-/
namespace Gatehouse

theorem Digest.length_toBytes (count n : Nat) : (Digest.toBytes count n).length = count := by
  rw [toBytes, List.length_map, List.length_range]

theorem Curve.size_pos (c : Curve) : 0 < c.size := by cases c <;> decide

theorem Rsa.sign_ne_nil {hash : Digest.Hash} {der message signature : List UInt8}
    (h : sign hash der message = .ok signature) : signature ≠ [] := by
  unfold sign at h
  split at h
  · cases h
  rename_i k _
  split at h
  · cases h
  dsimp only at h
  split at h
  · rename_i haccepts
    cases h
    rintro hnil
    rw [hnil] at haccepts
    have hzero : Digest.ofBytes [] = 0 := rfl
    simp [Public.accepts, hzero] at haccepts
  · cases h

theorem Rsa.Public.hasModulusUpTo_mono {k : Public} {a b : Nat} (hab : a ≤ b) (h : k.hasModulusUpTo a = true) :
    k.hasModulusUpTo b = true := by
  simp only [hasModulusUpTo, Bool.and_eq_true, decide_eq_true_eq] at h ⊢
  exact ⟨h.1, Nat.le_trans h.2 hab⟩

theorem Rsa.Public.hasExponentFrom_mono {k : Public} {a b : Nat} (hab : a ≤ b) (h : k.hasExponentFrom b = true) :
    k.hasExponentFrom a = true := by
  simp only [hasExponentFrom, Bool.and_eq_true, decide_eq_true_eq] at h ⊢
  exact ⟨⟨h.1.1, Nat.le_trans hab h.1.2⟩, h.2⟩

theorem Rsa.Private.sizes_of_isConsistent {k : Private} (h : k.isConsistent = true) :
    k.public.hasModulusUpTo 4096 = true ∧ k.public.hasExponentFrom 65537 = true := by
  simp only [isConsistent, Bool.and_eq_true, and_assoc] at h
  exact ⟨h.1, h.2.1⟩

/-- **What an RSA key signs, its public half accepts**: the signature was checked, and by the stricter sizes. -/
theorem Rsa.verify_of_sign {hash : Digest.Hash} {der publicDer message signature : List UInt8} {k : Private}
    (hkey : Private.ofDer? der = some k) (hpublic : Public.ofDer? publicDer = some k.public)
    (h : sign hash der message = .ok signature) : verify hash publicDer message signature = true := by
  unfold sign at h
  rw [hkey] at h
  dsimp only at h
  split at h
  · cases h
  rename_i hconsistent
  split at h
  · rename_i haccepts
    cases h
    rw [Bool.not_eq_true', Bool.not_eq_false] at hconsistent
    obtain ⟨hmodulus, hexponent⟩ := Private.sizes_of_isConsistent hconsistent
    unfold verify
    rw [hpublic]
    dsimp only
    rw [Public.hasModulusUpTo_mono (by decide) hmodulus, Public.hasExponentFrom_mono (by decide) hexponent, haccepts]
    rfl
  · cases h

theorem Ecdsa.sign?_ne_nil {c : Curve} {hash : Digest.Hash} {secret : Nat} {message signature : List UInt8}
    (h : sign? c hash secret message = some signature) : signature ≠ [] := by
  unfold sign? at h
  rw [Option.map_eq_some_iff] at h
  obtain ⟨⟨r, s⟩, -, rfl⟩ := h
  have hsize := c.size_pos
  refine List.append_ne_nil_of_left_ne_nil (List.ne_nil_of_length_pos ?_) _
  rwa [Digest.length_toBytes]

namespace PrivateKey

variable {k : PrivateKey}

theorem given_eq_ok_iff {signed : Option (List UInt8)} {bytes : List UInt8} :
    given signed = .ok bytes ↔ signed = some bytes := by
  cases signed with
  | none => simp [given]
  | some signature => simp [given]

theorem signBytes_ne_nil {message bytes : List UInt8} (h : k.signBytes message = .ok bytes) : bytes ≠ [] := by
  unfold signBytes at h
  split at h
  · split at h
    · rename_i hsign
      cases h
      exact Rsa.sign_ne_nil hsign
    · cases h
    · cases h
  · rw [given_eq_ok_iff, Option.bind_eq_some_iff] at h
    obtain ⟨secret, -, hsign⟩ := h
    exact Ecdsa.sign?_ne_nil hsign
  · rw [given_eq_ok_iff] at h
    exact Ecdsa.sign?_ne_nil h

theorem bytes_of_sign {message signature : List Char} (h : k.sign message = .ok signature) :
    ∃ bytes, bytes ≠ [] ∧ signature = Base64.encode .urlSafe bytes := by
  unfold sign at h
  cases hbytes : k.signBytes (Text.utf8 (String.ofList message)) with
  | error fault =>
    rw [hbytes] at h
    cases h
  | ok bytes =>
    rw [hbytes] at h
    cases h
    exact ⟨bytes, signBytes_ne_nil hbytes, rfl⟩

end PrivateKey

/-- The text of a signature is accepted as its bytes are. -/
theorem PublicKey.accepts_of_sign {a : Algorithm} (hscheme : a.scheme = .rsa) {der publicDer : List UInt8}
    {k : Rsa.Private} (hkey : Rsa.Private.ofDer? der = some k) (hpublic : Rsa.Public.ofDer? publicDer = some k.public)
    {message signature : List Char} (h : (PrivateKey.rsa a.hash der).sign message = .ok signature) :
    (⟨a, publicDer⟩ : PublicKey).accepts message signature = true := by
  obtain ⟨bytes, hbytes, rfl⟩ := map_eq_ok h
  rw [Text.utf8_ofList] at hbytes
  unfold PrivateKey.signBytes at hbytes
  dsimp only at hbytes
  split at hbytes
  · rename_i hsign
    cases hbytes
    rw [accepts_encode, acceptsBytes, hscheme]
    exact Rsa.verify_of_sign hkey hpublic hsign
  · cases hbytes
  · cases hbytes

namespace KeyPair

variable {k : KeyPair}

/-- Whatever the pair signs, the signature is a text of base64url digits that is not empty. -/
def Encodes (k : KeyPair) : Prop :=
  ∀ message signature, k.sign message = .ok signature →
    signature ≠ [] ∧ ∀ c ∈ signature, Base64.isDigit .urlSafe c = true

theorem Encodes.dot_not_mem (hk : k.Encodes) {message signature : List Char} (h : k.sign message = .ok signature) :
    '.' ∉ signature := fun hdot =>
  (Base64.ne_of_isDigit ((hk message signature h).2 '.' hdot)).1 rfl

theorem eq_of_check {pair : KeyPair} (h : pair.check = .ok k) : k = pair := by
  unfold check at h
  split at h
  · cases h
  split at h
  · exact (Except.ok.inj h).symm
  · cases h

/-- A pair that signs with a private key encodes its signatures. -/
theorem encodes_of_sign (a : Algorithm) (priv : PrivateKey) (accepts : List Char → List Char → Bool) :
    Encodes ⟨a, priv.sign, accepts⟩ := by
  intro message signature hsign
  obtain ⟨bytes, hne, rfl⟩ := PrivateKey.bytes_of_sign hsign
  exact ⟨Base64.encode_ne_nil .urlSafe hne, Base64.isDigit_of_mem_encode .urlSafe bytes⟩

/-- **Pairs that are read encode their signatures.** -/
theorem encodes_of_ofPem {a : Algorithm} {publicText privateText : List Char}
    (h : ofPem a publicText privateText = .ok k) : k.Encodes := by
  unfold ofPem at h
  split at h
  · cases h
  split at h
  · cases h
  rw [eq_of_check h]
  exact encodes_of_sign a _ _

end KeyPair

/-! ## A broken key -/

/-- An element of a DER text, its length written the least way. -/
def Der.write (tag : UInt8) (content : List UInt8) : List UInt8 :=
  let n := content.length
  tag :: ((if n < 0x80 then [UInt8.ofNat n] else if n < 0x100 then [0x81, UInt8.ofNat n] else 0x82 :: Digest.toBytes 2 n) ++
    content)

/-- A number with room for a sign bit. -/
def Der.writeNatural (n : Nat) : List UInt8 := write 0x02 (Digest.toBytes (Rsa.bitLength n / 8 + 1) n)

namespace Rsa

def Public.der (k : Public) : List UInt8 := Der.write 0x30 ([k.modulus, k.exponent].flatMap Der.writeNatural)

def Private.der (k : Private) : List UInt8 :=
  Der.write 0x30 ([0, k.modulus, k.publicExponent, k.exponent, k.p, k.q, k.exponentP, k.exponentQ, k.inverseQ].flatMap
    Der.writeNatural)

/-- The number that words of 32 bytes write, the first being the highest. -/
def ofWords (words : List Nat) : Nat := words.foldl (fun n word => n * 2 ^ 256 + word) 0

/-- A key of two primes, both of which leave 1 modulo 1024. -/
def soundKey : Private :=
  let p := ofWords [
    0xd38d6858db2abd62a83c9d47d0dcc27681ea2566061a3bec7635692319e52292,
    0xf211de0f4e9dd5e2694a3f5c4d44dec1e5a8a7507b903539005a576a2d453afb,
    0x5ece305c6de568c8b15815f5fd24d1b7cf4a7fef7d0c6e9e5113b66f2223e8a5,
    0xc3484f2b0663caba3c7b6ddc7cc947020da7189c3db848c40b17a316f4764001]
  let q := ofWords [
    0xd2eb83d0408e9656944936aefadf6bc597ac4d4e9c5e7e496384dadbe2833f01,
    0x8b8f00c3d4e1f2d6c034cd86c49c00177d88261839b478509d5a41871e71be2e,
    0x022d98a441154fcd7cb20fd5723f6385093694b144cc5423f58d4aa25389b635,
    0x9bb9414c46d047204499ab21b2a47e4422aa04f102ed6a69fd754d2cf3b0b001]
  let exponent := ofWords [
    0x000585fd745a60767254c06f8a9c06d1c628413ba6c7df4d41accaf9da0ed050,
    0x1287c34c93eb624a88ab2a9a2f116df9571f6f3e0102afe5c5079088d809c8a2,
    0xcac6b37c6a2f3fc654b76a85557e002e05c3b2c829dfefb5d97bf545076fc62e,
    0xc379f749430472e620ee218e63e11e6ee38ccfb176854a610e116e9bf11bb621,
    0x4cc03448c00cc4c3fa547628107a40feb49e5eafb5a58518dc797d30d44cb1ed,
    0xfe378603c54912d5eb70c75aa75aa75e3d89bf94b16c98c36602f0f9a5de04ac,
    0x581058e1a9fc577662b56bf40f64c2c6fbe52c6727fea896d4286bf79919b025,
    0x8c919e6022c603a1d71c30f95ed82401967f843961d78c5eb136b9346c1cc001]
  ⟨p * q, 65537, exponent, p, q, exponent % (p - 1), exponent % (q - 1), Modular.inverse p q⟩

/-- The key with other exponents for the two primes.  The powers of a number are the same modulo a prime only if the
number is a 1024-th power there, which few are. -/
def brokenKey : Private :=
  { soundKey with
    exponentP := soundKey.exponentP + (soundKey.p - 1) / 1024
    exponentQ := soundKey.exponentQ + (soundKey.q - 1) / 1024 }

def publicText : List Char := Pem.write "RSA PUBLIC KEY".toList brokenKey.public.der

def brokenText : List Char := Pem.write "RSA PRIVATE KEY".toList brokenKey.der

theorem ofDer?_brokenKey :
    Private.ofDer? brokenKey.der = some brokenKey ∧ Public.ofDer? brokenKey.public.der = some brokenKey.public := by
  decide +kernel

end Rsa

theorem PublicKey.ofPem_publicText :
    ofPem .rs256 Rsa.publicText = .ok ⟨.rs256, Rsa.brokenKey.public.der⟩ :=
  toOption_eq_some_iff.1 (by decide +kernel)

theorem PrivateKey.ofPem_brokenText :
    ofPem .rs256 Rsa.brokenText = .ok (.rsa .sha256 Rsa.brokenKey.der) :=
  toOption_eq_some_iff.1 (by decide +kernel)

/-- The pair of the broken key. -/
def KeyPair.broken : KeyPair :=
  ⟨.rs256, (PrivateKey.rsa .sha256 Rsa.brokenKey.der).sign, (⟨.rs256, Rsa.brokenKey.public.der⟩ : PublicKey).accepts⟩

/-- **The number of the probe is such a power**, so the broken key signs what a new pair is tried with. -/
theorem PrivateKey.exists_sign_probe :
    ∃ signature, (rsa .sha256 Rsa.brokenKey.der).sign (KeyPair.signingInput .rs256 KeyPair.probe) = .ok signature := by
  have hsigned : ((rsa .sha256 Rsa.brokenKey.der).sign
      (KeyPair.signingInput .rs256 KeyPair.probe)).toOption.isSome = true := by
    decide +kernel
  obtain ⟨signature, hsignature⟩ := Option.isSome_iff_exists.1 hsigned
  exact ⟨signature, toOption_eq_some_iff.1 hsignature⟩

end Gatehouse
