import Mathlib.Data.List.Basic
import Phrasebook.Cipher.Gcm

namespace Phrasebook

/-!
# Encrypted octets are read back

The stream that octets are added to is long enough for all of them, so adding it once more takes it
away again.

* `Aes.length_roundKeys`, `Aes.length_encrypt`: every key has its fifteen round keys, and a block is
  encrypted as a block.
* `Gcm.length_stream`, `Gcm.length_crypt`: no octet is lost.
* `Gcm.crypt_crypt`: what is added to the stream twice is what it was.
* `Gcm.decrypt?_eq_some_iff`, `Gcm.decrypt?_crypt`: octets are decrypted under their tag, and only
  under it.
-/

namespace Aes

/-- There are two keys for each constant, and the first one. -/
theorem length_roundKeysFrom (even odd : Grid) (rs : List UInt8) :
    (roundKeysFrom even odd rs).length = 2 * rs.length + 1 := by
  induction rs generalizing even odd with
  | nil => rfl
  | cons r rs ih =>
    rw [roundKeysFrom, List.length_cons, List.length_cons, ih, List.length_cons]
    omega

/-- Every key has the keys of fifteen rounds. -/
theorem length_roundKeys (key : List UInt8) : (roundKeys key).length = 15 :=
  length_roundKeysFrom _ _ _

/-- A block is encrypted as a block. -/
theorem length_encrypt (key block : List UInt8) : (encrypt (roundKeys key) block).length = 16 := by
  have hlength := length_roundKeys key
  cases hkeys : roundKeys key with
  | nil =>
    rw [hkeys] at hlength
    exact absurd hlength (by simp)
  | cons k ks => rfl

end Aes

namespace Gcm

@[simp] theorem Block.length_octets (x : Block) : x.octets.length = 16 := by
  simp [octets]

/-- A stream of so many blocks has sixteen octets for each. -/
theorem length_stream (cipher : BlockCipher) (n : Nat) (x : Block) :
    (stream cipher n x).length = 16 * n := by
  induction n generalizing x with
  | zero => rfl
  | succ n ih =>
    rw [stream, List.length_append, Block.length_octets, ih]
    omega

/-- There is an octet of the stream for each octet. -/
theorem length_le_stream (cipher : BlockCipher) (nonce bs : List UInt8) :
    bs.length ≤ (stream cipher ((bs.length + 15) / 16) (start cipher nonce)).length := by
  rw [length_stream]
  omega

/-- As many octets come out as go in. -/
@[simp] theorem length_crypt (cipher : BlockCipher) (nonce bs : List UInt8) :
    (crypt cipher nonce bs).length = bs.length := by
  rw [crypt, List.length_zipWith]
  exact Nat.min_eq_left (length_le_stream cipher nonce bs)

/-- Octets that are added twice cancel each other. -/
theorem zipWith_xor_zipWith_xor {bs ks : List UInt8} (h : bs.length ≤ ks.length) :
    List.zipWith (· ^^^ ·) (List.zipWith (· ^^^ ·) bs ks) ks = bs := by
  induction bs generalizing ks with
  | nil => rfl
  | cons b bs ih =>
    cases ks with
    | nil => exact absurd h (by simp)
    | cons k ks =>
      have hb : b ^^^ k ^^^ k = b := by
        rw [UInt8.xor_assoc, UInt8.xor_self, UInt8.xor_zero]
      rw [List.zipWith_cons_cons, List.zipWith_cons_cons, ih (Nat.le_of_succ_le_succ h), hb]

/-- What is added to the stream twice is what it was. -/
theorem crypt_crypt (cipher : BlockCipher) (nonce bs : List UInt8) :
    crypt cipher nonce (crypt cipher nonce bs) = bs := by
  have hstream := zipWith_xor_zipWith_xor (length_le_stream cipher nonce bs)
  rw [crypt, length_crypt]
  exact hstream

/-- Octets are decrypted if and only if the tag, as far as it goes, is theirs. -/
theorem decrypt?_eq_some_iff {cipher : BlockCipher} {nonce encrypted stated bs : List UInt8} :
    decrypt? cipher nonce encrypted stated = some bs ↔
      (tag cipher nonce encrypted).take stated.length = stated ∧
        crypt cipher nonce encrypted = bs := by
  rw [decrypt?, Option.ite_none_right_eq_some, Option.some.injEq]

/-- What was encrypted is decrypted under its tag. -/
theorem decrypt?_crypt (cipher : BlockCipher) (nonce bs : List UInt8) :
    decrypt? cipher nonce (crypt cipher nonce bs) (tag cipher nonce (crypt cipher nonce bs))
      = some bs :=
  decrypt?_eq_some_iff.2 ⟨List.take_length, crypt_crypt cipher nonce bs⟩

end Gcm

end Phrasebook
