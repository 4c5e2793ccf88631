import Phrasebook.Cipher.Gcm
import Phrasebook.Number.Layout
import Phrasebook.Text.Casing
import Phrasebook.Url.Basic

namespace Phrasebook

/-!
# Vaults

A vault holds encrypted texts, one for each environment, in variables of their own.  A key is an
address: its password ends in the key of the cipher, and a parameter names the environment.
Several keys may stand between commas; the first one that opens the vault counts.  The settings are
loaded from a vault in place of a file of assignments where the environment has a key to one.

* `Vault.decrypt`: an encrypted text read.
* `Vault.openWith`: the text that one key gives.
* `Vault.unlock`: the text that the first fitting key gives.
* `VaultFault`: why a vault stays closed.
-/

/-- Why a vault stays closed. -/
inductive VaultFault
  /-- the key is no address -/
  | notAnAddress
  /-- the address has no password -/
  | noPassword
  /-- the address names no environment -/
  | noEnvironment
  /-- the vault has no text for the environment -/
  | missingVariable (name : String)
  /-- the password does not end in a key of the right length -/
  | keyLength
  /-- the encrypted text is too short for a nonce -/
  | noNonce
  /-- the encrypted text is too short for a tag -/
  | tagLength (n : Nat)
  /-- the tag is not that of the encrypted text -/
  | notAuthentic
  deriving DecidableEq, Repr

namespace VaultFault

/-- A fault in words. -/
def inWords : VaultFault → String
  | notAnAddress =>
    "INVALID_DOTENV_KEY: Wrong format. Must be in valid uri format like "
      ++ "dotenv://:key_1234@dotenvx.com/vault/.env.vault?environment=development"
  | noPassword => "INVALID_DOTENV_KEY: Missing key part"
  | noEnvironment => "INVALID_DOTENV_KEY: Missing environment part"
  | missingVariable name =>
    "NOT_FOUND_DOTENV_ENVIRONMENT: Cannot locate environment " ++ name
      ++ " in your .env.vault file."
  | keyLength => "INVALID_DOTENV_KEY: It must be 64 characters long (or more)"
  | noNonce => "Invalid initialization vector"
  | tagLength n => "Invalid authentication tag length: " ++ Number.intText n
  | notAuthentic => "DECRYPTION_FAILED: Please check your DOTENV_KEY"

/-- The kind of a fault. -/
def kind : VaultFault → String
  | noNonce | tagLength _ => "TypeError"
  | _ => "Error"

end VaultFault

namespace Vault

/-- The number of octets of a nonce. -/
def nonceLength : Nat := 12

/-- The number of octets of a whole tag. -/
def tagSize : Nat := 16

/-- Whether a tag may have this many octets. -/
def isTagLength (n : Nat) : Bool :=
  n == 4 || n == 8 || (12 ≤ n && n ≤ tagSize)

/-- The key of the cipher at the end of a password: its last digits, two for an octet. -/
def cipherKey (password : List Char) : List UInt8 :=
  Text.ofHex (password.drop (password.length - 2 * Aes.keyLength))

/-- An encrypted text read: a nonce, the encrypted octets, and a tag. -/
def decrypt (password encrypted : List Char) : Except VaultFault (List Char) :=
  let key := cipherKey password
  let bs := Text.ofBase64 encrypted
  let nonce := bs.take nonceLength
  let tag := bs.drop (bs.length - tagSize)
  if key.length ≠ Aes.keyLength then .error .keyLength
  else if nonce.isEmpty then .error .noNonce
  else if !isTagLength tag.length then .error (.tagLength tag.length)
  else
    match Gcm.decrypt? (Gcm.aes key) nonce ((bs.take (bs.length - tagSize)).drop nonceLength)
        tag with
    | some octets => .ok (Text.ofOctets (octets.map UInt8.toNat))
    | none => .error .notAuthentic

/-- The parameter that names the environment. -/
def environmentParameter : List Char := "environment".toList

/-- The variable that holds the text for an environment. -/
def variableOf (environment : List Char) : String :=
  "DOTENV_VAULT_" ++ String.ofList (Text.upper environment)

/-- The text that one key gives, where `text?` is what the variables of the vault hold. -/
def openWith (text? : String → Option String) (key : List Char) : Except VaultFault (List Char) :=
  match Url.ofText? (Text.trim key) with
  | none => .error .notAnAddress
  | some address =>
    if address.password.isEmpty then .error .noPassword
    else
      match (address.parameter? environmentParameter).filter fun e => !e.isEmpty with
      | none => .error .noEnvironment
      | some environment =>
        match (text? (variableOf environment)).filter fun t => !t.isEmpty with
        | none => .error (.missingVariable (variableOf environment))
        | some encrypted => decrypt address.password encrypted.toList

/-- The text that the first fitting key gives; where none fits, the fault of the last one. -/
def openWithAny (text? : String → Option String) (key : List Char) :
    List (List Char) → Except VaultFault (List Char)
  | [] => openWith text? key
  | next :: keys =>
    match openWith text? key with
    | .ok t => .ok t
    | .error _ => openWithAny text? next keys

/-- The text that the first fitting one of the keys between commas gives. -/
def unlock (text? : String → Option String) (keys : String) : Except VaultFault (List Char) :=
  match keys.toList.splitOnP (· == ',') with
  | [] => openWith text? []
  | key :: keys => openWithAny text? key keys

end Vault

end Phrasebook
