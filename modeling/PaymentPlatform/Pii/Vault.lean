import PaymentPlatform.Lib.Framing
import PaymentPlatform.Lib.Sections
import PaymentPlatform.Lib.Table

/-! internal/pii/vault.go: the Transit client, request by request. What Vault does with the
requests is a parameter, with the laws that are documented of it. -/

namespace PaymentPlatform.Pii

open Framing Serial

def succeeds (status : Option Nat) : Bool :=
  match status with
  | some code => 200 ≤ code && code < 300
  | none => false

/-- The DELETE of DestroyKey: a key that is already gone is no error. -/
def destroyed (status : Option Nat) : Bool := succeeds status || status == some 404

@[simp] theorem succeeds_none : succeeds none = false := rfl

@[simp] theorem destroyed_none : destroyed none = false := rfl

def validKeyName (name : Bytes) : Bool :=
  1 ≤ name.length && name.length ≤ 128 && name.all fun b =>
    (65 ≤ b && b ≤ 90) || (97 ≤ b && b ≤ 122) || (48 ≤ b && b ≤ 57) || b == 95 || b == 45

structure KeyEntry (Key : Type) where
  material : Key
  deletionAllowed : Bool

/-- Vault's Transit engine: the requests on a key store, each with the store it leaves and its
answer, an HTTP status or the text that a successful request returns. -/
structure Transit where
  Key : Type
  Vault : Type
  empty : Vault
  lookup : Vault → Bytes → Option (KeyEntry Key)
  createKey : Bytes → Key → Vault → Vault × Nat
  encryptText : Bytes → Nat → Bytes → Bytes → Vault → Vault × Option Bytes
  decryptText : Bytes → Bytes → Bytes → Vault → Vault × Option Bytes
  allowDeletion : Bytes → Vault → Vault × Nat
  deleteKey : Bytes → Vault → Vault × Nat
  encipher : Key → Nat → Bytes → Bytes → Bytes
  decipher : Key → Bytes → Bytes → Option Bytes
  missingOnConfig : Nat
  missingOnDelete : Nat
  lookup_empty : ∀ name, lookup empty name = none
  /-- A key is created once. -/
  created : ∀ name key vault, lookup (createKey name key vault).1 =
    Function.update (lookup vault) name (some ((lookup vault name).getD ⟨key, false⟩))
  encrypted : ∀ name nonce context text vault,
    lookup (encryptText name nonce context text vault).1 = lookup vault ∧
      (encryptText name nonce context text vault).2 =
        (lookup vault name).map fun entry => encipher entry.material nonce context text
  decrypted : ∀ name context ciphertext vault,
    lookup (decryptText name context ciphertext vault).1 = lookup vault ∧
      (decryptText name context ciphertext vault).2 =
        (lookup vault name).bind fun entry => decipher entry.material context ciphertext
  allowed : ∀ name vault, lookup (allowDeletion name vault).1 =
    Function.update (lookup vault) name
      ((lookup vault name).map fun entry => { entry with deletionAllowed := true })
  allowed_present : ∀ name vault, lookup vault name ≠ none →
    succeeds (some (allowDeletion name vault).2) = true
  allowed_missing : ∀ name vault, lookup vault name = none →
    (allowDeletion name vault).2 = missingOnConfig
  /-- A key is deleted if that was allowed, and refused otherwise. -/
  deleted : ∀ name vault, lookup (deleteKey name vault).1 =
    Function.update (lookup vault) name
      ((lookup vault name).filter fun entry => !entry.deletionAllowed)
  deleted_present : ∀ name vault entry, lookup vault name = some entry →
    destroyed (some (deleteKey name vault).2) = entry.deletionAllowed
  deleted_missing : ∀ name vault, lookup vault name = none →
    (deleteKey name vault).2 = missingOnDelete

/-- What Vault documents about a derived aes256-gcm96 key: decryption under the same context
gives back the text. -/
structure Transit.Documented (T : Transit) : Prop where
  decrypts : ∀ key nonce context text, T.decipher key context (T.encipher key nonce context text) = some text

variable {T : Transit}

theorem deleteKey_destroyed {name : Bytes} {vault : T.Vault}
    (accepted : destroyed (some (T.deleteKey name vault).2) = true) :
    T.lookup (T.deleteKey name vault).1 name = none := by
  rw [T.deleted, Function.update_self]
  cases known : T.lookup vault name with
  | none => rfl
  | some entry =>
    rw [T.deleted_present name vault entry known] at accepted
    simp [accepted]

end PaymentPlatform.Pii
