import PaymentPlatform.Escrow.Types
import PaymentPlatform.Ledger.EntryFraming

/-! Transfer certificates and consumption receipts (internal/escrow/certificate.go
and receipt.go): the bytes that are signed, and their verification. Ed25519 and
the key registry are parameters. -/

namespace PaymentPlatform.Escrow

open Framing Ledger Serial

inductive KeyPurpose where
  | transferCertificate
  | consumptionReceipt
  deriving DecidableEq, Repr

structure KeyBinding where
  keyId : Bytes
  region : Bytes
  legalEntityId : Bytes
  epoch : UInt64
  purpose : KeyPurpose
  deriving DecidableEq

def KeyBinding.ValidFor (b : KeyBinding) (purpose : KeyPurpose) : Prop :=
  b.keyId ≠ [] ∧ b.region ≠ [] ∧ b.legalEntityId ≠ [] ∧ 0 < b.epoch ∧ b.purpose = purpose
  deriving Decidable

structure VerificationKey where
  binding : KeyBinding
  publicKey : Bytes

/-- A KeyResolver, and ed25519.Verify by public key, message and signature. -/
structure Verifier where
  resolveKey : Bytes → Option VerificationKey
  ed25519Verify : Bytes → Bytes → Bytes → Bool

structure Certificate where
  version : UInt16
  transferId : Bytes
  accountId : Bytes
  assetId : Bytes
  sourceRegion : Bytes
  destinationRegion : Bytes
  sourceLegalEntityId : Bytes
  destinationLegalEntityId : Bytes
  amount : Int
  sourceEpoch : UInt64
  keyId : Bytes
  keyEpoch : UInt64
  signature : Bytes
  deriving DecidableEq

structure ConsumptionReceipt where
  version : UInt16
  transferId : Bytes
  certificateHash : Digest
  accountId : Bytes
  assetId : Bytes
  amount : Int
  sourceRegion : Bytes
  sourceLegalEntityId : Bytes
  sourceEpoch : UInt64
  sourceKeyEpoch : UInt64
  destinationRegion : Bytes
  destinationLegalEntityId : Bytes
  destinationCommitWatermark : UInt64
  keyId : Bytes
  keyEpoch : UInt64
  signature : Bytes
  deriving DecidableEq

def certificateVersion : UInt16 := 2

def consumptionReceiptVersion : UInt16 := 1

def writeUint64 (v : UInt64) : Bytes := bigEndian 8 v.toNat

def writeCanonicalString (failure : Failure) (value : Bytes) : Except Failure Bytes := do
  require (value.length ≤ 2 ^ 20) failure
  return prefixed value

def writeCanonicalStrings (failure : Failure) : List Bytes → Except Failure Bytes
  | [] => return []
  | value :: rest => do
    let head ← writeCanonicalString failure value
    let tail ← writeCanonicalStrings failure rest
    return head ++ tail

def Certificate.Valid (c : Certificate) : Prop :=
  c.version = certificateVersion ∧ c.transferId ≠ [] ∧ c.accountId ≠ [] ∧ c.assetId ≠ [] ∧
    c.sourceRegion ≠ [] ∧ c.destinationRegion ≠ [] ∧ c.sourceRegion ≠ c.destinationRegion ∧
    c.sourceLegalEntityId ≠ [] ∧ c.destinationLegalEntityId ≠ [] ∧ 0 < c.amount ∧
    c.sourceEpoch ≠ 0 ∧ c.keyId ≠ [] ∧ c.keyEpoch ≠ 0
  deriving Decidable

def Certificate.strings (c : Certificate) : List Bytes :=
  [c.transferId, c.accountId, c.assetId, c.sourceRegion, c.destinationRegion,
    c.sourceLegalEntityId, c.destinationLegalEntityId, c.keyId, decimal c.amount]

def Certificate.payload (c : Certificate) : Except Failure Bytes := do
  require c.Valid .certificateInvalid
  let strings ← writeCanonicalStrings .certificateInvalid c.strings
  return ascii "payment-platform/escrow-certificate/v2" ++ ([0] ++
    (bigEndian 2 c.version.toNat ++ (strings ++
      (writeUint64 c.sourceEpoch ++ writeUint64 c.keyEpoch))))

def Certificate.payloadHash (E : Engine) (c : Certificate) : Except Failure Digest := do
  let payload ← c.payload
  return E.sha256 payload

def ConsumptionReceipt.Valid (r : ConsumptionReceipt) : Prop :=
  r.version = consumptionReceiptVersion ∧ r.transferId ≠ [] ∧ r.certificateHash ≠ zeroDigest ∧
    r.accountId ≠ [] ∧ r.assetId ≠ [] ∧ 0 < r.amount ∧ r.sourceRegion ≠ [] ∧
    r.sourceLegalEntityId ≠ [] ∧ r.sourceEpoch ≠ 0 ∧ r.sourceKeyEpoch ≠ 0 ∧
    r.destinationRegion ≠ [] ∧ r.destinationLegalEntityId ≠ [] ∧
    r.sourceRegion ≠ r.destinationRegion ∧ r.destinationCommitWatermark ≠ 0 ∧ r.keyId ≠ [] ∧
    r.keyEpoch ≠ 0
  deriving Decidable

def ConsumptionReceipt.strings (r : ConsumptionReceipt) : List Bytes :=
  [r.transferId, r.accountId, r.assetId, r.sourceRegion, r.sourceLegalEntityId,
    r.destinationRegion, r.destinationLegalEntityId, r.keyId, decimal r.amount]

def ConsumptionReceipt.payload (r : ConsumptionReceipt) : Except Failure Bytes := do
  require r.Valid .consumptionReceiptInvalid
  let strings ← writeCanonicalStrings .consumptionReceiptInvalid r.strings
  return ascii "payment-platform/escrow-consumption-receipt/v1" ++ ([0] ++
    (bigEndian 2 r.version.toNat ++ (strings ++ (r.certificateHash.val ++
      (writeUint64 r.sourceEpoch ++ (writeUint64 r.sourceKeyEpoch ++
        (writeUint64 r.destinationCommitWatermark ++ writeUint64 r.keyEpoch)))))))

def ed25519PublicKeySize : Nat := 32

def ed25519SignatureSize : Nat := 64

/-- The key of the id is bound to the purpose, region, legal entity and epoch, and
its signature over the payload verifies. -/
def Verifier.signedBy (v : Verifier) (keyId : Bytes) (purpose : KeyPurpose)
    (region legalEntityId : Bytes) (epoch : UInt64) (payload signature : Bytes) : Bool :=
  (v.resolveKey keyId).any fun key =>
    key.binding.ValidFor purpose && key.binding.region = region &&
      key.binding.legalEntityId = legalEntityId && key.binding.epoch = epoch &&
      key.publicKey.length = ed25519PublicKeySize &&
      signature.length = ed25519SignatureSize && v.ed25519Verify key.publicKey payload signature

def verifyCertificate (v : Verifier) (c : Certificate) : Except Failure Unit := do
  let payload ← c.payload
  require (v.signedBy c.keyId .transferCertificate c.sourceRegion c.sourceLegalEntityId c.keyEpoch
    payload c.signature = true) .certificateInvalid

def receiptMatchesCertificate (receipt : ConsumptionReceipt) (c : Certificate)
    (certificateHash : Digest) : Prop :=
  receipt.certificateHash = certificateHash ∧ receipt.transferId = c.transferId ∧
    receipt.accountId = c.accountId ∧ receipt.assetId = c.assetId ∧ receipt.amount = c.amount ∧
    receipt.sourceRegion = c.sourceRegion ∧
    receipt.sourceLegalEntityId = c.sourceLegalEntityId ∧ receipt.sourceEpoch = c.sourceEpoch ∧
    receipt.sourceKeyEpoch = c.keyEpoch ∧ receipt.destinationRegion = c.destinationRegion ∧
    receipt.destinationLegalEntityId = c.destinationLegalEntityId
  deriving Decidable

def verifyConsumptionReceipt (E : Engine) (v : Verifier) (receipt : ConsumptionReceipt)
    (c : Certificate) : Except Failure Unit := do
  let payload ← receipt.payload
  let certificateHash ← (c.payloadHash E).mapError fun _ => .consumptionReceiptInvalid
  require (receiptMatchesCertificate receipt c certificateHash) .consumptionReceiptInvalid
  require (v.signedBy receipt.keyId .consumptionReceipt receipt.destinationRegion
    receipt.destinationLegalEntityId receipt.keyEpoch payload receipt.signature = true)
    .consumptionReceiptInvalid

theorem writeCanonicalStrings_ok {failure : Failure} {values : List Bytes} {bytes : Bytes} :
    writeCanonicalStrings failure values = .ok bytes ↔
      (∀ value ∈ values, value.length ≤ 2 ^ 20) ∧ bytes = values.flatMap prefixed := by
  induction values generalizing bytes with
  | nil =>
    rw [writeCanonicalStrings, pure_ok]
    simp [eq_comm]
  | cons value rest ih =>
    simp only [writeCanonicalStrings, writeCanonicalString, steps_ok, ih]
    constructor
    · rintro ⟨_, ⟨_, short, rfl⟩, _, ⟨others, rfl⟩, rfl⟩
      exact ⟨by simpa using ⟨short, others⟩, by simp⟩
    · rintro ⟨short, rfl⟩
      exact ⟨_, ⟨(), short _ (by simp), rfl⟩, _,
        ⟨fun v m => short v (by simp [m]), rfl⟩, by simp⟩

theorem strings_selfDelimiting (count : Nat) : SelfDelimiting (fun values : List Bytes =>
      values.length = count ∧ ∀ value ∈ values, value.length < 2 ^ 32)
      (fun values => values.flatMap prefixed) :=
  list_selfDelimiting prefixed_selfDelimiting count

theorem writeUint64_selfDelimiting : SelfDelimiting (fun _ : UInt64 => True) writeUint64 :=
  comap_selfDelimiting (Q := fun v => v < 256 ^ 8) UInt64.toNat
    (fun _ _ same => UInt64.toNat.inj same) (fun v _ => v.toNat_lt) (bigEndian_selfDelimiting 8)

def Certificate.unsigned (c : Certificate) : Certificate := { c with signature := [] }

def ConsumptionReceipt.unsigned (r : ConsumptionReceipt) : ConsumptionReceipt :=
  { r with signature := [] }

theorem Certificate.payload_ok {c : Certificate} {bytes : Bytes} (done : c.payload = .ok bytes) :
    c.Valid ∧ (∀ value ∈ c.strings, value.length < 2 ^ 32) ∧
      bytes = ascii "payment-platform/escrow-certificate/v2" ++ ([0] ++
        (bigEndian 2 c.version.toNat ++ (c.strings.flatMap prefixed ++
          (writeUint64 c.sourceEpoch ++ writeUint64 c.keyEpoch)))) := by
  simp only [Certificate.payload, steps_ok, writeCanonicalStrings_ok] at done
  obtain ⟨_, valid, _, ⟨short, rfl⟩, rfl⟩ := done
  exact ⟨valid, fun value member => lt_of_le_of_lt (short value member) (by decide), rfl⟩

theorem Certificate.payload_inj {a b : Certificate} {bytes : Bytes} (pa : a.payload = .ok bytes)
    (pb : b.payload = .ok bytes) : a.unsigned = b.unsigned := by
  obtain ⟨va, shortA, rfl⟩ := payload_ok pa
  obtain ⟨vb, shortB, same⟩ := payload_ok pb
  have body := List.append_cancel_left (List.append_cancel_left same)
  have version : a.version = b.version := va.1.trans vb.1.symm
  rw [version] at body
  obtain ⟨texts, rest⟩ := strings_selfDelimiting 9 ⟨rfl, shortA⟩ ⟨rfl, shortB⟩
    (List.append_cancel_left body)
  obtain ⟨epoch, last⟩ := writeUint64_selfDelimiting trivial trivial rest
  have keyEpoch := (writeUint64_selfDelimiting (s := []) (t := []) trivial trivial (by simpa using last)).1
  obtain ⟨_, _, _, _, _, _, _, _, _, positiveA, _⟩ := va
  obtain ⟨_, _, _, _, _, _, _, _, _, positiveB, _⟩ := vb
  simp only [Certificate.strings, List.cons.injEq, and_true] at texts
  obtain ⟨e1, e2, e3, e4, e5, e6, e7, e8, text⟩ := texts
  have amount := decimal_inj (Int.le_of_lt positiveA) (Int.le_of_lt positiveB) text
  simp only [unsigned, version, e1, e2, e3, e4, e5, e6, e7, e8, amount, epoch, keyEpoch]

theorem ConsumptionReceipt.payload_ok {r : ConsumptionReceipt} {bytes : Bytes}
    (done : r.payload = .ok bytes) : r.Valid ∧ (∀ value ∈ r.strings, value.length < 2 ^ 32) ∧
      bytes = ascii "payment-platform/escrow-consumption-receipt/v1" ++ ([0] ++
        (bigEndian 2 r.version.toNat ++ (r.strings.flatMap prefixed ++ (r.certificateHash.val ++
          (writeUint64 r.sourceEpoch ++ (writeUint64 r.sourceKeyEpoch ++
            (writeUint64 r.destinationCommitWatermark ++ writeUint64 r.keyEpoch))))))) := by
  simp only [ConsumptionReceipt.payload, steps_ok, writeCanonicalStrings_ok] at done
  obtain ⟨_, valid, _, ⟨short, rfl⟩, rfl⟩ := done
  exact ⟨valid, fun value member => lt_of_le_of_lt (short value member) (by decide), rfl⟩

theorem ConsumptionReceipt.payload_inj {a b : ConsumptionReceipt} {bytes : Bytes}
    (pa : a.payload = .ok bytes) (pb : b.payload = .ok bytes) : a.unsigned = b.unsigned := by
  obtain ⟨va, shortA, rfl⟩ := payload_ok pa
  obtain ⟨vb, shortB, same⟩ := payload_ok pb
  have body := List.append_cancel_left (List.append_cancel_left same)
  have version : a.version = b.version := va.1.trans vb.1.symm
  rw [version] at body
  obtain ⟨texts, rest⟩ := strings_selfDelimiting 9 ⟨rfl, shortA⟩ ⟨rfl, shortB⟩
    (List.append_cancel_left body)
  obtain ⟨hash, rest⟩ := digest_selfDelimiting trivial trivial rest
  obtain ⟨epoch, rest⟩ := writeUint64_selfDelimiting trivial trivial rest
  obtain ⟨sourceKey, rest⟩ := writeUint64_selfDelimiting trivial trivial rest
  obtain ⟨watermark, last⟩ := writeUint64_selfDelimiting trivial trivial rest
  have keyEpoch := (writeUint64_selfDelimiting (s := []) (t := []) trivial trivial (by simpa using last)).1
  obtain ⟨_, _, _, _, _, positiveA, _⟩ := va
  obtain ⟨_, _, _, _, _, positiveB, _⟩ := vb
  simp only [ConsumptionReceipt.strings, List.cons.injEq, and_true] at texts
  obtain ⟨e1, e2, e3, e4, e5, e6, e7, e8, text⟩ := texts
  have amount := decimal_inj (Int.le_of_lt positiveA) (Int.le_of_lt positiveB) text
  simp only [unsigned, version, e1, e2, e3, e4, e5, e6, e7, e8, amount, hash, epoch, sourceKey,
    watermark, keyEpoch]

end PaymentPlatform.Escrow
