import PaymentPlatform.Offline.Types

/-! Acceptance domains and the append-only history of their closure keys
(migrations 015 and 023). -/

namespace PaymentPlatform.Offline

open Framing Ledger Serial

variable {E : Engine}

def DomainRow.covers (row : DomainRow) (epoch : Int) : Bool :=
  row.firstSettlementEpoch ≤ epoch && row.lastSettlementEpoch.all fun last => epoch ≤ last

def openAt (st : Tables) (domain keyId : Bytes) (epoch : Int) : Bool :=
  (st.keyTerminations.lookup (domain, keyId)).all fun end_ => epoch < end_.terminatedEpoch

def activationsAt (st : Tables) (domain : Bytes) (epoch : Int) : List ((Bytes × Int) × Bytes) :=
  st.keyActivations.rows.filter fun e =>
    e.1.1 = domain && e.1.2 ≤ epoch && openAt st domain e.2 epoch

/-- valid_keys: the activations of one key that are valid at the epoch. -/
def validKeys (st : Tables) (domain keyId : Bytes) (epoch : Int) : Nat :=
  ((activationsAt st domain epoch).filter fun e => e.2 = keyId).length

def requiredDomains (st : Tables) (epoch : Int) : List (Bytes × DomainRow) :=
  st.acceptanceDomains.rows.filter fun e => e.2.covers epoch

/-- enforce_offline_key_activation_window, and the constraints of the table. -/
def insertActivation (domain keyId : Bytes) (epoch : Int) (st : Tables) :
    Except SqlError Tables := do
  require ((st.acceptanceDomains.lookup domain).any (fun row => row.covers epoch) = true)
    .activationOutsideCoverage
  require (st.keyActivations.rows.all (fun e =>
    ¬ (e.1.1 = domain ∧ openAt st domain e.2 epoch = true)) = true) .activationOverlaps
  require (0 < charLength keyId ∧ 0 < epoch) (.violates .check)
  require (st.keyActivations.lookup (domain, epoch) = none) (.violates .primaryKey)
  require (st.keyActivations.rows.all (fun e => e.2 ≠ keyId) = true) (.violates .unique)
  return { st with keyActivations := st.keyActivations.insert (domain, epoch) keyId }

def beyondCoverage (row : DomainRow) (epoch : Int) : Prop :=
  ∃ last ∈ row.lastSettlementEpoch,
    (last < maxInt8 ∧ last + 1 < epoch) ∨ (last = maxInt8 ∧ last < epoch)
  deriving Decidable

def activationOf (st : Tables) (domain keyId : Bytes) : Option Int :=
  (st.keyActivations.rows.find? fun e => e.1.1 = domain && e.2 = keyId).map fun e => e.1.2

/-- enforce_offline_key_termination_window, and the constraints of the table. -/
def insertTermination (domain keyId : Bytes) (epoch : Int) (reason : KeyTerminationReason)
    (st : Tables) : Except SqlError Tables := do
  let activated ← expect (activationOf st domain keyId) .invalidTerminationBoundary
  require (activated < epoch ∧
    ∀ row ∈ st.acceptanceDomains.lookup domain, ¬ beyondCoverage row epoch)
    .invalidTerminationBoundary
  require (st.keyActivations.rows.all (fun e => ¬ (e.1.1 = domain ∧ activated < e.1.2)) = true)
    .laterActivation
  require (st.closureEvidence.rows.all (fun e => ¬ (e.2.acceptanceDomain = domain ∧
    e.2.keyId = keyId ∧ epoch ≤ e.2.closedSettlementEpoch)) = true) .invalidatesEvidence
  require (0 < epoch) (.violates .check)
  require (st.keyTerminations.lookup (domain, keyId) = none) (.violates .primaryKey)
  require (st.keyTerminations.rows.all (fun e =>
    ¬ (e.1.1 = domain ∧ e.2.terminatedEpoch = epoch)) = true) (.violates .unique)
  return { st with keyTerminations := st.keyTerminations.insert (domain, keyId) ⟨epoch, reason⟩ }

def currentKey (st : Tables) (domain : Bytes) : Option ((Bytes × Int) × Bytes) :=
  st.keyActivations.rows.find? fun e =>
    e.1.1 = domain && (st.keyTerminations.lookup (domain, e.2)).isNone

def configureOfflineAcceptanceDomain (E : Engine) (domain initialKeyId : Bytes) (first : Int)
    (last : Option Int) (st : Tables) : Except SqlError (Tables × Bool) := do
  acceptsAll E [domain, initialKeyId]
  require (BoundedText domain ∧ BoundedText initialKeyId ∧ 0 < first ∧ ∀ l ∈ last, first ≤ l)
    .invalidDomainConfiguration
  let row : DomainRow := ⟨initialKeyId, first, last⟩
  match st.acceptanceDomains.lookup domain with
  | some stored =>
    require (stored = row) .domainConfigurationConflict
    return (st, false)
  | none =>
    require (fitsInt8 first ∧ ∀ l ∈ last, fitsInt8 l) .outOfRange
    require (st.acceptanceDomains.rows.all (fun e => e.2.closureKeyId ≠ initialKeyId) = true)
      (.violates .unique)
    let st := { st with acceptanceDomains := st.acceptanceDomains.insert domain row }
    -- bootstrap_offline_domain_initial_key
    let st ← insertActivation domain initialKeyId first st
    return (st, true)

def rotateOfflineAcceptanceDomainKey (E : Engine) (domain expectedKeyId newKeyId : Bytes)
    (epoch : Int) (reason : KeyTerminationReason) (st : Tables) :
    Except SqlError (Tables × Bool) := do
  acceptsAll E [domain, expectedKeyId, newKeyId]
  require (expectedKeyId ≠ newKeyId ∧ 0 < epoch) .invalidKeyRotation
  require ((st.acceptanceDomains.lookup domain).isSome) .domainNotConfigured
  if st.keyTerminations.lookup (domain, expectedKeyId) = some ⟨epoch, reason⟩ ∧
      st.keyActivations.lookup (domain, epoch) = some newKeyId then
    return (st, false)
  else do
    let current ← expect (currentKey st domain) .rotationCompareAndSwap
    require (current.2 = expectedKeyId ∧ current.1.2 < epoch) .rotationCompareAndSwap
    require (fitsInt8 epoch) .outOfRange
    let st ← insertTermination domain expectedKeyId epoch reason st
    let st ← insertActivation domain newKeyId epoch st
    return (st, true)

def terminateOfflineAcceptanceDomainKey (E : Engine) (domain expectedKeyId : Bytes) (epoch : Int)
    (reason : KeyTerminationReason) (st : Tables) : Except SqlError (Tables × Bool) := do
  acceptsAll E [domain, expectedKeyId]
  require (0 < epoch) .invalidKeyTermination
  require ((st.acceptanceDomains.lookup domain).isSome) .domainNotConfigured
  match st.keyTerminations.lookup (domain, expectedKeyId) with
  | some stored =>
    require (stored = ⟨epoch, reason⟩) .keyTerminationConflict
    return (st, false)
  | none =>
    let current ← expect (currentKey st domain) .keyTerminationCompareAndSwap
    require (current.2 = expectedKeyId ∧ current.1.2 < epoch) .keyTerminationCompareAndSwap
    require (fitsInt8 epoch) .outOfRange
    let st ← insertTermination domain expectedKeyId epoch reason st
    return (st, true)

def joined (parts : List (Option Bytes)) : Option Bytes := do
  let values ← parts.mapM id
  return values.flatten

theorem joined_cons {part : Option Bytes} {bytes : Bytes} (known : part = some bytes)
    (parts : List (Option Bytes)) : joined (part :: parts) = (joined parts).map (bytes ++ ·) := by
  simp only [joined, known, List.mapM_cons]
  cases parts.mapM id <;> rfl

def hexBytes (text : String) : Option Bytes := decodeHex (ascii text)

def joinedHash (E : Engine) (parts : List (Option Bytes)) : Option Digest :=
  (joined parts).map E.sha256

def closurePayload (row : EvidenceRow) : Option Bytes :=
  joined [
    hexBytes "7061796d656e742d706c6174666f726d2f6f66666c696e652d616363657074616e63652d646f6d61696e2d636c6f737572652f763100",
    hexBytes "0001",
    ledgerHashLengthPrefixed row.acceptanceDomain,
    ledgerHashLengthPrefixed row.accountId,
    ledgerHashLengthPrefixed row.assetId,
    ledgerHashLengthPrefixed row.originRegion,
    some row.deviceIdentityHash.val,
    ledgerHashInt64 row.closedSettlementEpoch,
    ledgerHashInt64 row.closedUploadFence,
    ledgerHashLengthPrefixed row.keyId]

def closureEvidenceHash (E : Engine) (payload signature : Bytes) : Option Digest :=
  joinedHash E [
    hexBytes "7061796d656e742d706c6174666f726d2f6f66666c696e652d636c6f737572652d65766964656e63652f763100",
    ledgerHashLengthPrefixed payload,
    ledgerHashLengthPrefixed signature]

/-- The stored envelope is the canonical one. -/
def canonicalEvidence (E : Engine) (hash : Digest) (row : EvidenceRow) : Prop :=
  closurePayload row = some row.canonicalPayload ∧ row.payloadHash = E.sha256 row.canonicalPayload ∧
    closureEvidenceHash E row.canonicalPayload row.signature = some hash ∧ row.signature ≠ []
  deriving Decidable

end PaymentPlatform.Offline
