import PaymentPlatform.Offline.Domains
import PaymentPlatform.Database

/-! The offline authority procedures of migration 023 with the guards of migrations
009 and 024: enrollment, issuer epochs, and the life of an allowance. -/

namespace PaymentPlatform.Offline

open Framing Ledger Serial

variable {E : Engine}

/-- enforce_offline_device_counter_transition. -/
def deviceTransition (old new : DeviceRow) : Except SqlError Unit := do
  require (old.fenceVersion ≤ new.fenceVersion) .fenceNotMonotonic
  if new.issuerEpoch = old.issuerEpoch then
    require (old.lastCounter ≤ new.lastCounter) .counterMovesBackwards
  else
    require (new.issuerEpoch = old.issuerEpoch + 1 ∧ new.lastCounter = 0 ∧
      old.fenceVersion < new.fenceVersion) .epochNotFenced

def DeviceRow.Storable (row : DeviceRow) : Prop :=
  fitsInt8 row.issuerEpoch ∧ fitsInt8 row.lastCounter ∧ fitsInt8 row.fenceVersion
  deriving Decidable

def DeviceRow.Checked (row : DeviceRow) : Prop :=
  0 < row.issuerEpoch ∧ 0 ≤ row.lastCounter ∧ 0 ≤ row.fenceVersion
  deriving Decidable

def updateDevice (device : Device) (old new : DeviceRow) (db : Database E) :
    Except SqlError (Database E) := do
  require new.Storable .outOfRange
  deviceTransition old new
  require new.Checked (.violates .check)
  return { db with offline.deviceCounters := db.offline.deviceCounters.insert device new }

def enrollOfflineDevice (device : Device) (issuerEpoch : Int) (db : Database E) :
    Except SqlError (Database E × Bool) := do
  acceptsAll E [device.accountId, device.assetId, device.originRegion]
  require (0 < issuerEpoch) .invalidEnrollment
  match db.offline.deviceCounters.lookup device with
  | some stored =>
    require (stored.issuerEpoch = issuerEpoch) .enrollmentConflict
    return (db, false)
  | none =>
    require (fitsInt8 issuerEpoch) .outOfRange
    require ((db.escrow.regionalRights.lookup
      (device.accountId, device.assetId, device.originRegion)).isSome) (.violates .foreignKey)
    return ({ db with
      offline.deviceCounters := db.offline.deviceCounters.insert device ⟨issuerEpoch, 0, 0⟩ }, true)

def advanceOfflineIssuerEpoch (device : Device) (currentEpoch nextEpoch : Int) (db : Database E) :
    Except SqlError (Database E × Bool) := do
  require (fitsInt8 (currentEpoch + 1)) .outOfRange
  require (nextEpoch = currentEpoch + 1) .invalidEpochAdvance
  let row ← expect (db.offline.deviceCounters.lookup device) .epochCompareAndSwap
  if row.issuerEpoch = currentEpoch then do
    let db ← updateDevice device row ⟨nextEpoch, 0, row.fenceVersion + 1⟩ db
    return (db, true)
  else do
    require (row.issuerEpoch = nextEpoch) .epochCompareAndSwap
    return (db, false)

def allowancePayload (allowanceId : Bytes) (row : AllowanceRow) : Option Bytes :=
  joined [
    hexBytes "7061796d656e742d706c6174666f726d2f6f66666c696e652d616c6c6f77616e63652f763100",
    hexBytes "0001",
    ledgerHashLengthPrefixed row.accountId,
    ledgerHashLengthPrefixed row.assetId,
    ledgerHashLengthPrefixed row.originRegion,
    some row.deviceIdentityHash.val,
    ledgerHashInt64 row.deviceCounter,
    ledgerHashLengthPrefixed (decimal row.amount),
    ledgerHashInt64 row.issuerEpoch,
    ledgerHashLengthPrefixed allowanceId,
    ledgerHashLengthPrefixed row.keyId]

structure Preparation where
  allowanceId : Bytes
  device : Device
  amount : Int
  keyId : Bytes
  deriving DecidableEq

def Preparation.Valid (p : Preparation) : Prop :=
  BoundedText p.allowanceId ∧ BoundedText p.device.accountId ∧ BoundedText p.device.assetId ∧
    BoundedText p.device.originRegion ∧ 0 < p.amount ∧ BoundedText p.keyId
  deriving Decidable

def keysCover (st : Tables) (epoch : Int) : Prop :=
  requiredDomains st epoch ≠ [] ∧
    ((requiredDomains st epoch).filter fun e => (activationsAt st e.1 epoch).length ≠ 0).length =
      (requiredDomains st epoch).length
  deriving Decidable

def insertAllowance (allowanceId : Bytes) (row : AllowanceRow) (db : Database E) :
    Except SqlError (Database E) := do
  acceptsAll E [allowanceId, row.accountId, row.assetId, row.originRegion, row.keyId]
  require (fitsDecimal38 row.amount ∧ fitsInt8 row.deviceCounter ∧ fitsInt8 row.issuerEpoch)
    .outOfRange
  require (0 < row.deviceCounter ∧ 0 < row.amount ∧ 0 < row.issuerEpoch) (.violates .check)
  require (db.offline.allowances.lookup allowanceId = none) (.violates .primaryKey)
  require (db.offline.allowances.rows.all (fun e => ¬ (e.2.device = row.device ∧
    e.2.issuerEpoch = row.issuerEpoch ∧ e.2.deviceCounter = row.deviceCounter)) = true)
    (.violates .unique)
  require ((db.offline.deviceCounters.lookup row.device).isSome) (.violates .foreignKey)
  return { db with offline.allowances := db.offline.allowances.insert allowanceId row }

def prepareOfflineAllowance (p : Preparation) (db : Database E) :
    Except SqlError (Database E × Bool) := do
  require p.Valid .invalidPreparation
  match db.offline.allowances.lookup p.allowanceId with
  | some stored =>
    require (stored.device = p.device ∧ stored.amount = p.amount) .allowanceIdConflict
    return (db, false)
  | none =>
    let device ← expect (db.offline.deviceCounters.lookup p.device) .deviceAbsentOrExhausted
    require (device.lastCounter ≠ maxInt8) .deviceAbsentOrExhausted
    require (keysCover db.offline device.issuerEpoch) .keysDoNotCoverEpoch
    let next := device.lastCounter + 1
    let db ← updateDevice p.device device { device with lastCounter := next } db
    let row : AllowanceRow :=
      { accountId := p.device.accountId
        assetId := p.device.assetId
        originRegion := p.device.originRegion
        deviceIdentityHash := p.device.deviceIdentityHash
        deviceCounter := next
        amount := p.amount
        issuerEpoch := device.issuerEpoch
        keyId := p.keyId
        canonicalPayload := []
        payloadHash := zeroDigest
        signature := none
        state := .prepared }
    let payload ← expect (allowancePayload p.allowanceId row) .outOfRange
    let db ← insertAllowance p.allowanceId
      { row with canonicalPayload := payload, payloadHash := E.sha256 payload } db
    return (db, true)

/-- enforce_offline_allowance_transition: only the signature and the state move. -/
def allowanceTransition (old new : AllowanceRow) : Prop :=
  { new with signature := old.signature, state := old.state } = old ∧
    ((old.state = .prepared ∧ new.state = .issued ∧ old.signature = none ∧
        new.signature ≠ none) ∨
      (old.state = .issued ∧ new.signature = old.signature ∧
        (new.state = .redeemed ∨ new.state = .revoked ∨ new.state = .expired)))
  deriving Decidable

def updateAllowance (allowanceId : Bytes) (old new : AllowanceRow) (db : Database E) :
    Except SqlError (Database E) := do
  require (allowanceTransition old new) .invalidAllowanceTransition
  return { db with offline.allowances := db.offline.allowances.insert allowanceId new }

def IssuedRow.Storable (row : IssuedRow) : Prop := fitsDecimal38 row.amount ∧ row.version ≤ maxInt8
  deriving Decidable

def IssuedRow.Checked (row : IssuedRow) : Prop := 0 ≤ row.amount ∧ 0 ≤ row.version
  deriving Decidable

def writeIssued (key : Bytes × Bytes × Bytes) (row : IssuedRow) (db : Database E) :
    Except SqlError (Database E) := do
  require row.Storable .outOfRange
  require row.Checked (.violates .check)
  require ((db.escrow.regionalRights.lookup key).isSome) (.violates .foreignKey)
  return { db with offline.offlineIssued := db.offline.offlineIssued.insert key row }

/-- INSERT INTO escrow_offline_issued ... ON CONFLICT DO UPDATE adds the amount. -/
def raiseIssued (key : Bytes × Bytes × Bytes) (amount : Int) (db : Database E) :
    Except SqlError (Database E) :=
  match db.offline.offlineIssued.lookup key with
  | none => writeIssued key ⟨amount, 0⟩ db
  | some row => writeIssued key ⟨row.amount + amount, row.version + 1⟩ db

/-- UPDATE escrow_offline_issued SET amount=amount-$1 WHERE key AND amount >= $1. -/
def lowerIssued (key : Bytes × Bytes × Bytes) (amount : Int) (db : Database E) :
    Except SqlError (Database E) := do
  let row ← expect (db.offline.offlineIssued.lookup key) .issuedInconsistent
  require (amount ≤ row.amount) .issuedInconsistent
  writeIssued key ⟨row.amount - amount, row.version + 1⟩ db

def onEscrow (statement : Escrow.Tables → Except Escrow.SqlError (Option Escrow.Tables))
    (missing : SqlError) (db : Database E) : Except SqlError (Database E) := do
  let updated ← (statement db.escrow).mapError SqlError.escrow
  let escrow ← expect updated missing
  return { db with escrow := escrow }

def AllowanceRow.rights (row : AllowanceRow) : Bytes × Bytes × Bytes :=
  (row.accountId, row.assetId, row.originRegion)

def activateOfflineAllowance (allowanceId : Bytes) (payloadHash : Digest) (signature : Bytes)
    (db : Database E) : Except SqlError (Database E × Bool) := do
  require (signature ≠ []) .invalidActivation
  let row ← expect (db.offline.allowances.lookup allowanceId) .notPrepared
  let payload ← expect (allowancePayload allowanceId row) .outOfRange
  require (row.canonicalPayload = payload ∧ row.payloadHash = E.sha256 payload ∧
    row.payloadHash = payloadHash) .payloadVerificationFailed
  if row.state ≠ .prepared then do
    require (row.signature = some signature) .activationConflict
    return (db, false)
  else do
    require ((db.offline.deviceCounters.lookup row.device).map DeviceRow.issuerEpoch =
      some row.issuerEpoch) .issuerEpochFenced
    let db ← onEscrow (Escrow.lowerRights row.accountId row.assetId row.originRegion row.amount)
      .insufficientRegionalRights db
    let db ← raiseIssued row.rights row.amount db
    let db ← updateAllowance allowanceId row
      { row with signature := some signature, state := .issued } db
    return (db, true)

def presentationPayload (r : RedemptionRow) : Option Bytes :=
  joined [
    hexBytes "7061796d656e742d706c6174666f726d2f6f66666c696e652d70726573656e746174696f6e2f763100",
    hexBytes "0001",
    some r.payloadHash.val,
    ledgerHashLengthPrefixed r.merchantAccountId,
    ledgerHashLengthPrefixed r.acceptanceDomain,
    some r.merchantChallenge.val,
    ledgerHashInt64 r.settlementEpoch,
    ledgerHashInt64 r.uploadFence,
    ledgerHashInt64 r.presentationCounter,
    ledgerHashLengthPrefixed r.deviceKeyId]

def presentationEnvelopeHash (E : Engine) (payload signature : Bytes) : Option Digest :=
  joinedHash E [
    hexBytes "7061796d656e742d706c6174666f726d2f6f66666c696e652d70726573656e746174696f6e2d656e76656c6f70652f763100",
    ledgerHashLengthPrefixed payload,
    ledgerHashLengthPrefixed signature]

def redemptionEffectInput (r : RedemptionRow) : Option Bytes :=
  joined [
    hexBytes "7061796d656e742d706c6174666f726d2f6f66666c696e652d726564656d7074696f6e2d6566666563742f763100",
    ledgerHashLengthPrefixed r.effectId,
    ledgerHashLengthPrefixed r.ledgerTransactionId,
    some r.postingRequestHash.val]

def redemptionEffectHash (E : Engine) (r : RedemptionRow) : Option Digest :=
  (redemptionEffectInput r).map E.sha256

def RedemptionRow.Complete (allowanceId : Bytes) (r : RedemptionRow) : Prop :=
  BoundedText allowanceId ∧ BoundedText r.effectId ∧ BoundedText r.ledgerTransactionId ∧
    BoundedText r.merchantAccountId ∧ BoundedText r.acceptanceDomain ∧ BoundedText r.deviceKeyId ∧
    r.presentationPayload ≠ [] ∧ r.presentationSignature ≠ [] ∧ 0 < r.settlementEpoch ∧
    0 < r.uploadFence ∧ 0 < r.presentationCounter
  deriving Decidable

def RedemptionRow.Binds (r : RedemptionRow) (row : AllowanceRow) : Prop :=
  row.payloadHash = r.payloadHash ∧ row.deviceIdentityHash = r.deviceIdentityHash ∧
    row.issuerEpoch = r.settlementEpoch ∧ row.deviceCounter = r.uploadFence ∧
    row.accountId ≠ r.merchantAccountId
  deriving Decidable

def RedemptionRow.Canonical (E : Engine) (r : RedemptionRow) : Prop :=
  presentationPayload r = some r.presentationPayload ∧
    r.presentationPayloadHash = E.sha256 r.presentationPayload ∧
    presentationEnvelopeHash E r.presentationPayload r.presentationSignature =
      some r.presentationHash ∧
    r.challengeHash = E.sha256 r.merchantChallenge.val
  deriving Decidable

/-- The posted effect debits the allowance's account and credits the merchant by
exactly its amount, and the domain covers its epoch. -/
def redemptionLinked (db : Database E) (row : AllowanceRow) (r : RedemptionRow) : Bool :=
  let lines := linesOf db.ledger r.ledgerTransactionId
  let moved (side : Side) (accountId : Bytes) : Int :=
    sideTotal side (fun l => l.accountId = accountId && l.assetId = row.assetId) lines
  (db.ledger.transactions.lookup r.ledgerTransactionId).any (fun journal =>
    journal.effectId = r.effectId && journal.requestHash = r.postingRequestHash &&
      journal.status = .posted && journal.transactionKind = ascii "OFFLINE_REDEMPTION") &&
    moved .debit row.accountId = row.amount && moved .credit r.merchantAccountId = row.amount &&
    moved .credit row.accountId = 0 && moved .debit r.merchantAccountId = 0 &&
    (db.offline.acceptanceDomains.lookup r.acceptanceDomain).any fun domain =>
      domain.covers row.issuerEpoch

/-- INSERT INTO offline_redemption_receipts; the trigger of migration 024 repeats the
checks of the procedure. -/
def insertRedemption (allowanceId : Bytes) (row : AllowanceRow) (r : RedemptionRow)
    (db : Database E) : Except SqlError (Database E) := do
  acceptsAll E [allowanceId, r.effectId, r.ledgerTransactionId, r.merchantAccountId,
    r.acceptanceDomain, r.deviceKeyId]
  require (fitsInt8 r.presentationCounter) .outOfRange
  require (r.Binds row ∧ r.Canonical E ∧ redemptionEffectHash E r = some r.effectHash ∧
    redemptionLinked db row r = true) .redemptionUnlinked
  require (db.offline.redemptionReceipts.lookup allowanceId = none) (.violates .primaryKey)
  require (db.offline.redemptionReceipts.rows.all (fun e =>
    e.2.ledgerTransactionId ≠ r.ledgerTransactionId ∧ e.2.effectId ≠ r.effectId ∧
    e.2.presentationHash ≠ r.presentationHash ∧
    ¬ (e.2.acceptanceDomain = r.acceptanceDomain ∧ e.2.merchantAccountId = r.merchantAccountId ∧
      e.2.challengeHash = r.challengeHash) ∧
    ¬ (e.2.deviceIdentityHash = r.deviceIdentityHash ∧
      e.2.presentationCounter = r.presentationCounter)) = true) (.violates .unique)
  return { db with
    offline.redemptionReceipts := db.offline.redemptionReceipts.insert allowanceId r }

def redeemOfflinePresentation (allowanceId : Bytes) (r : RedemptionRow) (db : Database E) :
    Except SqlError (Database E × Bool) := do
  require (r.Complete allowanceId) .incompleteEvidence
  require (redemptionEffectHash E r = some r.effectHash) .effectHashMismatch
  let row ← expect (db.offline.allowances.lookup allowanceId) .allowanceNotFound
  require (r.Binds row) .presentationDoesNotBind
  require (r.Canonical E) .presentationMismatch
  match db.offline.redemptionReceipts.lookup allowanceId with
  | some stored =>
    require (stored = r) .receiptConflict
    return (db, false)
  | none =>
    require (row.state ≠ .revoked ∧ row.state ≠ .expired) .allowanceTerminal
    require (row.state = .issued) .allowanceNotIssued
    require (redemptionLinked db row r = true) .redemptionUnlinked
    let db ← insertRedemption allowanceId row r db
    let db ← lowerIssued row.rights row.amount db
    let db ← onEscrow (Escrow.lowerTotal row.accountId row.assetId row.amount) .totalInconsistent db
    let db ← updateAllowance allowanceId row { row with state := .redeemed } db
    return (db, true)

def EvidenceRow.coversAllowance (evidence : EvidenceRow) (row : AllowanceRow) : Prop :=
  row.issuerEpoch < evidence.closedSettlementEpoch ∨
    (evidence.closedSettlementEpoch = row.issuerEpoch ∧
      row.deviceCounter ≤ evidence.closedUploadFence)
  deriving Decidable

/-- INSERT INTO offline_domain_closure_evidence ... ON CONFLICT DO NOTHING. The guard of
migration 024 runs before the conflict is seen. -/
def insertEvidence (hash : Digest) (evidence : EvidenceRow) (db : Database E) :
    Except SqlError (Database E × Bool) := do
  acceptsAll E [evidence.acceptanceDomain, evidence.accountId, evidence.assetId,
    evidence.originRegion, evidence.keyId]
  require (fitsInt8 evidence.closedSettlementEpoch ∧ fitsInt8 evidence.closedUploadFence)
    .outOfRange
  require (canonicalEvidence E hash evidence ∧ validKeys db.offline evidence.acceptanceDomain
    evidence.keyId evidence.closedSettlementEpoch = 1) .closureGuard
  require (0 < evidence.closedSettlementEpoch ∧ 0 ≤ evidence.closedUploadFence) (.violates .check)
  match db.offline.closureEvidence.lookup hash with
  | some stored =>
    require (stored = evidence) .closureEvidenceConflict
    return (db, false)
  | none =>
    require (db.offline.closureEvidence.rows.all (fun e =>
      { e.2 with canonicalPayload := evidence.canonicalPayload, signature := evidence.signature } ≠
        evidence) = true) (.violates .unique)
    require ((db.offline.acceptanceDomains.lookup evidence.acceptanceDomain).isSome ∧
      (db.offline.deviceCounters.lookup evidence.device).isSome) (.violates .foreignKey)
    return ({ db with
      offline.closureEvidence := db.offline.closureEvidence.insert hash evidence }, true)

def recordOfflineDomainClosure (allowanceId : Bytes) (hash : Digest) (evidence : EvidenceRow)
    (db : Database E) : Except SqlError (Database E × Bool) := do
  let row ← expect (db.offline.allowances.lookup allowanceId) .closureDoesNotCover
  require (row.device = evidence.device ∧ evidence.coversAllowance row) .closureDoesNotCover
  require ((db.offline.acceptanceDomains.lookup evidence.acceptanceDomain).any
    (fun domain => domain.covers row.issuerEpoch) = true ∧
    validKeys db.offline evidence.acceptanceDomain evidence.keyId
      evidence.closedSettlementEpoch = 1) .closureKeyInvalid
  require (canonicalEvidence E hash evidence) .closureMismatch
  let (db, inserted) ← insertEvidence hash evidence db
  match db.offline.closureLinks.lookup (allowanceId, evidence.acceptanceDomain) with
  | some stored =>
    require (stored = hash) .closureLinkConflict
    return (db, inserted)
  | none =>
    -- UNIQUE (allowance_id, evidence_hash)
    require (db.offline.closureLinks.rows.all (fun e =>
      ¬ (e.1.1 = allowanceId ∧ e.2 = hash)) = true) (.violates .unique)
    return ({ db with offline.closureLinks :=
      db.offline.closureLinks.insert (allowanceId, evidence.acceptanceDomain) hash }, inserted)

def linksOf (st : Tables) (allowanceId : Bytes) : List (Bytes × Digest) :=
  (st.closureLinks.rows.filter fun e => e.1.1 = allowanceId).map fun e => (e.1.2, e.2)

/-- The rows that one link joins to: none unless its evidence closes the allowance's
namespace in a domain that covers its epoch. -/
def linkedActivations (st : Tables) (row : AllowanceRow) (link : Bytes × Digest) : Nat :=
  match st.closureEvidence.lookup link.2, st.acceptanceDomains.lookup link.1 with
  | some evidence, some domain =>
    if evidence.acceptanceDomain = link.1 ∧ domain.covers row.issuerEpoch = true ∧
        evidence.device = row.device ∧ evidence.coversAllowance row then
      validKeys st evidence.acceptanceDomain evidence.keyId evidence.closedSettlementEpoch
    else 0
  | _, _ => 0

/-- required_domains, all_links and valid_links are one positive number. -/
def closureComplete (st : Tables) (allowanceId : Bytes) (row : AllowanceRow) : Prop :=
  (requiredDomains st row.issuerEpoch).length ≠ 0 ∧
    (linksOf st allowanceId).length = (requiredDomains st row.issuerEpoch).length ∧
    ((linksOf st allowanceId).map (linkedActivations st row)).sum =
      (requiredDomains st row.issuerEpoch).length
  deriving Decidable

def orderByDomain (links : List (Bytes × Digest)) : List (Bytes × Digest) :=
  links.insertionSort fun a b => a.1 ≤ b.1

/-- string_agg of the hexadecimal links, decoded once; NULL without links. -/
def canonicalLinkBytes (links : List (Bytes × Digest)) : Option Bytes :=
  if links = [] then none
  else do
    let frames ← (orderByDomain links).mapM fun link =>
      (ledgerHashLengthPrefixed link.1).map fun domain => domain ++ link.2.val
    decodeHex (frames.flatMap encodeHex)

def closureSetInput (st : Tables) (allowanceId : Bytes) (row : AllowanceRow) : Option Bytes :=
  joined [
    hexBytes "7061796d656e742d706c6174666f726d2f6f66666c696e652d636c6f737572652d7365742f763100",
    ledgerHashUint32 (requiredDomains st row.issuerEpoch).length,
    canonicalLinkBytes (linksOf st allowanceId)]

def closureSetHash (E : Engine) (st : Tables) (allowanceId : Bytes) (row : AllowanceRow) :
    Option Digest :=
  (closureSetInput st allowanceId row).map E.sha256

structure Termination where
  allowanceId : Bytes
  terminalKind : TerminalKind
  payloadHash : Digest
  issuerEpoch : Int
  deviceCounter : Int
  policyEvidenceHash : Digest
  closureSetHash : Digest
  deriving DecidableEq

def Termination.proofInput (t : Termination) (fence : Int) : Option Bytes :=
  joined [
    hexBytes "7061796d656e742d706c6174666f726d2f6f66666c696e652d6e6f6e2d726564656d7074696f6e2d70726f6f662f763100",
    ledgerHashLengthPrefixed t.allowanceId,
    some t.payloadHash.val,
    ledgerHashInt64 t.issuerEpoch,
    ledgerHashInt64 t.deviceCounter,
    ledgerHashLengthPrefixed t.terminalKind.text,
    ledgerHashInt64 fence,
    some t.policyEvidenceHash.val,
    some t.closureSetHash.val]

def Termination.proofHash (E : Engine) (t : Termination) (fence : Int) : Option Digest :=
  (t.proofInput fence).map E.sha256

def Termination.proofRow (t : Termination) (fence : Int) (proofHash : Digest) : ProofRow :=
  { terminalKind := t.terminalKind
    payloadHash := t.payloadHash
    issuerEpoch := t.issuerEpoch
    deviceCounter := t.deviceCounter
    fenceVersion := fence
    policyEvidenceHash := t.policyEvidenceHash
    closureSetHash := t.closureSetHash
    proofHash := proofHash }

/-- INSERT INTO offline_non_redemption_proofs, guarded by
enforce_offline_complete_domain_closure. -/
def insertProof (t : Termination) (fence : Int) (proofHash : Digest) (db : Database E) :
    Except SqlError (Database E) := do
  acceptsAll E [t.allowanceId]
  let row ← expect (db.offline.allowances.lookup t.allowanceId) .proofUnbound
  require (row.issuerEpoch = t.issuerEpoch ∧ row.deviceCounter = t.deviceCounter ∧
    row.state = t.terminalKind.state) .proofUnbound
  require (closureComplete db.offline t.allowanceId row) .closureUnsigned
  require (closureSetHash E db.offline t.allowanceId row = some t.closureSetHash ∧
    t.proofHash E fence = some proofHash ∧
    db.offline.redemptionReceipts.lookup t.allowanceId = none) .proofHashMismatch
  require (0 < t.issuerEpoch ∧ 0 < t.deviceCounter ∧ 0 < fence) (.violates .check)
  require (db.offline.nonRedemptionProofs.lookup t.allowanceId = none) (.violates .primaryKey)
  return { db with
    offline.nonRedemptionProofs := db.offline.nonRedemptionProofs.insert t.allowanceId
      (t.proofRow fence proofHash) }

def replayedProof (E : Engine) (t : Termination) (stored : ProofRow) : Prop :=
  stored.terminalKind = t.terminalKind ∧ stored.payloadHash = t.payloadHash ∧
    stored.policyEvidenceHash = t.policyEvidenceHash ∧
    stored.closureSetHash = t.closureSetHash ∧
    t.proofHash E stored.fenceVersion = some stored.proofHash
  deriving Decidable

def terminateOfflineAllowance (t : Termination) (db : Database E) :
    Except SqlError (Database E × Int) := do
  require (0 < t.issuerEpoch ∧ 0 < t.deviceCounter) .invalidTermination
  let row ← expect (db.offline.allowances.lookup t.allowanceId) .terminationMismatch
  require (row.payloadHash = t.payloadHash ∧ row.issuerEpoch = t.issuerEpoch ∧
    row.deviceCounter = t.deviceCounter) .terminationMismatch
  match db.offline.nonRedemptionProofs.lookup t.allowanceId with
  | some stored =>
    require (replayedProof E t stored) .proofConflict
    return (db, stored.fenceVersion)
  | none =>
    require (row.state ≠ .redeemed) .alreadyRedeemed
    require (row.state = .issued) .allowanceNotIssued
    require (closureComplete db.offline t.allowanceId row) .closureIncomplete
    require (closureSetHash E db.offline t.allowanceId row = some t.closureSetHash)
      .closureSetMismatch
    require (db.offline.redemptionReceipts.lookup t.allowanceId = none) .alreadyRedeemed
    -- the foreign key of the allowance keeps its device row
    let device ← expect (db.offline.deviceCounters.lookup row.device) .fenceConflict
    require (t.issuerEpoch ≤ device.issuerEpoch ∧ t.deviceCounter ≤ device.lastCounter ∧
      device.fenceVersion ≠ maxInt8) .fenceConflict
    let fence := device.fenceVersion + 1
    let db ← updateDevice row.device device { device with fenceVersion := fence } db
    let db ← lowerIssued row.rights row.amount db
    let db ← onEscrow (Escrow.raiseRights row.accountId row.assetId row.originRegion row.amount)
      .regionalMissing db
    let db ← updateAllowance t.allowanceId row { row with state := t.terminalKind.state } db
    let proofHash ← expect (t.proofHash E fence) .outOfRange
    let db ← insertProof t fence proofHash db
    return (db, fence)

end PaymentPlatform.Offline
