import PaymentPlatform.Escrow.Effects
import PaymentPlatform.Escrow.Certificate

/-! The transactions of InitiateTransfer, ConsumeCertificate and AcknowledgeTransfer
(internal/escrow/service.go) with the guards of migration 013. Signing happens
between two transactions, so the transaction that attaches a signature is its own. -/

namespace PaymentPlatform.Escrow

open Framing Ledger Serial

variable {E : Engine}

structure Consumption where
  transferId : Bytes
  duplicate : Bool
  receipt : ConsumptionReceipt
  deriving DecidableEq

def uint64 (value : Int) : UInt64 := UInt64.ofNat (value % 2 ^ 64).toNat

/-- A uint64 parameter of an INT8 column; pgx refuses a greater one. -/
def int8 (value : UInt64) : Except SqlError Int := do
  require ((value.toNat : Int) ≤ maxInt8) .outOfRange
  return value.toNat

def TransferRequest.Valid (r : TransferRequest) : Prop :=
  r.transferId ≠ [] ∧ r.accountId ≠ [] ∧ r.assetId ≠ [] ∧ r.sourceRegion ≠ [] ∧
    r.destinationRegion ≠ [] ∧ r.sourceRegion ≠ r.destinationRegion ∧
    r.sourceLegalEntityId ≠ [] ∧ r.destinationLegalEntityId ≠ [] ∧ 0 < r.amount
  deriving Decidable

def certificateOf (transferId : Bytes) (row : TransferRow) : Certificate :=
  { version := certificateVersion
    transferId := transferId
    accountId := row.accountId
    assetId := row.assetId
    sourceRegion := row.sourceRegion
    destinationRegion := row.destinationRegion
    sourceLegalEntityId := row.sourceLegalEntityId
    destinationLegalEntityId := row.destinationLegalEntityId
    amount := row.amount
    sourceEpoch := uint64 row.sourceEpoch
    keyId := row.keyId
    keyEpoch := uint64 row.sourceKeyEpoch
    signature := row.certificateSig.getD [] }

theorem certificateOf_columns {transferId : Bytes} {row : TransferRow} {c : Certificate}
    (same : (certificateOf transferId row).unsigned = c.unsigned) :
    row.accountId = c.accountId ∧ row.assetId = c.assetId ∧ row.amount = c.amount :=
  ⟨congrArg Certificate.accountId same, congrArg Certificate.assetId same,
    congrArg Certificate.amount same⟩

/-- The stored payload must be the one its columns give. -/
def loadTransferRecord (transferId : Bytes) (st : Tables) : Except Failure (Option TransferRow) :=
  match st.transfers.lookup transferId with
  | none => .ok none
  | some row => do
    let actual ← (certificateOf transferId row).payload.mapError fun _ => .transferCorrupt
    require (row.certificatePayload = actual) .transferCorrupt
    return some row

def sameTransfer (c : Certificate) (r : TransferRequest) : Prop :=
  c.transferId = r.transferId ∧ c.accountId = r.accountId ∧ c.assetId = r.assetId ∧
    c.sourceRegion = r.sourceRegion ∧ c.destinationRegion = r.destinationRegion ∧
    c.sourceLegalEntityId = r.sourceLegalEntityId ∧
    c.destinationLegalEntityId = r.destinationLegalEntityId ∧ c.amount = r.amount
  deriving Decidable

/-- enforce_escrow_transfer_transition_v2: attach a signature, or settle a signed
transfer with its receipt; nothing else of the row may change. -/
def transferTransition (old new : TransferRow) : Prop :=
  { new with certificateSig := old.certificateSig, status := old.status, receipt := old.receipt } =
      old ∧
    ((old.certificateSig = none ∧ new.certificateSig ≠ none ∧ old.status = new.status ∧
        old.receipt = new.receipt) ∨
      (old.certificateSig ≠ none ∧ old.certificateSig = new.certificateSig ∧
        old.status = .inTransit ∧ new.status = .acknowledged ∧ old.receipt = none ∧
        new.receipt ≠ none))
  deriving Decidable

def updateTransfer (transferId : Bytes) (old new : TransferRow) (st : Tables) :
    Except SqlError Tables := do
  require (transferTransition old new) .invalidTransferTransition
  return { st with transfers := st.transfers.insert transferId new }

def insertTransfer (E : Engine) (draft : Certificate) (payload : Bytes) (st : Tables) :
    Except SqlError Tables := do
  acceptsAll E [draft.transferId, draft.accountId, draft.assetId, draft.sourceRegion,
    draft.destinationRegion, draft.sourceLegalEntityId, draft.destinationLegalEntityId,
    draft.keyId]
  require (fitsDecimal38 draft.amount) .outOfRange
  let sourceEpoch ← int8 draft.sourceEpoch
  let sourceKeyEpoch ← int8 draft.keyEpoch
  require (0 < draft.amount ∧ draft.sourceRegion ≠ draft.destinationRegion) (.violates .check)
  require (st.transfers.lookup draft.transferId = none) (.violates .primaryKey)
  require (st.transfers.rows.all (fun e => ¬ (e.2.accountId = draft.accountId ∧
    e.2.assetId = draft.assetId ∧ e.2.sourceRegion = draft.sourceRegion ∧
    e.2.sourceEpoch = sourceEpoch)) = true) (.violates .unique)
  return { st with
    transfers := st.transfers.insert draft.transferId
      { accountId := draft.accountId
        assetId := draft.assetId
        sourceRegion := draft.sourceRegion
        destinationRegion := draft.destinationRegion
        sourceLegalEntityId := draft.sourceLegalEntityId
        destinationLegalEntityId := draft.destinationLegalEntityId
        amount := draft.amount
        sourceEpoch := sourceEpoch
        keyId := draft.keyId
        sourceKeyEpoch := sourceKeyEpoch
        certificatePayload := payload
        certificateSig := none
        status := .inTransit
        receipt := none } }

def draftCertificate (binding : KeyBinding) (r : TransferRequest) (epoch : Int) : Certificate :=
  { version := certificateVersion
    transferId := r.transferId
    accountId := r.accountId
    assetId := r.assetId
    sourceRegion := r.sourceRegion
    destinationRegion := r.destinationRegion
    sourceLegalEntityId := r.sourceLegalEntityId
    destinationLegalEntityId := r.destinationLegalEntityId
    amount := r.amount
    sourceEpoch := uint64 epoch
    keyId := binding.keyId
    keyEpoch := binding.epoch
    signature := [] }

/-- The first transaction of InitiateTransfer; its result may still be unsigned. -/
def initiateTransfer (E : Engine) (binding : KeyBinding) (r : TransferRequest) (st : Tables) :
    Except Failure (Tables × Certificate) := do
  require r.Valid .invalidArgument
  require (binding.ValidFor .transferCertificate ∧ binding.region = r.sourceRegion ∧
    binding.legalEntityId = r.sourceLegalEntityId) .certificateInvalid
  let record ← loadTransferRecord r.transferId st
  match record with
  | some row =>
    require (sameTransfer (certificateOf r.transferId row) r) .certificateConflict
    return (st, certificateOf r.transferId row)
  | none =>
    let rights ← expect (st.regionalRights.lookup (r.accountId, r.assetId, r.sourceRegion))
      .insufficientRights
    require (r.amount ≤ rights.available ∧ rights.version ≠ maxInt8) .insufficientRights
    let draft := draftCertificate binding r (rights.version + 1)
    let payload ← draft.payload
    -- the new version is the epoch
    let updated ← executed (updateRights (r.accountId, r.assetId, r.sourceRegion)
      (fun row => row.version = rights.version && r.amount ≤ row.available)
      (fun row => { row with available := row.available - r.amount }) st)
    let st ← expect updated .insufficientRights
    let st ← executed (insertTransfer E draft payload st)
    return (st, draft)

/-- The second transaction of InitiateTransfer, for a certificate that verified. -/
def attachCertificateSignature (v : Verifier) (signed : Certificate) (st : Tables) :
    Except Failure (Tables × Certificate) := do
  verifyCertificate v signed
  let payload ← signed.payload
  let record ← loadTransferRecord signed.transferId st
  let row ← expect record .certificateConflict
  let storedPayload ← (certificateOf signed.transferId row).payload.mapError
    fun _ => .certificateConflict
  require (storedPayload = payload) .certificateConflict
  if (row.certificateSig.getD []).length = 0 then do
    require (row.certificateSig = none) .certificateConflict
    let new := { row with certificateSig := some signed.signature }
    let st ← executed (updateTransfer signed.transferId row new st)
    return (st, certificateOf signed.transferId new)
  else return (st, certificateOf signed.transferId row)

def storedReceipt (E : Engine) (receipt : ConsumptionReceipt) (payload : Bytes) :
    Except SqlError StoredReceipt := do
  let destinationWatermark ← int8 receipt.destinationCommitWatermark
  let keyEpoch ← int8 receipt.keyEpoch
  acceptsAll E [receipt.keyId]
  return { payload := payload
           signature := receipt.signature
           hash := E.sha256 payload
           destinationWatermark := destinationWatermark
           keyId := receipt.keyId
           keyEpoch := keyEpoch }

def acknowledgeTransfer (E : Engine) (v : Verifier) (c : Certificate)
    (receipt : ConsumptionReceipt) (st : Tables) : Except Failure (Tables × Unit) := do
  require (receipt.transferId ≠ []) .consumptionProofMissing
  verifyCertificate v c
  verifyConsumptionReceipt E v receipt c
  let certificatePayload ← c.payload
  let receiptPayload ← receipt.payload
  let record ← loadTransferRecord c.transferId st
  let row ← expect record .consumptionProofMissing
  let storedPayload ← (certificateOf c.transferId row).payload.mapError
    fun _ => .certificateConflict
  require (storedPayload = certificatePayload ∧ row.certificateSig.getD [] = c.signature)
    .certificateConflict
  match row.status with
  | .acknowledged =>
    require (row.receipt.any (fun stored => stored.payload = receiptPayload &&
      stored.signature = receipt.signature && stored.hash = E.sha256 receiptPayload) = true)
      .certificateConflict
    return (st, ())
  | .inTransit =>
    require ((row.certificateSig.getD []).length ≠ 0) .consumptionProofMissing
    let updated ← executed (lowerTotal c.accountId c.assetId c.amount st)
    let st ← expect updated .insufficientRights
    let stored ← executed (storedReceipt E receipt receiptPayload)
    let st ← executed (updateTransfer c.transferId row
      { row with status := .acknowledged, receipt := some stored } st)
    return (st, ())

def receiptOf (transferId : Bytes) (row : ConsumedRow) : ConsumptionReceipt :=
  { version := consumptionReceiptVersion
    transferId := transferId
    certificateHash := row.payloadHash
    accountId := row.accountId
    assetId := row.assetId
    amount := row.amount
    sourceRegion := row.sourceRegion
    sourceLegalEntityId := row.sourceLegalEntityId
    sourceEpoch := uint64 row.sourceEpoch
    sourceKeyEpoch := uint64 row.sourceKeyEpoch
    destinationRegion := row.destinationRegion
    destinationLegalEntityId := row.destinationLegalEntityId
    destinationCommitWatermark := uint64 row.destinationWatermark
    keyId := row.destinationKeyId
    keyEpoch := uint64 row.destinationKeyEpoch
    signature := row.receiptSig.getD [] }

def loadConsumption (found : Option (Bytes × ConsumedRow)) :
    Except Failure (Option ConsumptionReceipt) :=
  match found with
  | none => .ok none
  | some (transferId, row) => do
    let actual ← (receiptOf transferId row).payload.mapError fun _ => .consumptionReceiptInvalid
    require (actual = row.receiptPayload) .consumptionReceiptInvalid
    return some (receiptOf transferId row)

def loadConsumptionByTransfer (transferId : Bytes) (st : Tables) :
    Except Failure (Option ConsumptionReceipt) :=
  loadConsumption ((st.consumedCertificates.lookup transferId).map fun row => (transferId, row))

def sameIssuance (row : ConsumedRow) (c : Certificate) : Prop :=
  row.sourceLegalEntityId = c.sourceLegalEntityId ∧ row.sourceRegion = c.sourceRegion ∧
    row.sourceKeyEpoch = c.keyEpoch.toNat ∧ row.accountId = c.accountId ∧
    row.assetId = c.assetId ∧ row.sourceEpoch = c.sourceEpoch.toNat
  deriving Decidable

def loadConsumptionByIssuance (c : Certificate) (st : Tables) :
    Except Failure (Option ConsumptionReceipt) :=
  loadConsumption (st.consumedCertificates.rows.find? fun e => sameIssuance e.2 c)

def issuanceOf (c : Certificate) : Except SqlError Issuance := do
  let sourceKeyEpoch ← int8 c.keyEpoch
  let sourceEpoch ← int8 c.sourceEpoch
  require (0 < sourceKeyEpoch ∧ 0 < sourceEpoch) (.violates .check)
  return ⟨c.sourceLegalEntityId, c.sourceRegion, sourceKeyEpoch, c.accountId, c.assetId,
    sourceEpoch⟩

/-- INSERT ... ON CONFLICT DO NOTHING of the two permanent lock rows. -/
def lockConsumptionIdentity (E : Engine) (c : Certificate) (st : Tables) :
    Except SqlError Tables := do
  acceptsAll E [c.transferId, c.sourceLegalEntityId, c.sourceRegion, c.accountId, c.assetId]
  let issuance ← issuanceOf c
  return { st with
    transferLocks := st.transferLocks.insert c.transferId ()
    issuanceLocks := st.issuanceLocks.insert issuance () }

def nextConsumptionWatermark (E : Engine) (binding : KeyBinding) (st : Tables) :
    Except Failure (Tables × UInt64) := do
  executed (acceptsAll E [binding.legalEntityId, binding.region])
  let next := (st.consumptionWatermarks.lookup (binding.legalEntityId, binding.region)).getD 0
  require (next < maxInt8) .consumptionReceiptInvalid
  return ({ st with
    consumptionWatermarks := st.consumptionWatermarks.insert (binding.legalEntityId, binding.region)
      (next + 1) }, uint64 (next + 1))

def draftReceipt (binding : KeyBinding) (c : Certificate) (certificateHash : Digest)
    (watermark : UInt64) : ConsumptionReceipt :=
  { version := consumptionReceiptVersion
    transferId := c.transferId
    certificateHash := certificateHash
    accountId := c.accountId
    assetId := c.assetId
    amount := c.amount
    sourceRegion := c.sourceRegion
    sourceLegalEntityId := c.sourceLegalEntityId
    sourceEpoch := c.sourceEpoch
    sourceKeyEpoch := c.keyEpoch
    destinationRegion := c.destinationRegion
    destinationLegalEntityId := c.destinationLegalEntityId
    destinationCommitWatermark := watermark
    keyId := binding.keyId
    keyEpoch := binding.epoch
    signature := [] }

def insertConsumed (E : Engine) (draft : ConsumptionReceipt) (payload : Bytes) (st : Tables) :
    Except SqlError Tables := do
  acceptsAll E [draft.transferId, draft.accountId, draft.assetId, draft.sourceRegion,
    draft.destinationRegion, draft.sourceLegalEntityId, draft.destinationLegalEntityId,
    draft.keyId]
  require (fitsDecimal38 draft.amount) .outOfRange
  let sourceKeyEpoch ← int8 draft.sourceKeyEpoch
  let sourceEpoch ← int8 draft.sourceEpoch
  let destinationKeyEpoch ← int8 draft.keyEpoch
  let destinationWatermark ← int8 draft.destinationCommitWatermark
  require (0 < draft.amount) (.violates .check)
  require (st.consumedCertificates.lookup draft.transferId = none) (.violates .primaryKey)
  require (st.consumedCertificates.rows.all (fun e => ¬ (
    e.2.sourceLegalEntityId = draft.sourceLegalEntityId ∧ e.2.sourceRegion = draft.sourceRegion ∧
    e.2.sourceKeyEpoch = sourceKeyEpoch ∧ e.2.accountId = draft.accountId ∧
    e.2.assetId = draft.assetId ∧ e.2.sourceEpoch = sourceEpoch)) = true) (.violates .unique)
  return { st with
    consumedCertificates := st.consumedCertificates.insert draft.transferId
      { accountId := draft.accountId
        assetId := draft.assetId
        sourceRegion := draft.sourceRegion
        destinationRegion := draft.destinationRegion
        amount := draft.amount
        payloadHash := draft.certificateHash
        sourceLegalEntityId := draft.sourceLegalEntityId
        sourceKeyEpoch := sourceKeyEpoch
        sourceEpoch := sourceEpoch
        destinationLegalEntityId := draft.destinationLegalEntityId
        destinationKeyId := draft.keyId
        destinationKeyEpoch := destinationKeyEpoch
        destinationWatermark := destinationWatermark
        receiptPayload := payload
        receiptSig := none } }

/-- INSERT INTO escrow_authorities ... ON CONFLICT DO UPDATE adds the amount to the total. -/
def upsertAuthority (E : Engine) (accountId assetId : Bytes) (amount : Int) (st : Tables) :
    Except SqlError Tables := do
  acceptsAll E [accountId, assetId]
  require (fitsDecimal38 amount) .outOfRange
  match st.authorities.lookup (accountId, assetId) with
  | none => writeAuthority (accountId, assetId) ⟨amount, 0, 0⟩ st
  | some row =>
    writeAuthority (accountId, assetId)
      { row with totalAuthority := row.totalAuthority + amount, version := row.version + 1 } st

/-- The first transaction of ConsumeCertificate; its receipt may still be unsigned. -/
def consumeCertificate (E : Engine) (v : Verifier) (binding : KeyBinding) (c : Certificate)
    (destinationRegion : Bytes) (st : Tables) : Except Failure (Tables × Consumption) := do
  require (destinationRegion ≠ [] ∧ c.destinationRegion = destinationRegion) .certificateInvalid
  verifyCertificate v c
  require (binding.ValidFor .consumptionReceipt ∧ binding.region = destinationRegion ∧
    binding.legalEntityId = c.destinationLegalEntityId) .consumptionReceiptInvalid
  let certificateHash ← c.payloadHash E
  let st ← executed (lockConsumptionIdentity E c st)
  let stored ← loadConsumptionByTransfer c.transferId st
  match stored with
  | some receipt =>
    require (receiptMatchesCertificate receipt c certificateHash) .certificateConflict
    return (st, ⟨c.transferId, true, receipt⟩)
  | none =>
    let reissued ← loadConsumptionByIssuance c st
    require (reissued = none) .certificateConflict
    let (st, watermark) ← nextConsumptionWatermark E binding st
    let draft := draftReceipt binding c certificateHash watermark
    let payload ← draft.payload
    let st ← executed (insertConsumed E draft payload st)
    let st ← executed (upsertAuthority E c.accountId c.assetId c.amount st)
    let st ← executed (upsertRights E c.accountId c.assetId c.destinationRegion c.amount st)
    return (st, ⟨c.transferId, false, draft⟩)

/-- The second transaction of ConsumeCertificate, for a receipt that verified. -/
def attachReceiptSignature (E : Engine) (v : Verifier) (c : Certificate)
    (signed : ConsumptionReceipt) (st : Tables) : Except Failure (Tables × ConsumptionReceipt) := do
  verifyConsumptionReceipt E v signed c
  let payload ← signed.payload
  let row ← expect (st.consumedCertificates.lookup c.transferId) .certificateConflict
  let stored ← loadConsumptionByTransfer c.transferId st
  let receipt ← expect stored .certificateConflict
  require (receiptMatchesCertificate receipt c signed.certificateHash) .certificateConflict
  let storedPayload ← receipt.payload
  require (storedPayload = payload) .consumptionReceiptInvalid
  if receipt.signature.length = 0 then do
    require (row.receiptSig = none) .consumptionReceiptInvalid
    return ({ st with
      consumedCertificates := st.consumedCertificates.insert c.transferId
        { row with receiptSig := some signed.signature } }, { receipt with
      signature := signed.signature })
  else return (st, receipt)

end PaymentPlatform.Escrow
