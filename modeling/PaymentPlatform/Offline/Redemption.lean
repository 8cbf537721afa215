import PaymentPlatform.Offline.Steps
import PaymentPlatform.Ledger.Journal

/-! internal/offline: verified presentations and RedeemAndPost, which posts the ledger
effect and redeems the allowance in one transaction. The signatures were checked
outside it; here a verified value is one whose canonical bytes and hashes agree. -/

namespace PaymentPlatform.Offline

open Framing Ledger Serial

variable {E : Engine}

structure Allowance where
  version : UInt16
  allowanceId : Bytes
  accountId : Bytes
  assetId : Bytes
  originRegion : Bytes
  deviceIdentityHash : Digest
  counter : UInt64
  amount : Int
  issuerEpoch : UInt64
  keyId : Bytes
  signature : Bytes
  deriving DecidableEq

structure Presentation where
  version : UInt16
  allowance : Allowance
  allowancePayloadHash : Digest
  merchantAccountId : Bytes
  acceptanceDomain : Bytes
  merchantChallenge : Digest
  settlementEpoch : UInt64
  uploadFence : UInt64
  presentationCounter : UInt64
  deviceKeyId : Bytes
  signature : Bytes
  deriving DecidableEq

structure VerifiedAllowance where
  allowance : Allowance
  payload : Bytes
  payloadHash : Digest
  deriving DecidableEq

structure VerifiedPresentation where
  presentation : Presentation
  allowance : VerifiedAllowance
  payload : Bytes
  payloadHash : Digest
  presentationHash : Digest
  challengeHash : Digest
  deriving DecidableEq

structure RedemptionEffect where
  effectId : Bytes
  ledgerTransactionId : Bytes
  postingRequestHash : Digest
  deriving DecidableEq

structure Redemption where
  allowanceId : Bytes
  effectHash : Digest
  duplicate : Bool
  deriving DecidableEq

inductive Failure where
  | invalidArgument
  | invalidPresentation
  | allowanceNotFound
  | allowanceConflict
  | notIssued
  | redemptionConflict
  | postingMismatch (detail : Bytes)
  | allowanceTerminal
  | conservationViolation
  | ledger (error : Ledger.Failure)
  | procedure (error : SqlError)
  deriving DecidableEq

def allowanceVersion : UInt16 := 1

def presentationVersion : UInt16 := 1

def validText (value : Bytes) : Prop := value ≠ [] ∧ value.length ≤ 1024
  deriving Decidable

def validCounter (value : UInt64) : Prop := value ≠ 0 ∧ value.toNat < 2 ^ 63
  deriving Decidable

def Allowance.Valid (a : Allowance) : Prop :=
  a.version = allowanceVersion ∧ validText a.allowanceId ∧ validText a.accountId ∧
    validText a.assetId ∧ validText a.originRegion ∧ a.deviceIdentityHash ≠ zeroDigest ∧
    validCounter a.counter ∧ 0 < a.amount ∧ validCounter a.issuerEpoch ∧ validText a.keyId
  deriving Decidable

def appendUint64 (value : UInt64) : Bytes := bigEndian 8 value.toNat

def Allowance.canonicalPayload (a : Allowance) : Option Bytes :=
  if a.Valid then
    some (ascii "payment-platform/offline-allowance/v1" ++ [0] ++ bigEndian 2 a.version.toNat ++
      prefixed a.accountId ++ prefixed a.assetId ++ prefixed a.originRegion ++
      a.deviceIdentityHash.val ++ appendUint64 a.counter ++ prefixed (decimal a.amount) ++
      appendUint64 a.issuerEpoch ++ prefixed a.allowanceId ++ prefixed a.keyId)
  else none

def Presentation.Valid (p : Presentation) : Prop :=
  p.version = presentationVersion ∧ p.allowance.Valid ∧ p.allowancePayloadHash ≠ zeroDigest ∧
    validText p.merchantAccountId ∧ validText p.acceptanceDomain ∧
    p.merchantChallenge ≠ zeroDigest ∧ validCounter p.settlementEpoch ∧
    validCounter p.uploadFence ∧ validCounter p.presentationCounter ∧ validText p.deviceKeyId
  deriving Decidable

def Presentation.canonicalPayload (E : Engine) (p : Presentation) : Option Bytes :=
  if p.Valid ∧ p.allowance.canonicalPayload.map E.sha256 = some p.allowancePayloadHash ∧
      p.settlementEpoch = p.allowance.issuerEpoch ∧ p.uploadFence = p.allowance.counter then
    some (ascii "payment-platform/offline-presentation/v1" ++ [0] ++
      bigEndian 2 p.version.toNat ++ p.allowancePayloadHash.val ++ prefixed p.merchantAccountId ++
      prefixed p.acceptanceDomain ++ p.merchantChallenge.val ++ appendUint64 p.settlementEpoch ++
      appendUint64 p.uploadFence ++ appendUint64 p.presentationCounter ++ prefixed p.deviceKeyId)
  else none

def envelopeHash (E : Engine) (payload signature : Bytes) : Digest :=
  E.sha256 (ascii "payment-platform/offline-presentation-envelope/v1" ++ [0] ++
    prefixed payload ++ prefixed signature)

def RedemptionEffect.hash (E : Engine) (e : RedemptionEffect) : Except Failure Digest := do
  require (validText e.effectId ∧ validText e.ledgerTransactionId ∧
    e.postingRequestHash ≠ zeroDigest) .invalidArgument
  return E.sha256 (ascii "payment-platform/offline-redemption-effect/v1" ++ [0] ++
    prefixed e.effectId ++ prefixed e.ledgerTransactionId ++ e.postingRequestHash.val)

def VerifiedAllowance.Valid (E : Engine) (v : VerifiedAllowance) : Prop :=
  v.payload ≠ [] ∧ v.allowance.signature ≠ [] ∧ v.payloadHash ≠ zeroDigest ∧
    v.allowance.canonicalPayload = some v.payload ∧ E.sha256 v.payload = v.payloadHash
  deriving Decidable

def VerifiedPresentation.Valid (E : Engine) (v : VerifiedPresentation) : Prop :=
  v.allowance.Valid E ∧ v.payload ≠ [] ∧ v.presentation.signature ≠ [] ∧
    v.payloadHash ≠ zeroDigest ∧ v.presentationHash ≠ zeroDigest ∧ v.challengeHash ≠ zeroDigest ∧
    v.presentation.allowancePayloadHash = v.allowance.payloadHash ∧
    v.presentation.allowance = v.allowance.allowance ∧
    v.presentation.canonicalPayload E = some v.payload ∧ E.sha256 v.payload = v.payloadHash ∧
    envelopeHash E v.payload v.presentation.signature = v.presentationHash ∧
    E.sha256 v.presentation.merchantChallenge.val = v.challengeHash
  deriving Decidable

structure PostingSums where
  debited : Int
  credited : Int
  sourceCredits : Int
  merchantDebits : Int
  deriving DecidableEq

def addMatching (matching : Bool) (sum amount : Int) (overflow : String) : Except Failure Int :=
  if matching then do
    require (fitsDecimal38 (sum + amount)) (.postingMismatch (ascii overflow))
    return sum + amount
  else return sum

def addPostingLine (a : Allowance) (merchantAccountId : Bytes) (sums : PostingSums) (line : Line) :
    Except Failure PostingSums := do
  let on (accountId : Bytes) (side : Side) : Bool :=
    line.assetId = a.assetId && line.accountId = accountId && line.side = side.text
  let debited ← addMatching (on a.accountId .debit) sums.debited line.amountAtoms
    "source debit overflow"
  let sourceCredits ← addMatching (on a.accountId .credit) sums.sourceCredits line.amountAtoms
    "source credit overflow"
  let credited ← addMatching (on merchantAccountId .credit) sums.credited line.amountAtoms
    "merchant credit overflow"
  let merchantDebits ← addMatching (on merchantAccountId .debit) sums.merchantDebits
    line.amountAtoms "merchant debit overflow"
  return ⟨debited, credited, sourceCredits, merchantDebits⟩

def mismatchDetail (a : Allowance) (merchantAccountId : Bytes) (sums : PostingSums) : Bytes :=
  ascii "source_debit=" ++ decimal sums.debited ++ ascii " source_credit=" ++
    decimal sums.sourceCredits ++ ascii " merchant_credit=" ++ decimal sums.credited ++
    ascii " merchant_debit=" ++ decimal sums.merchantDebits ++ ascii " allowance=" ++
    decimal a.amount ++ ascii " merchant=" ++ merchantAccountId

def validatePostingForPresentation (v : VerifiedPresentation) (posting : PostRequest) :
    Except Failure Unit := do
  let a := v.presentation.allowance
  let merchant := v.presentation.merchantAccountId
  let sums ← posting.lines.foldlM (addPostingLine a merchant) ⟨0, 0, 0, 0⟩
  require (sums.debited = a.amount ∧ sums.credited = a.amount ∧ sums.sourceCredits = 0 ∧
    sums.merchantDebits = 0) (.postingMismatch (mismatchDetail a merchant sums))

/-- The Allowance that loadAllowance reads from a row; the canonical amount text of a
DECIMAL(38,0) column parses back to the amount. -/
def loadedAllowance (allowanceId : Bytes) (row : AllowanceRow) : Allowance :=
  { version := allowanceVersion
    allowanceId := allowanceId
    accountId := row.accountId
    assetId := row.assetId
    originRegion := row.originRegion
    deviceIdentityHash := row.deviceIdentityHash
    counter := .ofNat row.deviceCounter.toNat
    amount := row.amount
    issuerEpoch := .ofNat row.issuerEpoch.toNat
    keyId := row.keyId
    signature := row.signature.getD [] }

def loadAllowance (allowanceId : Bytes) (db : Database E) :
    Except Failure (Option (Allowance × AllowanceState)) :=
  match db.offline.allowances.lookup allowanceId with
  | none => .ok none
  | some row => do
    require (0 < row.deviceCounter ∧ 0 < row.issuerEpoch) .conservationViolation
    let a := loadedAllowance allowanceId row
    require (a.canonicalPayload = some row.canonicalPayload ∧
      E.sha256 row.canonicalPayload = row.payloadHash) .conservationViolation
    return some (a, row.state)

/-- The arguments of redeem_offline_presentation after the allowance id. ValidatePayload
keeps the three counters below 2^63, so the conversions to int64 are exact. -/
def VerifiedPresentation.redemptionRow (v : VerifiedPresentation) (effectHash : Digest)
    (effect : RedemptionEffect) : RedemptionRow :=
  { payloadHash := v.allowance.payloadHash
    effectHash := effectHash
    effectId := effect.effectId
    ledgerTransactionId := effect.ledgerTransactionId
    postingRequestHash := effect.postingRequestHash
    presentationPayloadHash := v.payloadHash
    presentationHash := v.presentationHash
    merchantAccountId := v.presentation.merchantAccountId
    acceptanceDomain := v.presentation.acceptanceDomain
    challengeHash := v.challengeHash
    merchantChallenge := v.presentation.merchantChallenge
    settlementEpoch := v.presentation.settlementEpoch.toNat
    uploadFence := v.presentation.uploadFence.toNat
    presentationCounter := v.presentation.presentationCounter.toNat
    deviceIdentityHash := v.presentation.allowance.deviceIdentityHash
    deviceKeyId := v.presentation.deviceKeyId
    presentationPayload := v.payload
    presentationSignature := v.presentation.signature }

/-- loadRedemptionReceipt rejects a row it could not have written. -/
def RedemptionRow.Loadable (r : RedemptionRow) : Prop :=
  0 < r.settlementEpoch ∧ 0 < r.uploadFence ∧ 0 < r.presentationCounter ∧
    validText r.merchantAccountId ∧ validText r.acceptanceDomain ∧ validText r.deviceKeyId
  deriving Decidable

/-- sameRedemption compares every column but the presentation's bytes. -/
def sameRedemption (stored expected : RedemptionRow) : Prop :=
  { stored with
    presentationPayload := expected.presentationPayload
    presentationSignature := expected.presentationSignature } = expected
  deriving Decidable

/-- Code 23505 is a conflict, every other error of the procedure is passed on. -/
def mapRedeemError : SqlError → Failure
  | .violates .primaryKey => .redemptionConflict
  | .violates .unique => .redemptionConflict
  | error => .procedure error

def redeemPresentationInTx (v : VerifiedPresentation) (effect : RedemptionEffect)
    (db : Database E) : Except Failure (Database E × Redemption) := do
  require (v.Valid E) .invalidPresentation
  let effectHash ← effect.hash E
  let id := v.presentation.allowance.allowanceId
  let row := v.redemptionRow effectHash effect
  let loaded ← loadAllowance id db
  let (stored, state) ← expect loaded .allowanceNotFound
  require (v.allowance.Valid E ∧
    stored.canonicalPayload.map E.sha256 = some v.allowance.payloadHash) .allowanceConflict
  match db.offline.redemptionReceipts.lookup id with
  | some receipt =>
    require receipt.Loadable .conservationViolation
    require (sameRedemption receipt row) .redemptionConflict
    return (db, ⟨id, effectHash, true⟩)
  | none =>
    require (state ≠ .redeemed) .conservationViolation
    require (state ≠ .revoked ∧ state ≠ .expired) .allowanceTerminal
    require (state = .issued) .notIssued
    let (db, changed) ← (redeemOfflinePresentation id row db).mapError mapRedeemError
    return (db, ⟨id, effectHash, !changed⟩)

def redeemAndPost (v : VerifiedPresentation) (posting : PostRequest) (db : Database E) :
    Except Failure (Database E × (Redemption × Receipt)) := do
  posting.validate.mapError Failure.ledger
  require (v.Valid E) .invalidPresentation
  validatePostingForPresentation v posting
  let effect : RedemptionEffect :=
    ⟨posting.effectId, posting.transactionId, posting.requestHash⟩
  let (ledger, receipt) ← (postInTx posting false db.ledger).mapError Failure.ledger
  let (db, redemption) ← redeemPresentationInTx v effect { db with ledger := ledger }
  return (db, redemption, receipt)

theorem redeemPresentationInTx_ok {v : VerifiedPresentation} {effect : RedemptionEffect}
    {db db' : Database E} {answer : Redemption}
    (done : redeemPresentationInTx v effect db = .ok (db', answer)) :
    db' = db ∨ ∃ effectHash changed, redeemOfflinePresentation v.presentation.allowance.allowanceId
      (v.redemptionRow effectHash effect) db = .ok (db', changed) := by
  simp only [redeemPresentationInTx, bind_ok] at done
  obtain ⟨_, _, effectHash, _, _, _, _, _, _, _, done⟩ := done
  split at done
  · simp only [steps_ok] at done
    obtain ⟨_, _, _, _, rfl, _⟩ := done
    exact .inl rfl
  · simp only [steps_ok, Prod.exists] at done
    obtain ⟨_, _, _, _, _, _, _, changed, redeemed, rfl, _⟩ := done
    exact .inr ⟨effectHash, changed, redeemed⟩

theorem redeemAndPost_ok {v : VerifiedPresentation} {posting : PostRequest} {db db' : Database E}
    {answer : Redemption × Receipt} (done : redeemAndPost v posting db = .ok (db', answer)) :
    v.Valid E ∧ validatePostingForPresentation v posting = .ok () ∧ ∃ ledger receipt redemption,
      postInTx posting false db.ledger = .ok (ledger, receipt) ∧
      redeemPresentationInTx v ⟨posting.effectId, posting.transactionId, posting.requestHash⟩
        { db with ledger := ledger } = .ok (db', redemption) := by
  simp only [redeemAndPost, steps_ok, Prod.exists] at done
  obtain ⟨_, _, _, valid, _, fits, ledger, receipt, posted, _, redemption, redeemed, rfl, _⟩ := done
  exact ⟨valid, fits, ledger, receipt, redemption, posted, redeemed⟩

end PaymentPlatform.Offline
