import PaymentPlatform.Escrow.Types

/-! Single-use offline allowances: the tables of migrations 009, 015 and 023 and
the errors their procedures raise. Timestamps are left out: they are audit
metadata. The columns migration 015 left nullable for older rows are always
written by the procedures. -/

namespace PaymentPlatform.Offline

open Framing Ledger Serial

inductive AllowanceState where
  | prepared
  | issued
  | redeemed
  | revoked
  | expired
  deriving DecidableEq, Repr

inductive TerminalKind where
  | revoked
  | expired
  deriving DecidableEq, Repr

def TerminalKind.text : TerminalKind → Bytes
  | .revoked => ascii "REVOKED"
  | .expired => ascii "EXPIRED"

def TerminalKind.state : TerminalKind → AllowanceState
  | .revoked => .revoked
  | .expired => .expired

inductive KeyTerminationReason where
  | retired
  | revoked
  deriving DecidableEq, Repr

/-- An issuance namespace: the key of offline_device_counters. -/
structure Device where
  accountId : Bytes
  assetId : Bytes
  originRegion : Bytes
  deviceIdentityHash : Digest
  deriving DecidableEq

structure DeviceRow where
  issuerEpoch : Int
  lastCounter : Int
  fenceVersion : Int
  deriving DecidableEq

structure IssuedRow where
  amount : Int
  version : Int
  deriving DecidableEq

structure AllowanceRow where
  accountId : Bytes
  assetId : Bytes
  originRegion : Bytes
  deviceIdentityHash : Digest
  deviceCounter : Int
  amount : Int
  issuerEpoch : Int
  keyId : Bytes
  canonicalPayload : Bytes
  payloadHash : Digest
  signature : Option Bytes
  state : AllowanceState
  deriving DecidableEq

def AllowanceRow.device (row : AllowanceRow) : Device :=
  ⟨row.accountId, row.assetId, row.originRegion, row.deviceIdentityHash⟩

/-- The arguments of redeem_offline_presentation after the allowance id, and with it
the columns of offline_redemption_receipts. -/
structure RedemptionRow where
  payloadHash : Digest
  effectHash : Digest
  effectId : Bytes
  ledgerTransactionId : Bytes
  postingRequestHash : Digest
  presentationPayloadHash : Digest
  presentationHash : Digest
  merchantAccountId : Bytes
  acceptanceDomain : Bytes
  challengeHash : Digest
  merchantChallenge : Digest
  settlementEpoch : Int
  uploadFence : Int
  presentationCounter : Int
  deviceIdentityHash : Digest
  deviceKeyId : Bytes
  presentationPayload : Bytes
  presentationSignature : Bytes
  deriving DecidableEq

structure ProofRow where
  terminalKind : TerminalKind
  payloadHash : Digest
  issuerEpoch : Int
  deviceCounter : Int
  fenceVersion : Int
  policyEvidenceHash : Digest
  closureSetHash : Digest
  proofHash : Digest
  deriving DecidableEq

structure DomainRow where
  closureKeyId : Bytes
  firstSettlementEpoch : Int
  lastSettlementEpoch : Option Int
  deriving DecidableEq

structure KeyTerminationRow where
  terminatedEpoch : Int
  reason : KeyTerminationReason
  deriving DecidableEq

structure EvidenceRow where
  acceptanceDomain : Bytes
  accountId : Bytes
  assetId : Bytes
  originRegion : Bytes
  deviceIdentityHash : Digest
  closedSettlementEpoch : Int
  closedUploadFence : Int
  keyId : Bytes
  payloadHash : Digest
  canonicalPayload : Bytes
  signature : Bytes
  deriving DecidableEq

def EvidenceRow.device (row : EvidenceRow) : Device :=
  ⟨row.accountId, row.assetId, row.originRegion, row.deviceIdentityHash⟩

structure Tables where
  deviceCounters : Table Device DeviceRow
  /-- escrow_offline_issued by account, asset and origin region. -/
  offlineIssued : Table (Bytes × Bytes × Bytes) IssuedRow
  allowances : Table Bytes AllowanceRow
  redemptionReceipts : Table Bytes RedemptionRow
  nonRedemptionProofs : Table Bytes ProofRow
  acceptanceDomains : Table Bytes DomainRow
  /-- Key ids by acceptance domain and activated epoch. -/
  keyActivations : Table (Bytes × Int) Bytes
  /-- By acceptance domain and key id. -/
  keyTerminations : Table (Bytes × Bytes) KeyTerminationRow
  closureEvidence : Table Digest EvidenceRow
  /-- Evidence hashes by allowance and acceptance domain. -/
  closureLinks : Table (Bytes × Bytes) Digest

inductive SqlError where
  | invalidDomainConfiguration
  | domainConfigurationConflict
  | activationOutsideCoverage
  | activationOverlaps
  | invalidTerminationBoundary
  | laterActivation
  | invalidatesEvidence
  | invalidKeyRotation
  | domainNotConfigured
  | rotationCompareAndSwap
  | invalidKeyTermination
  | keyTerminationConflict
  | keyTerminationCompareAndSwap
  | invalidEnrollment
  | enrollmentConflict
  | invalidEpochAdvance
  | epochCompareAndSwap
  | fenceNotMonotonic
  | counterMovesBackwards
  | epochNotFenced
  | invalidPreparation
  | allowanceIdConflict
  | deviceAbsentOrExhausted
  | keysDoNotCoverEpoch
  | invalidActivation
  | notPrepared
  | payloadVerificationFailed
  | activationConflict
  | issuerEpochFenced
  | insufficientRegionalRights
  | incompleteEvidence
  | effectHashMismatch
  | allowanceNotFound
  | presentationDoesNotBind
  | presentationMismatch
  | receiptConflict
  | allowanceTerminal
  | allowanceNotIssued
  | redemptionUnlinked
  | issuedInconsistent
  | totalInconsistent
  | closureDoesNotCover
  | closureKeyInvalid
  | closureMismatch
  | closureEvidenceConflict
  | closureLinkConflict
  | closureGuard
  | invalidTermination
  | terminationMismatch
  | proofConflict
  | alreadyRedeemed
  | closureIncomplete
  | closureSetMismatch
  | fenceConflict
  | regionalMissing
  | proofUnbound
  | closureUnsigned
  | proofHashMismatch
  | invalidAllowanceTransition
  | outOfRange
  | invalidText
  | violates (constraint : Constraint)
  | escrow (error : Escrow.SqlError)
  deriving DecidableEq, Repr

def acceptsAll (E : Engine) (texts : List Bytes) : Except SqlError Unit :=
  require (∀ text ∈ texts, E.acceptsText text = true) .invalidText

def fitsInt8 (value : Int) : Prop := -2 ^ 63 ≤ value ∧ value ≤ maxInt8
  deriving Decidable

def BoundedText (text : Bytes) : Prop := 1 ≤ charLength text ∧ charLength text ≤ 1024
  deriving Decidable

end PaymentPlatform.Offline
