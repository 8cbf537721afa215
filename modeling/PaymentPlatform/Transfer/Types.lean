import PaymentPlatform.Escrow.Types

/-! The receipts of peer-to-peer transfers (migration 027). -/

namespace PaymentPlatform.Transfer

open Framing Ledger

inductive State where
  | settled
  | reversed
  deriving DecidableEq, Repr

inductive Leg where
  | single
  | payer
  | payee
  deriving DecidableEq, Repr

structure OperationRow where
  idempotencyScope : Bytes
  idempotencyKey : Bytes
  requestHash : Digest
  assetId : Bytes
  payerAccountId : Bytes
  payeeAccountId : Bytes
  payerBookId : Bytes
  payeeBookId : Bytes
  authorityRegion : Bytes
  amountAtoms : Int
  state : State
  referenceTransferId : Option Bytes
  deriving DecidableEq

structure LegRow where
  transferId : Bytes
  leg : Leg
  bookId : Bytes
  ledgerTransactionId : Bytes
  amountAtoms : Int
  deriving DecidableEq

structure Tables where
  transferOperations : Table Bytes OperationRow
  transferEffects : Table Bytes LegRow

inductive SqlError where
  | invalidEscrowRequest
  | escrowEffectConflict
  | escrowUnlinked
  | escrowInsufficientRights
  | escrowAuthorityInconsistent
  | escrowRegionalMissing
  | escrowAuthorityMissing
  | escrow (error : Escrow.SqlError)
  deriving DecidableEq, Repr

end PaymentPlatform.Transfer
