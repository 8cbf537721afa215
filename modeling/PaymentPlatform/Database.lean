import PaymentPlatform.Payment.Types
import PaymentPlatform.Offline.Types
import PaymentPlatform.Transfer.Types

/-! One region's database: the tables that the services of this repository share,
and the account capabilities of migrations 011 and 027. -/

namespace PaymentPlatform

open Framing Serial

inductive Permission where
  | authorizePayerAvailable
  | authorizePayerHeld
  | authorizeMerchant
  | captureFee
  | captureTax
  | captureCashbackExpense
  | refundMerchantDebit
  | chargebackMerchantReserve
  | transferDebitAvailable
  | transferCreditAvailable
  deriving DecidableEq, Repr

structure CapabilityRow where
  principalId : Bytes
  bookId : Bytes
  accountId : Bytes
  permission : Permission
  deriving DecidableEq

inductive RecordState where
  | processing
  | succeeded
  | failed
  deriving DecidableEq, Repr

/-- idempotency_records; times are microseconds. -/
structure IdempotencyRow (E : Engine) where
  requestHash : Digest
  state : RecordState
  ownerToken : Bytes
  leaseExpiresAt : Int
  operationId : Bytes
  ledgerTransactionId : Option Bytes
  responseCode : Option Int
  responsePayload : Option E.Jsonb
  failureCode : Option Bytes
  deriving DecidableEq

structure OutboxRow (E : Engine) where
  topic : Bytes
  messageKey : Bytes
  payload : Bytes
  headers : E.Jsonb
  aggregateId : Bytes
  aggregateVersion : Int
  parentTransactionId : Option Bytes
  deriving DecidableEq

structure FundingRow where
  accountId : Bytes
  assetId : Bytes
  region : Bytes
  amountAtoms : Int
  fundingSourceReference : Bytes
  ledgerTransactionId : Bytes
  requestHash : Digest
  deriving DecidableEq

structure CustomerRow where
  paymentPrincipalId : Bytes
  assetId : Bytes
  region : Bytes
  bookId : Bytes
  availableAccountId : Bytes
  heldAccountId : Bytes
  requestHash : Digest
  deriving DecidableEq

structure Database (E : Engine) where
  ledger : Ledger.Tables E
  payment : Payment.Tables
  escrow : Escrow.Tables
  offline : Offline.Tables
  transfer : Transfer.Tables
  capabilities : Table Bytes CapabilityRow
  /-- Revoked capability ids. -/
  revocations : Table Bytes Unit
  /-- By scope and key. -/
  idempotencyRecords : Table (Bytes × Bytes) (IdempotencyRow E)
  outboxMessages : Table Bytes (OutboxRow E)
  /-- By external reference. -/
  fundingRecords : Table Bytes FundingRow
  /-- By external reference. -/
  provisioningRecords : Table Bytes CustomerRow
  /-- interbook_settlement_accounts: account ids by book and asset. -/
  settlementAccounts : Table (Bytes × Bytes) Bytes

variable {E : Engine}

def overEscrow {ε α : Type} (body : Escrow.Tables → Except ε (Escrow.Tables × α))
    (db : Database E) : Database E :=
  { db with escrow := commit body db.escrow }

def overOffline {ε α : Type} (body : Offline.Tables → Except ε (Offline.Tables × α))
    (db : Database E) : Database E :=
  { db with offline := commit body db.offline }

namespace Database

def enqueue (eventId : Bytes) (row : OutboxRow E) (db : Database E) :
    Except Ledger.SqlError (Database E) := do
  require (∀ text ∈ [eventId, row.topic, row.aggregateId] ++ row.parentTransactionId.toList,
    E.acceptsText text = true) .invalidText
  require (row.aggregateVersion ≤ maxInt8) .outOfRange
  require (0 ≤ row.aggregateVersion) (.violates .check)
  require (db.outboxMessages.lookup eventId = none) (.violates .primaryKey)
  require (∀ parent ∈ row.parentTransactionId, (db.ledger.transactions.lookup parent).isSome)
    (.violates .foreignKey)
  return { db with outboxMessages := db.outboxMessages.insert eventId row }

def principalScope (principalId : Bytes) : Bytes :=
  ascii "principal/" ++ (principalId ++ ascii "/hold")

def unrevoked (db : Database E) (capabilityId : Bytes) : Bool :=
  (db.revocations.lookup capabilityId).isNone

def capable (db : Database E) (scope bookId accountId : Bytes) (permission : Permission) : Bool :=
  db.capabilities.rows.any fun e =>
    scope = principalScope e.2.principalId && e.2.bookId = bookId && e.2.accountId = accountId &&
      e.2.permission = permission && db.unrevoked e.1

/-- The book of some unrevoked payer capability; LIMIT 1 picks one of them. -/
def payerBook (db : Database E) (scope accountId : Bytes) : Option Bytes :=
  (db.capabilities.rows.find? fun e =>
    scope = principalScope e.2.principalId && e.2.accountId = accountId &&
      e.2.permission = .authorizePayerAvailable && db.unrevoked e.1).map fun e => e.2.bookId

end Database

end PaymentPlatform
