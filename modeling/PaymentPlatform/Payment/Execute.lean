import PaymentPlatform.Payment.Service

/-! Service.execute and the idempotency claim (internal/idempotency/service.go):
claim, operation, outbox event and completion commit together or not at all. A
call draws its identifiers from the durable generator before its transaction. -/

namespace PaymentPlatform.Payment

open Framing Ledger Serial Idgen

variable {E : Engine}

structure ClaimRequest where
  scope : Bytes
  key : Bytes
  requestHash : Digest
  ownerToken : Bytes
  operationId : Bytes
  leaseMicros : Int

def newRecord (request : ClaimRequest) (now : Int) : IdempotencyRow E :=
  { requestHash := request.requestHash
    state := .processing
    ownerToken := request.ownerToken
    leaseExpiresAt := now + request.leaseMicros
    operationId := request.operationId
    ledgerTransactionId := none
    responseCode := none
    responsePayload := none
    failureCode := none }

/-- INSERT ... ON CONFLICT DO NOTHING, then SELECT ... FOR UPDATE. -/
def loadRecord (request : ClaimRequest) (now : Int) (db : Database E) :
    Except Failure (Database E × IdempotencyRow E) := do
  (acceptsAll E [request.scope, request.key, request.ownerToken, request.operationId]).mapError
    fun error => Failure.database (.ledger error)
  match db.idempotencyRecords.lookup (request.scope, request.key) with
  | some stored => return (db, stored)
  | none =>
    return ({ db with
      idempotencyRecords := db.idempotencyRecords.insert (request.scope, request.key)
        (newRecord request now) }, newRecord request now)

/-- Claim; the flag tells a terminal record, whose result is replayed. -/
def claim (request : ClaimRequest) (now : Int) (db : Database E) :
    Except Failure (Database E × IdempotencyRow E × Bool) := do
  require (request.scope ≠ [] ∧ request.key ≠ [] ∧ request.ownerToken ≠ [] ∧
    request.operationId ≠ [] ∧ 0 < request.leaseMicros) (.idempotency .invalidRequest)
  let (db, stored) ← loadRecord request now db
  require (stored.requestHash = request.requestHash) (.idempotency .keyConflict)
  if stored.state = .succeeded ∨ stored.state = .failed then return (db, stored, true)
  else if stored.ownerToken = request.ownerToken then return (db, stored, false)
  else do
    require (stored.leaseExpiresAt ≤ now) (.idempotency .inProgress)
    let taken := { stored with
      ownerToken := request.ownerToken, leaseExpiresAt := now + request.leaseMicros }
    return ({ db with
      idempotencyRecords := db.idempotencyRecords.insert (request.scope, request.key) taken },
      taken, false)

/-- The JSONB of a response: Marshal, CanonicalJSON, and the cast. -/
def responseJsonb (E : Engine) (response : Json.Value) : Except Failure E.Jsonb := do
  let canonical ← expect (canonicalJson (Json.write response)) (.ledger (.invalidPosting "metadata"))
  expect (E.parseJsonb canonical) (.database (.ledger .invalidJson))

def complete (scope key ownerToken ledgerTransactionId : Bytes) (response : Json.Value)
    (db : Database E) : Except Failure (Database E) := do
  require (scope ≠ [] ∧ key ≠ [] ∧ ownerToken ≠ [] ∧ ledgerTransactionId ≠ [])
    (.idempotency .invalidRequest)
  let payload ← responseJsonb E response
  let stored ← expect (db.idempotencyRecords.lookup (scope, key)) (.idempotency .lostClaim)
  require (stored.ownerToken = ownerToken ∧ stored.state = .processing) (.idempotency .lostClaim)
  require ((db.ledger.transactions.lookup ledgerTransactionId).isSome)
    (.database (.violates .foreignKey))
  return { db with
    idempotencyRecords := db.idempotencyRecords.insert (scope, key)
      { stored with
        state := .succeeded
        ledgerTransactionId := some ledgerTransactionId
        responseCode := some 200
        responsePayload := some payload
        failureCode := none } }

def cachedReceipt (stored : IdempotencyRow E) : Except Failure Receipt := do
  let payload ← expect stored.responsePayload .corruptResponse
  let value ← expect (Json.parse (E.jsonbText payload)) .corruptResponse
  let receipt ← expect (receiptOfJson value) .corruptResponse
  return { receipt with duplicate := true, ledger := { receipt.ledger with duplicate := true } }

def eventHeaders (topic : String) : Bytes :=
  Json.write (Json.object [("event_type", jsonString (ascii topic))])

def insertEvent (eventId : Bytes) (topic : String) (receipt : Receipt) (db : Database E) :
    Except Failure (Database E) := do
  let canonical ← expect (canonicalJson (Json.write receipt.json)) (.ledger (.invalidPosting "metadata"))
  let headers ← expect (E.parseJsonb (eventHeaders topic)) (.database (.ledger .invalidJson))
  (acceptsAll E [eventId, receipt.paymentId, receipt.ledger.transactionId]).mapError
    fun error => Failure.database (.ledger error)
  require (0 ≤ receipt.version) (.database (.violates .check))
  require (db.outboxMessages.lookup eventId = none) (.database (.violates .primaryKey))
  require ((db.ledger.transactions.lookup receipt.ledger.transactionId).isSome)
    (.database (.violates .foreignKey))
  return { db with
    outboxMessages := db.outboxMessages.insert eventId
      { topic := ascii "payment-events"
        messageKey := receipt.paymentId
        payload := canonical
        headers := headers
        aggregateId := receipt.paymentId
        aggregateVersion := receipt.version
        parentTransactionId := some receipt.ledger.transactionId } }

def claimLease : Int := 30000000

def execute (scope key : Bytes) (hash : Digest) (topic : String) (ids : ExecutionIds) (now : Int)
    (operation : Database E → Except Failure (Database E × Receipt)) (db : Database E) :
    Except Failure (Database E × Receipt) := do
  let (db, stored, cached) ← claim ⟨scope, key, hash, ids.ownerToken, ids.operationId, claimLease⟩
    now db
  if cached then
    if stored.state = .failed then
      .error (.cachedFailure (stored.failureCode.getD (ascii "unknown")))
    else do
      let receipt ← cachedReceipt stored
      return (db, receipt)
  else do
    let (db, receipt) ← operation db
    let db ← insertEvent ids.outboxEventId topic receipt db
    let db ← complete scope key ids.ownerToken receipt.ledger.transactionId receipt.json db
    return (db, receipt)

structure Draw where
  owner : Identifier
  operation : Identifier
  effect : Identifier
  transaction : Identifier
  event : Identifier
  deriving DecidableEq

def Draw.ids (draw : Draw) : ExecutionIds :=
  { ownerToken := ascii "owner_" ++ draw.owner.text
    operationId := ascii "operation_" ++ draw.operation.text
    effectId := ascii "effect_" ++ draw.effect.text
    transactionId := ascii "transaction_" ++ draw.transaction.text
    outboxEventId := ascii "event_" ++ draw.event.text }

inductive Request where
  | hold (request : HoldRequest) (payment hold : Identifier)
  | capture (request : CaptureRequest)
  | release (request : ReleaseRequest)
  | reversal (request : ReleaseRequest)
  | refund (request : RefundRequest)
  | chargeback (request : ChargebackRequest)

/-- The checks a method makes before it draws identifiers for its execution. -/
def Request.Valid : Request → Prop
  | .hold r _ _ => r.Valid
  | .capture r => r.Valid
  | .release r => r.Valid
  | .reversal r => r.Valid
  | .refund r => r.captureReturn.Valid
  | .chargeback r => r.captureReturn.Valid

instance : (r : Request) → Decidable r.Valid
  | .hold r _ _ => inferInstanceAs (Decidable r.Valid)
  | .capture r => inferInstanceAs (Decidable r.Valid)
  | .release r => inferInstanceAs (Decidable r.Valid)
  | .reversal r => inferInstanceAs (Decidable r.Valid)
  | .refund r => inferInstanceAs (Decidable r.captureReturn.Valid)
  | .chargeback r => inferInstanceAs (Decidable r.captureReturn.Valid)

def Request.json : Request → Json.Value
  | .hold r _ _ => r.json
  | .capture r => r.json
  | .release r => r.json false
  | .reversal r => r.json true
  | .refund r => r.json
  | .chargeback r => r.json

def Request.scope : Request → Bytes
  | .hold r _ _ => r.scope ++ ascii "/hold"
  | .capture r => r.scope ++ ascii "/capture"
  | .release r => r.scope ++ ascii "/RELEASE"
  | .reversal r => r.scope ++ ascii "/REVERSAL"
  | .refund r => r.scope ++ ascii "/refund"
  | .chargeback r => r.scope ++ ascii "/chargeback"

def Request.key : Request → Bytes
  | .hold r _ _ => r.idempotencyKey
  | .capture r => r.idempotencyKey
  | .release r => r.idempotencyKey
  | .reversal r => r.idempotencyKey
  | .refund r => r.idempotencyKey
  | .chargeback r => r.idempotencyKey

def Request.topic : Request → String
  | .hold _ _ _ => "payment.held"
  | .capture _ => "payment.captured"
  | .release _ => "payment.released"
  | .reversal _ => "payment.reversed"
  | .refund _ => "payment.refunded"
  | .chargeback _ => "payment.charged_back"

def Request.operation (root : Bool) (r : Request) (hash : Digest) (ids : ExecutionIds) :
    Database E → Except Failure (Database E × Receipt) :=
  match r with
  | .hold r paymentId holdId =>
    holdInTx root r (ascii "payment_" ++ paymentId.text) (ascii "hold_" ++ holdId.text) hash ids
  | .capture r => captureInTx root r hash ids
  | .release r => releaseInTx root r false hash ids
  | .reversal r => releaseInTx root r true hash ids
  | .refund r => refundInTx root r hash ids
  | .chargeback r => chargebackInTx root r hash ids

/-- One attempt of a call: the transaction that Hold, Capture, Release, Reversal,
Refund or Chargeback runs for a request. -/
def attempt (root : Bool) (r : Request) (draw : Draw) (now : Int) (db : Database E) :
    Except Failure (Database E × Receipt) := do
  require r.Valid .invalidRequest
  let hash ← requestHash E r.json
  execute r.scope r.key hash r.topic draw.ids now (r.operation root hash draw.ids) db

/- A small database to evaluate the model with, and calls on one payment. -/

def noPayments : Tables := ⟨∅, ∅, ∅, ∅, ∅⟩

def sampleDatabase : Database sampleEngine where
  ledger := run Ledger.step sampleTables (["available", "held", "merchant"].map fun name =>
    .createAccount (sampleAccount name .credit false))
  payment := noPayments
  escrow := ⟨∅, ∅, ∅, ∅, ∅, ∅, ∅, ∅⟩
  offline := ⟨∅, ∅, ∅, ∅, ∅, ∅, ∅, ∅, ∅, ∅⟩
  transfer := ⟨∅, ∅⟩
  capabilities := ∅
  revocations := ∅
  idempotencyRecords := ∅
  outboxMessages := ∅
  fundingRecords := ∅
  provisioningRecords := ∅
  settlementAccounts := ∅

def sampleName (counter : Fin (2 ^ 64)) : Identifier := ⟨ascii "node", 1, counter⟩

def sampleDraw (counter : Fin (2 ^ 64)) : Draw :=
  ⟨sampleName counter, sampleName counter, sampleName counter, sampleName counter,
    sampleName counter⟩

def samplePayment : Bytes := ascii "payment_" ++ (sampleName 1).text

def sampleHoldUnder (version : String) (amount : Int) : Request :=
  .hold ⟨ascii "alice", ascii "k1", ascii "book", ascii "KZT", ascii "available", ascii "held",
    ascii "merchant", amount, 0, ascii version, []⟩ (sampleName 1) (sampleName 1)

def sampleHold : Int → Request := sampleHoldUnder "v1"

def sampleCapture (key : String) (amount : Int) : Request :=
  .capture ⟨ascii "alice", ascii key, samplePayment, ascii "book", ascii "KZT", amount, 0, 0, 0, [],
    [], [], ascii "v1"⟩

end PaymentPlatform.Payment
