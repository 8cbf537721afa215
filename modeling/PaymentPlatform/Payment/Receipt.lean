import PaymentPlatform.Payment.Record

/-! The requests and the receipt of internal/payment/service.go, and the JSON in
which a request is hashed and a receipt is stored for replay. -/

namespace PaymentPlatform.Payment

open Framing Ledger Serial

structure HoldRequest where
  scope : Bytes
  idempotencyKey : Bytes
  bookId : Bytes
  assetId : Bytes
  customerAvailableAccountId : Bytes
  customerHeldAccountId : Bytes
  merchantAccountId : Bytes
  amount : Int
  cashbackRuleMaximum : Int
  postingRuleVersion : Bytes
  authorityRegion : Bytes
  deriving DecidableEq

structure CaptureRequest where
  scope : Bytes
  idempotencyKey : Bytes
  paymentId : Bytes
  bookId : Bytes
  assetId : Bytes
  amount : Int
  fee : Int
  tax : Int
  cashback : Int
  feeAccountId : Bytes
  taxAccountId : Bytes
  cashbackExpenseAccountId : Bytes
  postingRuleVersion : Bytes
  deriving DecidableEq

structure ReleaseRequest where
  scope : Bytes
  idempotencyKey : Bytes
  paymentId : Bytes
  bookId : Bytes
  assetId : Bytes
  amount : Int
  postingRuleVersion : Bytes
  deriving DecidableEq

structure RefundRequest where
  scope : Bytes
  idempotencyKey : Bytes
  paymentId : Bytes
  bookId : Bytes
  assetId : Bytes
  originalCaptureTransactionId : Bytes
  merchantDebitAccountId : Bytes
  amount : Int
  postingRuleVersion : Bytes
  deriving DecidableEq

structure ChargebackRequest where
  scope : Bytes
  idempotencyKey : Bytes
  paymentId : Bytes
  bookId : Bytes
  assetId : Bytes
  originalCaptureTransactionId : Bytes
  merchantReserveAccountId : Bytes
  amount : Int
  postingRuleVersion : Bytes
  deriving DecidableEq

structure Receipt where
  paymentId : Bytes
  state : State
  amount : Int
  version : Int
  ledger : Ledger.Receipt
  duplicate : Bool
  deriving DecidableEq

structure ExecutionIds where
  ownerToken : Bytes
  operationId : Bytes
  effectId : Bytes
  transactionId : Bytes
  outboxEventId : Bytes
  deriving DecidableEq

def jsonString (value : Bytes) : Json.Value := .string (Json.text value)

/-- Amount.MarshalJSON. -/
def jsonAmount (value : Int) : Json.Value := jsonString (decimal value)

def jsonInteger (value : Int) : Json.Value := .number (decimal value)

def HoldRequest.json (r : HoldRequest) : Json.Value :=
  Json.object ([("scope", jsonString r.scope), ("idempotency_key", jsonString r.idempotencyKey),
    ("book_id", jsonString r.bookId), ("asset_id", jsonString r.assetId),
    ("customer_available_account_id", jsonString r.customerAvailableAccountId),
    ("customer_held_account_id", jsonString r.customerHeldAccountId),
    ("merchant_account_id", jsonString r.merchantAccountId),
    ("amount_atoms", jsonAmount r.amount),
    ("cashback_rule_maximum_atoms", jsonAmount r.cashbackRuleMaximum),
    ("posting_rule_version", jsonString r.postingRuleVersion)] ++
    -- omitempty
    if r.authorityRegion = [] then [] else [("authority_region", jsonString r.authorityRegion)])

def CaptureRequest.json (r : CaptureRequest) : Json.Value :=
  Json.object [("scope", jsonString r.scope), ("idempotency_key", jsonString r.idempotencyKey),
    ("payment_id", jsonString r.paymentId), ("book_id", jsonString r.bookId),
    ("asset_id", jsonString r.assetId), ("amount_atoms", jsonAmount r.amount),
    ("fee_atoms", jsonAmount r.fee), ("tax_atoms", jsonAmount r.tax),
    ("cashback_atoms", jsonAmount r.cashback), ("fee_account_id", jsonString r.feeAccountId),
    ("tax_account_id", jsonString r.taxAccountId),
    ("cashback_expense_account_id", jsonString r.cashbackExpenseAccountId),
    ("posting_rule_version", jsonString r.postingRuleVersion)]

/-- The request is embedded in a struct that adds the flag. -/
def ReleaseRequest.json (r : ReleaseRequest) (reversal : Bool) : Json.Value :=
  Json.object [("scope", jsonString r.scope), ("idempotency_key", jsonString r.idempotencyKey),
    ("payment_id", jsonString r.paymentId), ("book_id", jsonString r.bookId),
    ("asset_id", jsonString r.assetId), ("amount_atoms", jsonAmount r.amount),
    ("posting_rule_version", jsonString r.postingRuleVersion), ("reversal", .bool reversal)]

def RefundRequest.json (r : RefundRequest) : Json.Value :=
  Json.object [("scope", jsonString r.scope), ("idempotency_key", jsonString r.idempotencyKey),
    ("payment_id", jsonString r.paymentId), ("book_id", jsonString r.bookId),
    ("asset_id", jsonString r.assetId),
    ("original_capture_transaction_id", jsonString r.originalCaptureTransactionId),
    ("merchant_debit_account_id", jsonString r.merchantDebitAccountId),
    ("amount_atoms", jsonAmount r.amount),
    ("posting_rule_version", jsonString r.postingRuleVersion)]

def ChargebackRequest.json (r : ChargebackRequest) : Json.Value :=
  Json.object [("scope", jsonString r.scope), ("idempotency_key", jsonString r.idempotencyKey),
    ("payment_id", jsonString r.paymentId), ("book_id", jsonString r.bookId),
    ("asset_id", jsonString r.assetId),
    ("original_capture_transaction_id", jsonString r.originalCaptureTransactionId),
    ("merchant_reserve_account_id", jsonString r.merchantReserveAccountId),
    ("amount_atoms", jsonAmount r.amount),
    ("posting_rule_version", jsonString r.postingRuleVersion)]

def requestHash (E : Engine) (request : Json.Value) : Except Failure Digest := do
  let canonical ← expect (canonicalJson (Json.write request)) (.idempotency .invalidRequest)
  return E.sha256 canonical

def hashItems : Bytes → Json.Items
  | [] => .nil
  | b :: rest => .cons (jsonInteger b.toNat) (hashItems rest)

def ledgerReceiptJson (r : Ledger.Receipt) : Json.Value :=
  Json.object [("transaction_id", jsonString r.transactionId), ("book_id", jsonString r.bookId),
    ("operation_id", jsonString r.operationId), ("effect_id", jsonString r.effectId),
    ("sequence_no", jsonInteger r.sequenceNo),
    -- a [32]byte is an array of numbers
    ("entry_hash", .array (hashItems r.entryHash.val)), ("duplicate", .bool r.duplicate)]

def Receipt.json (r : Receipt) : Json.Value :=
  Json.object [("payment_id", jsonString r.paymentId), ("state", jsonString r.state.text),
    ("amount_atoms", jsonAmount r.amount), ("version", jsonInteger r.version),
    ("ledger", ledgerReceiptJson r.ledger), ("duplicate", .bool r.duplicate)]

def decimalDigit (b : UInt8) : Option Nat :=
  if 48 ≤ b ∧ b ≤ 57 then some (b.toNat - 48) else none

def parseNatural (text : Bytes) : Option Nat := do
  let digits ← text.mapM decimalDigit
  if digits = [] then none else some (digits.foldl (fun value d => 10 * value + d) 0)

def parseInteger : Bytes → Option Int
  | 45 :: rest => (parseNatural rest).map fun value => -Int.ofNat value
  | text => (parseNatural text).map Int.ofNat

def parseAmount (text : Bytes) : Option Int :=
  (parseInteger text).filter fun value => fitsDecimal38 value

def stringOf : Json.Value → Option Bytes
  | .string text => some (Json.utf8 text)
  | _ => none

def integerOf : Json.Value → Option Int
  | .number literal => (parseInteger literal).filter fun value => -(2 ^ 63) ≤ value && value < 2 ^ 63
  | _ => none

def flagOf : Json.Value → Option Bool
  | .bool flag => some flag
  | _ => none

def byteOf (value : Json.Value) : Option UInt8 :=
  (integerOf value).bind fun v => if 0 ≤ v ∧ v < 256 then some (UInt8.ofNat v.toNat) else none

def bytesOf : Json.Items → Option Bytes
  | .nil => some []
  | .cons head tail => do
    let b ← byteOf head
    let rest ← bytesOf tail
    return b :: rest

def digestOf : Json.Value → Option Digest
  | .array items => (bytesOf items).bind fun bytes =>
    if length : bytes.length = 32 then some ⟨bytes, length⟩ else none
  | _ => none

def states : List State :=
  [.created, .authorized, .held, .partiallyCaptured, .captured, .settled, .partiallyRefunded,
    .refunded, .reversed, .disputed, .chargedBack, .failed, .unknown]

def State.ofText (text : Bytes) : Option State := states.find? fun state => state.text = text

def field {α : Type} (read : Json.Value → Option α) (name : String) (value : Json.Value) :
    Option α :=
  match value with
  | .object members => (members.find name.toList).bind read
  | _ => none

def ledgerReceiptOf (value : Json.Value) : Option Ledger.Receipt := do
  let transactionId ← field stringOf "transaction_id" value
  let bookId ← field stringOf "book_id" value
  let operationId ← field stringOf "operation_id" value
  let effectId ← field stringOf "effect_id" value
  let sequenceNo ← field integerOf "sequence_no" value
  let entryHash ← field digestOf "entry_hash" value
  let duplicate ← field flagOf "duplicate" value
  return ⟨transactionId, bookId, operationId, effectId, sequenceNo, entryHash, duplicate⟩

def receiptOfJson (value : Json.Value) : Option Receipt := do
  let paymentId ← field stringOf "payment_id" value
  let state ← (field stringOf "state" value).bind State.ofText
  let amount ← (field stringOf "amount_atoms" value).bind parseAmount
  let version ← field integerOf "version" value
  let ledger ← field ledgerReceiptOf "ledger" value
  let duplicate ← field flagOf "duplicate" value
  return ⟨paymentId, state, amount, version, ledger, duplicate⟩

end PaymentPlatform.Payment
