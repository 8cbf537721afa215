import PaymentPlatform.Idgen.Identifier
import PaymentPlatform.Payment.Receipt

/-! internal/payment/service.go: the six operations, each the body of one
serializable transaction under an idempotency claim. -/

namespace PaymentPlatform.Payment

open Framing Ledger Serial

variable {E : Engine}

/-- An UPDATE of a payment table; the flag tells whether a row was affected. -/
def runUpdate (update : Tables → Except SqlError (Option Tables)) (db : Database E) :
    Except Failure (Database E × Bool) := do
  let updated ← (update db.payment).mapError Failure.database
  match updated with
  | none => return (db, false)
  | some payment => return ({ db with payment := payment }, true)

def preparePaymentInTx (request : PostRequest) (db : Database E) :
    Except Failure (Database E × Ledger.Receipt) := do
  let (ledger, receipt) ← (postInTx request true db.ledger).mapError Failure.ledger
  return ({ db with ledger := ledger }, receipt)

/-- recordPaymentEffect; whether the effect was new is not looked at. -/
def record (root : Bool) (a : EffectArguments) (db : Database E) :
    Except Failure (Database E) := do
  let (db, _) ← (recordPaymentEffect root a db).mapError mapPostingError
  return db

def paymentMetadata (paymentId : Bytes) : Bytes :=
  Json.write (Json.object [("payment_id", jsonString paymentId)])

def holdMetadata (paymentId holdId : Bytes) : Bytes :=
  Json.write (Json.object [("payment_id", jsonString paymentId), ("hold_id", jsonString holdId)])

def line (accountId assetId : Bytes) (side : Side) (amount : Int) (memo : String) : Line :=
  ⟨accountId, assetId, side.text, amount, ascii memo⟩

structure Snapshot where
  payment : PaymentRow
  hold : HoldRow

def Snapshot.region (current : Snapshot) : Bytes := current.payment.authorityRegion.getD []

def loadSnapshot (scope paymentId : Bytes) (db : Database E) : Except Failure Snapshot := do
  let payment ← expect (db.payment.paymentOperations.lookup paymentId) .paymentNotFound
  require (payment.idempotencyScope = scope ++ ascii "/hold") .paymentNotFound
  let hold ← expect (db.payment.holds.lookup paymentId) .paymentNotFound
  return ⟨payment, hold⟩

def trimSuffix (text suffix : Bytes) : Bytes :=
  if suffix <:+ text then text.take (text.length - suffix.length) else text

def loadReturnable (paymentId : Bytes) (db : Database E) : Except Failure Snapshot := do
  let payment ← expect (db.payment.paymentOperations.lookup paymentId) .paymentNotFound
  loadSnapshot (trimSuffix payment.idempotencyScope (ascii "/hold")) paymentId db

/-- The escrow counterpart of a journal, when the payment has an authority region. -/
def returnEscrow (effectId : Bytes) (current : Snapshot) (amount : Int) (db : Database E) :
    Except Failure (Database E) :=
  if current.region = [] then .ok db
  else do
    let (db, _) ← paymentReturnInTx
      ⟨effectId, current.payment.customerAvailableAccountId, current.payment.assetId,
        current.region, amount⟩ db
    return db

def HoldRequest.Valid (r : HoldRequest) : Prop :=
  r.scope ≠ [] ∧ r.idempotencyKey ≠ [] ∧ r.bookId ≠ [] ∧ r.assetId ≠ [] ∧
    r.customerAvailableAccountId ≠ [] ∧ r.customerHeldAccountId ≠ [] ∧ r.merchantAccountId ≠ [] ∧
    r.postingRuleVersion ≠ [] ∧ 0 < r.amount ∧ 0 ≤ r.cashbackRuleMaximum
  deriving Decidable

def newPayment (request : HoldRequest) : PaymentRow :=
  { idempotencyScope := request.scope ++ ascii "/hold"
    idempotencyKey := request.idempotencyKey
    assetId := request.assetId
    customerAvailableAccountId := request.customerAvailableAccountId
    customerHeldAccountId := request.customerHeldAccountId
    merchantAccountId := request.merchantAccountId
    authorityRegion := if request.authorityRegion = [] then none else some request.authorityRegion
    state := .held
    authorizedAtoms := request.amount
    capturedAtoms := 0
    releasedAtoms := 0
    refundedAtoms := 0
    chargedBackAtoms := 0
    feeAtoms := 0
    taxAtoms := 0
    cashbackAtoms := 0
    cashbackRuleAtoms := request.cashbackRuleMaximum
    cashbackReversedAtoms := 0
    version := 0 }

def newHold (request : HoldRequest) (holdId authorization : Bytes) : HoldRow :=
  { holdId := holdId
    authorizationTransactionId := authorization
    authorizationAtoms := request.amount
    capturedAtoms := 0
    releasedAtoms := 0
    state := .active
    version := 0 }

def holdJournal (request : HoldRequest) (paymentId holdId : Bytes) (hash : Digest)
    (ids : ExecutionIds) : PostRequest :=
  { transactionId := ids.transactionId
    bookId := request.bookId
    operationId := ids.operationId
    effectId := ids.effectId
    kind := EffectKind.hold.text
    referenceTransactionId := none
    postingRuleVersion := request.postingRuleVersion
    schemaVersion := 1
    requestHash := hash
    metadata := holdMetadata paymentId holdId
    lines := [line request.customerAvailableAccountId request.assetId .debit request.amount
        "hold available",
      line request.customerHeldAccountId request.assetId .credit request.amount "hold reserved"] }

def spendEscrow (effectId : Bytes) (request : HoldRequest) (db : Database E) :
    Except Failure (Database E) :=
  if request.authorityRegion = [] then .ok db
  else do
    let (db, _) ← paymentSpendInTx ⟨effectId, request.customerAvailableAccountId, request.assetId,
      request.authorityRegion, request.amount⟩ db
    return db

def holdInTx (root : Bool) (request : HoldRequest) (paymentId holdId : Bytes) (hash : Digest)
    (ids : ExecutionIds) (db : Database E) : Except Failure (Database E × Receipt) := do
  let db ← (insertPayment root paymentId (newPayment request) db).mapError Failure.database
  let (db, journal) ← preparePaymentInTx (holdJournal request paymentId holdId hash ids) db
  let db ← (insertHold paymentId (newHold request holdId journal.transactionId) db).mapError
    Failure.database
  let db ← record root ⟨ids.effectId, paymentId, .hold, request.amount, journal.transactionId,
    none, none, hash⟩ db
  let db ← spendEscrow ids.effectId request db
  return (db, ⟨paymentId, .held, request.amount, 0, journal, false⟩)

def CaptureRequest.Valid (r : CaptureRequest) : Prop :=
  r.scope ≠ [] ∧ r.idempotencyKey ≠ [] ∧ r.paymentId ≠ [] ∧ r.bookId ≠ [] ∧ r.assetId ≠ [] ∧
    r.postingRuleVersion ≠ [] ∧ 0 < r.amount ∧ 0 ≤ r.fee ∧ 0 ≤ r.tax ∧ 0 ≤ r.cashback ∧
    fitsDecimal38 (r.fee + r.tax) ∧ r.fee + r.tax ≤ r.amount ∧
    (0 < r.fee → r.feeAccountId ≠ []) ∧ (0 < r.tax → r.taxAccountId ≠ []) ∧
    (0 < r.cashback → r.cashbackExpenseAccountId ≠ [])
  deriving Decidable

def captureLines (request : CaptureRequest) (payment : PaymentRow) : List Line :=
  let merchantAmount := request.amount - (request.fee + request.tax)
  [line payment.customerHeldAccountId payment.assetId .debit request.amount "capture hold"] ++
    (if 0 < merchantAmount then
      [line payment.merchantAccountId payment.assetId .credit merchantAmount "merchant payable"]
    else []) ++
    (if 0 < request.fee then
      [line request.feeAccountId payment.assetId .credit request.fee "platform fee"] else []) ++
    (if 0 < request.tax then
      [line request.taxAccountId payment.assetId .credit request.tax "tax withholding"] else [])

def captureJournal (request : CaptureRequest) (current : Snapshot) (hash : Digest)
    (ids : ExecutionIds) : PostRequest :=
  { transactionId := ids.transactionId
    bookId := request.bookId
    operationId := ids.operationId
    effectId := ids.effectId
    kind := EffectKind.capture.text
    referenceTransactionId := some current.hold.authorizationTransactionId
    postingRuleVersion := request.postingRuleVersion
    schemaVersion := 1
    requestHash := hash
    metadata := paymentMetadata request.paymentId
    lines := captureLines request current.payment }

def cashbackSuffix : Bytes := ascii ":cashback"

def cashbackJournal (request : CaptureRequest) (payment : PaymentRow) (captureId : Bytes)
    (hash : Digest) (ids : ExecutionIds) : PostRequest :=
  { transactionId := ids.transactionId ++ cashbackSuffix
    bookId := request.bookId
    operationId := ids.operationId ++ cashbackSuffix
    effectId := ids.effectId ++ cashbackSuffix
    kind := EffectKind.cashback.text
    referenceTransactionId := some captureId
    postingRuleVersion := request.postingRuleVersion
    schemaVersion := 1
    requestHash := hash
    metadata := paymentMetadata request.paymentId
    lines := [line request.cashbackExpenseAccountId payment.assetId .debit request.cashback
        "cashback expense",
      line payment.customerAvailableAccountId payment.assetId .credit request.cashback
        "cashback payable"] }

/-- UPDATE holds and UPDATE payment_operations of a capture. -/
def storeCapture (request : CaptureRequest) (current : Snapshot) (newState : State)
    (newCaptured newCashback : Int) (db : Database E) : Except Failure (Database E) := do
  let holdState := if newState = .captured then HoldState.captured else .partiallyCaptured
  let (db, _) ← runUpdate (updateHold request.paymentId fun hold =>
    { hold with capturedAtoms := newCaptured, state := holdState }) db
  let newFee ← addAmounts current.payment.feeAtoms request.fee
  let newTax ← addAmounts current.payment.taxAtoms request.tax
  let (db, _) ← runUpdate (updatePayment request.paymentId (fun _ => true) fun payment =>
    { payment with
      capturedAtoms := newCaptured
      feeAtoms := newFee
      taxAtoms := newTax
      cashbackAtoms := newCashback
      state := newState }) db
  return db

def prepareCashback (request : CaptureRequest) (payment : PaymentRow) (captureId : Bytes)
    (hash : Digest) (ids : ExecutionIds) (db : Database E) :
    Except Failure (Database E × Option Ledger.Receipt) :=
  if 0 < request.cashback then do
    let (db, journal) ← preparePaymentInTx (cashbackJournal request payment captureId hash ids) db
    return (db, some journal)
  else .ok (db, none)

def recordCharge (root : Bool) (kind : EffectKind) (suffix : String) (request : CaptureRequest)
    (amount : Int) (captureId : Bytes) (hash : Digest) (ids : ExecutionIds) (db : Database E) :
    Except Failure (Database E) :=
  if 0 < amount then
    record root ⟨ids.effectId ++ ascii suffix, request.paymentId, kind, amount, captureId,
      some captureId, none, hash⟩ db
  else .ok db

def recordFee (root : Bool) (request : CaptureRequest) :
    Bytes → Digest → ExecutionIds → Database E → Except Failure (Database E) :=
  recordCharge root .fee ":fee" request request.fee

def recordTax (root : Bool) (request : CaptureRequest) :
    Bytes → Digest → ExecutionIds → Database E → Except Failure (Database E) :=
  recordCharge root .tax ":tax" request request.tax

def recordCashback (root : Bool) (request : CaptureRequest) (current : Snapshot)
    (captureId : Bytes) (cashbackJournal : Option Ledger.Receipt) (hash : Digest)
    (ids : ExecutionIds) (db : Database E) : Except Failure (Database E) :=
  match cashbackJournal with
  | none => .ok db
  | some journal => do
    let effectId := ids.effectId ++ cashbackSuffix
    let db ← record root ⟨effectId, request.paymentId, .cashback, request.cashback,
      journal.transactionId, some captureId, none, hash⟩ db
    returnEscrow effectId current request.cashback db

def captureInTx (root : Bool) (request : CaptureRequest) (hash : Digest) (ids : ExecutionIds)
    (db : Database E) : Except Failure (Database E × Receipt) := do
  let current ← loadSnapshot request.scope request.paymentId db
  require (current.payment.assetId = request.assetId) .assetMismatch
  require (current.payment.state = .held ∨ current.payment.state = .partiallyCaptured)
    (.invalidTransition "cannot capture")
  let newCaptured ← addAmounts current.payment.capturedAtoms request.amount
  let newState ← captureState current.payment.authorizedAtoms newCaptured
    current.payment.releasedAtoms
  let newCashback := current.payment.cashbackAtoms + request.cashback
  require (fitsDecimal38 newCashback ∧ newCashback ≤ current.payment.cashbackRuleAtoms)
    .cashbackRule
  let (db, journal) ← preparePaymentInTx (captureJournal request current hash ids) db
  let db ← storeCapture request current newState newCaptured newCashback db
  let db ← record root ⟨ids.effectId, request.paymentId, .capture, request.amount,
    journal.transactionId, some current.hold.authorizationTransactionId, some request.cashback,
    hash⟩ db
  let (db, cashback) ← prepareCashback request current.payment journal.transactionId hash ids db
  let db ← recordFee root request journal.transactionId hash ids db
  let db ← recordTax root request journal.transactionId hash ids db
  let db ← recordCashback root request current journal.transactionId cashback hash ids db
  return (db, ⟨request.paymentId, newState, request.amount, current.payment.version + 1, journal,
    false⟩)

def ReleaseRequest.Valid (r : ReleaseRequest) : Prop :=
  r.scope ≠ [] ∧ r.idempotencyKey ≠ [] ∧ r.paymentId ≠ [] ∧ r.bookId ≠ [] ∧ r.assetId ≠ [] ∧
    r.postingRuleVersion ≠ [] ∧ 0 < r.amount
  deriving Decidable

def releaseKind (reversal : Bool) : EffectKind := if reversal then .reversal else .release

def releaseJournal (request : ReleaseRequest) (reversal : Bool) (current : Snapshot)
    (hash : Digest) (ids : ExecutionIds) : PostRequest :=
  { transactionId := ids.transactionId
    bookId := request.bookId
    operationId := ids.operationId
    effectId := ids.effectId
    kind := (releaseKind reversal).text
    referenceTransactionId := some current.hold.authorizationTransactionId
    postingRuleVersion := request.postingRuleVersion
    schemaVersion := 1
    requestHash := hash
    metadata := paymentMetadata request.paymentId
    lines := [line current.payment.customerHeldAccountId current.payment.assetId .debit
        request.amount "release hold",
      line current.payment.customerAvailableAccountId current.payment.assetId .credit
        request.amount "restore available"] }

def releaseInTx (root : Bool) (request : ReleaseRequest) (reversal : Bool) (hash : Digest)
    (ids : ExecutionIds) (db : Database E) : Except Failure (Database E × Receipt) := do
  let current ← loadSnapshot request.scope request.paymentId db
  require (current.payment.assetId = request.assetId) .assetMismatch
  require (current.payment.state = .held ∨ current.payment.state = .partiallyCaptured)
    (.invalidTransition "cannot release")
  require (reversal = true → current.payment.capturedAtoms = 0)
    (.invalidTransition "a reversal requires zero captured principal")
  let newReleased ← addAmounts current.payment.releasedAtoms request.amount
  let used := current.payment.capturedAtoms + newReleased
  require (fitsDecimal38 used ∧ used ≤ current.payment.authorizedAtoms ∧
    (reversal = true → used = current.payment.authorizedAtoms)) .overCapture
  let (newState, holdState) := releaseState current.payment.authorizedAtoms
    current.payment.capturedAtoms newReleased
  let (db, journal) ← preparePaymentInTx (releaseJournal request reversal current hash ids) db
  let (db, _) ← runUpdate (updateHold request.paymentId fun hold =>
    { hold with releasedAtoms := newReleased, state := holdState }) db
  let (db, _) ← runUpdate (updatePayment request.paymentId (fun _ => true) fun payment =>
    { payment with releasedAtoms := newReleased, state := newState }) db
  let db ← record root ⟨ids.effectId, request.paymentId, releaseKind reversal, request.amount,
    journal.transactionId, some current.hold.authorizationTransactionId, none, hash⟩ db
  let db ← returnEscrow ids.effectId current request.amount db
  return (db, ⟨request.paymentId, newState, request.amount, current.payment.version + 1, journal,
    false⟩)

/-- What the two returns of captured principal have in common, and the words in
which they differ. -/
structure CaptureReturn where
  kind : EffectKind
  scope : Bytes
  idempotencyKey : Bytes
  paymentId : Bytes
  bookId : Bytes
  assetId : Bytes
  originalCaptureTransactionId : Bytes
  debitAccountId : Bytes
  amount : Int
  postingRuleVersion : Bytes
  refusal : String
  debitMemo : String
  creditMemo : String

def RefundRequest.captureReturn (r : RefundRequest) : CaptureReturn :=
  ⟨.refund, r.scope, r.idempotencyKey, r.paymentId, r.bookId, r.assetId,
    r.originalCaptureTransactionId, r.merchantDebitAccountId, r.amount, r.postingRuleVersion,
    "cannot refund", "refund funding", "customer refund"⟩

def ChargebackRequest.captureReturn (r : ChargebackRequest) : CaptureReturn :=
  ⟨.chargeback, r.scope, r.idempotencyKey, r.paymentId, r.bookId, r.assetId,
    r.originalCaptureTransactionId, r.merchantReserveAccountId, r.amount, r.postingRuleVersion,
    "cannot charge back", "chargeback funding", "provisional customer credit"⟩

def CaptureReturn.Valid (r : CaptureReturn) : Prop :=
  r.scope ≠ [] ∧ r.idempotencyKey ≠ [] ∧ r.paymentId ≠ [] ∧ r.bookId ≠ [] ∧ r.assetId ≠ [] ∧
    r.originalCaptureTransactionId ≠ [] ∧ r.debitAccountId ≠ [] ∧ r.postingRuleVersion ≠ [] ∧
    0 < r.amount
  deriving Decidable

def CaptureRow.addReturn (kind : EffectKind) (amount : Int) (row : CaptureRow) : CaptureRow :=
  match kind with
  | .refund => { row with refundedAtoms := row.refundedAtoms + amount }
  | _ => { row with chargedBackAtoms := row.chargedBackAtoms + amount }

/-- The per-capture check and the fold of the payment's capture rows. -/
def advanceCaptureReturn (kind : EffectKind) (paymentId captureTransactionId : Bytes)
    (amount : Int) (db : Database E) : Except Failure (Database E × Int × Int) := do
  require (paymentId ≠ [] ∧ captureTransactionId ≠ [] ∧ 0 < amount ∧
    (kind = .refund ∨ kind = .chargeback)) .invalidRequest
  let (db, affected) ← runUpdate (updateCapture captureTransactionId (fun row =>
    row.paymentId = paymentId &&
      row.refundedAtoms + row.chargedBackAtoms + amount ≤ row.capturedAtoms)
    (CaptureRow.addReturn kind amount)) db
  if affected then do
    let refunded := captureTotal db.payment paymentId CaptureRow.refundedAtoms
    let chargedBack := captureTotal db.payment paymentId CaptureRow.chargedBackAtoms
    require (fitsDecimal38 refunded ∧ fitsDecimal38 chargedBack) .amountOverflow
    return (db, refunded, chargedBack)
  else if (db.payment.captureFinancials.lookup captureTransactionId).any fun row =>
      row.paymentId = paymentId then .error .overRefund
  else .error .foreignCapture

def returnJournal (request : CaptureReturn) (current : Snapshot) (hash : Digest)
    (ids : ExecutionIds) : PostRequest :=
  { transactionId := ids.transactionId
    bookId := request.bookId
    operationId := ids.operationId
    effectId := ids.effectId
    kind := request.kind.text
    referenceTransactionId := some request.originalCaptureTransactionId
    postingRuleVersion := request.postingRuleVersion
    schemaVersion := 1
    requestHash := hash
    metadata := paymentMetadata request.paymentId
    lines := [line request.debitAccountId current.payment.assetId .debit request.amount
        request.debitMemo,
      line current.payment.customerAvailableAccountId current.payment.assetId .credit
        request.amount request.creditMemo] }

def returnCaptureInTx (root : Bool) (request : CaptureReturn) (hash : Digest) (ids : ExecutionIds)
    (db : Database E) : Except Failure (Database E × Receipt) := do
  let current ← loadReturnable request.paymentId db
  require (current.payment.assetId = request.assetId) .assetMismatch
  require (current.payment.state ≠ .refunded ∧ current.payment.state ≠ .chargedBack) .overRefund
  require (current.payment.state = .captured ∨ current.payment.state = .settled ∨
    current.payment.state = .partiallyRefunded ∨ current.payment.state = .disputed)
    (.invalidTransition request.refusal)
  let (db, refunded, chargedBack) ← advanceCaptureReturn request.kind request.paymentId
    request.originalCaptureTransactionId request.amount db
  let newState ← refundState current.payment.capturedAtoms refunded chargedBack
  let (db, journal) ← preparePaymentInTx (returnJournal request current hash ids) db
  let (db, affected) ← runUpdate (updatePayment request.paymentId (fun payment =>
    payment.version = current.payment.version &&
      payment.refundedAtoms = current.payment.refundedAtoms &&
      payment.chargedBackAtoms = current.payment.chargedBackAtoms) fun payment =>
    { payment with refundedAtoms := refunded, chargedBackAtoms := chargedBack, state := newState })
    db
  require (affected = true) (.invalidTransition "payment return projection CAS failed")
  let db ← record root ⟨ids.effectId, request.paymentId, request.kind, request.amount,
    journal.transactionId, some request.originalCaptureTransactionId, none, hash⟩ db
  let db ← returnEscrow ids.effectId current request.amount db
  return (db, ⟨request.paymentId, newState, request.amount, current.payment.version + 1, journal,
    false⟩)

def refundInTx (root : Bool) (request : RefundRequest) :
    Digest → ExecutionIds → Database E → Except Failure (Database E × Receipt) :=
  returnCaptureInTx root request.captureReturn

def chargebackInTx (root : Bool) (request : ChargebackRequest) :
    Digest → ExecutionIds → Database E → Except Failure (Database E × Receipt) :=
  returnCaptureInTx root request.captureReturn

end PaymentPlatform.Payment
