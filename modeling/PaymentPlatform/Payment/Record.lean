import PaymentPlatform.Payment.Posting

/-! record_payment_effect of migration 021 and apply_payment_escrow_effect of
migration 019. -/

namespace PaymentPlatform.Payment

open Framing Ledger Serial

variable {E : Engine}

structure EffectArguments where
  effectId : Bytes
  paymentId : Bytes
  kind : EffectKind
  amount : Int
  ledgerTransactionId : Bytes
  originalTransactionId : Option Bytes
  expectedCashback : Option Int
  requestHash : Digest
  deriving DecidableEq

def EffectKind.secondary : EffectKind → Bool
  | .fee | .tax => true
  | _ => false

def EffectArguments.Valid (a : EffectArguments) : Prop :=
  1 ≤ charLength a.effectId ∧ charLength a.effectId ≤ 512 ∧ 0 < charLength a.paymentId ∧
    0 < a.amount ∧
    (a.kind = .capture → a.expectedCashback.any (fun cashback => 0 ≤ cashback) = true) ∧
    (a.kind ≠ .capture → a.expectedCashback = none)
  deriving Decidable

def EffectArguments.row (a : EffectArguments) : EffectRow :=
  { paymentId := a.paymentId
    effectKind := a.kind
    amountAtoms := a.amount
    ledgerTransactionId := a.ledgerTransactionId
    originalTransactionId := a.originalTransactionId }

/-- The cashback stored with the capture that an effect recorded. -/
def storedExpectedCashback (st : Tables) (paymentId effectId : Bytes) : Option Int :=
  (st.captureFinancials.rows.find? fun e =>
    e.2.paymentId = paymentId && e.2.captureEffectId = effectId).map fun e =>
      e.2.expectedCashbackAtoms

/-- The effect already has a row and it is the one of these very arguments. -/
def sameEffect (st : Tables) (stored : EffectRow) (a : EffectArguments) : Prop :=
  stored = a.row ∧ st.effectRequestReceipts.lookup a.effectId = some a.requestHash ∧
    storedExpectedCashback st stored.paymentId a.effectId = a.expectedCashback
  deriving Decidable

/-- A primary fact names its own posted journal, a fee or a tax the journal of
its capture. -/
def journalLinked (db : Database E) (a : EffectArguments) : Bool :=
  (db.ledger.transactions.lookup a.ledgerTransactionId).any fun journal =>
    journal.status = .posted && journal.paymentTemplateVerified &&
      journal.requestHash = a.requestHash && paymentIdOf journal = some a.paymentId &&
      if a.kind.secondary then
        journal.transactionKind = EffectKind.capture.text &&
          a.originalTransactionId = some a.ledgerTransactionId &&
          (db.payment.effects.lookup journal.effectId).any fun capture =>
            capture.paymentId = a.paymentId && capture.effectKind = .capture &&
              capture.ledgerTransactionId = a.ledgerTransactionId
      else
        journal.transactionKind = a.kind.text && journal.effectId = a.effectId &&
          journal.referenceTransactionId = a.originalTransactionId

def kindTotal (st : Tables) (paymentId : Bytes) (kind : EffectKind) : Int :=
  effectTotal st paymentId fun e => e.effectKind = kind

def accountTotal (lines : List (Int × LineRow)) (side : Side) (accountId assetId : Bytes) : Int :=
  sideTotal side (fun l => l.accountId = accountId && l.assetId = assetId) lines

def accountTypeTotal (db : Database E) (lines : List (Int × LineRow)) (assetId accountType : Bytes) :
    Int :=
  sideTotal .credit (fun l => l.assetId = assetId && hasAccountType db l.accountId accountType) lines

def holdProjected (payment : PaymentRow) (hold : HoldRow) (a : EffectArguments)
    (lines : List (Int × LineRow)) : Bool :=
  payment.authorizedAtoms = a.amount && payment.capturedAtoms = 0 && payment.releasedAtoms = 0 &&
    hold.authorizationTransactionId = a.ledgerTransactionId && hold.authorizationAtoms = a.amount &&
    countLines lines .debit (fun l => l.accountId = payment.customerAvailableAccountId &&
      l.assetId = payment.assetId && l.amountAtoms = a.amount) = 1

def captureProjected (db : Database E) (payment : PaymentRow) (hold : HoldRow)
    (a : EffectArguments) (lines : List (Int × LineRow)) : Bool :=
  let fee := payment.feeAtoms - kindTotal db.payment a.paymentId .fee
  let tax := payment.taxAtoms - kindTotal db.payment a.paymentId .tax
  some hold.authorizationTransactionId = a.originalTransactionId &&
    payment.capturedAtoms = kindTotal db.payment a.paymentId .capture + a.amount &&
    hold.capturedAtoms = payment.capturedAtoms &&
    a.expectedCashback.any (fun cashback => payment.cashbackAtoms =
      captureTotal db.payment a.paymentId CaptureRow.expectedCashbackAtoms + cashback) &&
    countLines lines .debit (fun l => l.accountId = payment.customerHeldAccountId &&
      l.assetId = payment.assetId && l.amountAtoms = a.amount) = 1 &&
    accountTotal lines .credit payment.merchantAccountId payment.assetId = a.amount - fee - tax &&
    accountTypeTotal db lines payment.assetId (ascii "FEE_REVENUE") = fee &&
    accountTypeTotal db lines payment.assetId (ascii "TAX_PAYABLE") = tax

def chargeProjected (db : Database E) (payment : PaymentRow) (a : EffectArguments)
    (lines : List (Int × LineRow)) (stored : Int) (accountType : Bytes) : Bool :=
  stored = kindTotal db.payment a.paymentId a.kind + a.amount &&
    accountTypeTotal db lines payment.assetId accountType = a.amount

def cashbackProjected (db : Database E) (payment : PaymentRow) (capture : CaptureRow)
    (a : EffectArguments) (lines : List (Int × LineRow)) : Bool :=
  capture.paymentId = a.paymentId && capture.expectedCashbackAtoms = a.amount &&
    payment.cashbackAtoms =
      captureTotal db.payment a.paymentId CaptureRow.expectedCashbackAtoms &&
    (db.payment.effects.rows.all fun e => !(e.2.paymentId = a.paymentId &&
      e.2.effectKind = .cashback && e.2.originalTransactionId = a.originalTransactionId)) &&
    accountTotal lines .credit payment.customerAvailableAccountId payment.assetId = a.amount &&
    sideTotal .debit (fun l => l.assetId = payment.assetId) lines = a.amount

def releaseProjected (db : Database E) (payment : PaymentRow) (hold : HoldRow)
    (a : EffectArguments) (lines : List (Int × LineRow)) : Bool :=
  some hold.authorizationTransactionId = a.originalTransactionId &&
    payment.releasedAtoms = effectTotal db.payment a.paymentId (fun e => e.effectKind = .release ||
      (e.effectKind = .reversal &&
        e.originalTransactionId = some hold.authorizationTransactionId)) + a.amount &&
    hold.releasedAtoms = payment.releasedAtoms &&
    accountTotal lines .debit payment.customerHeldAccountId payment.assetId = a.amount &&
    accountTotal lines .credit payment.customerAvailableAccountId payment.assetId = a.amount

def returnProjected (db : Database E) (payment : PaymentRow) (capture : CaptureRow)
    (a : EffectArguments) (lines : List (Int × LineRow)) (returned : Int) : Bool :=
  capture.paymentId = a.paymentId &&
    returned = effectTotal db.payment a.paymentId (fun e => e.effectKind = a.kind &&
      e.originalTransactionId = a.originalTransactionId) + a.amount &&
    payment.refundedAtoms = captureTotal db.payment a.paymentId CaptureRow.refundedAtoms &&
    payment.chargedBackAtoms = captureTotal db.payment a.paymentId CaptureRow.chargedBackAtoms &&
    accountTotal lines .credit payment.customerAvailableAccountId payment.assetId = a.amount &&
    sideTotal .debit (fun l => l.assetId = payment.assetId) lines = a.amount

def originalCapture (st : Tables) (a : EffectArguments) : Option CaptureRow :=
  a.originalTransactionId.bind st.captureFinancials.lookup

/-- The second linked_count of record_payment_effect is one. -/
def lifecycleProjected (db : Database E) (a : EffectArguments) : Bool :=
  let lines := linesOf db.ledger a.ledgerTransactionId
  (db.payment.paymentOperations.lookup a.paymentId).any fun payment =>
    match a.kind with
    | .hold => (db.payment.holds.lookup a.paymentId).any fun hold =>
        holdProjected payment hold a lines
    | .capture => (db.payment.holds.lookup a.paymentId).any fun hold =>
        captureProjected db payment hold a lines
    | .fee => chargeProjected db payment a lines payment.feeAtoms (ascii "FEE_REVENUE")
    | .tax => chargeProjected db payment a lines payment.taxAtoms (ascii "TAX_PAYABLE")
    | .cashback => (originalCapture db.payment a).any fun capture =>
        cashbackProjected db payment capture a lines
    | .release | .reversal => (db.payment.holds.lookup a.paymentId).any fun hold =>
        releaseProjected db payment hold a lines
    | .refund => (originalCapture db.payment a).any fun capture =>
        returnProjected db payment capture a lines capture.refundedAtoms
    | .chargeback => (originalCapture db.payment a).any fun capture =>
        returnProjected db payment capture a lines capture.chargedBackAtoms

def insertEffect (a : EffectArguments) (db : Database E) : Except SqlError (Database E) := do
  require (fitsDecimal38 a.amount) .outOfRange
  require (db.payment.effects.lookup a.effectId = none) (.violates .primaryKey)
  require ((db.payment.paymentOperations.lookup a.paymentId).isSome ∧
    (db.ledger.transactions.lookup a.ledgerTransactionId).isSome ∧
    ∀ original ∈ a.originalTransactionId, (db.ledger.transactions.lookup original).isSome)
    (.violates .foreignKey)
  return { db with payment := { db.payment with
    effects := db.payment.effects.insert a.effectId a.row } }

def insertEffectReceipt (a : EffectArguments) (db : Database E) : Except SqlError (Database E) := do
  require (db.payment.effectRequestReceipts.lookup a.effectId = none) (.violates .primaryKey)
  return { db with payment := { db.payment with
    effectRequestReceipts := db.payment.effectRequestReceipts.insert a.effectId a.requestHash } }

def newCapture (a : EffectArguments) (cashback : Int) : CaptureRow :=
  { paymentId := a.paymentId
    captureEffectId := a.effectId
    capturedAtoms := a.amount
    expectedCashbackAtoms := cashback
    refundedAtoms := 0
    chargedBackAtoms := 0
    cashbackReversedAtoms := 0
    version := 0 }

def insertCapture (a : EffectArguments) (cashback : Int) (db : Database E) :
    Except SqlError (Database E) := do
  let row := newCapture a cashback
  require row.Storable .outOfRange
  require row.Checked (.violates .check)
  require (db.payment.captureFinancials.lookup a.ledgerTransactionId = none)
    (.violates .primaryKey)
  require (∀ e ∈ db.payment.captureFinancials.rows,
    ¬ (e.2.paymentId = a.paymentId ∧ e.2.captureEffectId = a.effectId)) (.violates .unique)
  return { db with payment := { db.payment with
    captureFinancials := db.payment.captureFinancials.insert a.ledgerTransactionId row } }

/-- Post the journal of a primary fact; a fee or a tax has none of its own. -/
def postJournal (root : Bool) (a : EffectArguments) (db : Database E) :
    Except SqlError (Database E) :=
  if a.kind.secondary then .ok db
  else do
    let (db, finalized) ← finalizePaymentLedgerTransaction root a.ledgerTransactionId db
    require (finalized = some a.ledgerTransactionId) .notOneDraft
    return db

def insertFacts (a : EffectArguments) (db : Database E) : Except SqlError (Database E) := do
  let db ← insertEffect a db
  let db ← insertEffectReceipt a db
  match a.kind, a.expectedCashback with
  | .capture, some cashback => insertCapture a cashback db
  | _, _ => return db

def recordPaymentEffect (root : Bool) (a : EffectArguments) (db : Database E) :
    Except SqlError (Database E × Bool) := do
  (acceptsAll E ([a.effectId, a.paymentId, a.ledgerTransactionId] ++
    a.originalTransactionId.toList)).mapError SqlError.ledger
  require a.Valid .invalidEffectRequest
  match db.payment.effects.lookup a.effectId with
  | some stored =>
    require (sameEffect db.payment stored a) .effectConflict
    return (db, false)
  | none =>
    let db ← postJournal root a db
    require (journalLinked db a = true) .unlinkedJournal
    require (lifecycleProjected db a = true) .lifecycleMismatch
    let db ← insertFacts a db
    return (db, true)

def hashField (value : Bytes) : Option Bytes :=
  (ledgerHashInt64 value.length).map fun length => length ++ value

/-- hash_input: the same fields as hashEffect, built from SQL functions. -/
def escrowHashInput (kind : Escrow.EffectKind) (request : Escrow.EffectRequest) : Option Bytes := do
  let fields ← (Escrow.effectFields kind request).mapM hashField
  return ascii "payment-platform/escrow-effect/v1" ++ ([0] ++ fields.flatten)

def escrowSpendLinked (effect : EffectRow) (request : Escrow.EffectRequest)
    (lines : List (Int × LineRow)) : Bool :=
  (effect.effectKind = .hold || effect.effectKind = .reversal) &&
    accountTotal lines .debit request.accountId request.assetId = request.amount &&
    countLines lines .credit
      (fun l => l.accountId = request.accountId && l.assetId = request.assetId) = 0

def escrowReturnLinked (effect : EffectRow) (request : Escrow.EffectRequest)
    (lines : List (Int × LineRow)) : Bool :=
  [EffectKind.cashback, .release, .reversal, .refund, .chargeback].contains effect.effectKind &&
    accountTotal lines .credit request.accountId request.assetId = request.amount &&
    countLines lines .debit
      (fun l => l.accountId = request.accountId && l.assetId = request.assetId) = 0

/-- linked_effects is one: all three rows are found by their primary keys. -/
def escrowLinked (db : Database E) (kind : Escrow.EffectKind) (request : Escrow.EffectRequest) :
    Bool :=
  (db.payment.effects.lookup request.effectId).any fun effect =>
    (db.payment.paymentOperations.lookup effect.paymentId).any fun payment =>
      (db.ledger.transactions.lookup effect.ledgerTransactionId).any fun journal =>
        let lines := linesOf db.ledger effect.ledgerTransactionId
        journal.effectId = request.effectId && journal.status = .posted &&
          effect.amountAtoms = request.amount &&
          payment.customerAvailableAccountId = request.accountId &&
          payment.assetId = request.assetId && payment.authorityRegion = some request.region &&
          match kind with
          | .effectSpend => escrowSpendLinked effect request lines
          | .effectReturn => escrowReturnLinked effect request lines
          | .effectAllocate => false

def moveEscrow : Escrow.EffectKind → Escrow.EffectRequest → Escrow.Tables →
    Except SqlError Escrow.Tables :=
  Escrow.moveRights ⟨.escrow, .escrowInsufficientRights, .escrowAuthorityInconsistent,
    .escrowRegionalMissing, .escrowAuthorityMissing⟩

def applyPaymentEscrowEffect (kind : Escrow.EffectKind) (request : Escrow.EffectRequest)
    (suppliedHash : Digest) (db : Database E) : Except SqlError (Database E × Bool) := do
  require (kind ≠ .effectAllocate ∧ 1 ≤ charLength request.effectId ∧
    charLength request.effectId ≤ 512 ∧ 0 < charLength request.accountId ∧
    0 < charLength request.assetId ∧ 0 < charLength request.region ∧ 0 < request.amount)
    .invalidEscrowRequest
  let input ← expect (escrowHashInput kind request) .outOfRange
  require (E.sha256 input = suppliedHash) .escrowHashMismatch
  match db.escrow.effectReceipts.lookup request.effectId with
  | some stored =>
    require (stored = Escrow.receiptRow kind request (E.sha256 input)) .escrowEffectConflict
    return (db, false)
  | none =>
    require (escrowLinked db kind request = true) .escrowUnlinked
    let inserted ← (Escrow.insertReceipt E kind request (E.sha256 input) db.escrow).mapError
      SqlError.escrow
    match inserted with
    | none => return (db, false)
    | some escrow =>
      let escrow ← moveEscrow kind request escrow
      return ({ db with escrow := escrow }, true)

theorem applyPaymentEscrowEffect_ok {kind : Escrow.EffectKind} {request : Escrow.EffectRequest}
    {hash : Digest} {db db' : Database E} {answer : Bool}
    (done : applyPaymentEscrowEffect kind request hash db = .ok (db', answer)) :
    (db' = db ∧ answer = false) ∨ (answer = true ∧ ∃ mid escrow,
      Escrow.insertReceipt E kind request hash db.escrow = .ok (some mid) ∧
      moveEscrow kind request mid = .ok escrow ∧ db' = { db with escrow := escrow }) := by
  simp only [applyPaymentEscrowEffect, steps_ok] at done
  obtain ⟨_, _, input, _, _, rfl, done⟩ := done
  split at done
  · simp only [steps_ok] at done
    obtain ⟨_, _, rfl, rfl⟩ := done
    exact .inl ⟨rfl, rfl⟩
  · simp only [steps_ok] at done
    obtain ⟨_, _, inserted, receipt, done⟩ := done
    split at done
    · simp only [pure_ok, Prod.mk.injEq] at done
      exact .inl ⟨done.1.symm, done.2.symm⟩
    · simp only [steps_ok] at done
      obtain ⟨escrow, moved, rfl, rfl⟩ := done
      exact .inr ⟨rfl, _, escrow, receipt, moved, rfl⟩

/-- applyPaymentEffect of internal/escrow/effects.go. -/
def applyPaymentEffect (kind : Escrow.EffectKind) (request : Escrow.EffectRequest)
    (db : Database E) : Except Failure (Database E × Escrow.EffectReceipt) := do
  request.validate.mapError Failure.escrow
  let hash := Escrow.hashEffect E kind request
  let (db, applied) ← (applyPaymentEscrowEffect kind request hash db).mapError mapEscrowError
  return (db, ⟨request.effectId, kind, hash, !applied⟩)

def paymentSpendInTx (request : Escrow.EffectRequest) :
    Database E → Except Failure (Database E × Escrow.EffectReceipt) :=
  applyPaymentEffect .effectSpend request

def paymentReturnInTx (request : Escrow.EffectRequest) :
    Database E → Except Failure (Database E × Escrow.EffectReceipt) :=
  applyPaymentEffect .effectReturn request

end PaymentPlatform.Payment
