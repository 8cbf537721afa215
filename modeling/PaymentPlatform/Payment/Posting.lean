import PaymentPlatform.Database

/-! The payment posting boundary of migration 021: the intent trigger,
finalize_payment_ledger_transaction, which posts a journal draft only after its
lines match the template of their kind, and record_payment_effect, the only
writer of payment effects. `root` tells whether session_user is 'root'. -/

namespace PaymentPlatform.Payment

open Framing Ledger Serial

variable {E : Engine}

def boundTogether (db : Database E) (row : PaymentRow) : Bool :=
  db.capabilities.rows.any fun available =>
    row.idempotencyScope = Database.principalScope available.2.principalId &&
      available.2.accountId = row.customerAvailableAccountId &&
      available.2.permission = .authorizePayerAvailable && db.unrevoked available.1 &&
      db.capable row.idempotencyScope available.2.bookId row.customerHeldAccountId
        .authorizePayerHeld &&
      db.capable row.idempotencyScope available.2.bookId row.merchantAccountId .authorizeMerchant

/-- validate_payment_intent_insert. -/
def intentBound (root : Bool) (db : Database E) (row : PaymentRow) : Bool :=
  root ||
    ((db.ledger.accounts.lookup row.customerAvailableAccountId).any (fun account =>
        some account.bookId = db.payerBook row.idempotencyScope row.customerAvailableAccountId &&
          account.assetId = row.assetId) &&
      boundTogether db row)

def insertPayment (root : Bool) (paymentId : Bytes) (row : PaymentRow) (db : Database E) :
    Except SqlError (Database E) := do
  (acceptsAll E ([paymentId, row.idempotencyScope, row.idempotencyKey, row.assetId,
    row.customerAvailableAccountId, row.customerHeldAccountId, row.merchantAccountId] ++
    row.authorityRegion.toList)).mapError SqlError.ledger
  require row.Storable .outOfRange
  require (intentBound root db row = true) .intentUnbound
  require row.Checked (.violates .check)
  require (db.payment.paymentOperations.lookup paymentId = none) (.violates .primaryKey)
  require (∀ e ∈ db.payment.paymentOperations.rows,
    ¬ (e.2.idempotencyScope = row.idempotencyScope ∧ e.2.idempotencyKey = row.idempotencyKey))
    (.violates .unique)
  require ((db.ledger.assets.lookup row.assetId).isSome ∧
    ∀ accountId ∈ [row.customerAvailableAccountId, row.customerHeldAccountId,
      row.merchantAccountId], (db.ledger.accounts.lookup accountId).isSome)
    (.violates .foreignKey)
  return { db with payment := { db.payment with
    paymentOperations := db.payment.paymentOperations.insert paymentId row } }

def insertHold (paymentId : Bytes) (row : HoldRow) (db : Database E) :
    Except SqlError (Database E) := do
  (acceptsAll E [row.holdId, paymentId, row.authorizationTransactionId]).mapError SqlError.ledger
  require row.Storable .outOfRange
  require row.Checked (.violates .check)
  require (∀ e ∈ db.payment.holds.rows, e.2.holdId ≠ row.holdId) (.violates .primaryKey)
  require (db.payment.holds.lookup paymentId = none ∧ ∀ e ∈ db.payment.holds.rows,
    e.2.authorizationTransactionId ≠ row.authorizationTransactionId) (.violates .unique)
  require ((db.payment.paymentOperations.lookup paymentId).isSome ∧
    (db.ledger.transactions.lookup row.authorizationTransactionId).isSome) (.violates .foreignKey)
  return { db with payment := { db.payment with holds := db.payment.holds.insert paymentId row } }

def journalKinds : List EffectKind :=
  [.hold, .capture, .cashback, .release, .reversal, .refund, .chargeback]

def journalKind (text : Bytes) : Option EffectKind :=
  journalKinds.find? fun kind => kind.text = text

def leastText : List Bytes → Bytes
  | [] => []
  | first :: rest => rest.foldl (fun least text => if text < least then text else least) first

def countLines (lines : List (Int × LineRow)) (side : Side) (select : LineRow → Bool) : Nat :=
  (lines.filter fun e => e.2.side = side && select e.2).length

def insideBoundary (db : Database E) (bookId : Bytes) (lines : List (Int × LineRow)) : Bool :=
  let assetId := leastText (lines.map fun e => e.2.assetId)
  lines.all fun e => (db.ledger.accounts.lookup e.2.accountId).all fun account =>
    e.2.assetId = assetId && account.assetId = assetId && account.bookId = bookId

def hasAccountType (db : Database E) (accountId accountType : Bytes) : Bool :=
  (db.ledger.accounts.lookup accountId).any fun account => account.accountType = accountType

/-- A CAPTURE credit beside the merchant's: fee revenue or tax payable, with the
capability of that account type. -/
def chargeCreditAllowed (root : Bool) (db : Database E) (scope bookId accountId : Bytes) : Bool :=
  (hasAccountType db accountId (ascii "FEE_REVENUE") &&
      (root || db.capable scope bookId accountId .captureFee)) ||
    (hasAccountType db accountId (ascii "TAX_PAYABLE") &&
      (root || db.capable scope bookId accountId .captureTax))

def authorizationOf (db : Database E) (paymentId : Bytes) : Option Bytes :=
  (db.payment.holds.lookup paymentId).map fun hold => hold.authorizationTransactionId

def referencesCapture (db : Database E) (paymentId : Bytes) (reference : Option Bytes) : Bool :=
  reference.any fun captureId =>
    (db.payment.captureFinancials.lookup captureId).any fun capture =>
      capture.paymentId = paymentId

def holdTemplate (payment : PaymentRow) (reference : Option Bytes)
    (lines : List (Int × LineRow)) : Bool :=
  reference = none && lines.length = 2 &&
    countLines lines .debit (fun l => l.accountId = payment.customerAvailableAccountId &&
      l.assetId = payment.assetId && l.amountAtoms = payment.authorizedAtoms) = 1 &&
    countLines lines .credit (fun l => l.accountId = payment.customerHeldAccountId &&
      l.assetId = payment.assetId && l.amountAtoms = payment.authorizedAtoms) = 1

def captureTemplate (root : Bool) (db : Database E) (paymentId bookId : Bytes)
    (payment : PaymentRow) (reference : Option Bytes) (lines : List (Int × LineRow)) : Bool :=
  reference = authorizationOf db paymentId &&
    countLines lines .debit (fun l => l.accountId = payment.customerHeldAccountId &&
      l.assetId = payment.assetId) = 1 &&
    countLines lines .debit (fun _ => true) = 1 &&
    lines.all fun e => !(e.2.side = .credit && e.2.accountId ≠ payment.merchantAccountId) ||
      chargeCreditAllowed root db payment.idempotencyScope bookId e.2.accountId

def cashbackTemplate (root : Bool) (db : Database E) (paymentId bookId : Bytes)
    (payment : PaymentRow) (reference : Option Bytes) (lines : List (Int × LineRow)) : Bool :=
  lines.length = 2 && referencesCapture db paymentId reference &&
    countLines lines .credit (fun l => l.accountId = payment.customerAvailableAccountId &&
      l.assetId = payment.assetId) = 1 &&
    countLines lines .debit (fun l => hasAccountType db l.accountId (ascii "CASHBACK_EXPENSE") &&
      (root || db.capable payment.idempotencyScope bookId l.accountId
        .captureCashbackExpense)) = 1

def holdReturnTemplate (db : Database E) (paymentId : Bytes) (payment : PaymentRow)
    (reference : Option Bytes) (lines : List (Int × LineRow)) : Bool :=
  lines.length = 2 && reference = authorizationOf db paymentId &&
    countLines lines .debit (fun l => l.accountId = payment.customerHeldAccountId &&
      l.assetId = payment.assetId) = 1 &&
    countLines lines .credit (fun l => l.accountId = payment.customerAvailableAccountId &&
      l.assetId = payment.assetId) = 1

def captureReturnTemplate (db : Database E) (paymentId : Bytes) (payment : PaymentRow)
    (reference : Option Bytes) (lines : List (Int × LineRow)) : Bool :=
  lines.length = 2 && referencesCapture db paymentId reference &&
    countLines lines .credit (fun l => l.accountId = payment.customerAvailableAccountId &&
      l.assetId = payment.assetId) = 1

/-- The debit of a return: the payment's merchant, or an account with the
capability for this kind of return. -/
def returnDebitAllowed (db : Database E) (bookId : Bytes) (payment : PaymentRow)
    (permission : Permission) (lines : List (Int × LineRow)) : Bool :=
  countLines lines .debit (fun l => l.accountId = payment.merchantAccountId ||
    db.capable payment.idempotencyScope bookId l.accountId permission) = 1

def checkTemplate (root : Bool) (db : Database E) (kind : EffectKind) (paymentId bookId : Bytes)
    (payment : PaymentRow) (reference : Option Bytes) (lines : List (Int × LineRow)) :
    Except SqlError Unit :=
  match kind with
  | .hold => require (holdTemplate payment reference lines = true) .holdTemplate
  | .capture =>
    require (captureTemplate root db paymentId bookId payment reference lines = true)
      .captureTemplate
  | .cashback =>
    require (cashbackTemplate root db paymentId bookId payment reference lines = true)
      .cashbackTemplate
  | .release | .reversal =>
    require (holdReturnTemplate db paymentId payment reference lines = true) .holdReturnTemplate
  | .refund => do
    require (captureReturnTemplate db paymentId payment reference lines = true)
      .captureReturnTemplate
    require (returnDebitAllowed db bookId payment .refundMerchantDebit lines = true)
      .returnDebitUnauthorized
  | .chargeback => do
    require (captureReturnTemplate db paymentId payment reference lines = true)
      .captureReturnTemplate
    require (returnDebitAllowed db bookId payment .chargebackMerchantReserve lines = true)
      .returnDebitUnauthorized
  | .fee | .tax => .ok ()

/-- The draft of a transaction, as the first SELECT of the finalizer finds it. -/
def draftOf (db : Database E) (id : Bytes) : Option (TransactionRow E) :=
  (db.ledger.transactions.lookup id).filter fun row => row.status = .draft

def paymentIdOf (row : TransactionRow E) : Option Bytes :=
  E.textField row.metadata (ascii "payment_id")

def finalizePaymentLedgerTransaction (root : Bool) (id : Bytes) (db : Database E) :
    Except SqlError (Database E × Option Bytes) := do
  let row ← expect (draftOf db id) .invalidDraft
  let paymentId ← expect (paymentIdOf row) .invalidDraft
  require (0 < charLength paymentId) .invalidDraft
  let kind ← expect (journalKind row.transactionKind) .invalidDraft
  let lines := linesOf db.ledger id
  require (2 ≤ lines.length ∧ insideBoundary db row.bookId lines = true) .crossesBoundary
  let payment ← expect (db.payment.paymentOperations.lookup paymentId) .noPaymentAuthority
  checkTemplate root db kind paymentId row.bookId payment row.referenceTransactionId lines
  let verified := { db.ledger with
    transactions := db.ledger.transactions.insert id { row with paymentTemplateVerified := true } }
  let (ledger, answer) ← (finalizeLedgerTransaction id verified).mapError SqlError.ledger
  return ({ db with ledger := ledger }, answer)

end PaymentPlatform.Payment
