import PaymentPlatform.Payment.Receipt

/-! internal/repair/cashback.go: Plan and Execute of the cashback repair, over the table
cashback_repair_manifests (migrations 005, 014 and 016), with CashbackRepairSpendInTx
and apply_cashback_repair_escrow_spend of migration 021. -/

namespace PaymentPlatform.Repair

open Framing Ledger Serial

variable {E : Engine}

structure CashbackIncident where
  incidentId : Bytes
  bookId : Bytes
  firstSequence : Int
  lastSequence : Int
  buggyRuleVersion : Bytes
  deriving DecidableEq

def CashbackIncident.Valid (i : CashbackIncident) : Prop :=
  i.incidentId ≠ [] ∧ i.bookId ≠ [] ∧ i.buggyRuleVersion ≠ [] ∧ 0 < i.firstSequence ∧
    i.firstSequence ≤ i.lastSequence
  deriving Decidable

/-- WAIVED is set by operators only. -/
inductive ManifestStatus where
  | planned
  | posted
  | waived
  deriving DecidableEq, Repr

structure CashbackManifest where
  paymentId : Bytes
  originalTransactionId : Bytes
  captureTransactionId : Bytes
  postingRuleVersion : Bytes
  assetId : Bytes
  expected : Int
  actual : Int
  excess : Int
  correctionEffectId : Bytes
  correctionTransactionId : Bytes
  status : ManifestStatus
  deriving DecidableEq

structure Store (E : Engine) where
  db : Database E
  /-- By repair id. -/
  manifests : Table Bytes CashbackManifest

inductive Failure where
  | invalidIncident
  | notRepairable
  /-- ErrNotRepairable with the amounts that do not fit. -/
  | notOneGrant (paymentId : Bytes) (expected actual candidate : Int)
  | manifestConflict
  /-- ErrManifestConflict: payment cashback changed after planning. -/
  | cashbackChanged
  | noRows
  | nullColumn
  | amountOverflow
  | notManifestBound
  | ledger (failure : Ledger.Failure)
  | payment (failure : Payment.Failure)
  | database (error : Payment.SqlError)
  deriving DecidableEq

def isGrant (paymentId captureId : Bytes) (row : Payment.EffectRow) : Bool :=
  row.paymentId = paymentId && row.effectKind = .cashback &&
    row.originalTransactionId = some captureId

def reverses (paymentId transactionId : Bytes) (row : Payment.EffectRow) : Bool :=
  row.paymentId = paymentId && row.effectKind = .reversal &&
    row.originalTransactionId = some transactionId

def grantedCashback (st : Payment.Tables) (paymentId captureId : Bytes) : Int :=
  st.effects.total fun _ row => if isGrant paymentId captureId row then row.amountAtoms else 0

def reversalsOf (st : Payment.Tables) (paymentId transactionId : Bytes) : Int :=
  st.effects.total fun _ row => if reverses paymentId transactionId row then row.amountAtoms else 0

def reversedCashback (st : Payment.Tables) (paymentId captureId : Bytes) : Int :=
  st.effects.total fun _ grant =>
    if isGrant paymentId captureId grant then reversalsOf st paymentId grant.ledgerTransactionId
    else 0

def netCashback (st : Payment.Tables) (paymentId captureId : Bytes) : Int :=
  grantedCashback st paymentId captureId - reversedCashback st paymentId captureId

def netCashbackForCapture (st : Payment.Tables) (paymentId captureId : Bytes) :
    Except Failure Int := do
  require (fitsDecimal38 (netCashback st paymentId captureId)) .amountOverflow
  return netCashback st paymentId captureId

/-- The verb %08x. -/
def paddedHex (v : Nat) : Bytes :=
  List.replicate (8 - (toHex v).length) 48 ++ toHex v

def deterministicId (E : Engine) (domain : String) (values : List Bytes) : Bytes :=
  ascii domain ++ (ascii "-v1-" ++ encodeHex (E.sha256 (ascii "payment-platform/" ++ (ascii domain ++
    (ascii "/v1" ++ ([0] ++ (values.map fun value => paddedHex value.length ++ value).flatten))))).val)

def inWindow (incident : CashbackIncident) (journal : TransactionRow E) : Bool :=
  journal.bookId = incident.bookId && incident.firstSequence ≤ journal.sequenceNo &&
    journal.sequenceNo ≤ incident.lastSequence &&
    journal.postingRuleVersion = incident.buggyRuleVersion && journal.status = .posted

def pairOrder (a b : Bytes × Bytes) : Prop := a.1 < b.1 ∨ (a.1 = b.1 ∧ a.2 ≤ b.2)

instance : DecidableRel pairOrder := fun _ _ => inferInstanceAs (Decidable (_ ∨ _))

/-- SELECT DISTINCT payment_id, original_transaction_id ... ORDER BY both. -/
def candidates (incident : CashbackIncident) (db : Database E) : List (Bytes × Bytes) :=
  ((db.payment.effects.rows.filterMap fun e =>
    if e.2.effectKind = .cashback ∧
        (db.ledger.transactions.lookup e.2.ledgerTransactionId).any (inWindow incident) = true then
      e.2.originalTransactionId.map fun captureId => (e.2.paymentId, captureId)
    else none).dedup).insertionSort pairOrder

structure Grant where
  sequenceNo : Int
  effectId : Bytes
  transactionId : Bytes
  amount : Int
  deriving DecidableEq

def latestFirst (a b : Grant) : Prop :=
  b.sequenceNo < a.sequenceNo ∨ (a.sequenceNo = b.sequenceNo ∧ b.effectId ≤ a.effectId)

instance : DecidableRel latestFirst := fun _ _ => inferInstanceAs (Decidable (_ ∨ _))

/-- The grants of the capture in the window that no reversal names. -/
def openGrants (incident : CashbackIncident) (paymentId captureId : Bytes) (db : Database E) :
    List Grant :=
  db.payment.effects.rows.filterMap fun e =>
    (db.ledger.transactions.lookup e.2.ledgerTransactionId).bind fun journal =>
      if isGrant paymentId captureId e.2 = true ∧ inWindow incident journal = true ∧
          db.payment.effects.rows.all
            (fun r => !reverses paymentId e.2.ledgerTransactionId r.2) = true then
        some ⟨journal.sequenceNo, e.1, e.2.ledgerTransactionId, e.2.amountAtoms⟩
      else none

def candidateGrant (incident : CashbackIncident) (paymentId captureId : Bytes) (db : Database E) :
    Option Grant :=
  ((openGrants incident paymentId captureId db).insertionSort latestFirst).head?

/-- The repair id, which pins the incident, the grant and both amounts. -/
def repairIdOf (E : Engine) (incidentId paymentId captureId originalId : Bytes)
    (expected actual : Int) : Bytes :=
  deterministicId E "cashback-repair"
    [incidentId, paymentId, captureId, originalId, decimal expected, decimal actual]

def plannedManifest (E : Engine) (incident : CashbackIncident) (repairId paymentId captureId : Bytes)
    (grant : Grant) (assetId : Bytes) (expected actual : Int) : CashbackManifest :=
  { paymentId := paymentId
    originalTransactionId := grant.transactionId
    captureTransactionId := captureId
    postingRuleVersion := incident.buggyRuleVersion
    assetId := assetId
    expected := expected
    actual := actual
    excess := actual - expected
    correctionEffectId := deterministicId E "cashback-correction-effect" [repairId]
    correctionTransactionId := deterministicId E "cashback-correction-transaction" [repairId]
    status := .planned }

def sameManifest (left right : CashbackManifest) : Prop :=
  { left with status := .planned } = { right with status := .planned }
  deriving Decidable

/-- INSERT INTO cashback_repair_manifests, past the conflict on the repair id. -/
def insertManifest (repairId : Bytes) (m : CashbackManifest) (st : Store E) :
    Except Failure (Store E) := do
  (acceptsAll E [repairId, m.paymentId, m.originalTransactionId, m.captureTransactionId,
    m.postingRuleVersion, m.assetId, m.correctionEffectId,
    m.correctionTransactionId]).mapError fun error => .database (.ledger error)
  require (0 ≤ m.expected ∧ 0 ≤ m.actual ∧ 0 < m.excess ∧ m.actual = m.expected + m.excess)
    (.database (.violates .check))
  require (st.manifests.rows.all (fun e => e.2.correctionEffectId ≠ m.correctionEffectId ∧
    e.2.correctionTransactionId ≠ m.correctionTransactionId) = true) (.database (.violates .unique))
  require ((st.db.payment.captureFinancials.lookup m.captureTransactionId).isSome)
    (.database (.violates .foreignKey))
  return { st with manifests := st.manifests.insert repairId m }

def planCapture (incident : CashbackIncident) (paymentId captureId : Bytes) (st : Store E) :
    Except Failure (Store E × Option (Bytes × CashbackManifest)) := do
  let payment ← expect (st.db.payment.paymentOperations.lookup paymentId) .noRows
  let capture ← expect (st.db.payment.captureFinancials.lookup captureId) .noRows
  require (capture.paymentId = paymentId) .noRows
  let expected := capture.expectedCashbackAtoms
  let actual ← netCashbackForCapture st.db.payment paymentId captureId
  if actual ≤ expected then return (st, none)
  else do
    require (fitsDecimal38 (actual - expected)) .amountOverflow
    let grant ← expect (candidateGrant incident paymentId captureId st.db) .notRepairable
    require (grant.amount = actual - expected) (.notOneGrant paymentId expected actual grant.amount)
    let repairId := repairIdOf E incident.incidentId paymentId captureId grant.transactionId
      expected actual
    let manifest := plannedManifest E incident repairId paymentId captureId grant payment.assetId
      expected actual
    match st.manifests.lookup repairId with
    | some stored =>
      require (sameManifest stored manifest) .manifestConflict
      return (st, some (repairId, stored))
    | none =>
      let st ← insertManifest repairId manifest st
      return (st, some (repairId, manifest))

def planCaptures (incident : CashbackIncident) : List (Bytes × Bytes) → Store E →
    Except Failure (Store E × List (Bytes × CashbackManifest))
  | [], st => .ok (st, [])
  | (paymentId, captureId) :: rest, st => do
    let (st, planned) ← planCapture incident paymentId captureId st
    let (st, others) ← planCaptures incident rest st
    return (st, planned.toList ++ others)

def plan (incident : CashbackIncident) (st : Store E) :
    Except Failure (Store E × List (Bytes × CashbackManifest)) := do
  require incident.Valid .invalidIncident
  (acceptsAll E [incident.bookId, incident.buggyRuleVersion]).mapError fun error =>
    .database (.ledger error)
  planCaptures incident (candidates incident st.db) st

def postedReceipt (m : CashbackManifest) (db : Database E) : Except Failure Receipt := do
  let row ← expect (db.ledger.transactions.lookup m.correctionTransactionId) .noRows
  require (row.status = .posted) .noRows
  return { transactionId := m.correctionTransactionId
           bookId := row.bookId
           operationId := row.operationId
           effectId := row.effectId
           sequenceNo := row.sequenceNo
           entryHash := row.entryHash
           duplicate := true }

/-- The book of the granted entry, once its rule and its capture are those of the
manifest; the row of the join is any one of those that match. -/
def sourceBook (m : CashbackManifest) (db : Database E) : Except Failure Bytes := do
  let journal ← expect (db.ledger.transactions.lookup m.originalTransactionId) .noRows
  require (journal.status = .posted) .noRows
  let cashback ← expect (db.payment.effects.rows.find? fun e => e.2.paymentId = m.paymentId &&
    e.2.ledgerTransactionId = m.originalTransactionId && e.2.effectKind = .cashback) .noRows
  let linkedCaptureId ← expect cashback.2.originalTransactionId .nullColumn
  require (journal.postingRuleVersion = m.postingRuleVersion ∧
    linkedCaptureId = m.captureTransactionId) .manifestConflict
  return journal.bookId

def inverseLine (line : LineRow) : Line :=
  { accountId := line.accountId
    assetId := line.assetId
    side := (match line.side with | .debit => Side.credit | .credit => Side.debit).text
    amountAtoms := line.amountAtoms
    memo := ascii "cashback repair: " ++ line.memo }

def inverseLines (assetId : Bytes) : List (Int × LineRow) → Int → Int →
    Except Failure (List Line × Int × Int)
  | [], debit, credit => .ok ([], debit, credit)
  | (_, line) :: rest, debit, credit => do
    require (line.assetId = assetId) .manifestConflict
    let debit := if line.side = .debit then debit + line.amountAtoms else debit
    let credit := if line.side = .credit then credit + line.amountAtoms else credit
    require (fitsDecimal38 debit ∧ fitsDecimal38 credit) .amountOverflow
    let (lines, totals) ← inverseLines assetId rest debit credit
    return (inverseLine line :: lines, totals)

def inverseTransactionLines (st : Ledger.Tables E) (transactionId assetId : Bytes) (expected : Int) :
    Except Failure (List Line) := do
  let (lines, debitTotal, creditTotal) ←
    inverseLines assetId (orderByLineNo (linesOf st transactionId)) 0 0
  require (2 ≤ lines.length ∧ debitTotal = expected ∧ creditTotal = expected) .notRepairable
  return lines

def reversalKind : Bytes := ascii "CASHBACK_REVERSAL"

def correctionHash (E : Engine) (repairId : Bytes) : Digest :=
  E.sha256 (ascii "cashback-repair-request/v1" ++ ([0] ++ repairId))

def correctionRequest (E : Engine) (repairId : Bytes) (m : CashbackManifest) (bookId : Bytes)
    (lines : List Line) : PostRequest :=
  { transactionId := m.correctionTransactionId
    bookId := bookId
    operationId := deterministicId E "cashback-repair-operation" [repairId]
    effectId := m.correctionEffectId
    kind := reversalKind
    referenceTransactionId := some m.originalTransactionId
    postingRuleVersion := ascii "cashback-repair-v1"
    schemaVersion := 1
    requestHash := correctionHash E repairId
    metadata := Json.write (Json.object
      [("original_transaction_id", Payment.jsonString m.originalTransactionId),
        ("reason", Payment.jsonString (ascii "duplicate_cashback")),
        ("repair_id", Payment.jsonString repairId)])
    lines := lines }

def correctionEffect (E : Engine) (repairId : Bytes) (m : CashbackManifest) :
    Payment.EffectArguments :=
  { effectId := m.correctionEffectId
    paymentId := m.paymentId
    kind := .reversal
    amount := m.excess
    ledgerTransactionId := m.correctionTransactionId
    originalTransactionId := some m.originalTransactionId
    expectedCashback := none
    requestHash := correctionHash E repairId }

/-- linked_count of apply_cashback_repair_escrow_spend is one. -/
def manifestBound (repairId : Bytes) (request : Escrow.EffectRequest) (st : Store E) : Bool :=
  (st.manifests.lookup repairId).any fun m =>
    m.status = .planned && m.correctionEffectId = request.effectId &&
      m.assetId = request.assetId && m.excess = request.amount &&
      ((st.db.payment.paymentOperations.lookup m.paymentId).any fun payment =>
        payment.customerAvailableAccountId = request.accountId &&
          payment.assetId = request.assetId && payment.authorityRegion = some request.region) &&
      ((st.db.payment.effects.lookup m.correctionEffectId).any fun effect =>
        effect.paymentId = m.paymentId && effect.effectKind = .reversal &&
          effect.amountAtoms = m.excess &&
          effect.originalTransactionId = some m.originalTransactionId &&
          effect.ledgerTransactionId = m.correctionTransactionId) &&
      (st.db.ledger.transactions.lookup m.correctionTransactionId).any fun journal =>
        journal.effectId = m.correctionEffectId && journal.transactionKind = reversalKind &&
          journal.status = .posted

def cashbackRepairSpendInTx (repairId : Bytes) (request : Escrow.EffectRequest) (st : Store E) :
    Except Failure (Database E × Escrow.EffectReceipt) := do
  require (repairId ≠ []) (.payment (.escrow .invalidArgument))
  request.validate.mapError fun failure => .payment (.escrow failure)
  let hash := Escrow.hashEffect E .effectSpend request
  require (manifestBound repairId request st = true) .notManifestBound
  let (db, applied) ← (Payment.applyPaymentEscrowEffect .effectSpend request hash
    st.db).mapError fun error => .payment (Payment.mapEscrowError error)
  return (db, ⟨request.effectId, .effectSpend, hash, !applied⟩)

/-- The rights that go with a payment of an authority region. -/
def spendRights (repairId : Bytes) (m : CashbackManifest) (payment : Payment.PaymentRow)
    (st : Store E) : Except Failure (Database E) :=
  let region := payment.authorityRegion.getD []
  if region = [] then .ok st.db
  else do
    let (db, _) ← cashbackRepairSpendInTx repairId
      { effectId := m.correctionEffectId
        accountId := payment.customerAvailableAccountId
        assetId := m.assetId
        region := region
        amount := m.excess } st
    return db

def countReversal (m : CashbackManifest) (tables : Payment.Tables) :
    Except Failure Payment.Tables := do
  let counted ← (Payment.updateCapture m.captureTransactionId
    (fun row => row.paymentId = m.paymentId && row.expectedCashbackAtoms = m.expected)
    (fun row => { row with cashbackReversedAtoms := row.cashbackReversedAtoms + m.excess })
    tables).mapError Failure.database
  let tables ← expect counted .manifestConflict
  let counted ← (Payment.updatePayment m.paymentId (fun row => row.assetId = m.assetId)
    (fun row => { row with cashbackReversedAtoms := row.cashbackReversedAtoms + m.excess })
    tables).mapError Failure.database
  expect counted .manifestConflict

/-- The part of Execute that corrects: post the inverse, record it, count it. -/
def correct (repairId : Bytes) (m : CashbackManifest) (st : Store E) :
    Except Failure (Store E × Receipt) := do
  let bookId ← sourceBook m st.db
  let payment ← expect (st.db.payment.paymentOperations.lookup m.paymentId) .noRows
  require (payment.assetId = m.assetId) .manifestConflict
  let currentActual ← netCashbackForCapture st.db.payment m.paymentId m.captureTransactionId
  require (currentActual = m.actual) .cashbackChanged
  let lines ← inverseTransactionLines st.db.ledger m.originalTransactionId m.assetId m.excess
  let (ledger, receipt) ← (postInTx (correctionRequest E repairId m bookId lines) false
    st.db.ledger).mapError Failure.ledger
  let db ← (Payment.insertEffect (correctionEffect E repairId m)
    { st.db with ledger := ledger }).mapError Failure.database
  let db ← spendRights repairId m payment { st with db := db }
  let tables ← countReversal m db.payment
  require (m.status = .planned) .manifestConflict
  return (⟨{ db with payment := tables },
    st.manifests.insert repairId { m with status := .posted }⟩, receipt)

def execute (repairId : Bytes) (st : Store E) : Except Failure (Store E × Receipt) := do
  require (repairId ≠ []) .manifestConflict
  (acceptsAll E [repairId]).mapError fun error => .database (.ledger error)
  let m ← expect (st.manifests.lookup repairId) .noRows
  if m.status = .posted then do
    let receipt ← postedReceipt m st.db
    return (st, receipt)
  else correct repairId m st

/-- One attempt of a call per command; `elsewhere` is a transaction of another service,
which leaves that database. -/
inductive Command (E : Engine) where
  | plan (incident : CashbackIncident) (ending : Ending)
  | execute (repairId : Bytes) (ending : Ending)
  | elsewhere (other : Database E)

def step (st : Store E) : Command E → Store E
  | .plan incident ending => attempt (plan incident) ending st
  | .execute repairId ending => attempt (execute repairId) ending st
  | .elsewhere other => { st with db := other }

end PaymentPlatform.Repair
