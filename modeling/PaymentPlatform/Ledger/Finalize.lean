import Mathlib.Data.List.Dedup
import PaymentPlatform.Ledger.Hash

/-! finalize_ledger_transaction of migration 018: the only way a transaction
becomes POSTED. -/

namespace PaymentPlatform.Ledger

open Framing Serial

variable {E : Engine}

/-- SELECT ... FROM ledger_lines WHERE transaction_id = id. -/
def linesOf (st : Tables E) (id : Bytes) : List (Int × LineRow) :=
  (st.lines.rows.filter fun e => e.1.1 = id).map fun e => (e.1.2, e.2)

/-- sum(CASE WHEN side = s THEN amount_atoms ELSE 0 END) over the selected lines. -/
def sideTotal (side : Side) (select : LineRow → Bool) (lines : List (Int × LineRow)) : Int :=
  (lines.map fun e => if select e.2 ∧ e.2.side = side then e.2.amountAtoms else 0).sum

def balancedAssets (lines : List (Int × LineRow)) : Prop :=
  ∀ asset ∈ lines.map (fun e => e.2.assetId),
    sideTotal .debit (fun l => l.assetId = asset) lines =
      sideTotal .credit (fun l => l.assetId = asset) lines

instance (lines : List (Int × LineRow)) : Decidable (balancedAssets lines) :=
  List.decidableBAll _ _

def accountsMatch (st : Tables E) (bookId : Bytes) (lines : List (Int × LineRow)) : Prop :=
  ∀ e ∈ lines, ∀ account ∈ st.accounts.lookup e.2.accountId,
    e.2.assetId = account.assetId ∧ account.bookId = bookId

instance (st : Tables E) (bookId : Bytes) (lines : List (Int × LineRow)) :
    Decidable (accountsMatch st bookId lines) :=
  List.decidableBAll _ _

/-- The compare-and-swap on the chain head; next_sequence_no + 1 is INT8 arithmetic. -/
def advanceBook (st : Tables E) (row : TransactionRow E) : Except SqlError (Tables E) := do
  let book ← expect (st.books.lookup row.bookId) .compareAndSwap
  require (book.nextSequenceNo = row.sequenceNo ∧ book.lastEntryHash = row.prevHash)
    .compareAndSwap
  require (book.nextSequenceNo + 1 ≤ maxInt8) .outOfRange
  return { st with
    books := st.books.insert row.bookId
      { book with nextSequenceNo := book.nextSequenceNo + 1, lastEntryHash := row.entryHash } }

/-- Status becomes POSTED, subject to the partial unique index on
(book_id, sequence_no). -/
def postRow (st : Tables E) (id : Bytes) (row : TransactionRow E) : Except SqlError (Tables E) := do
  require (∀ e ∈ st.transactions.rows, e.2.status = .posted → e.2.bookId = row.bookId →
    e.2.sequenceNo ≠ row.sequenceNo) (.violates .unique)
  return { st with transactions := st.transactions.insert id { row with status := .posted } }

/-- The shadow projection of a reference once the migration has started. -/
def projectReference (st : Tables E) (id : Bytes) (row : TransactionRow E) : Tables E :=
  match row.referenceTransactionId, st.referencePhase with
  | none, _ => st
  | some _, none => st
  | some _, some .expanded => st
  | some reference, some _ =>
    if (st.referencesShadow.lookup id).isSome then st
    else
      { st with
        referencesShadow := st.referencesShadow.insert id
          { referenceType := ascii "LEDGER_TRANSACTION"
            referenceId := reference
            sourceSchemaVersion := row.schemaVersion } }

def oriented (normalSide : Side) (debit credit : Int) : Int :=
  match normalSide with
  | .debit => debit - credit
  | .credit => credit - debit

/-- The row an INSERT ... ON CONFLICT DO UPDATE leaves for one account group. -/
def addBalance (stored : Option BalanceRow) (debit credit current sequenceNo : Int) : BalanceRow :=
  match stored with
  | none => ⟨debit, credit, current, sequenceNo⟩
  | some row =>
    { debitAtoms := row.debitAtoms + debit
      creditAtoms := row.creditAtoms + credit
      currentBalanceAtoms := row.currentBalanceAtoms + current
      lastSequenceNo := max row.lastSequenceNo sequenceNo }

def BalanceRow.storable (row : BalanceRow) : Prop :=
  fitsDecimal38 row.debitAtoms ∧ fitsDecimal38 row.creditAtoms ∧
    fitsDecimal38 row.currentBalanceAtoms
  deriving Decidable

/-- One group of GROUP BY line.account_id, account.normal_side. -/
def applyBalance (lines : List (Int × LineRow)) (sequenceNo : Int) (st : Tables E)
    (accountId : Bytes) : Except SqlError (Tables E) :=
  match st.accounts.lookup accountId with
  | none => .ok st
  | some account => do
    let debit := sideTotal .debit (fun l => l.accountId = accountId) lines
    let credit := sideTotal .credit (fun l => l.accountId = accountId) lines
    let current := oriented account.normalSide debit credit
    require (fitsDecimal38 debit ∧ fitsDecimal38 credit ∧ fitsDecimal38 current) .outOfRange
    let row := addBalance (st.accountBalances.lookup accountId) debit credit current sequenceNo
    require row.storable .outOfRange
    require (0 ≤ row.debitAtoms ∧ 0 ≤ row.creditAtoms ∧ 0 ≤ row.lastSequenceNo) (.violates .check)
    return { st with accountBalances := st.accountBalances.insert accountId row }

def lineAccounts (lines : List (Int × LineRow)) : List Bytes :=
  (lines.map fun e => e.2.accountId).dedup

def applyBalances (st : Tables E) (lines : List (Int × LineRow)) (sequenceNo : Int) :
    Except SqlError (Tables E) :=
  (lineAccounts lines).foldlM (applyBalance lines sequenceNo) st

/-- A spend-limited account of the transaction stays above minus its credit limit. -/
def withinLimits (st : Tables E) (lines : List (Int × LineRow)) : Prop :=
  ∀ accountId ∈ lineAccounts lines, ∀ account ∈ st.accounts.lookup accountId,
    ∀ balance ∈ st.accountBalances.lookup accountId,
      account.enforceSpendLimit = true → -account.creditLimitAtoms ≤ balance.currentBalanceAtoms

instance (st : Tables E) (lines : List (Int × LineRow)) : Decidable (withinLimits st lines) :=
  List.decidableBAll _ _

def checkDraft (st : Tables E) (id : Bytes) (row : TransactionRow E) : Except SqlError Unit := do
  let lines := linesOf st id
  require (2 ≤ lines.length) .twoLines
  require (balancedAssets lines) .notBalanced
  require (accountsMatch st row.bookId lines) .accountMismatch
  require ((lines.map Prod.fst).min? = some 1 ∧ (lines.map Prod.fst).max? = some lines.length)
    .notContiguous
  let canonical ← expect row.canonicalMetadata .metadataMissing
  let represented ← expect (E.parseJsonb canonical) .invalidJson
  require (represented = row.metadata) .metadataMismatch
  let input ← expect (canonicalHashInput id row canonical lines) .outOfRange
  require (E.sha256 input = row.entryHash) .hashMismatch

def finalizeLedgerTransaction (id : Bytes) (st : Tables E) :
    Except SqlError (Tables E × Option Bytes) :=
  match st.transactions.lookup id with
  | none => .ok (st, none)
  | some row =>
    if row.status ≠ .draft then .ok (st, none)
    else do
      checkDraft st id row
      let st ← advanceBook st row
      let st ← postRow st id row
      let st := projectReference st id row
      let st ← applyBalances st (linesOf st id) row.sequenceNo
      require (withinLimits st (linesOf st id)) .exceedsBalance
      return (st, some id)

end PaymentPlatform.Ledger
