import PaymentPlatform.Ledger.Finalize

/-! internal/ledger/service.go: books, accounts, postInTx and FoldBalance. Every
function is the body of one serializable transaction; `step` commits it or rolls
it back. -/

namespace PaymentPlatform.Ledger

open Framing Serial

variable {E : Engine}

/-- A statement whose error the service passes through mapDatabaseError. -/
def mapped {α : Type} (result : Except SqlError α) : Except Failure α :=
  result.mapError mapDatabaseError

@[simp] theorem mapped_ok {α : Type} {result : Except SqlError α} {a : α} :
    mapped result = .ok a ↔ result = .ok a := by
  simp [mapped]

def acceptsAll (E : Engine) (texts : List Bytes) : Except SqlError Unit :=
  require (∀ text ∈ texts, E.acceptsText text = true) .invalidText

def registerAsset (assetId displayCode : Bytes) (atomicScale : Int) (st : Tables E) :
    Except Failure (Tables E × Unit) := do
  require (assetId ≠ [] ∧ displayCode ≠ [] ∧ 0 ≤ atomicScale ∧ atomicScale ≤ 18)
    (.invalidPosting "invalid asset")
  match st.assets.lookup assetId with
  | some stored =>
    require (stored = ⟨displayCode, atomicScale⟩)
      (.invalidPosting "asset id exists with different definition")
    return (st, ())
  | none =>
    mapped (acceptsAll E [assetId, displayCode])
    require (∀ e ∈ st.assets.rows, e.2.displayCode ≠ displayCode)
      (.database (.violates .unique))
    return ({ st with assets := st.assets.insert assetId ⟨displayCode, atomicScale⟩ }, ())

/-- upsertBookInTx: CreateBookInTx requires a book that has never posted,
EnsureBookInTx does not. -/
def upsertBookInTx (book : Book) (requireUnposted : Bool) (st : Tables E) :
    Except Failure (Tables E × Unit) := do
  book.validate
  let genesis := if book.genesisHash = zeroDigest then genesisHash E book.bookId
    else book.genesisHash
  match st.books.lookup book.bookId with
  | none =>
    mapped (acceptsAll E [book.bookId, book.legalEntityId, book.jurisdiction])
    return ({ st with
      books := st.books.insert book.bookId ⟨book.legalEntityId, book.jurisdiction, 1, genesis⟩ }, ())
  | some stored =>
    require (stored.legalEntityId = book.legalEntityId ∧ stored.jurisdiction = book.jurisdiction)
      (.invalidPosting "book id exists with a different definition")
    require (requireUnposted = true → stored.nextSequenceNo = 1)
      (.invalidPosting "book id exists and has already posted")
    require (stored.nextSequenceNo = 1 → stored.lastEntryHash = genesis)
      (.invalidPosting "book id exists with a different genesis")
    return (st, ())

def sameAccount (account : Account) (stored : AccountRow) : Prop :=
  stored.bookId = account.bookId ∧ stored.assetId = account.assetId ∧
    stored.accountType = account.accountType ∧ stored.normalSide.text = account.normalSide ∧
    stored.enforceSpendLimit = account.enforceSpendLimit ∧
    stored.creditLimitAtoms = account.creditLimitAtoms
  deriving Decidable

/-- INSERT INTO accounts with its CHECK and FOREIGN KEY constraints. -/
def insertAccount (account : Account) (st : Tables E) : Except SqlError (Tables E) := do
  acceptsAll E [account.accountId, account.bookId, account.assetId, account.accountType]
  let side ← expect (Side.ofText account.normalSide) (.violates .check)
  require (fitsDecimal38 account.creditLimitAtoms) .outOfRange
  require (0 ≤ account.creditLimitAtoms) (.violates .check)
  require ((st.books.lookup account.bookId).isSome ∧ (st.assets.lookup account.assetId).isSome)
    (.violates .foreignKey)
  return { st with
    accounts := st.accounts.insert account.accountId
      { bookId := account.bookId
        assetId := account.assetId
        accountType := account.accountType
        normalSide := side
        enforceSpendLimit := account.enforceSpendLimit
        creditLimitAtoms := account.creditLimitAtoms } }

def openBalance (accountId : Bytes) (st : Tables E) : Tables E :=
  match st.accountBalances.lookup accountId with
  | some _ => st
  | none => { st with accountBalances := st.accountBalances.insert accountId ⟨0, 0, 0, 0⟩ }

def createAccountInTx (account : Account) (st : Tables E) : Except Failure (Tables E × Unit) := do
  account.validate
  match st.accounts.lookup account.accountId with
  | none =>
    let st ← (insertAccount account st).mapError Failure.database
    return (openBalance account.accountId st, ())
  | some stored =>
    require (sameAccount account stored)
      (.invalidPosting "account id exists with different definition")
    return (openBalance account.accountId st, ())

/-- The row of an effect, if it is one of this very request. -/
def receiptByEffect (st : Tables E) (request : PostRequest) : Except Failure (Option Receipt) :=
  match st.transactions.rows.find? (fun e => e.2.effectId = request.effectId) with
  | none => .ok none
  | some (id, row) => do
    require (row.requestHash = request.requestHash ∧ row.bookId = request.bookId ∧
        row.operationId = request.operationId ∧ row.transactionKind = request.kind ∧
        row.postingRuleVersion = request.postingRuleVersion ∧
        row.schemaVersion = request.schemaVersion.toInt ∧
        row.referenceTransactionId = request.referenceTransactionId) .effectConflict
    require (row.status = .posted) .effectNotPosted
    return some
      { transactionId := id
        bookId := row.bookId
        operationId := row.operationId
        effectId := row.effectId
        sequenceNo := row.sequenceNo
        entryHash := row.entryHash
        duplicate := true }

/-- The DRAFT row that postInTx stores for a request with canonical metadata. -/
def draftRow (request : PostRequest) (metadata : E.Jsonb) (sequenceNo : Int)
    (prevHash entryHash : Digest) : TransactionRow E :=
  { bookId := request.bookId
    operationId := request.operationId
    effectId := request.effectId
    transactionKind := request.kind
    referenceTransactionId := request.referenceTransactionId
    postingRuleVersion := request.postingRuleVersion
    schemaVersion := request.schemaVersion.toInt
    requestHash := request.requestHash
    metadata := metadata
    canonicalMetadata := some request.metadata
    status := .draft
    sequenceNo := sequenceNo
    prevHash := prevHash
    entryHash := entryHash
    paymentTemplateVerified := false }

/-- INSERT INTO ledger_transactions ... ON CONFLICT (effect_id) DO NOTHING; none
when the effect already has a row. -/
def insertDraft (request : PostRequest) (sequenceNo : Int) (prevHash entryHash : Digest)
    (st : Tables E) : Except SqlError (Option (Tables E)) := do
  acceptsAll E ([request.transactionId, request.bookId, request.operationId, request.effectId,
    request.kind, request.postingRuleVersion] ++ request.referenceTransactionId.toList)
  let metadata ← expect (E.parseJsonb request.metadata) .invalidJson
  if st.transactions.rows.any (fun e => e.2.effectId = request.effectId) then return none
  else do
    require (0 < sequenceNo ∧ 0 < request.schemaVersion.toInt) (.violates .check)
    require (st.transactions.lookup request.transactionId = none) (.violates .primaryKey)
    require ((st.books.lookup request.bookId).isSome) (.violates .foreignKey)
    require (∀ reference ∈ request.referenceTransactionId,
      (st.transactions.lookup reference).isSome ∨ reference = request.transactionId)
      (.violates .foreignKey)
    return some { st with
      transactions := st.transactions.insert request.transactionId
        (draftRow request metadata sequenceNo prevHash entryHash) }

/-- INSERT INTO ledger_lines with the trigger enforce_ledger_line_insert. -/
def insertLine (id : Bytes) (lineNo : Int) (line : Line) (st : Tables E) :
    Except SqlError (Tables E) := do
  acceptsAll E [line.accountId, line.assetId, line.side, line.memo]
  require (fitsDecimal38 line.amountAtoms) .outOfRange
  let parent ← expect (st.transactions.lookup id) .linesOnlyOnDraft
  require (parent.status = .draft) .linesOnlyOnDraft
  let account ← expect (st.accounts.lookup line.accountId) .differentBook
  require (account.bookId = parent.bookId) .differentBook
  require (account.assetId = line.assetId) .assetMismatch
  let side ← expect (Side.ofText line.side) (.violates .check)
  require (0 < lineNo ∧ 0 < line.amountAtoms) (.violates .check)
  require (st.lines.lookup (id, lineNo) = none) (.violates .primaryKey)
  require ((st.assets.lookup line.assetId).isSome) (.violates .foreignKey)
  return { st with
    lines := st.lines.insert (id, lineNo)
      { accountId := line.accountId
        assetId := line.assetId
        side := side
        amountAtoms := line.amountAtoms
        memo := line.memo } }

def insertLines (id : Bytes) : Nat → List Line → Tables E → Except SqlError (Tables E)
  | _, [], st => .ok st
  | index, line :: rest, st => do
    let st ← insertLine id (index + 1) line st
    insertLines id (index + 1) rest st

def receiptOf (request : PostRequest) (sequenceNo : Int) (entryHash : Digest) : Receipt :=
  { transactionId := request.transactionId
    bookId := request.bookId
    operationId := request.operationId
    effectId := request.effectId
    sequenceNo := sequenceNo
    entryHash := entryHash
    duplicate := false }

/-- The part of postInTx that stores the DRAFT with its lines, for a request whose
metadata is canonical and whose effect has no row. -/
def storeDraft (request : PostRequest) (st : Tables E) :
    Except Failure (Option (Tables E) × Receipt) := do
  let book ← expect (st.books.lookup request.bookId) .noRows
  let entryHash ← hashEntry E book.lastEntryHash book.nextSequenceNo request
  let stored ← mapped (insertDraft request book.nextSequenceNo book.lastEntryHash entryHash st)
  match stored with
  | none => return (none, receiptOf request book.nextSequenceNo entryHash)
  | some st =>
    let st ← mapped (insertLines request.transactionId 0 request.lines st)
    return (some st, receiptOf request book.nextSequenceNo entryHash)

def postInTx (request : PostRequest) (paymentDraft : Bool) (st : Tables E) :
    Except Failure (Tables E × Receipt) := do
  request.validate
  let metadata ← expect (canonicalJson request.metadata) (.invalidPosting "metadata")
  let request := { request with metadata := metadata }
  let existing ← receiptByEffect st request
  match existing with
  | some receipt => return (st, receipt)
  | none =>
    let (stored, receipt) ← storeDraft request st
    match stored with
    | none =>
      let existing ← receiptByEffect st request
      let receipt ← expect existing .effectNotExposed
      return (st, receipt)
    | some st =>
      if paymentDraft then return (st, receipt)
      else do
        let (st, finalized) ← mapped (finalizeLedgerTransaction request.transactionId st)
        require (finalized = some request.transactionId) .notOneRow
        return (st, receipt)

def isPosted (st : Tables E) (id : Bytes) : Bool :=
  match st.transactions.lookup id with
  | some row => row.status = .posted
  | none => false

def postedTotal (st : Tables E) (side : Side) (accountId : Bytes) : Int :=
  st.lines.total fun key line =>
    if line.accountId = accountId ∧ isPosted st key.1 ∧ line.side = side then line.amountAtoms
    else 0

/-- FoldBalance; the cast to DECIMAL(38,0) raises where the value does not fit. -/
def foldBalance (st : Tables E) (accountId : Bytes) : Except Failure Int := do
  let account ← expect (st.accounts.lookup accountId) .accountNotFound
  let value := oriented account.normalSide (postedTotal st .debit accountId)
    (postedTotal st .credit accountId)
  require (fitsDecimal38 value) (.database .outOfRange)
  return value

inductive Command where
  | createAccount (account : Account)
  | post (request : PostRequest) (paymentDraft : Bool)
  | finalize (transactionId : Bytes)

def step (st : Tables E) : Command → Tables E
  | .createAccount account => commit (createAccountInTx account) st
  | .post request paymentDraft => commit (postInTx request paymentDraft) st
  | .finalize id => commit (finalizeLedgerTransaction id) st

/- A small ledger to evaluate the model with: one book, one asset. -/

def sampleTables : Tables sampleEngine where
  assets := (∅ : Table Bytes AssetRow).insert (ascii "KZT") ⟨ascii "KZT", 2⟩
  books := (∅ : Table Bytes BookRow).insert (ascii "book")
    ⟨ascii "entity", ascii "KZ", 1, genesisHash sampleEngine (ascii "book")⟩
  accounts := ∅
  accountBalances := ∅
  transactions := ∅
  lines := ∅
  referencesShadow := ∅
  referencePhase := none

def sampleAccount (accountId : String) (side : Side) (enforceSpendLimit : Bool) : Account :=
  { accountId := ascii accountId
    bookId := ascii "book"
    assetId := ascii "KZT"
    accountType := ascii "CUSTOMER"
    normalSide := side.text
    enforceSpendLimit := enforceSpendLimit
    creditLimitAtoms := 0 }

def samplePosting (transactionId : String) (amount : Int) (memo : Bytes) : PostRequest :=
  { transactionId := ascii transactionId
    bookId := ascii "book"
    operationId := ascii "operation"
    effectId := ascii transactionId
    kind := ascii "DEPOSIT"
    referenceTransactionId := none
    postingRuleVersion := ascii "v1"
    schemaVersion := 1
    requestHash := zeroDigest
    metadata := []
    lines := [⟨ascii "cash", ascii "KZT", Side.debit.text, amount, memo⟩,
      ⟨ascii "alice", ascii "KZT", Side.credit.text, amount, memo⟩] }

/-- Two accounts, a payment draft that is finalized by a later call, a posting, a
rejected posting and a second finalization of a posted entry. -/
def sampleCommands : List Command :=
  [.createAccount (sampleAccount "cash" .debit false),
    .createAccount (sampleAccount "alice" .credit true),
    .post (samplePosting "t1" 5 []) true,
    .finalize (ascii "t1"),
    .post (samplePosting "t2" 7 (ascii "top up")) false,
    .post (samplePosting "t3" 0 []) false,
    .finalize (ascii "t1")]

end PaymentPlatform.Ledger
