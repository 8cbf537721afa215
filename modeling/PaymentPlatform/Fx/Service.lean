import PaymentPlatform.Payment.Execute

/-! internal/fx/service.go over fx_quotes and fx_quote_consumptions (migration 001):
immutable quotes, each consumed by one posting with two legs. Instants are
nanoseconds in Go and microseconds in the database. -/

namespace PaymentPlatform.Fx

open Framing Ledger Serial Idgen

variable {E : Engine}

inductive RoundingRule where
  | floor
  | ceiling
  | halfEven
  deriving DecidableEq, Repr

def RoundingRule.text : RoundingRule → Bytes
  | .floor => ascii "FLOOR"
  | .ceiling => ascii "CEILING"
  | .halfEven => ascii "HALF_EVEN"

def RoundingRule.ofText (text : Bytes) : Option RoundingRule :=
  [RoundingRule.floor, .ceiling, .halfEven].find? fun rule => rule.text = text

structure QuoteRow where
  baseAssetId : Bytes
  quoteAssetId : Bytes
  rateNumerator : Int
  rateDenominator : Int
  baseAmountAtoms : Int
  quoteAmountAtoms : Int
  roundingRule : RoundingRule
  expiresAt : Int
  deriving DecidableEq

structure ConsumptionRow where
  effectId : Bytes
  ledgerTransactionId : Bytes
  deriving DecidableEq

/-- The database of the service with its own two tables, both by quote id. -/
structure Store (E : Engine) where
  db : Database E
  quotes : Table Bytes QuoteRow
  consumptions : Table Bytes ConsumptionRow

inductive Failure where
  | invalidQuote
  | quoteNotFound
  | quoteExpired
  | quoteConsumed
  /-- ledger.ErrAmountOverflow, of ParseAmount. -/
  | amountOverflow
  | cachedTerminalFailure
  | corruptResponse
  | idempotency (failure : Payment.Failure)
  | ledger (failure : Ledger.Failure)
  | database (error : Ledger.SqlError)
  deriving DecidableEq, Repr

/-- The quotient of a product, adjusted by its remainder as the rule says. -/
def rounded (rule : RoundingRule) (product denominator : Int) : Int :=
  let quotient := product.tdiv denominator
  let remainder := product.tmod denominator
  match rule with
  | .floor => quotient
  | .ceiling => if remainder ≠ 0 then quotient + 1 else quotient
  | .halfEven =>
    if denominator < 2 * remainder ∨ (2 * remainder = denominator ∧ quotient % 2 = 1)
    then quotient + 1 else quotient

def convert (base numerator denominator : Int) (rule : Bytes) : Except Failure Int := do
  require (0 < base ∧ 0 < numerator ∧ 0 < denominator) .invalidQuote
  let rule ← expect (RoundingRule.ofText rule) .invalidQuote
  let amount := rounded rule (base * numerator) denominator
  require (fitsDecimal38 amount) .amountOverflow
  return amount

structure CreateQuoteRequest where
  baseAssetId : Bytes
  quoteAssetId : Bytes
  rateNumerator : Int
  rateDenominator : Int
  baseAmount : Int
  roundingRule : Bytes
  /-- Nanoseconds since 1970. -/
  expiresAt : Int
  deriving DecidableEq

def zeroTime : Int := -62135596800000000000

def CreateQuoteRequest.Valid (r : CreateQuoteRequest) : Prop :=
  r.baseAssetId ≠ [] ∧ r.quoteAssetId ≠ [] ∧ r.baseAssetId ≠ r.quoteAssetId ∧
    r.expiresAt ≠ zeroTime
  deriving Decidable

def insertQuote (quoteId : Bytes) (row : QuoteRow) (st : Store E) : Except Failure (Store E) := do
  (acceptsAll E [quoteId, row.baseAssetId, row.quoteAssetId]).mapError Failure.database
  require (fitsDecimal38 row.rateNumerator ∧ fitsDecimal38 row.rateDenominator ∧
    fitsDecimal38 row.baseAmountAtoms ∧ fitsDecimal38 row.quoteAmountAtoms)
    (.database .outOfRange)
  require (0 < row.rateNumerator ∧ 0 < row.rateDenominator ∧ 0 < row.baseAmountAtoms ∧
    0 < row.quoteAmountAtoms ∧ row.baseAssetId ≠ row.quoteAssetId) (.database (.violates .check))
  require (st.quotes.lookup quoteId = none) (.database (.violates .primaryKey))
  require ((st.db.ledger.assets.lookup row.baseAssetId).isSome ∧
    (st.db.ledger.assets.lookup row.quoteAssetId).isSome) (.database (.violates .foreignKey))
  return { st with quotes := st.quotes.insert quoteId row }

/-- CreateQuote; the answer is the id and the stored quote. The driver cuts instants
to microseconds. -/
def createQuote (request : CreateQuoteRequest) (id : Identifier) (st : Store E) :
    Except Failure (Store E × Bytes × QuoteRow) := do
  require request.Valid .invalidQuote
  let quoteAmount ← (convert request.baseAmount request.rateNumerator request.rateDenominator
    request.roundingRule).mapError fun _ => .invalidQuote
  require (0 < quoteAmount) .invalidQuote
  let rule ← expect (RoundingRule.ofText request.roundingRule) .invalidQuote
  let quoteId := ascii "quote_" ++ id.text
  let row : QuoteRow :=
    { baseAssetId := request.baseAssetId
      quoteAssetId := request.quoteAssetId
      rateNumerator := request.rateNumerator
      rateDenominator := request.rateDenominator
      baseAmountAtoms := request.baseAmount
      quoteAmountAtoms := quoteAmount
      roundingRule := rule
      expiresAt := request.expiresAt / 1000 }
  let st ← insertQuote quoteId row st
  return (st, quoteId, row)

structure ExchangeRequest where
  scope : Bytes
  idempotencyKey : Bytes
  quoteId : Bytes
  bookId : Bytes
  baseDebitAccountId : Bytes
  basePositionAccountId : Bytes
  quotePositionAccountId : Bytes
  quoteCreditAccountId : Bytes
  postingRuleVersion : Bytes
  deriving DecidableEq

def ExchangeRequest.Valid (r : ExchangeRequest) : Prop :=
  r.scope ≠ [] ∧ r.idempotencyKey ≠ [] ∧ r.quoteId ≠ [] ∧ r.bookId ≠ [] ∧
    r.baseDebitAccountId ≠ [] ∧ r.basePositionAccountId ≠ [] ∧ r.quotePositionAccountId ≠ [] ∧
    r.quoteCreditAccountId ≠ [] ∧ r.postingRuleVersion ≠ []
  deriving Decidable

/-- The struct has no tags, so its members are named as its fields. -/
def ExchangeRequest.json (r : ExchangeRequest) : Json.Value :=
  Json.object [("Scope", Payment.jsonString r.scope),
    ("IdempotencyKey", Payment.jsonString r.idempotencyKey),
    ("QuoteID", Payment.jsonString r.quoteId), ("BookID", Payment.jsonString r.bookId),
    ("BaseDebitAccountID", Payment.jsonString r.baseDebitAccountId),
    ("BasePositionAccountID", Payment.jsonString r.basePositionAccountId),
    ("QuotePositionAccountID", Payment.jsonString r.quotePositionAccountId),
    ("QuoteCreditAccountID", Payment.jsonString r.quoteCreditAccountId),
    ("PostingRuleVersion", Payment.jsonString r.postingRuleVersion)]

structure Receipt where
  quoteId : Bytes
  baseAmount : Int
  quoteAmount : Int
  ledger : Ledger.Receipt
  duplicate : Bool
  deriving DecidableEq

def Receipt.json (r : Receipt) : Json.Value :=
  Json.object [("quote_id", Payment.jsonString r.quoteId),
    ("base_amount_atoms", Payment.jsonAmount r.baseAmount),
    ("quote_amount_atoms", Payment.jsonAmount r.quoteAmount),
    ("ledger", Payment.ledgerReceiptJson r.ledger), ("duplicate", .bool r.duplicate)]

def receiptOfJson (value : Json.Value) : Option Receipt := do
  let quoteId ← Payment.field Payment.stringOf "quote_id" value
  let baseAmount ← (Payment.field Payment.stringOf "base_amount_atoms" value).bind
    Payment.parseAmount
  let quoteAmount ← (Payment.field Payment.stringOf "quote_amount_atoms" value).bind
    Payment.parseAmount
  let ledger ← Payment.field Payment.ledgerReceiptOf "ledger" value
  let duplicate ← Payment.field Payment.flagOf "duplicate" value
  return ⟨quoteId, baseAmount, quoteAmount, ledger, duplicate⟩

def Receipt.again (r : Receipt) : Receipt :=
  { r with duplicate := true, ledger := { r.ledger with duplicate := true } }

def ExchangeRequest.claimScope (r : ExchangeRequest) : Bytes := r.scope ++ ascii "/fx"

/-- The two legs; the currencies are never netted. -/
def exchangeLines (request : ExchangeRequest) (quote : QuoteRow) : List Line :=
  [⟨request.baseDebitAccountId, quote.baseAssetId, Side.debit.text, quote.baseAmountAtoms,
      ascii "FX base debit"⟩,
    ⟨request.basePositionAccountId, quote.baseAssetId, Side.credit.text, quote.baseAmountAtoms,
      ascii "FX base position"⟩,
    ⟨request.quotePositionAccountId, quote.quoteAssetId, Side.debit.text, quote.quoteAmountAtoms,
      ascii "FX quote position"⟩,
    ⟨request.quoteCreditAccountId, quote.quoteAssetId, Side.credit.text, quote.quoteAmountAtoms,
      ascii "FX quote credit"⟩]

def exchangeJournal (request : ExchangeRequest) (quote : QuoteRow) (hash : Digest)
    (ids : Payment.ExecutionIds) : PostRequest :=
  { transactionId := ids.transactionId
    bookId := request.bookId
    operationId := ids.operationId
    effectId := ids.effectId
    kind := ascii "FX"
    referenceTransactionId := none
    postingRuleVersion := request.postingRuleVersion
    schemaVersion := 1
    requestHash := hash
    metadata := Json.write (Json.object [("quote_id", Payment.jsonString request.quoteId)])
    lines := exchangeLines request quote }

def cachedReceipt (stored : IdempotencyRow E) : Except Failure Receipt := do
  let payload ← expect stored.responsePayload .corruptResponse
  let value ← expect (Json.parse (E.jsonbText payload)) .corruptResponse
  let receipt ← expect (receiptOfJson value) .corruptResponse
  return receipt.again

def loadQuote (quoteId : Bytes) (st : Store E) : Except Failure QuoteRow := do
  (acceptsAll E [quoteId]).mapError Failure.database
  expect (st.quotes.lookup quoteId) .quoteNotFound

def insertConsumption (quoteId : Bytes) (row : ConsumptionRow) (st : Store E) :
    Except Failure (Store E) := do
  (acceptsAll E [quoteId, row.effectId, row.ledgerTransactionId]).mapError Failure.database
  require (st.consumptions.lookup quoteId = none) (.database (.violates .primaryKey))
  require (st.consumptions.rows.all (fun e =>
    e.2.effectId ≠ row.effectId ∧ e.2.ledgerTransactionId ≠ row.ledgerTransactionId) = true)
    (.database (.violates .unique))
  require ((st.quotes.lookup quoteId).isSome ∧
    (st.db.ledger.transactions.lookup row.ledgerTransactionId).isSome)
    (.database (.violates .foreignKey))
  return { st with consumptions := st.consumptions.insert quoteId row }

def publishExchange (eventId : Bytes) (receipt : Receipt) (db : Database E) :
    Except Failure (Database E) := do
  let headers ← expect (E.parseJsonb (Payment.eventHeaders "fx.exchanged")) (.database .invalidJson)
  (db.enqueue eventId
    { topic := ascii "payment-events"
      messageKey := receipt.quoteId
      payload := Json.write receipt.json
      headers := headers
      aggregateId := receipt.quoteId
      aggregateVersion := 0
      parentTransactionId := some receipt.ledger.transactionId }).mapError Failure.database

/-- The part of Exchange under a claim of its own: check the quote, post, consume,
publish. -/
def convertQuote (request : ExchangeRequest) (hash : Digest) (ids : Payment.ExecutionIds)
    (now : Int) (st : Store E) : Except Failure (Store E × Receipt) := do
  let quote ← loadQuote request.quoteId st
  require (∀ consumed ∈ st.consumptions.lookup request.quoteId, consumed.effectId = ids.effectId)
    .quoteConsumed
  require (¬ quote.expiresAt ≤ now) .quoteExpired
  let (ledger, journal) ← (postInTx (exchangeJournal request quote hash ids) false
    st.db.ledger).mapError Failure.ledger
  let st ← insertConsumption request.quoteId ⟨ids.effectId, journal.transactionId⟩
    { st with db := { st.db with ledger := ledger } }
  let receipt : Receipt :=
    ⟨request.quoteId, quote.baseAmountAtoms, quote.quoteAmountAtoms, journal, false⟩
  let db ← publishExchange ids.outboxEventId receipt st.db
  return ({ st with db := db }, receipt)

/-- One attempt of Exchange; `now` is transaction_timestamp(). -/
def exchange (request : ExchangeRequest) (draw : Payment.Draw) (now : Int) (st : Store E) :
    Except Failure (Store E × Receipt) := do
  require request.Valid .invalidQuote
  let hash ← (Payment.requestHash E request.json).mapError Failure.idempotency
  let ids := draw.ids
  let (db, stored, cached) ← (Payment.claim ⟨request.claimScope, request.idempotencyKey, hash,
    ids.ownerToken, ids.operationId, Payment.claimLease⟩ now st.db).mapError Failure.idempotency
  if cached then
    if stored.state = .failed then .error .cachedTerminalFailure
    else do
      let receipt ← cachedReceipt stored
      return ({ st with db := db }, receipt)
  else do
    let (st, receipt) ← convertQuote request hash ids now { st with db := db }
    let db ← (Payment.complete request.claimScope request.idempotencyKey ids.ownerToken
      receipt.ledger.transactionId receipt.json st.db).mapError Failure.idempotency
    return ({ st with db := db }, receipt)

structure Conversion where
  quoteId : Bytes
  transactionId : Bytes
  at_ : Int
  deriving DecidableEq

structure System (E : Engine) where
  store : Store E
  conversions : List Conversion

def recordedExchange (request : ExchangeRequest) (draw : Payment.Draw) (now : Int)
    (s : System E) : Except Failure (System E × Receipt) := do
  let (store, receipt) ← exchange request draw now s.store
  let conversions := if receipt.duplicate then s.conversions
    else s.conversions ++ [⟨receipt.quoteId, receipt.ledger.transactionId, now⟩]
  return (⟨store, conversions⟩, receipt)

def recordedQuote (request : CreateQuoteRequest) (id : Identifier) (s : System E) :
    Except Failure (System E × Bytes × QuoteRow) := do
  let (store, answer) ← createQuote request id s.store
  return ({ s with store := store }, answer)

/-- One attempt of a call per command, so that a retry is a command of its own;
`elsewhere` is a transaction of another service, which leaves that database. -/
inductive Command (E : Engine) where
  | createQuote (request : CreateQuoteRequest) (id : Identifier) (ending : Ending)
  | exchange (request : ExchangeRequest) (draw : Payment.Draw) (now : Int) (ending : Ending)
  | elsewhere (other : Database E)

def step (s : System E) : Command E → System E
  | .createQuote request id ending => attempt (recordedQuote request id) ending s
  | .exchange request draw now ending => attempt (recordedExchange request draw now) ending s
  | .elsewhere other => { s with store := { s.store with db := other } }

end PaymentPlatform.Fx
