import PaymentPlatform.Fx.Service
import PaymentPlatform.Ledger.Entries
import PaymentPlatform.Payment.Replay

/-! What one attempt of Exchange leaves: the quote it consumed and the entry it posted,
or the answer of a stored record. -/

namespace PaymentPlatform.Fx

open Framing Ledger Serial

variable {E : Engine}
variable {receipt : Receipt} {request : ExchangeRequest} {hash : Digest} {now : Int}
  {draw : Payment.Draw} {quote : QuoteRow}

structure Readable (E : Engine) (r : Receipt) : Prop where
  quote : E.acceptsText r.quoteId = true
  ledger : r.ledger.Storable E
  base : fitsDecimal38 r.baseAmount
  quoted : fitsDecimal38 r.quoteAmount

theorem ledgerReceipt_storable (reads : Payment.ReadsBack E) {r : Ledger.Receipt}
    (storable : r.Storable E) : Payment.ledgerReceiptOf (Payment.ledgerReceiptJson r) = some r := by
  have text := fun t member => Payment.stringOf_text reads (storable.texts t member)
  obtain ⟨low, high⟩ := storable.sequence
  have sequence : Payment.integerOf (Payment.jsonInteger r.sequenceNo) = some r.sequenceNo :=
    Payment.integerOf_integer (by omega) (by unfold maxInt8 at high; omega)
  simp [Payment.ledgerReceiptOf, Payment.ledgerReceiptJson, Payment.field_object, text, sequence,
    Payment.digestOf_hash, Payment.flagOf]

theorem amount_text (v : Int) : Payment.stringOf (Payment.jsonAmount v) = some (decimal v) := by
  rw [Payment.jsonAmount, Payment.jsonString, Payment.stringOf,
    Json.utf8_text_ascii (Json.decimal_ascii _)]

theorem receipt_read (reads : Payment.ReadsBack E) {r : Receipt} (readable : Readable E r) :
    receiptOfJson r.json = some r := by
  have quote := Payment.stringOf_text reads readable.quote
  simp [receiptOfJson, Receipt.json, Payment.field_object, quote, amount_text,
    ledgerReceipt_storable reads readable.ledger, Payment.flagOf,
    Payment.parseAmount_decimal readable.base, Payment.parseAmount_decimal readable.quoted]

theorem receipt_legal (depth : Nat) (r : Receipt) : r.json.Legal (depth + 3) := by
  apply Json.object_legal
  rw [← List.forall_iff_forall_mem]
  exact ⟨trivial, trivial, trivial, Payment.ledgerReceipt_legal _ _, trivial⟩

theorem receipt_integral (r : Receipt) : r.json.Integral := by
  apply Json.object_integral
  rw [← List.forall_iff_forall_mem]
  exact ⟨trivial, trivial, trivial, Payment.ledgerReceipt_integral _, trivial⟩

theorem cachedReceipt_stored (reads : Payment.ReadsBack E) {r : Receipt} (readable : Readable E r)
    {payload : E.Jsonb} (response : Payment.responseJsonb E r.json = .ok payload)
    {stored : IdempotencyRow E} (kept : stored.responsePayload = some payload) : cachedReceipt stored = .ok r.again := by
  have shown := reads.written (receipt_legal 9997 r) (receipt_integral r) response
  simp [cachedReceipt, kept, shown, receipt_read reads readable, expect, bind, Except.bind, pure, Except.pure]

variable {st st' : Store E}

structure Converted (request : ExchangeRequest) (hash : Digest) (ids : Payment.ExecutionIds)
    (now : Int) (st st' : Store E) (receipt : Receipt) (quote : QuoteRow) : Prop where
  found : st.quotes.lookup request.quoteId = some quote
  live : now < quote.expiresAt
  unconsumed : st.consumptions.lookup request.quoteId = none
  unused : ∀ quoteId row, st.consumptions.lookup quoteId = some row →
    row.ledgerTransactionId ≠ receipt.ledger.transactionId
  posted : postInTx (exchangeJournal request quote hash ids) false st.db.ledger =
    .ok (st'.db.ledger, receipt.ledger)
  shown : receipt =
    ⟨request.quoteId, quote.baseAmountAtoms, quote.quoteAmountAtoms, receipt.ledger, false⟩
  accepted : E.acceptsText request.quoteId = true
  consumptions : st'.consumptions =
    st.consumptions.insert request.quoteId ⟨ids.effectId, receipt.ledger.transactionId⟩
  quotes : st'.quotes = st.quotes
  records : st'.db.idempotencyRecords = st.db.idempotencyRecords

theorem publishExchange_frame {eventId : Bytes} {db db' : Database E}
    (done : publishExchange eventId receipt db = .ok db') :
    db' = { db with outboxMessages := db'.outboxMessages } := by
  simp only [publishExchange, Database.enqueue, steps_ok] at done
  obtain ⟨_, _, _, _, _, _, _, _, _, _, _, _, rfl⟩ := done
  rfl

theorem convertQuote_ok {ids : Payment.ExecutionIds}
    (done : convertQuote request hash ids now st = .ok (st', receipt)) :
    ∃ quote, Converted request hash ids now st st' receipt quote := by
  simp only [convertQuote, loadQuote, acceptsAll, insertConsumption, steps_ok, Prod.exists] at done
  obtain ⟨quote, ⟨_, accepted, found⟩, _, _, _, live, ledger, journal, posted, mid,
    ⟨_, _, _, unconsumed, _, unused, _, _, rfl⟩, db, published, rfl, rfl⟩ := done
  have frame := publishExchange_frame published
  simp only [List.all_eq_true, Prod.forall, AList.mem_rows, decide_eq_true_eq] at unused
  exact ⟨quote,
    { found := found
      live := by omega
      unconsumed := unconsumed
      unused := fun quoteId row present => (unused quoteId row present).2
      posted := by rw [posted, frame]
      shown := rfl
      accepted := accepted _ (by simp)
      consumptions := rfl
      quotes := rfl
      records := by rw [frame] }⟩

structure Answered (request : ExchangeRequest) (hash : Digest) (st st' : Store E)
    (receipt : Receipt) (stored : IdempotencyRow E) : Prop where
  found : st.db.idempotencyRecords.lookup (request.claimScope, request.idempotencyKey) = some stored
  hash : stored.requestHash = hash
  state : stored.state = .succeeded
  answer : cachedReceipt stored = .ok receipt
  unchanged : st' = st

/-- An attempt that consumed its quote and completed its record; `before` and `after`
are the stores around the conversion. -/
structure Exchanged (request : ExchangeRequest) (hash : Digest) (ids : Payment.ExecutionIds)
    (now : Int) (st st' : Store E) (receipt : Receipt) (before after : Store E) (quote : QuoteRow)
    (new : IdempotencyRow E) : Prop where
  open_ : ∀ earlier,
    st.db.idempotencyRecords.lookup (request.claimScope, request.idempotencyKey) = some earlier →
    earlier.state = .processing
  claimed : Payment.OnlyRecord (request.claimScope, request.idempotencyKey) st.db before.db
  claims : before = { st with db := before.db }
  converted : Converted request hash ids now before after receipt quote
  response : ∃ payload, Payment.responseJsonb E receipt.json = .ok payload ∧
    new.responsePayload = some payload
  stored : new.requestHash = hash ∧ new.state = .succeeded
  completed : st' = { after with db := { after.db with
    idempotencyRecords := after.db.idempotencyRecords.insert
      (request.claimScope, request.idempotencyKey) new } }

theorem exchange_cases (done : exchange request draw now st = .ok (st', receipt)) :
    ∃ hash, request.Valid ∧ Payment.requestHash E request.json = .ok hash ∧
      ((∃ stored, Answered request hash st st' receipt stored) ∨ ∃ before after quote new,
          Exchanged request hash draw.ids now st st' receipt before after quote new) := by
  simp only [exchange, bind_ok, require_ok, mapError_ok, Prod.exists] at done
  obtain ⟨_, valid, hash, hashed, db, stored, cached, taken, done⟩ := done
  refine ⟨hash, valid, hashed, ?_⟩
  obtain ⟨sameHash, outcome⟩ := Payment.claim_cases taken
  rcases outcome with ⟨rfl, replayed⟩ | ⟨rfl, claimed⟩
  · simp only [if_true] at done
    split at done
    · contradiction
    · rename_i notFailed
      simp only [bind_ok, pure_ok, Prod.mk.injEq] at done
      obtain ⟨_, read, rfl, rfl⟩ := done
      refine .inl ⟨stored, replayed.found, sameHash, ?_, read, by rw [replayed.unchanged]⟩
      rcases replayed.terminal with succeeded | failed
      · exact succeeded
      · exact absurd failed notFailed
  · simp only [Bool.false_eq_true, if_false, bind_ok, pure_ok, Prod.exists, Prod.mk.injEq] at done
    obtain ⟨after, _, converted, final, completed, rfl, rfl⟩ := done
    obtain ⟨quote, effect⟩ := convertQuote_ok converted
    obtain ⟨held, new, payload, facts⟩ := Payment.complete_ok (mapError_ok.mp completed)
    have same : held = stored := by
      have present := facts.before
      rw [effect.records, claimed.found] at present
      exact (Option.some.inj present).symm
    subst same
    exact .inr ⟨{ st with db := db }, after, quote, new,
      { open_ := claimed.open_
        claimed := claimed.only
        claims := rfl
        converted := effect
        response := ⟨payload, facts.response, by rw [facts.row]⟩
        stored := by rw [facts.row]; exact ⟨sameHash, rfl⟩
        completed := by rw [facts.after] }⟩

theorem exchange_texts (done : exchange request draw now st = .ok (st', receipt)) :
    E.acceptsText request.claimScope = true ∧ E.acceptsText request.idempotencyKey = true := by
  simp only [exchange, steps_ok, Prod.exists] at done
  obtain ⟨_, _, _, _, _, _, _, taken, _⟩ := done
  exact Payment.claim_texts taken

theorem createQuote_ok {request : CreateQuoteRequest} {id : Idgen.Identifier}
    {answer : Bytes × QuoteRow} (done : createQuote request id st = .ok (st', answer)) :
    ∃ quoteId quote, st.quotes.lookup quoteId = none ∧ quote.baseAssetId ≠ quote.quoteAssetId ∧
      fitsDecimal38 quote.baseAmountAtoms ∧ fitsDecimal38 quote.quoteAmountAtoms ∧
      st' = { st with quotes := st.quotes.insert quoteId quote } := by
  simp only [createQuote, insertQuote, steps_ok] at done
  obtain ⟨_, _, amount, _, _, _, rule, _, _, ⟨_, _, _, fits, _, checked, _, fresh, _, _, rfl⟩,
    rfl, _⟩ := done
  exact ⟨_, _, fresh, checked.2.2.2.2, fits.2.2.1, fits.2.2.2, rfl⟩

theorem exchange_replays (now : Int) {stored : IdempotencyRow E} (valid : request.Valid)
    (hashed : Payment.requestHash E request.json = .ok hash)
    (texts : ∀ text ∈ [request.claimScope, request.idempotencyKey, draw.ids.ownerToken,
      draw.ids.operationId], E.acceptsText text = true)
    (answered : Answered request hash st st receipt stored) :
    exchange request draw now st = .ok (st, receipt) := by
  have named : request.claimScope ≠ [] ∧ draw.ids.ownerToken ≠ [] ∧ draw.ids.operationId ≠ [] := by
    simp [ExchangeRequest.claimScope, Payment.Draw.ids, ascii]
  have lease : 0 < Payment.claimLease := by decide
  have claimed := Payment.claim_answers ⟨request.claimScope, request.idempotencyKey, hash,
    draw.ids.ownerToken, draw.ids.operationId, Payment.claimLease⟩ now
    ⟨named.1, valid.2.1, named.2.1, named.2.2, lease⟩ texts answered.found answered.hash
    answered.state
  have open_ : ¬ stored.state = .failed := by simp [answered.state]
  simp only [exchange, steps_ok, Prod.exists]
  refine ⟨(), valid, hash, hashed, st.db, stored, true, claimed, ?_⟩
  rw [if_pos rfl, if_neg open_, answered.answer]
  rfl

def QuoteRow.leg (quote : QuoteRow) (assetId : Bytes) : Int :=
  if assetId = quote.baseAssetId then quote.baseAmountAtoms
  else if assetId = quote.quoteAssetId then quote.quoteAmountAtoms else 0

/-- A POSTED entry whose debits and credits are the legs of the quote, asset by asset. -/
def Converts (st : Ledger.Tables E) (id : Bytes) (quote : QuoteRow) : Prop :=
  ∃ row, st.transactions.lookup id = some row ∧ row.status = .posted ∧
    row.transactionKind = ascii "FX" ∧
    ∀ side assetId, sideTotal side (fun l => l.assetId = assetId) (linesOf st id) =
      quote.leg assetId

theorem Converts.kept {ledger ledger' : Ledger.Tables E} {id : Bytes}
    (converts : Converts ledger id quote) (keeps : KeepsPosted ledger ledger') :
    Converts ledger' id quote := by
  obtain ⟨row, found, posted, kind, totals⟩ := converts
  obtain ⟨same, lines⟩ := keeps id row found posted
  exact ⟨row, same, posted, kind, by rw [lines]; exact totals⟩

theorem sideTotal_exchangeLines (request : ExchangeRequest)
    (apart : quote.baseAssetId ≠ quote.quoteAssetId) (side : Side) (assetId : Bytes) :
    sideTotal side (fun l => l.assetId = assetId) (numberedLines 0 (exchangeLines request quote)) =
      quote.leg assetId := by
  simp only [exchangeLines, numberedLines, sideTotal, storedLine, Side.ofText_text, Option.getD_some,
    List.map_cons, List.map_nil, List.sum_cons, List.sum_nil, decide_eq_true_eq, QuoteRow.leg]
  by_cases base : assetId = quote.baseAssetId
  · have other : quote.quoteAssetId ≠ assetId := fun same => apart (by rw [same, base])
    cases side <;> simp [base, apart.symm]
  · have first : quote.baseAssetId ≠ assetId := fun same => base same.symm
    by_cases quoted : assetId = quote.quoteAssetId
    · cases side <;> simp [quoted, apart, apart.symm]
    · have second : quote.quoteAssetId ≠ assetId := fun same => quoted same.symm
      cases side <;> simp [base, quoted, first, second]

theorem converts_of_journaled {ledger ledger' : Ledger.Tables E} {ids : Payment.ExecutionIds}
    {row : TransactionRow E} (apart : quote.baseAssetId ≠ quote.quoteAssetId)
    (posted : Journaled ledger ledger' (exchangeJournal request quote hash ids) row) :
    Converts ledger' ids.transactionId quote := by
  refine ⟨row, ?_, posted.records.posted, posted.records.kind, ?_⟩
  · rw [posted.transactions]
    exact AList.lookup_insert _
  · intro side assetId
    have lines : linesOf ledger' ids.transactionId =
        (numberedLines 0 (exchangeLines request quote)).reverse := posted.lines
    rw [lines, sideTotal_reverse, sideTotal_exchangeLines request apart]

end PaymentPlatform.Fx
