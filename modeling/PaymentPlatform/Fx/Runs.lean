import PaymentPlatform.Fx.Conversions

/-! Runs of the fx service among the other services: a quote is consumed once, before
it expires, by an entry with exactly its two amounts, and a repeated request is
answered with its first receipt. -/

namespace PaymentPlatform.Fx

open Framing Ledger Serial

variable {E : Engine}
variable {new : IdempotencyRow E} {now : Int} {draw : Payment.Draw} {quote : QuoteRow}
variable {s s' : System E}

/-- What a transaction of another service leaves alone: posted entries, the kind FX and
the records of this service. -/
structure Spares (db other : Database E) : Prop where
  posted : KeepsPosted db.ledger other.ledger
  projected : Projected db.ledger → Projected other.ledger
  kind : ∀ id row, other.ledger.transactions.lookup id = some row →
    row.transactionKind = ascii "FX" → db.ledger.transactions.lookup id = some row
  records : ∀ scope key, other.idempotencyRecords.lookup (scope ++ ascii "/fx", key) =
    db.idempotencyRecords.lookup (scope ++ ascii "/fx", key)

theorem Spares.opened {db : Database E} {ledger : Ledger.Tables E}
    (opened : OpensOnly db.ledger ledger) : Spares db { db with ledger := ledger } where
  posted := opened.keepsPosted
  projected := opened.projected
  kind id row found _ := by
    rw [← opened.transactions]
    exact found
  records _ _ := rfl

def Shared (s : System E) : Command E → Prop
  | .elsewhere other => Spares s.store.db other
  | _ => True

def start (db : Database E) : System E :=
  ⟨⟨{ db with
      ledger := { db.ledger with accounts := ∅, accountBalances := ∅, transactions := ∅, lines := ∅ }
      idempotencyRecords := ∅ }, ∅, ∅⟩, []⟩

/-- The rows behind a conversion: its quote was live, and the entry moved its amounts. -/
structure Conversion.Backed (c : Conversion) (st : Store E) (quote : QuoteRow)
    (consumed : ConsumptionRow) : Prop where
  quoted : st.quotes.lookup c.quoteId = some quote
  consumption : st.consumptions.lookup c.quoteId = some consumed
  entry : consumed.ledgerTransactionId = c.transactionId
  live : c.at_ < quote.expiresAt
  converts : Converts st.db.ledger c.transactionId quote

structure QuoteRow.Checked (quote : QuoteRow) : Prop where
  apart : quote.baseAssetId ≠ quote.quoteAssetId
  base : fitsDecimal38 quote.baseAmountAtoms
  quoted : fitsDecimal38 quote.quoteAmountAtoms

structure Sound (s : System E) : Prop where
  projected : Projected s.store.db.ledger
  quotes : ∀ quoteId quote, s.store.quotes.lookup quoteId = some quote → quote.Checked
  entries : ∀ id row, s.store.db.ledger.transactions.lookup id = some row →
    row.transactionKind = ascii "FX" → ∃ quoteId consumed,
      s.store.consumptions.lookup quoteId = some consumed ∧ consumed.ledgerTransactionId = id
  consumed : ∀ quoteId consumed, s.store.consumptions.lookup quoteId = some consumed →
    ∃ c ∈ s.conversions, c.quoteId = quoteId
  backed : ∀ c ∈ s.conversions, ∃ quote consumed, c.Backed s.store quote consumed
  once : (s.conversions.map Conversion.quoteId).Nodup
  records : ∀ scope key stored,
    s.store.db.idempotencyRecords.lookup (scope ++ ascii "/fx", key) = some stored →
    stored.state = .succeeded ∧ ∃ receipt : Receipt, cachedReceipt stored = .ok receipt.again

def KeepsRecords (s s' : System E) : Prop :=
  ∀ scope key stored,
    s.store.db.idempotencyRecords.lookup (scope ++ ascii "/fx", key) = some stored →
    s'.store.db.idempotencyRecords.lookup (scope ++ ascii "/fx", key) = some stored

theorem start_sound (db : Database E) : Sound (start db) where
  projected := Unused.projected ⟨rfl, rfl, rfl, rfl⟩
  quotes := by simp [start]
  entries := by simp [start]
  consumed := by simp [start]
  backed := by simp [start]
  once := by simp [start]
  records := by simp [start]

theorem Sound.elsewhere (inv : Sound s) {other : Database E}
    (spares : Spares s.store.db other) : Sound (step s (.elsewhere other)) where
  projected := spares.projected inv.projected
  quotes := inv.quotes
  entries id row found kind := inv.entries id row (spares.kind id row found kind) kind
  consumed := inv.consumed
  backed c member := by
    obtain ⟨quote, consumed, backed⟩ := inv.backed c member
    exact ⟨quote, consumed, backed.quoted, backed.consumption, backed.entry, backed.live,
      backed.converts.kept spares.posted⟩
  once := inv.once
  records scope key stored found := by
    rw [step, spares.records] at found
    exact inv.records scope key stored found

theorem Sound.quoted (inv : Sound s) {request : CreateQuoteRequest}
    {id : Idgen.Identifier} {answer : Bytes × QuoteRow}
    (done : recordedQuote request id s = .ok (s', answer)) : Sound s' ∧ KeepsRecords s s' := by
  simp only [recordedQuote, steps_ok, Prod.exists] at done
  obtain ⟨store, _, _, created, rfl, _⟩ := done
  obtain ⟨quoteId, quote, fresh, apart, base, quoted, rfl⟩ := createQuote_ok created
  refine ⟨?_, fun _ _ _ found => found⟩
  exact
    { projected := inv.projected
      quotes := AList.forall_insert ⟨apart, base, quoted⟩ inv.quotes
      entries := inv.entries
      consumed := inv.consumed
      backed := by
        intro c member
        obtain ⟨row, consumed, backed⟩ := inv.backed c member
        exact ⟨row, consumed, AList.lookup_insert_fresh fresh _ backed.quoted, backed.consumption,
          backed.entry, backed.live, backed.converts⟩
      once := inv.once
      records := inv.records }

theorem Sound.journaled (inv : Sound s) {request : ExchangeRequest} {hash : Digest}
    {ids : Payment.ExecutionIds} {before after : Store E} {receipt : Receipt}
    (ledger : before.db.ledger = s.store.db.ledger)
    (consumptions : before.consumptions = s.store.consumptions)
    (converted : Converted request hash ids now before after receipt quote) :
    receipt.ledger.transactionId = ids.transactionId ∧
      ∃ row, Journaled s.store.db.ledger after.db.ledger (exchangeJournal request quote hash ids)
        row := by
  have posted := converted.posted
  rw [ledger] at posted
  rcases postInTx_posts inv.projected posted with ⟨_, row, found, records⟩ | fresh
  · obtain ⟨quoteId, consumed, present, same⟩ := inv.entries _ row found records.kind
    rw [← consumptions] at present
    exact absurd same (converted.unused quoteId consumed present)
  · exact fresh

theorem Exchanged.readable {request : ExchangeRequest} {hash : Digest}
    {ids : Payment.ExecutionIds} {st st' before after : Store E} {receipt : Receipt}
    {row : TransactionRow E}
    (effect : Exchanged request hash ids now st st' receipt before after quote new)
    (checked : quote.Checked)
    (posted : Journaled before.db.ledger after.db.ledger (exchangeJournal request quote hash ids)
      row) : Readable E receipt := by
  obtain ⟨storable, _⟩ := postInTx_storable effect.converted.posted posted.unused
  rw [effect.converted.shown]
  exact ⟨effect.converted.accepted, storable, checked.base, checked.quoted⟩

/-- A committed attempt that consumed its quote, on the rows it found and left. -/
structure Booked (s : System E) (request : ExchangeRequest) (hash : Digest)
    (ids : Payment.ExecutionIds) (now : Int) (receipt : Receipt) (st' : Store E) (quote : QuoteRow)
    (row : TransactionRow E) (new : IdempotencyRow E) : Prop where
  found : s.store.quotes.lookup request.quoteId = some quote
  live : now < quote.expiresAt
  unconsumed : s.store.consumptions.lookup request.quoteId = none
  posted : Journaled s.store.db.ledger st'.db.ledger (exchangeJournal request quote hash ids) row
  named : receipt.quoteId = request.quoteId ∧ receipt.ledger.transactionId = ids.transactionId
  quotes : st'.quotes = s.store.quotes
  consumptions : st'.consumptions =
    s.store.consumptions.insert request.quoteId ⟨ids.effectId, ids.transactionId⟩
  open_ : ∀ earlier, s.store.db.idempotencyRecords.lookup
    (request.claimScope, request.idempotencyKey) = some earlier → earlier.state = .processing
  others : ∀ key, key ≠ (request.claimScope, request.idempotencyKey) →
    st'.db.idempotencyRecords.lookup key = s.store.db.idempotencyRecords.lookup key
  own : st'.db.idempotencyRecords.lookup (request.claimScope, request.idempotencyKey) = some new
  stored : new.requestHash = hash ∧ new.state = .succeeded
  answer : cachedReceipt new = .ok receipt.again
  first : receipt.duplicate = false

theorem Sound.books (reads : Payment.ReadsBack E) (inv : Sound s)
    {request : ExchangeRequest} {hash : Digest} {ids : Payment.ExecutionIds}
    {st' before after : Store E} {receipt : Receipt}
    (effect : Exchanged request hash ids now s.store st' receipt before after quote new) :
    ∃ row, Booked s request hash ids now receipt st' quote row new := by
  have quotes : before.quotes = s.store.quotes := by rw [effect.claims]
  have consumptions : before.consumptions = s.store.consumptions := by rw [effect.claims]
  have ledger : before.db.ledger = s.store.db.ledger := by rw [effect.claimed.frame]
  have converted := effect.converted
  obtain ⟨named, row, posted⟩ := inv.journaled ledger consumptions converted
  have found : s.store.quotes.lookup request.quoteId = some quote := quotes ▸ converted.found
  have readable := effect.readable (inv.quotes _ quote found) (by rw [ledger]; exact posted)
  obtain ⟨payload, response, kept⟩ := effect.response
  exact ⟨row,
    { found := found
      live := converted.live
      unconsumed := consumptions ▸ converted.unconsumed
      posted := by rw [effect.completed]; exact posted
      named := ⟨by rw [converted.shown], named⟩
      quotes := by rw [effect.completed, ← quotes]; exact converted.quotes
      consumptions := by
        rw [effect.completed, ← consumptions, ← named]
        exact converted.consumptions
      open_ := effect.open_
      others := by
        intro key other
        rw [effect.completed]
        simp only [AList.lookup_insert_ne other, converted.records]
        exact effect.claimed.others key other
      own := by rw [effect.completed]; exact AList.lookup_insert _
      stored := effect.stored
      answer := cachedReceipt_stored reads readable response kept
      first := by rw [converted.shown] }⟩

section Booked

variable {s : System E} {request : ExchangeRequest} {hash : Digest} {ids : Payment.ExecutionIds}
  {now : Int} {st' : Store E} {receipt : Receipt} {quote : QuoteRow} {row : TransactionRow E}
  {new : IdempotencyRow E}

theorem Booked.unconverted (inv : Sound s)
    (booked : Booked s request hash ids now receipt st' quote row new) :
    ∀ c ∈ s.conversions, c.quoteId ≠ request.quoteId := by
  intro c member same
  obtain ⟨_, consumed, backed⟩ := inv.backed c member
  have present := backed.consumption
  rw [same, booked.unconsumed] at present
  cases present

theorem Booked.backed (inv : Sound s)
    (booked : Booked s request hash ids now receipt st' quote row new) (c : Conversion)
    (member : c ∈ s.conversions ++ [⟨request.quoteId, ids.transactionId, now⟩]) :
    ∃ quote consumed, c.Backed st' quote consumed := by
  rcases List.mem_append.mp member with old | fresh
  · obtain ⟨held, consumed, backed⟩ := inv.backed c old
    refine ⟨held, consumed, booked.quotes ▸ backed.quoted, ?_, backed.entry, backed.live,
      backed.converts.kept booked.posted.keepsPosted⟩
    rw [booked.consumptions, AList.lookup_insert_ne (booked.unconverted inv c old)]
    exact backed.consumption
  · rw [List.mem_singleton.mp fresh]
    refine ⟨quote, ⟨ids.effectId, ids.transactionId⟩, booked.quotes ▸ booked.found, ?_, rfl,
      booked.live, converts_of_journaled (inv.quotes _ quote booked.found).apart booked.posted⟩
    rw [booked.consumptions]
    exact AList.lookup_insert _

theorem Booked.sound (inv : Sound s)
    (booked : Booked s request hash ids now receipt st' quote row new) :
    Sound ⟨st', s.conversions ++ [⟨request.quoteId, ids.transactionId, now⟩]⟩ where
  projected := booked.posted.projected
  quotes := by rw [booked.quotes]; exact inv.quotes
  entries := by
    intro id other present kind
    dsimp only at present ⊢
    rw [booked.posted.transactions, AList.lookup_insert_if] at present
    rw [booked.consumptions]
    split at present
    · rename_i same
      exact ⟨request.quoteId, _, AList.lookup_insert _, same.symm⟩
    · obtain ⟨quoteId, consumed, old, same⟩ := inv.entries id other present kind
      exact ⟨quoteId, consumed, AList.lookup_insert_fresh booked.unconsumed _ old, same⟩
  consumed quoteId consumed present :=
    Log.mem_extend rfl (booked.consumptions ▸ present) (inv.consumed quoteId consumed)
  backed := booked.backed inv
  once := Log.nodup_extend inv.once (booked.unconverted inv)
  records := by
    intro scope key stored present
    dsimp only at present
    by_cases mine : (scope ++ ascii "/fx", key) = (request.claimScope, request.idempotencyKey)
    · rw [mine, booked.own] at present
      cases present
      exact ⟨booked.stored.2, receipt, booked.answer⟩
    · rw [booked.others _ mine] at present
      exact inv.records scope key stored present

theorem Booked.keepsRecords (inv : Sound s)
    (booked : Booked s request hash ids now receipt st' quote row new) (log : List Conversion) :
    KeepsRecords s ⟨st', log⟩ := by
  intro scope key stored present
  -- a finished record is not claimed again
  have other : (scope ++ ascii "/fx", key) ≠ (request.claimScope, request.idempotencyKey) := by
    intro same
    have finished := (inv.records scope key stored present).1
    rw [same] at present
    rw [booked.open_ stored present] at finished
    cases finished
  exact (booked.others _ other).trans present

end Booked

theorem Sound.exchanges (reads : Payment.ReadsBack E) (inv : Sound s)
    {request : ExchangeRequest} {receipt : Receipt}
    (done : recordedExchange request draw now s = .ok (s', receipt)) :
    ∃ hash, request.Valid ∧ Payment.requestHash E request.json = .ok hash ∧
      ((∃ stored, Answered request hash s.store s'.store receipt stored ∧ s' = s) ∨
        ∃ quote row new, Booked s request hash draw.ids now receipt s'.store quote row new ∧
          s'.conversions = s.conversions ++ [⟨request.quoteId, draw.ids.transactionId, now⟩]) := by
  simp only [recordedExchange, steps_ok, Prod.exists] at done
  obtain ⟨store, _, exchanged, rfl, rfl⟩ := done
  obtain ⟨hash, valid, hashed, outcome⟩ := exchange_cases exchanged
  refine ⟨hash, valid, hashed, ?_⟩
  rcases outcome with ⟨stored, answered⟩ | ⟨before, after, quote, new, effect⟩
  · refine .inl ⟨stored, answered, ?_⟩
    obtain ⟨_, first, read⟩ := inv.records _ _ stored answered.found
    have same : _ = first.again := Except.ok.inj (answered.answer.symm.trans read)
    rw [same, answered.unchanged]
    rfl
  · obtain ⟨row, booked⟩ := inv.books reads effect
    refine .inr ⟨quote, row, new, booked, ?_⟩
    simp only [booked.first, Bool.false_eq_true, if_false, booked.named]

theorem Sound.step (reads : Payment.ReadsBack E) (inv : Sound s)
    (command : Command E) (shared : Shared s command) :
    Sound (step s command) ∧ KeepsRecords s (Fx.step s command) := by
  have same : Sound s ∧ KeepsRecords s s := ⟨inv, fun _ _ _ found => found⟩
  cases command with
  | createQuote request id ending =>
    apply attempt_preserves (recordedQuote request id) (fun s' => Sound s' ∧ KeepsRecords s s')
      ending same
    intro s' answer done
    exact inv.quoted done
  | exchange request draw now ending =>
    apply attempt_preserves (recordedExchange request draw now)
      (fun s' => Sound s' ∧ KeepsRecords s s') ending same
    intro s' receipt done
    obtain ⟨hash, _, _, ⟨_, _, rfl⟩ | ⟨quote, row, new, booked, log⟩⟩ := inv.exchanges reads done
    · exact same
    · have shape : s' = ⟨s'.store, s.conversions ++ [⟨request.quoteId, draw.ids.transactionId, now⟩]⟩ := by
        rw [← log]
      rw [shape]
      exact ⟨booked.sound inv, booked.keepsRecords inv _⟩
  | elsewhere =>
    refine ⟨inv.elsewhere shared, ?_⟩
    intro scope key stored found
    exact (shared.records scope key).trans found

theorem run_sound (reads : Payment.ReadsBack E) (inv : Sound s)
    (commands : List (Command E)) (shared : Along step Shared s commands) :
    Sound (run step s commands) ∧ KeepsRecords s (run step s commands) := by
  refine run_preserves_along step Shared (fun s' => Sound s' ∧ KeepsRecords s s') ?_ commands shared
    ⟨inv, fun _ _ _ found => found⟩
  intro s' command legal ⟨sound, kept⟩
  obtain ⟨next, keeps⟩ := sound.step reads command legal
  exact ⟨next, fun scope key stored found => keeps scope key stored (kept scope key stored found)⟩

theorem Sound.replays (reads : Payment.ReadsBack E) (inv : Sound s)
    {request : ExchangeRequest} {receipt : Receipt}
    (done : recordedExchange request draw now s = .ok (s', receipt)) {later : System E}
    (keeps : KeepsRecords s' later) {draw' : Payment.Draw} (now' : Int)
    (texts : ∀ text ∈ [draw'.ids.ownerToken, draw'.ids.operationId], E.acceptsText text = true) :
    exchange request draw' now' later.store = .ok (later.store, receipt.again) := by
  have accepted : E.acceptsText request.claimScope = true ∧
      E.acceptsText request.idempotencyKey = true := by
    simp only [recordedExchange, bind_ok, Prod.exists] at done
    obtain ⟨_, _, exchanged, _⟩ := done
    exact exchange_texts exchanged
  have all : ∀ text ∈ [request.claimScope, request.idempotencyKey, draw'.ids.ownerToken,
      draw'.ids.operationId], E.acceptsText text = true :=
    List.forall_mem_cons.mpr ⟨accepted.1, List.forall_mem_cons.mpr ⟨accepted.2, texts⟩⟩
  obtain ⟨hash, valid, hashed, ⟨stored, answered, rfl⟩ | ⟨_, _, new, booked, _⟩⟩ :=
    inv.exchanges reads done
  · obtain ⟨_, first, read⟩ := inv.records _ _ stored answered.found
    have same : receipt = first.again := Except.ok.inj (answered.answer.symm.trans read)
    refine exchange_replays now' valid hashed all ⟨keeps _ _ _ answered.found, answered.hash,
      answered.state, ?_, rfl⟩
    rw [answered.answer, same]
    rfl
  · exact exchange_replays now' valid hashed all ⟨keeps _ _ _ booked.own, booked.stored.1,
      booked.stored.2, booked.answer, rfl⟩

theorem quotes_convert_once (reads : Payment.ReadsBack E) (db : Database E)
    (commands : List (Command E)) (shared : Along step Shared (start db) commands) :
    let s := run step (start db) commands
    (s.conversions.map Conversion.quoteId).Nodup ∧
    (∀ c ∈ s.conversions, ∃ quote consumed, c.Backed s.store quote consumed) ∧
    (∀ quoteId consumed, s.store.consumptions.lookup quoteId = some consumed →
      ∃ c ∈ s.conversions, c.quoteId = quoteId ∧ ∃ quote, c.Backed s.store quote consumed) ∧
    ∀ request draw now s' receipt, recordedExchange request draw now s = .ok (s', receipt) →
      ∀ later, Along step Shared s' later → ∀ (draw' : Payment.Draw) (now' : Int),
        (∀ text ∈ [draw'.ids.ownerToken, draw'.ids.operationId], E.acceptsText text = true) →
        exchange request draw' now' (run step s' later).store =
          .ok ((run step s' later).store, receipt.again) := by
  intro s
  have inv : Sound s := (run_sound reads (start_sound db) commands shared).1
  refine ⟨inv.once, inv.backed, ?_, ?_⟩
  · intro quoteId consumed found
    obtain ⟨c, member, rfl⟩ := inv.consumed quoteId consumed found
    obtain ⟨quote, stored, backed⟩ := inv.backed c member
    cases found.symm.trans backed.consumption
    exact ⟨c, member, rfl, quote, backed⟩
  · intro request draw now s' receipt done later legal draw' now' texts
    have next : Sound s' := by
      have stepped := (inv.step reads (.exchange request draw now .acknowledged) trivial).1
      simpa only [Fx.step, attempt, commit, done] using stepped
    exact inv.replays reads done (run_sound reads next later legal).2 now' texts

/- A quote for 1000 KZT that is consumed, refused to a second request, and whose first
request is answered again after the expiry. -/

def sampleMarket : Database sampleEngine :=
  { Payment.sampleDatabase with
    ledger := { sampleTables with
      assets := sampleTables.assets.insert (ascii "USD") ⟨ascii "US dollar", 2⟩ } }

def sampleAccounts : List Account :=
  [("payer", "KZT"), ("kztPosition", "KZT"), ("usdPosition", "USD"), ("payee", "USD")].map
    fun (name, assetId) =>
      ⟨ascii name, ascii "book", ascii assetId, ascii "POSITION", Side.credit.text, false, 0⟩

def sampleOpened : Database sampleEngine :=
  { (start sampleMarket).store.db with
    ledger := run Ledger.step (start sampleMarket).store.db.ledger
      (sampleAccounts.map .createAccount) }

def sampleExchange (key : String) : ExchangeRequest :=
  ⟨ascii "alice", ascii key, ascii "quote_" ++ (Payment.sampleName 1).text, ascii "book",
    ascii "payer", ascii "kztPosition", ascii "usdPosition", ascii "payee", ascii "v1"⟩

def sampleQuotes : List (Command sampleEngine) :=
  [.elsewhere sampleOpened,
    .createQuote ⟨ascii "KZT", ascii "USD", 1, 470, 1000, ascii "HALF_EVEN", 5000000⟩
      (Payment.sampleName 1) .acknowledged]

theorem openAccounts_opened (accounts : List Account) (st : Ledger.Tables E) :
    OpensOnly st (run Ledger.step st (accounts.map .createAccount)) := by
  refine run_preserves_when Ledger.step (OpensOnly st)
    (fun command => ∃ account, command = .createAccount account) ?_ _ ?_ (.refl st)
  · rintro st' _ ⟨account, rfl⟩ opened
    exact commit_preserves (createAccountInTx account) (OpensOnly st) opened
      fun _ _ done => opened.trans (createAccountInTx_opened done).1
  · intro command member
    obtain ⟨account, _, rfl⟩ := List.mem_map.mp member
    exact ⟨account, rfl⟩

def sampleConverted : Command sampleEngine :=
  .exchange (sampleExchange "k1") (Payment.sampleDraw 1) 10 .unacknowledged

def sampleRefused : Command sampleEngine :=
  .exchange (sampleExchange "k2") (Payment.sampleDraw 2) 20 .acknowledged

theorem sample_quote_converts_once :
    ∃ s receipt, recordedExchange (sampleExchange "k1") (Payment.sampleDraw 1) 10
        (run step (start sampleMarket) sampleQuotes) = .ok (s, receipt) ∧
      s.conversions.length = 1 ∧ receipt.quoteAmount = 2 ∧
      (∀ c ∈ s.conversions, ∃ quote consumed, c.Backed s.store quote consumed) ∧
      exchange (sampleExchange "k1") (Payment.sampleDraw 3) 9000 (run step s [sampleRefused]).store =
        .ok ((run step s [sampleRefused]).store, receipt.again) := by
  have opened : Spares (start sampleMarket).store.db sampleOpened :=
    Spares.opened (openAccounts_opened sampleAccounts _)
  have general := quotes_convert_once Payment.sample_reads_back sampleMarket
    (sampleQuotes ++ [sampleConverted]) (And.intro opened ⟨trivial, trivial, trivial⟩)
  have shown : (recordedExchange (sampleExchange "k1") (Payment.sampleDraw 1) 10
      (run step (start sampleMarket) sampleQuotes)).toOption.map
        (fun answer => (answer.1.conversions.length, answer.2.quoteAmount)) = some (1, 2) := by
    decide +kernel
  cases done : recordedExchange (sampleExchange "k1") (Payment.sampleDraw 1) 10
      (run step (start sampleMarket) sampleQuotes) with
  | error failure =>
    rw [done] at shown
    cases shown
  | ok answer =>
    rw [done] at shown
    obtain ⟨length, amount⟩ := Prod.mk.inj (Option.some.inj shown)
    have final : run step (start sampleMarket) (sampleQuotes ++ [sampleConverted]) = answer.1 := by
      have stepped : ∀ s : System sampleEngine, run step s [sampleConverted] =
          commit (recordedExchange (sampleExchange "k1") (Payment.sampleDraw 1) 10) s := by
        simp [run, step, sampleConverted, attempt]
      rw [run_append, stepped, commit, done]
    rw [final] at general
    have again := (quotes_convert_once Payment.sample_reads_back sampleMarket sampleQuotes
      (And.intro opened ⟨trivial, trivial⟩)).2.2.2 _ _ _ answer.1 answer.2 done [sampleRefused]
      ⟨trivial, trivial⟩ (Payment.sampleDraw 3) 9000 (by decide +kernel)
    exact ⟨answer.1, answer.2, rfl, length, amount, general.2.1, again⟩

end PaymentPlatform.Fx
