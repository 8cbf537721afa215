import PaymentPlatform.Provisioning.Answers

/-! Runs of ProvisionCustomerAccount and Deposit among the other services: one customer
and one deposit per external reference, each deposit with its entry, its rights and its
event, and repeated calls answered with what the first one committed. -/

namespace PaymentPlatform.Provisioning.References

open Framing Ledger Serial

variable {E : Engine}
variable {config : Config} {draw : CustomerDraw} {st st' : Ledger.Tables E}

structure Opening where
  request : CustomerAccountRequest
  row : CustomerRow

/-- A committed call that made a deposit, with the rights before and after it. -/
structure Credit where
  request : DepositRequest
  region : Bytes
  transactionId : Bytes
  eventId : Bytes
  before : Escrow.Tables
  after : Escrow.Tables

structure System (E : Engine) where
  db : Database E
  openings : List Opening
  credits : List Credit

variable {s s' : System E}

def recordedCustomer (config : Config) (request : CustomerAccountRequest) (draw : CustomerDraw)
    (s : System E) : Except Failure (System E × CustomerAccountResult) := do
  let (db, answer) ← provisionCustomerAccount config request draw s.db
  let row : CustomerRow := ⟨request.paymentPrincipalId, request.assetId, answer.region,
    answer.bookId, answer.availableAccountId, answer.heldAccountId, request.digest E⟩
  let openings := if answer.duplicate then s.openings else s.openings ++ [⟨request, row⟩]
  return ({ s with db := db, openings := openings }, answer)

def recordedDeposit (config : Config) (request : DepositRequest) (draw : DepositDraw)
    (s : System E) : Except Failure (System E × DepositResult) := do
  let (db, answer) ← deposit config request draw s.db
  let credits := if answer.duplicate then s.credits
    else s.credits ++ [⟨request, config.region, answer.ledgerTransactionId, draw.eventId,
      s.db.escrow, db.escrow⟩]
  return ({ s with db := db, credits := credits }, answer)

/-- One attempt of a call per command; `elsewhere` is a transaction of another service. -/
inductive Command (E : Engine) where
  | customer (config : Config) (request : CustomerAccountRequest) (draw : CustomerDraw)
      (ending : Ending)
  | deposit (config : Config) (request : DepositRequest) (draw : DepositDraw) (ending : Ending)
  | elsewhere (other : Database E)

def step (s : System E) : Command E → System E
  | .customer config request draw ending =>
    attempt (recordedCustomer config request draw) ending s
  | .deposit config request draw ending => attempt (recordedDeposit config request draw) ending s
  | .elsewhere other => { s with db := other }

/-- What a transaction of another service leaves alone: posted entries, accounts, the
kind DEPOSIT, the records of this service and the events on its topic. -/
structure Spares (db other : Database E) : Prop where
  posted : KeepsPosted db.ledger other.ledger
  projected : Projected db.ledger → Projected other.ledger
  accounts : ∀ id row, db.ledger.accounts.lookup id = some row →
    other.ledger.accounts.lookup id = some row
  kind : ∀ id row, other.ledger.transactions.lookup id = some row →
    row.transactionKind = ascii "DEPOSIT" → db.ledger.transactions.lookup id = some row
  customers : other.provisioningRecords = db.provisioningRecords
  fundings : other.fundingRecords = db.fundingRecords
  events : ∀ id row, row.topic = fundingTopic →
    (other.outboxMessages.lookup id = some row ↔ db.outboxMessages.lookup id = some row)

def Shared (s : System E) : Command E → Prop
  | .elsewhere other => Spares s.db other
  | _ => True

def start (db : Database E) : System E :=
  ⟨{ db with
      ledger := { db.ledger with accounts := ∅, accountBalances := ∅, transactions := ∅, lines := ∅ }
      outboxMessages := ∅
      fundingRecords := ∅
      provisioningRecords := ∅ }, [], []⟩

structure Opening.Backed (o : Opening) (db : Database E) : Prop where
  record : db.provisioningRecords.lookup o.request.externalReference = some o.row
  hash : o.row.requestHash = o.request.digest E
  available : HasAccount db.ledger
    (accountOf o.row.availableAccountId o.row.bookId o.row.assetId "CUSTOMER_AVAILABLE" true)
  held : HasAccount db.ledger
    (accountOf o.row.heldAccountId o.row.bookId o.row.assetId "CUSTOMER_HELD" true)

def depositLines (source : Bytes) (request : DepositRequest) : List Line :=
  [⟨source, request.assetId, Side.debit.text, request.amount, ascii "funding source"⟩,
    ⟨request.accountId, request.assetId, Side.credit.text, request.amount,
      ascii "customer deposit"⟩]

/-- A POSTED entry that debits some account and credits the account of the request. -/
def Deposits (st : Ledger.Tables E) (id : Bytes) (request : DepositRequest) : Prop :=
  ∃ row source, st.transactions.lookup id = some row ∧ row.status = .posted ∧
    row.transactionKind = ascii "DEPOSIT" ∧
    linesOf st id = (numberedLines 0 (depositLines source request)).reverse

structure Credit.Backed (c : Credit) (db : Database E) : Prop where
  record : db.fundingRecords.lookup c.request.externalReference =
    some { accountId := c.request.accountId
           assetId := c.request.assetId
           region := c.region
           amountAtoms := c.request.amount
           fundingSourceReference := c.request.fundingSourceReference
           ledgerTransactionId := c.transactionId
           requestHash := c.request.digest E }
  entry : Deposits db.ledger c.transactionId c.request
  raises : Raises c.request.accountId c.request.assetId c.region c.request.amount c.before c.after
  event : ∃ row, db.outboxMessages.lookup c.eventId = some row ∧ row.topic = fundingTopic ∧
    row.parentTransactionId = some c.transactionId

/-- The log of openings is the table of customers, one for each reference; the log of
deposits is the table of funding records, the entries of kind DEPOSIT and the events on
the topic, one for each reference. -/
structure Sound (s : System E) : Prop where
  projected : Projected s.db.ledger
  openings : ∀ o ∈ s.openings, o.Backed s.db
  customers : ∀ reference row, s.db.provisioningRecords.lookup reference = some row →
    ∃ o ∈ s.openings, o.request.externalReference = reference
  opened : (s.openings.map (·.request.externalReference)).Nodup
  available : (s.openings.map (·.row.availableAccountId)).Nodup
  held : (s.openings.map (·.row.heldAccountId)).Nodup
  credits : ∀ c ∈ s.credits, c.Backed s.db
  fundings : ∀ reference row, s.db.fundingRecords.lookup reference = some row →
    ∃ c ∈ s.credits, c.request.externalReference = reference
  entries : ∀ id row, s.db.ledger.transactions.lookup id = some row →
    row.transactionKind = ascii "DEPOSIT" → ∃ c ∈ s.credits, c.transactionId = id
  events : ∀ id row, s.db.outboxMessages.lookup id = some row → row.topic = fundingTopic →
    ∃ c ∈ s.credits, c.eventId = id
  funded : (s.credits.map (·.request.externalReference)).Nodup
  posted : (s.credits.map (·.transactionId)).Nodup
  notified : (s.credits.map (·.eventId)).Nodup

structure KeepsRecords (s s' : System E) : Prop where
  customers : ∀ reference row, s.db.provisioningRecords.lookup reference = some row →
    s'.db.provisioningRecords.lookup reference = some row
  fundings : ∀ reference row, s.db.fundingRecords.lookup reference = some row →
    s'.db.fundingRecords.lookup reference = some row

theorem KeepsRecords.refl (s : System E) : KeepsRecords s s :=
  ⟨fun _ _ found => found, fun _ _ found => found⟩

theorem KeepsRecords.trans {s'' : System E} (first : KeepsRecords s s')
    (second : KeepsRecords s' s'') : KeepsRecords s s'' :=
  ⟨fun reference row found => second.customers reference row (first.customers reference row found),
    fun reference row found => second.fundings reference row (first.fundings reference row found)⟩

theorem start_sound (db : Database E) : Sound (start db) where
  projected := Unused.projected ⟨rfl, rfl, rfl, rfl⟩
  openings := by simp [start]
  customers := by simp [start]
  opened := by simp [start]
  available := by simp [start]
  held := by simp [start]
  credits := by simp [start]
  fundings := by simp [start]
  entries := by simp [start]
  events := by simp [start]
  funded := by simp [start]
  posted := by simp [start]
  notified := by simp [start]

theorem Deposits.kept {id : Bytes} {request : DepositRequest}
    (deposits : Deposits st id request) (keeps : KeepsPosted st st') : Deposits st' id request := by
  obtain ⟨row, source, found, posted, kind, lines⟩ := deposits
  obtain ⟨same, kept⟩ := keeps id row found posted
  exact ⟨row, source, same, posted, kind, kept.trans lines⟩

theorem Opening.Backed.kept {o : Opening} {db other : Database E} (backed : o.Backed db)
    (records : other.provisioningRecords = db.provisioningRecords)
    (accounts : ∀ id row, db.ledger.accounts.lookup id = some row →
      other.ledger.accounts.lookup id = some row) : o.Backed other := by
  obtain ⟨available, found, defines⟩ := backed.available
  obtain ⟨held, found', defines'⟩ := backed.held
  exact ⟨by rw [records]; exact backed.record, backed.hash,
    ⟨available, accounts _ _ found, defines⟩, ⟨held, accounts _ _ found', defines'⟩⟩

theorem Sound.elsewhere (inv : Sound s) {other : Database E}
    (spares : Spares s.db other) : Sound { s with db := other } where
  projected := spares.projected inv.projected
  openings o member := (inv.openings o member).kept spares.customers spares.accounts
  customers := by rw [spares.customers]; exact inv.customers
  opened := inv.opened
  available := inv.available
  held := inv.held
  credits c member := by
    have backed := inv.credits c member
    obtain ⟨row, found, topic, parent⟩ := backed.event
    exact ⟨by rw [spares.fundings]; exact backed.record, backed.entry.kept spares.posted,
      backed.raises, row, (spares.events _ row topic).mpr found, topic, parent⟩
  fundings := by rw [spares.fundings]; exact inv.fundings
  entries id row found kind := inv.entries id row (spares.kind id row found kind) kind
  events id row found topic := inv.events id row ((spares.events id row topic).mp found) topic
  funded := inv.funded
  posted := inv.posted
  notified := inv.notified

theorem Sound.customer (inv : Sound s) {request : CustomerAccountRequest} {db' : Database E}
    (customer : Customer config request draw s.db db')
    (record : db'.provisioningRecords = s.db.provisioningRecords.insert request.externalReference
      (customerRow config request draw (request.digest E)))
    (unused : ∀ key old, s.db.provisioningRecords.lookup key = some old →
      old.availableAccountId ≠ draw.availableId ∧ old.heldAccountId ≠ draw.heldId) :
    Sound ⟨db', s.openings ++ [⟨request, customerRow config request draw (request.digest E)⟩],
      s.credits⟩ := by
  have fundings : db'.fundingRecords = s.db.fundingRecords := by rw [customer.frame]
  have outbox : db'.outboxMessages = s.db.outboxMessages := by rw [customer.frame]
  have fresh : ∀ o ∈ s.openings, o.request.externalReference ≠ request.externalReference := by
    intro o member same
    have present := (inv.openings o member).record
    rw [same, customer.fresh] at present
    cases present
  exact
    { projected := customer.ledger.projected inv.projected
      openings := by
        intro o member
        rcases List.mem_append.mp member with old | new
        · have backed := inv.openings o old
          refine ⟨?_, backed.hash, backed.available.opened customer.ledger,
            backed.held.opened customer.ledger⟩
          rw [record, AList.lookup_insert_ne (fresh o old)]
          exact backed.record
        · rw [List.mem_singleton.mp new]
          refine ⟨?_, rfl, customer.available, customer.held⟩
          rw [record]
          exact AList.lookup_insert _
      customers := fun reference row found =>
        Log.mem_extend rfl (record ▸ found) (inv.customers reference row)
      opened := Log.nodup_extend inv.opened fresh
      available := Log.nodup_extend inv.available fun o member =>
        (unused _ o.row (inv.openings o member).record).1
      held := Log.nodup_extend inv.held fun o member =>
        (unused _ o.row (inv.openings o member).record).2
      credits := by
        intro c member
        have backed := inv.credits c member
        exact ⟨by rw [fundings]; exact backed.record, backed.entry.kept customer.ledger.keepsPosted,
          backed.raises, by rw [outbox]; exact backed.event⟩
      fundings := by rw [fundings]; exact inv.fundings
      entries := by rw [customer.ledger.transactions]; exact inv.entries
      events := by rw [outbox]; exact inv.events
      funded := inv.funded
      posted := inv.posted
      notified := inv.notified }

section Deposited

variable {s : System E} {config : Config} {request : DepositRequest} {draw : DepositDraw}
  {db' : Database E} {account : AccountRow} {receipt : Ledger.Receipt}

theorem Sound.journaled (inv : Sound s)
    (deposited : Deposited config request draw s.db db' account (request.digest E) receipt) :
    ∃ row, Journaled s.db.ledger db'.ledger
      (depositJournal config request draw account.bookId (request.digest E)) row ∧
      receipt.transactionId = ascii "funding_transaction_" ++ draw.transaction.text := by
  rcases postInTx_posts inv.projected deposited.posted with ⟨_, row, found, records⟩ | ⟨named, row, posted⟩
  · obtain ⟨c, member, same⟩ := inv.entries _ row found records.kind
    exact absurd same (deposited.unused _ _ (inv.credits c member).record)
  · exact ⟨row, posted, named⟩

theorem deposits_of_journaled {bookId : Bytes} {hash : Digest} {row : TransactionRow E}
    (posted : Journaled st st' (depositJournal config request draw bookId hash) row) :
    Deposits st' (ascii "funding_transaction_" ++ draw.transaction.text) request := by
  refine ⟨row, fundingAccountFor config.fundingAccountId bookId, ?_, posted.records.posted,
    posted.records.kind, posted.lines⟩
  rw [posted.transactions]
  exact AList.lookup_insert _

variable (inv : Sound s)
  (deposited : Deposited config request draw s.db db' account (request.digest E) receipt)
include inv deposited

theorem Sound.unfunded :
    ∀ c ∈ s.credits, c.request.externalReference ≠ request.externalReference := by
  intro c member same
  have present := (inv.credits c member).record
  rw [same, deposited.fresh] at present
  cases present

variable {event : OutboxRow E}
  (record : db'.fundingRecords = s.db.fundingRecords.insert request.externalReference
    (fundingRow config request receipt.transactionId (request.digest E)))
  (notified : Notified draw.eventId receipt.transactionId s.db db' event)
include record notified

omit deposited record in
theorem Sound.silent : ∀ c ∈ s.credits, c.eventId ≠ draw.eventId := by
  intro c member same
  obtain ⟨_, present, _⟩ := (inv.credits c member).event
  rw [same, notified.fresh] at present
  cases present

theorem Sound.credited :
    ∀ c ∈ s.credits ++ [⟨request, config.region, receipt.transactionId, draw.eventId, s.db.escrow,
      db'.escrow⟩], c.Backed db' := by
  obtain ⟨row, posted, named⟩ := inv.journaled deposited
  intro c member
  rcases List.mem_append.mp member with old | new
  · have backed := inv.credits c old
    obtain ⟨message, found, topic, parent⟩ := backed.event
    refine ⟨?_, backed.entry.kept posted.keepsPosted, backed.raises, message, ?_, topic, parent⟩
    · rw [record, AList.lookup_insert_ne (inv.unfunded deposited c old)]
      exact backed.record
    · rw [notified.outbox, AList.lookup_insert_ne (inv.silent notified c old)]
      exact found
  · obtain ⟨version, raised⟩ := deposited.raised
    rw [List.mem_singleton.mp new]
    refine ⟨?_, ?_, raiseEscrow_raises raised, event, ?_, notified.topic, notified.parent⟩
    · rw [record]
      exact AList.lookup_insert _
    · rw [named]
      exact deposits_of_journaled posted
    · rw [notified.outbox]
      exact AList.lookup_insert _

theorem Sound.credit :
    Sound ⟨db', s.openings, s.credits ++ [⟨request, config.region, receipt.transactionId,
      draw.eventId, s.db.escrow, db'.escrow⟩]⟩ := by
  obtain ⟨row, posted, named⟩ := inv.journaled deposited
  have customers : db'.provisioningRecords = s.db.provisioningRecords := by rw [deposited.frame]
  exact
    { projected := posted.projected
      openings := fun o member =>
        (inv.openings o member).kept customers fun _ _ found => by rw [posted.accounts]; exact found
      customers := by rw [customers]; exact inv.customers
      opened := inv.opened
      available := inv.available
      held := inv.held
      credits := inv.credited deposited record notified
      fundings := fun reference stored found =>
        Log.mem_extend rfl (record ▸ found) (inv.fundings reference stored)
      entries := fun id other found kind =>
        Log.mem_extend named (posted.transactions ▸ found) fun old => inv.entries id other old kind
      events := fun id message found topic =>
        Log.mem_extend rfl (notified.outbox ▸ found) fun old => inv.events id message old topic
      funded := Log.nodup_extend inv.funded (inv.unfunded deposited)
      posted := Log.nodup_extend inv.posted fun c member =>
        deposited.unused _ _ (inv.credits c member).record
      notified := Log.nodup_extend inv.notified (inv.silent notified) }

end Deposited

theorem recordedCustomer_cases {request : CustomerAccountRequest} {answer : CustomerAccountResult}
    (done : recordedCustomer config request draw s = .ok (s', answer)) (inv : Sound s) :
    request.Valid ∧ Sound s' ∧ KeepsRecords s s' ∧
      ∃ row duplicate, s'.db.provisioningRecords.lookup request.externalReference = some row ∧
        row.requestHash = request.digest E ∧ answer = answerOf row duplicate := by
  simp only [recordedCustomer, steps_ok, Prod.exists] at done
  obtain ⟨db, _, opened, rfl, rfl⟩ := done
  obtain ⟨hash, hashed, valid, outcome⟩ := provisionCustomerAccount_effects opened
  cases Except.ok.inj (hashed.symm.trans (requestHash_text request.legal))
  refine ⟨valid, ?_⟩
  rcases outcome with ⟨stored, found, same, rfl, rfl⟩ | ⟨customer, record, unused, rfl⟩
  · exact ⟨inv, .refl s, stored, true, found, same, rfl⟩
  · refine ⟨inv.customer customer record unused, ⟨?_, ?_⟩, _, false, ?_, rfl, rfl⟩
    · intro reference row found
      dsimp only
      rw [record]
      exact AList.lookup_insert_fresh customer.fresh _ found
    · intro reference row found
      dsimp only
      rw [customer.frame]
      exact found
    · dsimp only
      rw [record]
      exact AList.lookup_insert _

theorem recordedDeposit_cases {request : DepositRequest}
    {draw : DepositDraw} {answer : DepositResult}
    (done : recordedDeposit config request draw s = .ok (s', answer)) (inv : Sound s) :
    request.Valid ∧ Sound s' ∧ KeepsRecords s s' ∧
      ∃ row duplicate, s'.db.fundingRecords.lookup request.externalReference = some row ∧
        row.requestHash = request.digest E ∧ answer = ⟨row.ledgerTransactionId, duplicate⟩ := by
  simp only [recordedDeposit, steps_ok, Prod.exists] at done
  obtain ⟨db, _, made, rfl, rfl⟩ := done
  obtain ⟨hash, hashed, _, valid, outcome⟩ := deposit_effects made
  cases Except.ok.inj (hashed.symm.trans (requestHash_text request.legal))
  refine ⟨valid, ?_⟩
  rcases outcome with ⟨stored, found, same, rfl, rfl⟩ |
    ⟨account, receipt, event, deposited, record, notified, rfl⟩
  · exact ⟨inv, .refl s, stored, true, found, same, rfl⟩
  · refine ⟨inv.credit deposited record notified, ⟨?_, ?_⟩,
      fundingRow config request receipt.transactionId (request.digest E), false, ?_, rfl, rfl⟩
    · intro reference row found
      dsimp only
      rw [deposited.frame]
      exact found
    · intro reference row found
      dsimp only
      rw [record]
      exact AList.lookup_insert_fresh deposited.fresh _ found
    · dsimp only
      rw [record]
      exact AList.lookup_insert _

theorem Sound.step (inv : Sound s) (command : Command E) (shared : Shared s command) :
    Sound (step s command) ∧ KeepsRecords s (References.step s command) := by
  cases command with
  | customer config request draw ending =>
    refine attempt_preserves (recordedCustomer config request draw)
      (fun s' => Sound s' ∧ KeepsRecords s s') ending ⟨inv, .refl s⟩ ?_
    intro s' answer done
    obtain ⟨_, sound, keeps, _⟩ := recordedCustomer_cases done inv
    exact ⟨sound, keeps⟩
  | deposit config request draw ending =>
    refine attempt_preserves (recordedDeposit config request draw)
      (fun s' => Sound s' ∧ KeepsRecords s s') ending ⟨inv, .refl s⟩ ?_
    intro s' answer done
    obtain ⟨_, sound, keeps, _⟩ := recordedDeposit_cases done inv
    exact ⟨sound, keeps⟩
  | elsewhere =>
    refine ⟨inv.elsewhere shared, ⟨?_, ?_⟩⟩
    · intro reference row found
      exact (congrArg (AList.lookup reference) shared.customers).trans found
    · intro reference row found
      exact (congrArg (AList.lookup reference) shared.fundings).trans found

theorem run_sound (inv : Sound s) (commands : List (Command E))
    (shared : Along step Shared s commands) :
    Sound (run step s commands) ∧ KeepsRecords s (run step s commands) := by
  refine run_preserves_along step Shared (fun s' => Sound s' ∧ KeepsRecords s s') ?_ commands shared
    ⟨inv, .refl s⟩
  intro s' command legal ⟨sound, kept⟩
  obtain ⟨next, keeps⟩ := sound.step command legal
  exact ⟨next, kept.trans keeps⟩

def Separates (E : Engine) (first second : Json.Value) : Prop :=
  E.sha256 (Json.write first) = E.sha256 (Json.write second) →
    Json.write first = Json.write second

theorem attempt_refused {σ ε α : Type} (body : σ → Except ε (σ × α)) {s : σ} {failure : ε}
    (refused : body s = .error failure) (ending : Ending) : attempt body ending s = s := by
  cases ending <;> simp [attempt, commit, refused]

theorem Sound.customer_conflict (inv : Sound s) {o : Opening}
    (member : o ∈ s.openings) (config : Config) {request : CustomerAccountRequest}
    (draw : CustomerDraw) (reference : request.externalReference = o.request.externalReference)
    (differs : o.request.json ≠ request.json)
    (separates : Separates E o.request.json request.json) :
    provisionCustomerAccount config request draw s.db =
      .error (if request.Valid then .requestConflict else .invalidRequest) := by
  have backed := inv.openings o member
  by_cases valid : request.Valid
  · rw [if_pos valid]
    apply provisionCustomerAccount_conflict config draw valid (reference ▸ backed.record)
    rw [backed.hash]
    exact digest_differs o.request.legal request.legal differs separates
  · rw [if_neg valid, provisionCustomerAccount, bind_error]
    exact .inl (require_error.mpr ⟨valid, rfl⟩)

theorem Sound.deposit_conflict (inv : Sound s) {c : Credit}
    (member : c ∈ s.credits) (config : Config) {request : DepositRequest} (draw : DepositDraw)
    (reference : request.externalReference = c.request.externalReference)
    (differs : c.request.json ≠ request.json)
    (separates : Separates E c.request.json request.json) : deposit config request draw s.db =
      .error (if config.fundingAccountId ≠ [] ∧ request.Valid then .requestConflict
        else .invalidRequest) := by
  have backed := inv.credits c member
  by_cases configured : config.fundingAccountId = []
  · rw [if_neg (fun both => both.1 configured), deposit, bind_error]
    exact .inl (require_error.mpr ⟨fun other => other configured, rfl⟩)
  by_cases valid : request.Valid
  · rw [if_pos ⟨configured, valid⟩]
    apply Provisioning.deposit_conflict draw configured valid (reference ▸ backed.record)
    exact digest_differs c.request.legal request.legal differs separates
  · rw [if_neg (fun both => valid both.2), deposit, bind_error]
    refine .inr ⟨(), require_ok.mpr configured, ?_⟩
    rw [bind_error]
    exact .inl (require_error.mpr ⟨valid, rfl⟩)

theorem references_commit_once (db : Database E) (commands : List (Command E))
    (shared : Along step Shared (start db) commands) :
    let s := run step (start db) commands
    Sound s ∧
    (∀ o ∈ s.openings, ∀ config (request : CustomerAccountRequest) draw ending,
      request.externalReference = o.request.externalReference → o.request.json ≠ request.json →
      Separates E o.request.json request.json →
      provisionCustomerAccount config request draw s.db =
          .error (if request.Valid then .requestConflict else .invalidRequest) ∧
        step s (.customer config request draw ending) = s) ∧
    (∀ c ∈ s.credits, ∀ config (request : DepositRequest) draw ending,
      request.externalReference = c.request.externalReference → c.request.json ≠ request.json →
      Separates E c.request.json request.json →
      deposit config request draw s.db =
          .error (if config.fundingAccountId ≠ [] ∧ request.Valid then .requestConflict
            else .invalidRequest) ∧
        step s (.deposit config request draw ending) = s) ∧
    (∀ config request draw s' answer, recordedCustomer config request draw s = .ok (s', answer) →
      ∀ later, Along step Shared s' later → ∀ config' draw',
        provisionCustomerAccount config' request draw' (run step s' later).db =
          .ok ((run step s' later).db, { answer with duplicate := true })) ∧
    (∀ config request draw s' answer, recordedDeposit config request draw s = .ok (s', answer) →
      ∀ later, Along step Shared s' later → ∀ (config' : Config) draw',
        config'.fundingAccountId ≠ [] →
        deposit config' request draw' (run step s' later).db =
          .ok ((run step s' later).db, { answer with duplicate := true })) := by
  intro s
  have inv : Sound s := (run_sound (start_sound db) commands shared).1
  refine ⟨inv, ?_, ?_, ?_, ?_⟩
  · intro o member config request draw ending reference differs separates
    have refused := inv.customer_conflict member config draw reference differs separates
    exact ⟨refused, attempt_refused (recordedCustomer config request draw)
      (bind_error.mpr (Or.inl refused)) ending⟩
  · intro c member config request draw ending reference differs separates
    have refused := inv.deposit_conflict member config draw reference differs separates
    exact ⟨refused, attempt_refused (recordedDeposit config request draw)
      (bind_error.mpr (Or.inl refused)) ending⟩
  · intro config request draw s' answer done later legal config' draw'
    obtain ⟨valid, sound, _, row, _, found, same, rfl⟩ := recordedCustomer_cases done inv
    exact provisionCustomerAccount_replays config' draw' valid
      ((run_sound sound later legal).2.customers _ row found) same
  · intro config request draw s' answer done later legal config' draw' configured
    obtain ⟨valid, sound, _, row, _, found, same, rfl⟩ := recordedDeposit_cases done inv
    exact deposit_replays draw' configured valid
      ((run_sound sound later legal).2.fundings _ row found) same

/- One customer with one deposit, whose reference is then used with another amount. -/

def sampleSource : Ledger.Tables rollingEngine :=
  commit (createAccountInTx ⟨ascii "funding-book-le-r-1", ascii "book-le-r-1", ascii "KZT",
    ascii "FUNDING", Side.credit.text, false, 0⟩)
    (commit (upsertBookInTx ⟨ascii "book-le-r-1", ascii "le", ascii "KZ", zeroDigest⟩ false)
      (start (vacant (ascii "KZT"))).db.ledger)

def sampleCredit (amount : Int) : DepositRequest :=
  ⟨ascii "d1", (sampleCustomer 1).availableId, ascii "KZT", amount, ascii "src"⟩

def sampleFunding : List (Command rollingEngine) :=
  [.elsewhere { (start (vacant (ascii "KZT"))).db with ledger := sampleSource },
    .customer (sampleConfig "funding") ⟨ascii "alice", ascii "KZT", [], ascii "pay"⟩
      (sampleCustomer 1) .unacknowledged,
    .deposit (sampleConfig "funding") (sampleCredit 5) (sampleDeposit 2) .unacknowledged]

theorem Spares.opened {db : Database E} {ledger : Ledger.Tables E}
    (opened : Ledger.OpensOnly db.ledger ledger) : Spares db { db with ledger := ledger } where
  posted := opened.keepsPosted
  projected := opened.projected
  accounts := opened.accounts
  kind id row found _ := by
    rw [← opened.transactions]
    exact found
  customers := rfl
  fundings := rfl
  events _ _ _ := Iff.rfl

theorem sampleSource_opened :
    Ledger.OpensOnly (start (vacant (ascii "KZT"))).db.ledger sampleSource := by
  have book := commit_preserves (upsertBookInTx ⟨ascii "book-le-r-1", ascii "le", ascii "KZ",
    zeroDigest⟩ false) (Ledger.OpensOnly (start (vacant (ascii "KZT"))).db.ledger) (.refl _)
    fun _ _ done => upsertBookInTx_opened done
  exact commit_preserves _ (Ledger.OpensOnly _) book
    fun _ _ done => book.trans (createAccountInTx_opened done).1

theorem sample_reference_commits_once :
    let s := run step (start (vacant (ascii "KZT"))) sampleFunding
    (s.openings.length = 1 ∧ s.credits.length = 1) ∧ Sound s ∧
    ∀ c ∈ s.credits, c.request.amount = 5 ∧
      deposit (sampleConfig "funding") (sampleCredit 6) (sampleDeposit 4) s.db =
        .error .requestConflict := by
  intro s
  have general := references_commit_once (vacant (ascii "KZT")) sampleFunding
    (And.intro (Spares.opened sampleSource_opened) ⟨trivial, trivial, trivial⟩)
  have shown : (s.openings.length, s.credits.map fun c => c.request) = (1, [sampleCredit 5]) := by
    decide +kernel
  obtain ⟨opened, credited⟩ := Prod.mk.inj shown
  have length : s.credits.length = 1 := by
    simpa using congrArg List.length credited
  refine ⟨⟨opened, length⟩, general.1, ?_⟩
  intro c member
  have request : c.request = sampleCredit 5 := by
    have inside := List.mem_map_of_mem (f := fun c : Credit => c.request) member
    rw [credited] at inside
    exact List.mem_singleton.mp inside
  refine ⟨by rw [request]; rfl, ?_⟩
  have refused := (general.2.2.1 c member (sampleConfig "funding") (sampleCredit 6) (sampleDeposit 4)
    .acknowledged (by rw [request]; rfl) ?_ ?_).1
  · rw [if_pos (by decide +kernel)] at refused
    exact refused
  · intro same
    rw [request] at same
    have amounts := congrArg DepositRequest.amount
      (DepositRequest.json_injective (by decide +kernel) same)
    revert amounts
    decide
  · rw [request]
    unfold Separates
    decide +kernel

end PaymentPlatform.Provisioning.References
