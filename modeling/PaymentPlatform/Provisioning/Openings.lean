import PaymentPlatform.Escrow.Receipts
import PaymentPlatform.Ledger.Entries
import PaymentPlatform.Provisioning.Service

/-! What a provisioning call or a deposit leaves in the database when it commits. -/

namespace PaymentPlatform.Provisioning

open Framing Ledger Serial

variable {E : Engine} {db db' : Database E}
variable {config : Config} {bookId accountId assetId : Bytes} {request : DepositRequest}
  {draw : DepositDraw}

theorem onLedger_ok {α : Type}
    {operation : Ledger.Tables E → Except Ledger.Failure (Ledger.Tables E × α)} {answer : α}
    (done : onLedger operation db = .ok (db', answer)) :
    operation db.ledger = .ok (db'.ledger, answer) ∧ db' = { db with ledger := db'.ledger } := by
  simp only [onLedger, steps_ok, Prod.exists] at done
  obtain ⟨ledger, _, made, rfl, rfl⟩ := done
  exact ⟨made, rfl⟩

theorem ensureBook_opened (done : ensureBook config bookId db = .ok (db', ())) :
    OpensOnly db.ledger db'.ledger ∧ db' = { db with ledger := db'.ledger } := by
  obtain ⟨made, frame⟩ := onLedger_ok done
  exact ⟨upsertBookInTx_opened made, frame⟩

def accountOf (accountId bookId assetId : Bytes) (accountType : String)
    (enforceSpendLimit : Bool) : Account :=
  ⟨accountId, bookId, assetId, ascii accountType, Side.credit.text, enforceSpendLimit, 0⟩

def HasAccount (st : Ledger.Tables E) (account : Account) : Prop :=
  ∃ row, st.accounts.lookup account.accountId = some row ∧ row.Defines account

theorem HasAccount.opened {st st' : Ledger.Tables E} {account : Account}
    (open_ : HasAccount st account) (opened : OpensOnly st st') : HasAccount st' account := by
  obtain ⟨row, found, defines⟩ := open_
  exact ⟨row, opened.accounts _ _ found, defines⟩

theorem createAccount_opened {accountType : String} {enforceSpendLimit : Bool}
    (done : createAccount accountId bookId assetId accountType enforceSpendLimit db = .ok (db', ())) :
    OpensOnly db.ledger db'.ledger ∧ db' = { db with ledger := db'.ledger } ∧
      HasAccount db'.ledger (accountOf accountId bookId assetId accountType enforceSpendLimit) := by
  obtain ⟨made, frame⟩ := onLedger_ok done
  obtain ⟨opened, row, found, defines⟩ := createAccountInTx_opened made
  exact ⟨opened, frame, row, found, defines⟩

/-- A registry that is the same, or has one account more that it did not have. -/
def Registers (bookId assetId accountId : Bytes) (registry registry' : Table (Bytes × Bytes) Bytes) :
    Prop :=
  (∃ stored, registry.lookup (bookId, assetId) = some stored ∧ registry' = registry) ∨
    (registry.lookup (bookId, assetId) = none ∧
      (∀ key stored, registry.lookup key = some stored → stored ≠ accountId) ∧
      registry' = registry.insert (bookId, assetId) accountId)

theorem registerSettlement_ok (done : registerSettlement bookId assetId accountId db = .ok db') :
    Registers bookId assetId accountId db.settlementAccounts db'.settlementAccounts ∧
      db' = { db with settlementAccounts := db'.settlementAccounts } := by
  unfold registerSettlement at done
  split at done
  · rename_i stored found
    cases done
    exact ⟨Or.inl ⟨stored, found, rfl⟩, rfl⟩
  · rename_i absent
    simp only [steps_ok] at done
    obtain ⟨_, unused, rfl⟩ := done
    refine ⟨Or.inr ⟨absent, ?_, rfl⟩, rfl⟩
    intro key stored found
    simp only [List.all_eq_true, Prod.forall, AList.mem_rows, decide_eq_true_eq] at unused
    exact unused key.1 key.2 stored found

theorem ensureSettlementAccount_ok (done : ensureSettlementAccount bookId assetId db = .ok db') :
    OpensOnly db.ledger db'.ledger ∧
      HasAccount db'.ledger (accountOf (settlementAccountFor bookId assetId) bookId assetId
        "INTERBOOK_SETTLEMENT" false) ∧
      Registers bookId assetId (settlementAccountFor bookId assetId) db.settlementAccounts
        db'.settlementAccounts ∧
      db' = { db with ledger := db'.ledger, settlementAccounts := db'.settlementAccounts } := by
  simp only [ensureSettlementAccount, bind_ok, Prod.exists] at done
  obtain ⟨mid, _, created, registered⟩ := done
  obtain ⟨opened, frame, account⟩ := createAccount_opened created
  obtain ⟨registers, frame'⟩ := registerSettlement_ok registered
  have ledger : db'.ledger = mid.ledger := by rw [frame']
  have registry : mid.settlementAccounts = db.settlementAccounts := by rw [frame]
  refine ⟨ledger ▸ opened, ledger ▸ account, registry ▸ registers, ?_⟩
  rw [frame']
  rw [frame]

def Grants (grants : List CapabilityRow) (capabilities capabilities' : Table Bytes CapabilityRow) :
    Prop :=
  ∀ id row, capabilities'.lookup id = some row →
    capabilities.lookup id = some row ∨ row ∈ grants

theorem grantCapabilities_ok {grants : List CapabilityRow}
    (done : grantCapabilities grants db = .ok db') :
    Grants grants db.capabilities db'.capabilities ∧
      db' = { db with capabilities := db'.capabilities } := by
  induction grants generalizing db with
  | nil =>
    simp only [grantCapabilities, List.foldlM_nil, pure_ok] at done
    subst done
    exact ⟨fun _ _ found => Or.inl found, rfl⟩
  | cons grant rest ih =>
    simp only [grantCapabilities, List.foldlM_cons, bind_ok] at done
    obtain ⟨mid, first, others⟩ := done
    obtain ⟨later, frame⟩ := ih others
    have granted : Grants [grant] db.capabilities mid.capabilities ∧
        mid = { db with capabilities := mid.capabilities } := by
      simp only [grantCapability, bind_ok] at first
      obtain ⟨_, _, _, _, first⟩ := first
      split at first
      · simp only [pure_ok] at first
        subst first
        exact ⟨fun _ _ found => Or.inl found, rfl⟩
      · simp only [pure_ok] at first
        subst first
        refine ⟨?_, rfl⟩
        intro id row found
        rw [AList.lookup_insert_if] at found
        split at found
        · cases found
          exact .inr (by simp)
        · exact .inl found
    refine ⟨?_, ?_⟩
    · intro id row found
      rcases later id row found with earlier | member
      · rcases granted.1 id row earlier with old | new
        · exact .inl old
        · rw [List.mem_singleton.mp new]
          exact .inr (by simp)
      · exact .inr (by simp [member])
    · rw [frame]
      rw [granted.2]

theorem onEscrow_frame {α : Type} {operation : Escrow.Tables → Except Failure (Escrow.Tables × α)}
    {answer : α} (done : onEscrow operation db = .ok (db', answer)) :
    operation db.escrow = .ok (db'.escrow, answer) ∧ db' = { db with escrow := db'.escrow } := by
  simp only [onEscrow, steps_ok, Prod.exists] at done
  obtain ⟨escrow, _, made, rfl, rfl⟩ := done
  exact ⟨made, rfl⟩

theorem insertZeroEscrow_ok {region : Bytes} {st st' : Escrow.Tables}
    (done : insertZeroEscrow E accountId assetId region st = .ok (st', ())) :
    (∀ key, (st'.authorities.lookup key).isSome →
        (st.authorities.lookup key).isSome ∨ key = (accountId, assetId)) ∧
      st'.effectReceipts = st.effectReceipts := by
  simp only [insertZeroEscrow, steps_ok] at done
  obtain ⟨_, _, mid, authority, last, rights, rfl, _⟩ := done
  have second : last.authorities = mid.authorities ∧ last.effectReceipts = mid.effectReceipts := by
    unfold openRights at rights
    split at rights
    · cases rights
      exact ⟨rfl, rfl⟩
    · simp only [Escrow.writeRights, steps_ok] at rights
      obtain ⟨_, _, _, _, _, _, rfl⟩ := rights
      exact ⟨rfl, rfl⟩
  unfold openAuthority at authority
  split at authority
  · cases authority
    exact ⟨fun key present => Or.inl (second.1 ▸ present), second.2⟩
  · simp only [Escrow.writeAuthority, steps_ok] at authority
    obtain ⟨_, _, _, _, rfl⟩ := authority
    refine ⟨?_, second.2⟩
    intro key present
    rw [second.1, AList.lookup_insert_if] at present
    split at present
    · rename_i same
      exact .inr same
    · exact .inl present

/-- A customer who was not there before: three accounts, zero rights, the grants. -/
structure Customer (config : Config) (request : CustomerAccountRequest) (draw : CustomerDraw)
    (db db' : Database E) : Prop where
  ledger : OpensOnly db.ledger db'.ledger
  settlement : HasAccount db'.ledger
    (accountOf (settlementAccountFor (bookIdFor config request.externalReference) request.assetId)
      (bookIdFor config request.externalReference) request.assetId "INTERBOOK_SETTLEMENT" false)
  available : HasAccount db'.ledger (accountOf draw.availableId
    (bookIdFor config request.externalReference) request.assetId "CUSTOMER_AVAILABLE" true)
  held : HasAccount db'.ledger (accountOf draw.heldId
    (bookIdFor config request.externalReference) request.assetId "CUSTOMER_HELD" true)
  registers : Registers (bookIdFor config request.externalReference) request.assetId
    (settlementAccountFor (bookIdFor config request.externalReference) request.assetId)
    db.settlementAccounts db'.settlementAccounts
  grants : Grants (customerGrants request (bookIdFor config request.externalReference) draw)
    db.capabilities db'.capabilities
  authorities : ∀ key, (db'.escrow.authorities.lookup key).isSome →
    (db.escrow.authorities.lookup key).isSome ∨ key = (draw.availableId, request.assetId)
  receipts : db'.escrow.effectReceipts = db.escrow.effectReceipts
  zero : insertZeroEscrow E draw.availableId request.assetId config.region db.escrow =
    .ok (db'.escrow, ())
  fresh : db.provisioningRecords.lookup request.externalReference = none
  record : ∃ row : CustomerRow,
    db'.provisioningRecords = db.provisioningRecords.insert request.externalReference row ∧
      row.assetId = request.assetId ∧ row.availableAccountId = draw.availableId ∧
      row.heldAccountId = draw.heldId
  frame : db' = { db with
    ledger := db'.ledger
    escrow := db'.escrow
    capabilities := db'.capabilities
    provisioningRecords := db'.provisioningRecords
    settlementAccounts := db'.settlementAccounts }

theorem insertCustomer_frame {externalReference : Bytes} {row : CustomerRow}
    (done : insertCustomer externalReference row db = .ok db') :
    (∀ key old, db.provisioningRecords.lookup key = some old →
        old.availableAccountId ≠ row.availableAccountId ∧ old.heldAccountId ≠ row.heldAccountId) ∧
      db' = { db with
        provisioningRecords := db.provisioningRecords.insert externalReference row } := by
  simp only [insertCustomer, steps_ok] at done
  obtain ⟨_, _, _, _, _, unused, rfl⟩ := done
  refine ⟨?_, rfl⟩
  intro key old found
  simp only [List.all_eq_true, Prod.forall, AList.mem_rows, decide_eq_true_eq] at unused
  exact unused key old found

def customerRow (config : Config) (request : CustomerAccountRequest) (draw : CustomerDraw)
    (hash : Digest) : CustomerRow :=
  { paymentPrincipalId := request.paymentPrincipalId
    assetId := request.assetId
    region := config.region
    bookId := bookIdFor config request.externalReference
    availableAccountId := draw.availableId
    heldAccountId := draw.heldId
    requestHash := hash }

def answerOf (row : CustomerRow) (duplicate : Bool) : CustomerAccountResult :=
  ⟨row.region, row.bookId, row.availableAccountId, row.heldAccountId, duplicate⟩

theorem provisionCustomerAccount_effects {request : CustomerAccountRequest} {draw : CustomerDraw}
    {answer : CustomerAccountResult}
    (done : provisionCustomerAccount config request draw db = .ok (db', answer)) :
    ∃ hash, requestHash E request.json = .ok hash ∧ request.Valid ∧
      ((∃ stored, db.provisioningRecords.lookup request.externalReference = some stored ∧
          stored.requestHash = hash ∧ db' = db ∧ answer = answerOf stored true) ∨
        (Customer config request draw db db' ∧
          db'.provisioningRecords = db.provisioningRecords.insert request.externalReference
            (customerRow config request draw hash) ∧
          (∀ key old, db.provisioningRecords.lookup key = some old →
            old.availableAccountId ≠ draw.availableId ∧ old.heldAccountId ≠ draw.heldId) ∧
          answer = answerOf (customerRow config request draw hash) false)) := by
  simp only [provisionCustomerAccount, steps_ok] at done
  obtain ⟨_, valid, hash, hashed, done⟩ := done
  refine ⟨hash, hashed, valid, ?_⟩
  split at done
  · rename_i stored found
    simp only [steps_ok] at done
    obtain ⟨_, same, rfl, rfl⟩ := done
    exact .inl ⟨stored, found, same, rfl, rfl⟩
  rename_i fresh
  simp only [steps_ok, Prod.exists] at done
  obtain ⟨d1, _, book, d2, settled, d3, _, first, d4, _, second, d5, _, zeroed, d6, granted, d7,
    stored, rfl, rfl⟩ := done
  obtain ⟨o1, f1⟩ := ensureBook_opened book
  obtain ⟨o2, settlement, registers, f2⟩ := ensureSettlementAccount_ok settled
  obtain ⟨o3, f3, available⟩ := createAccount_opened first
  obtain ⟨o4, f4, held⟩ := createAccount_opened second
  obtain ⟨opened, f5⟩ := onEscrow_frame zeroed
  obtain ⟨grants, f6⟩ := grantCapabilities_ok granted
  obtain ⟨unused, f7⟩ := insertCustomer_frame stored
  have l7 : d7.ledger = d4.ledger := by rw [f7, f6, f5]
  have e4 : d4.escrow = db.escrow := by rw [f4, f3, f2, f1]
  have e7 : d7.escrow = d5.escrow := by rw [f7, f6]
  have c5 : d5.capabilities = db.capabilities := by rw [f5, f4, f3, f2, f1]
  have c7 : d7.capabilities = d6.capabilities := by rw [f7]
  have s1 : d1.settlementAccounts = db.settlementAccounts := by rw [f1]
  have s7 : d7.settlementAccounts = d2.settlementAccounts := by rw [f7, f6, f5, f4, f3]
  have p6 : d6.provisioningRecords = db.provisioningRecords := by rw [f6, f5, f4, f3, f2, f1]
  rw [e4] at opened
  obtain ⟨authorities, receipts⟩ := insertZeroEscrow_ok opened
  have record : d7.provisioningRecords = db.provisioningRecords.insert request.externalReference
      (customerRow config request draw hash) := by
    rw [f7, p6]
    rfl
  refine .inr ⟨?_, record, ?_, rfl⟩
  · refine
      { ledger := l7 ▸ o1.trans (o2.trans (o3.trans o4))
        settlement := l7 ▸ (settlement.opened o3).opened o4
        available := l7 ▸ available.opened o4
        held := l7 ▸ held
        registers := s7 ▸ s1 ▸ registers
        grants := c7 ▸ c5 ▸ grants
        authorities := e7 ▸ authorities
        receipts := e7 ▸ receipts
        zero := e7 ▸ opened
        fresh := fresh
        record := ⟨_, record, rfl, rfl, rfl⟩
        frame := ?_ }
    rw [f7, f6, f5, f4, f3, f2, f1]
  · intro key old found
    rw [← p6] at found
    exact unused key old found

theorem provisionCustomerAccount_cases {request : CustomerAccountRequest} {draw : CustomerDraw}
    {answer : CustomerAccountResult}
    (done : provisionCustomerAccount config request draw db = .ok (db', answer)) :
    db' = db ∨ Customer config request draw db db' := by
  obtain ⟨_, _, _, ⟨_, _, _, same, _⟩ | ⟨customer, _⟩⟩ := provisionCustomerAccount_effects done
  · exact .inl same
  · exact .inr customer

structure Deposited (config : Config) (request : DepositRequest) (draw : DepositDraw)
    (db db' : Database E) (account : AccountRow) (hash : Digest) (receipt : Ledger.Receipt) :
    Prop where
  fresh : db.fundingRecords.lookup request.externalReference = none
  found : db.ledger.accounts.lookup request.accountId = some account
  posted : postInTx (depositJournal config request draw account.bookId hash) false db.ledger =
    .ok (db'.ledger, receipt)
  raised : ∃ version, raiseEscrow request.accountId request.assetId config.region request.amount
    db.escrow = .ok (db'.escrow, version)
  record : ∃ row : FundingRow, row.ledgerTransactionId = receipt.transactionId ∧
    db'.fundingRecords = db.fundingRecords.insert request.externalReference row
  unused : ∀ key row, db.fundingRecords.lookup key = some row →
    row.ledgerTransactionId ≠ receipt.transactionId
  frame : db' = { db with
    ledger := db'.ledger
    escrow := db'.escrow
    outboxMessages := db'.outboxMessages
    fundingRecords := db'.fundingRecords }

def fundingRow (config : Config) (request : DepositRequest) (transactionId : Bytes)
    (hash : Digest) : FundingRow :=
  { accountId := request.accountId
    assetId := request.assetId
    region := config.region
    amountAtoms := request.amount
    fundingSourceReference := request.fundingSourceReference
    ledgerTransactionId := transactionId
    requestHash := hash }

def fundingTopic : Bytes := ascii "ledger-funding-events"

def DepositDraw.eventId (draw : DepositDraw) : Bytes := ascii "funding_event_" ++ draw.event.text

structure Notified (eventId transactionId : Bytes) (db db' : Database E) (row : OutboxRow E) :
    Prop where
  fresh : db.outboxMessages.lookup eventId = none
  topic : row.topic = fundingTopic
  parent : row.parentTransactionId = some transactionId
  outbox : db'.outboxMessages = db.outboxMessages.insert eventId row

theorem publishFunding_ok {receipt : Ledger.Receipt} {version : Int}
    (done : publishFunding config request draw receipt version db = .ok db') :
    (∃ row, Notified draw.eventId receipt.transactionId db db' row) ∧
      db' = { db with outboxMessages := db'.outboxMessages } := by
  simp only [publishFunding, Database.enqueue, steps_ok] at done
  obtain ⟨_, _, _, _, _, _, _, _, _, _, _, fresh, _, _, rfl⟩ := done
  exact ⟨⟨_, fresh, rfl, rfl, rfl⟩, rfl⟩

theorem deposit_effects {answer : DepositResult}
    (done : deposit config request draw db = .ok (db', answer)) :
    ∃ hash, requestHash E request.json = .ok hash ∧ config.fundingAccountId ≠ [] ∧ request.Valid ∧
      ((∃ stored, db.fundingRecords.lookup request.externalReference = some stored ∧
          stored.requestHash = hash ∧ db' = db ∧ answer = ⟨stored.ledgerTransactionId, true⟩) ∨
        ∃ account receipt row, Deposited config request draw db db' account hash receipt ∧
          db'.fundingRecords = db.fundingRecords.insert request.externalReference
            (fundingRow config request receipt.transactionId hash) ∧
          Notified draw.eventId receipt.transactionId db db' row ∧
          answer = ⟨receipt.transactionId, false⟩) := by
  simp only [deposit, steps_ok] at done
  obtain ⟨_, configured, _, valid, hash, hashed, done⟩ := done
  refine ⟨hash, hashed, configured, valid, ?_⟩
  split at done
  · rename_i stored found
    simp only [steps_ok] at done
    obtain ⟨_, same, rfl, rfl⟩ := done
    exact .inl ⟨stored, found, same, rfl, rfl⟩
  rename_i fresh
  simp only [steps_ok, Prod.exists] at done
  obtain ⟨account, found, d1, receipt, posted, d2, version, raised, d3, published, d4, stored, rfl,
    rfl⟩ := done
  obtain ⟨p1, f1⟩ := onLedger_ok posted
  obtain ⟨r2, f2⟩ := onEscrow_frame raised
  obtain ⟨⟨row, notified⟩, f3⟩ := publishFunding_ok published
  simp only [insertFunding, steps_ok] at stored
  obtain ⟨_, _, _, _, _, _, _, unused, rfl⟩ := stored
  have l3 : d3.ledger = d1.ledger := by rw [f3, f2]
  have e1 : d1.escrow = db.escrow := by rw [f1]
  have e3 : d3.escrow = d2.escrow := by rw [f3]
  have r3 : d3.fundingRecords = db.fundingRecords := by rw [f3, f2, f1]
  have m2 : d2.outboxMessages = db.outboxMessages := by rw [f2, f1]
  refine .inr ⟨account, receipt, row, ?_, by rw [r3]; rfl,
    ⟨m2 ▸ notified.fresh, notified.topic, notified.parent, m2 ▸ notified.outbox⟩, rfl⟩
  refine
    { fresh := fresh
      found := found
      posted := l3 ▸ p1
      raised := ⟨version, e3 ▸ e1 ▸ r2⟩
      record := ⟨_, rfl, by rw [r3]⟩
      unused := ?_
      frame := ?_ }
  · simp only [List.all_eq_true, Prod.forall, AList.mem_rows, decide_eq_true_eq, r3] at unused
    exact unused
  · rw [f3, f2, f1]

theorem deposit_cases {answer : DepositResult}
    (done : deposit config request draw db = .ok (db', answer)) :
    db' = db ∨ ∃ account hash receipt, Deposited config request draw db db' account hash receipt := by
  obtain ⟨hash, _, _, _, ⟨_, _, _, same, _⟩ | ⟨account, receipt, _, deposited, _⟩⟩ :=
    deposit_effects done
  · exact .inl same
  · exact .inr ⟨account, hash, receipt, deposited⟩

end PaymentPlatform.Provisioning
