import PaymentPlatform.Idgen.Identifier
import PaymentPlatform.Payment.Receipt

/-! internal/provisioning/service.go with the tables of migrations 011, 026 and
027: customer and merchant accounts, their capabilities, and deposits. No code
closes an account, so the status column is left out. -/

namespace PaymentPlatform

open Framing Ledger Serial Idgen

/-- unicode.IsSpace. -/
def isSpaceRune (c : Char) : Bool :=
  [0x09, 0x0A, 0x0B, 0x0C, 0x0D, 0x20, 0x85, 0xA0, 0x1680, 0x2028, 0x2029, 0x202F, 0x205F,
    0x3000].contains c.toNat || (0x2000 ≤ c.toNat && c.toNat ≤ 0x200A)

/-- boundedID: strings.TrimSpace leaves the value as it is. -/
def boundedId (value : Bytes) : Prop :=
  value ≠ [] ∧ value.length ≤ 512 ∧
    (Json.text value).head?.all (fun c => !isSpaceRune c) = true ∧
    (Json.text value).getLast?.all (fun c => !isSpaceRune c) = true
  deriving Decidable

/-- SettlementAccountFor of internal/transfer. -/
def settlementAccountFor (bookId assetId : Bytes) : Bytes :=
  ascii "settlement_" ++ (bookId ++ (ascii "_" ++ assetId))

namespace Provisioning

variable {E : Engine}

structure Config where
  region : Bytes
  legalEntityId : Bytes
  jurisdiction : Bytes
  bookShards : Nat
  policyVersion : Bytes
  fundingAccountId : Bytes
  deriving DecidableEq

inductive Failure where
  | invalidRequest
  | requestConflict
  | notProvisioned
  | escrowMissing
  | capabilityOutsideBook
  | ledger (failure : Ledger.Failure)
  | database (error : Ledger.SqlError)
  | escrow (error : Escrow.SqlError)
  deriving DecidableEq, Repr

def fundingAccountFor (base bookId : Bytes) : Bytes := base ++ (ascii "-" ++ bookId)

def fnv64a (value : Bytes) : UInt64 :=
  value.foldl (fun hash b => (hash ^^^ b.toUInt64) * 1099511628211) 14695981039346656037

def bookIdFor (config : Config) (externalReference : Bytes) : Bytes :=
  let shard := (fnv64a externalReference).toNat % config.bookShards
  ascii "book-" ++ (config.legalEntityId ++ (ascii "-" ++ (config.region ++ (ascii "-" ++
    decimal shard))))

def requestHash (E : Engine) (request : Json.Value) : Except Failure Digest := do
  let canonical ← expect (canonicalJson (Json.write request)) .invalidRequest
  return E.sha256 canonical

def onLedger {α : Type} (operation : Ledger.Tables E → Except Ledger.Failure (Ledger.Tables E × α))
    (db : Database E) : Except Failure (Database E × α) := do
  let (ledger, answer) ← (operation db.ledger).mapError Failure.ledger
  return ({ db with ledger := ledger }, answer)

def onEscrow {α : Type} (operation : Escrow.Tables → Except Failure (Escrow.Tables × α))
    (db : Database E) : Except Failure (Database E × α) := do
  let (escrow, answer) ← operation db.escrow
  return ({ db with escrow := escrow }, answer)

def ensureBook (config : Config) (bookId : Bytes) (db : Database E) :
    Except Failure (Database E × Unit) :=
  onLedger (upsertBookInTx ⟨bookId, config.legalEntityId, config.jurisdiction, zeroDigest⟩ false) db

def createAccount (accountId bookId assetId : Bytes) (accountType : String)
    (enforceSpendLimit : Bool) (db : Database E) : Except Failure (Database E × Unit) :=
  onLedger (createAccountInTx ⟨accountId, bookId, assetId, ascii accountType, Side.credit.text,
    enforceSpendLimit, 0⟩) db

/-- INSERT INTO interbook_settlement_accounts ... ON CONFLICT (book_id, asset_id) DO NOTHING. -/
def registerSettlement (bookId assetId accountId : Bytes) (db : Database E) :
    Except Failure (Database E) :=
  match db.settlementAccounts.lookup (bookId, assetId) with
  | some _ => .ok db
  | none => do
    require (db.settlementAccounts.rows.all (fun e => e.2 ≠ accountId) = true)
      (.database (.violates .unique))
    return { db with
      settlementAccounts := db.settlementAccounts.insert (bookId, assetId) accountId }

def ensureSettlementAccount (bookId assetId : Bytes) (db : Database E) :
    Except Failure (Database E) := do
  let accountId := settlementAccountFor bookId assetId
  let (db, _) ← createAccount accountId bookId assetId "INTERBOOK_SETTLEMENT" false db
  registerSettlement bookId assetId accountId db

/-- INSERT INTO escrow_authorities ... ON CONFLICT (account_id, asset_id) DO NOTHING. -/
def openAuthority (key : Bytes × Bytes) (st : Escrow.Tables) :
    Except Escrow.SqlError Escrow.Tables :=
  match st.authorities.lookup key with
  | some _ => .ok st
  | none => Escrow.writeAuthority key ⟨0, 0, 0⟩ st

/-- INSERT INTO escrow_regional_rights ... ON CONFLICT (account_id, asset_id, region) DO NOTHING. -/
def openRights (key : Bytes × Bytes × Bytes) (st : Escrow.Tables) :
    Except Escrow.SqlError Escrow.Tables :=
  match st.regionalRights.lookup key with
  | some _ => .ok st
  | none => Escrow.writeRights key ⟨0, 0⟩ st

def insertZeroEscrow (E : Engine) (accountId assetId region : Bytes) (st : Escrow.Tables) :
    Except Failure (Escrow.Tables × Unit) := do
  (Escrow.acceptsAll E [accountId, assetId, region]).mapError Failure.escrow
  let st ← (openAuthority (accountId, assetId) st).mapError Failure.escrow
  let st ← (openRights (accountId, assetId, region) st).mapError Failure.escrow
  return (st, ())

/-- Both updates must find their row; the answer is the new version of the right. -/
def raiseEscrow (accountId assetId region : Bytes) (amount : Int) (st : Escrow.Tables) :
    Except Failure (Escrow.Tables × Int) := do
  let raised ← (Escrow.raiseTotal accountId assetId amount st).mapError Failure.escrow
  let st ← expect raised .escrowMissing
  let raised ← (Escrow.raiseRights accountId assetId region amount st).mapError Failure.escrow
  let st ← expect raised .escrowMissing
  let rights ← expect (st.regionalRights.lookup (accountId, assetId, region)) .escrowMissing
  return (st, rights.version)

def permissionText : Permission → Bytes
  | .authorizePayerAvailable => ascii "AUTHORIZE_PAYER_AVAILABLE"
  | .authorizePayerHeld => ascii "AUTHORIZE_PAYER_HELD"
  | .authorizeMerchant => ascii "AUTHORIZE_MERCHANT"
  | .captureFee => ascii "CAPTURE_FEE"
  | .captureTax => ascii "CAPTURE_TAX"
  | .captureCashbackExpense => ascii "CAPTURE_CASHBACK_EXPENSE"
  | .refundMerchantDebit => ascii "REFUND_MERCHANT_DEBIT"
  | .chargebackMerchantReserve => ascii "CHARGEBACK_MERCHANT_RESERVE"
  | .transferDebitAvailable => ascii "TRANSFER_DEBIT_AVAILABLE"
  | .transferCreditAvailable => ascii "TRANSFER_CREDIT_AVAILABLE"

/-- The first half of the digest of the grant, whose fields are joined with NUL. -/
def capabilityId (E : Engine) (grant : CapabilityRow) : Bytes :=
  let joined := grant.principalId ++ ([0] ++ (grant.bookId ++ ([0] ++ (grant.accountId ++ ([0] ++
    permissionText grant.permission)))))
  ascii "capability-" ++ encodeHex ((E.sha256 joined).val.take 16)

/-- INSERT INTO payment_account_capabilities ... ON CONFLICT (capability_id) DO NOTHING; the
trigger runs before the conflict is seen. -/
def grantCapability (grant : CapabilityRow) (db : Database E) : Except Failure (Database E) := do
  (acceptsAll E [grant.principalId, grant.bookId, grant.accountId]).mapError Failure.database
  require ((db.ledger.accounts.lookup grant.accountId).any
    (fun account => account.bookId = grant.bookId) = true) .capabilityOutsideBook
  match db.capabilities.lookup (capabilityId E grant) with
  | some _ => return db
  | none =>
    return { db with capabilities := db.capabilities.insert (capabilityId E grant) grant }

def grantCapabilities (grants : List CapabilityRow) (db : Database E) :
    Except Failure (Database E) :=
  grants.foldlM (fun db grant => grantCapability grant db) db

structure CustomerAccountRequest where
  externalReference : Bytes
  assetId : Bytes
  transferPrincipalId : Bytes
  paymentPrincipalId : Bytes
  deriving DecidableEq

structure CustomerAccountResult where
  region : Bytes
  bookId : Bytes
  availableAccountId : Bytes
  heldAccountId : Bytes
  duplicate : Bool
  deriving DecidableEq

def CustomerAccountRequest.Valid (r : CustomerAccountRequest) : Prop :=
  boundedId r.externalReference ∧ boundedId r.assetId ∧ boundedId r.paymentPrincipalId
  deriving Decidable

def CustomerAccountRequest.json (r : CustomerAccountRequest) : Json.Value :=
  Json.object [("external_reference", Payment.jsonString r.externalReference),
    ("asset_id", Payment.jsonString r.assetId),
    ("transfer_principal_id", Payment.jsonString r.transferPrincipalId),
    ("payment_principal_id", Payment.jsonString r.paymentPrincipalId)]

structure CustomerDraw where
  available : Identifier
  held : Identifier
  deriving DecidableEq

def CustomerDraw.availableId (draw : CustomerDraw) : Bytes :=
  ascii "available_" ++ draw.available.text

def CustomerDraw.heldId (draw : CustomerDraw) : Bytes := ascii "held_" ++ draw.held.text

/-- The grants of a new customer; transfers only for a named principal. -/
def customerGrants (request : CustomerAccountRequest) (bookId : Bytes) (draw : CustomerDraw) :
    List CapabilityRow :=
  [⟨request.paymentPrincipalId, bookId, draw.availableId, .authorizePayerAvailable⟩,
    ⟨request.paymentPrincipalId, bookId, draw.heldId, .authorizePayerHeld⟩] ++
  if request.transferPrincipalId = [] then []
  else [⟨request.transferPrincipalId, bookId, draw.availableId, .transferDebitAvailable⟩,
    ⟨request.transferPrincipalId, bookId, draw.availableId, .transferCreditAvailable⟩]

def insertCustomer (externalReference : Bytes) (row : CustomerRow) (db : Database E) :
    Except Failure (Database E) := do
  (acceptsAll E [externalReference, row.paymentPrincipalId, row.assetId, row.region, row.bookId,
    row.availableAccountId, row.heldAccountId]).mapError Failure.database
  require (1 ≤ charLength externalReference ∧ charLength externalReference ≤ 512 ∧
    1 ≤ charLength row.region ∧ charLength row.region ≤ 128 ∧
    row.availableAccountId ≠ row.heldAccountId) (.database (.violates .check))
  require (db.provisioningRecords.rows.all (fun e =>
    e.2.availableAccountId ≠ row.availableAccountId ∧ e.2.heldAccountId ≠ row.heldAccountId) = true)
    (.database (.violates .unique))
  return { db with
    provisioningRecords := db.provisioningRecords.insert externalReference row }

def provisionCustomerAccount (config : Config) (request : CustomerAccountRequest)
    (draw : CustomerDraw) (db : Database E) :
    Except Failure (Database E × CustomerAccountResult) := do
  require request.Valid .invalidRequest
  let hash ← requestHash E request.json
  let bookId := bookIdFor config request.externalReference
  match db.provisioningRecords.lookup request.externalReference with
  | some stored =>
    require (stored.requestHash = hash) .requestConflict
    return (db, ⟨stored.region, stored.bookId, stored.availableAccountId, stored.heldAccountId,
      true⟩)
  | none =>
    let (db, _) ← ensureBook config bookId db
    let db ← ensureSettlementAccount bookId request.assetId db
    let (db, _) ← createAccount draw.availableId bookId request.assetId "CUSTOMER_AVAILABLE" true db
    let (db, _) ← createAccount draw.heldId bookId request.assetId "CUSTOMER_HELD" true db
    let (db, _) ← onEscrow (insertZeroEscrow E draw.availableId request.assetId config.region) db
    let db ← grantCapabilities (customerGrants request bookId draw) db
    let db ← insertCustomer request.externalReference
      { paymentPrincipalId := request.paymentPrincipalId
        assetId := request.assetId
        region := config.region
        bookId := bookId
        availableAccountId := draw.availableId
        heldAccountId := draw.heldId
        requestHash := hash } db
    return (db, ⟨config.region, bookId, draw.availableId, draw.heldId, false⟩)

structure DepositRequest where
  externalReference : Bytes
  accountId : Bytes
  assetId : Bytes
  amount : Int
  fundingSourceReference : Bytes
  deriving DecidableEq

structure DepositResult where
  ledgerTransactionId : Bytes
  duplicate : Bool
  deriving DecidableEq

def DepositRequest.Valid (r : DepositRequest) : Prop :=
  boundedId r.externalReference ∧ boundedId r.accountId ∧ boundedId r.assetId ∧
    boundedId r.fundingSourceReference ∧ 0 < r.amount
  deriving Decidable

def DepositRequest.json (r : DepositRequest) : Json.Value :=
  Json.object [("external_reference", Payment.jsonString r.externalReference),
    ("account_id", Payment.jsonString r.accountId), ("asset_id", Payment.jsonString r.assetId),
    ("amount_atoms", Payment.jsonAmount r.amount),
    ("funding_source_reference", Payment.jsonString r.fundingSourceReference)]

structure DepositDraw where
  transaction : Identifier
  operation : Identifier
  effect : Identifier
  event : Identifier
  deriving DecidableEq

def depositMetadata (request : DepositRequest) : Bytes :=
  Json.write (Json.object [("external_reference", Payment.jsonString request.externalReference),
    ("funding_source_reference", Payment.jsonString request.fundingSourceReference)])

def depositJournal (config : Config) (request : DepositRequest) (draw : DepositDraw)
    (bookId : Bytes) (hash : Digest) : PostRequest :=
  { transactionId := ascii "funding_transaction_" ++ draw.transaction.text
    bookId := bookId
    operationId := ascii "funding_operation_" ++ draw.operation.text
    effectId := ascii "funding_effect_" ++ draw.effect.text
    kind := ascii "DEPOSIT"
    referenceTransactionId := none
    postingRuleVersion := config.policyVersion
    schemaVersion := 1
    requestHash := hash
    metadata := depositMetadata request
    lines := [
      ⟨fundingAccountFor config.fundingAccountId bookId, request.assetId, Side.debit.text,
        request.amount, ascii "funding source"⟩,
      ⟨request.accountId, request.assetId, Side.credit.text, request.amount,
        ascii "customer deposit"⟩] }

def fundingEvent (config : Config) (request : DepositRequest) (receipt : Ledger.Receipt)
    (rightsVersion : Int) : Json.Value :=
  Json.object [("event_type", Payment.jsonString (ascii "funding.credited")),
    ("external_reference", Payment.jsonString request.externalReference),
    ("account_id", Payment.jsonString request.accountId),
    ("asset_id", Payment.jsonString request.assetId),
    ("region", Payment.jsonString config.region),
    ("amount_atoms", Payment.jsonAmount request.amount),
    ("ledger_transaction_id", Payment.jsonString receipt.transactionId),
    ("ledger_sequence_no", Payment.jsonInteger receipt.sequenceNo),
    ("escrow_rights_version", Payment.jsonInteger rightsVersion),
    ("funding_source_reference", Payment.jsonString request.fundingSourceReference)]

def publishFunding (config : Config) (request : DepositRequest) (draw : DepositDraw)
    (receipt : Ledger.Receipt) (rightsVersion : Int) (db : Database E) :
    Except Failure (Database E) := do
  let payload ← expect (canonicalJson (Json.write (fundingEvent config request receipt
    rightsVersion))) .invalidRequest
  let headers ← expect (E.parseJsonb (Json.write (Json.object
    [("event_type", Payment.jsonString (ascii "funding.credited"))]))) (.database .invalidJson)
  (db.enqueue (ascii "funding_event_" ++ draw.event.text)
    { topic := ascii "ledger-funding-events"
      messageKey := request.accountId
      payload := payload
      headers := headers
      aggregateId := request.accountId
      aggregateVersion := rightsVersion
      parentTransactionId := some receipt.transactionId }).mapError Failure.database

def insertFunding (externalReference : Bytes) (row : FundingRow) (db : Database E) :
    Except Failure (Database E) := do
  (acceptsAll E [externalReference, row.accountId, row.assetId, row.region,
    row.fundingSourceReference, row.ledgerTransactionId]).mapError Failure.database
  require (fitsDecimal38 row.amountAtoms) (.database .outOfRange)
  require (1 ≤ charLength externalReference ∧ charLength externalReference ≤ 512 ∧
    1 ≤ charLength row.region ∧ charLength row.region ≤ 128 ∧ 0 < row.amountAtoms ∧
    1 ≤ charLength row.fundingSourceReference ∧ charLength row.fundingSourceReference ≤ 512)
    (.database (.violates .check))
  require (db.fundingRecords.rows.all (fun e =>
    e.2.ledgerTransactionId ≠ row.ledgerTransactionId) = true) (.database (.violates .unique))
  return { db with fundingRecords := db.fundingRecords.insert externalReference row }

def deposit (config : Config) (request : DepositRequest) (draw : DepositDraw) (db : Database E) :
    Except Failure (Database E × DepositResult) := do
  require (config.fundingAccountId ≠ []) .invalidRequest
  require request.Valid .invalidRequest
  let hash ← requestHash E request.json
  match db.fundingRecords.lookup request.externalReference with
  | some stored =>
    require (stored.requestHash = hash) .requestConflict
    return (db, ⟨stored.ledgerTransactionId, true⟩)
  | none =>
    let account ← expect (db.ledger.accounts.lookup request.accountId) .notProvisioned
    let (db, receipt) ← onLedger (postInTx (depositJournal config request draw account.bookId hash)
      false) db
    let (db, rightsVersion) ← onEscrow
      (raiseEscrow request.accountId request.assetId config.region request.amount) db
    let db ← publishFunding config request draw receipt rightsVersion db
    let db ← insertFunding request.externalReference
      { accountId := request.accountId
        assetId := request.assetId
        region := config.region
        amountAtoms := request.amount
        fundingSourceReference := request.fundingSourceReference
        ledgerTransactionId := receipt.transactionId
        requestHash := hash } db
    return (db, ⟨receipt.transactionId, false⟩)

/- A database to evaluate the model with: one asset and nothing else. The ids of
capabilities are cut from digests, so every byte counts in the digest of its engine. -/

def rollingEngine : Engine :=
  { sampleEngine with
    sha256 := fun bytes => ⟨(digitsOf 256 32 (bytes.foldl
      (fun hash b => (hash * 257 + b.toNat + 1) % 2 ^ 256) 0)).map UInt8.ofNat, by simp⟩ }

def vacant (assetId : Bytes) : Database rollingEngine where
  ledger := ⟨(∅ : Table Bytes AssetRow).insert assetId ⟨assetId, 2⟩, ∅, ∅, ∅, ∅, ∅, ∅, none⟩
  payment := ⟨∅, ∅, ∅, ∅, ∅⟩
  escrow := ⟨∅, ∅, ∅, ∅, ∅, ∅, ∅, ∅⟩
  offline := ⟨∅, ∅, ∅, ∅, ∅, ∅, ∅, ∅, ∅, ∅⟩
  transfer := ⟨∅, ∅⟩
  capabilities := ∅
  revocations := ∅
  idempotencyRecords := ∅
  outboxMessages := ∅
  fundingRecords := ∅
  provisioningRecords := ∅
  settlementAccounts := ∅

def sampleConfig (fundingAccountId : String) : Config :=
  ⟨ascii "r", ascii "le", ascii "KZ", 2, ascii "v1", ascii fundingAccountId⟩

def sampleCustomer (counter : Fin (2 ^ 64)) : CustomerDraw :=
  ⟨⟨ascii "n", 1, counter⟩, ⟨ascii "n", 1, counter⟩⟩

def sampleDeposit (counter : Fin (2 ^ 64)) : DepositDraw :=
  ⟨⟨ascii "n", 1, counter⟩, ⟨ascii "n", 1, counter⟩, ⟨ascii "n", 1, counter⟩,
    ⟨ascii "n", 1, counter⟩⟩

end Provisioning

end PaymentPlatform
