import PaymentPlatform.Payment.Replay
import PaymentPlatform.Provisioning.Openings

/-! The answers of ProvisionCustomerAccount and Deposit: of the first call under a
reference, of a repeated one, and of a call with another payload. -/

namespace PaymentPlatform.Provisioning

open Framing Ledger Serial

variable {E : Engine} {db db' : Database E}

theorem requestHash_text {value : Json.Value} (legal : value.Legal Json.maxNestingDepth) :
    requestHash E value = .ok (E.sha256 (Json.write value)) := by
  simp [requestHash, canonicalJson, Json.write_ne_nil legal, Json.parse_write legal, expect, bind,
    Except.bind, pure, Except.pure]

theorem CustomerAccountRequest.legal (r : CustomerAccountRequest) :
    r.json.Legal Json.maxNestingDepth := by
  apply Json.object_legal
  rw [← List.forall_iff_forall_mem]
  exact ⟨trivial, trivial, trivial, trivial⟩

theorem DepositRequest.legal (r : DepositRequest) : r.json.Legal Json.maxNestingDepth := by
  apply Json.object_legal
  rw [← List.forall_iff_forall_mem]
  exact ⟨trivial, trivial, trivial, trivial, trivial⟩

def CustomerAccountRequest.digest (E : Engine) (r : CustomerAccountRequest) : Digest :=
  E.sha256 (Json.write r.json)

def DepositRequest.digest (E : Engine) (r : DepositRequest) : Digest :=
  E.sha256 (Json.write r.json)

theorem DepositRequest.json_injective {r r' : DepositRequest}
    (utf8 : ∀ text ∈ [r.externalReference, r.accountId, r.assetId, r.fundingSourceReference,
      r'.externalReference, r'.accountId, r'.assetId, r'.fundingSourceReference],
      Json.utf8 (Json.text text) = text) (same : r.json = r'.json) : r = r' := by
  have read := fun name => congrArg (Payment.field Payment.stringOf name) same
  have reference := read "external_reference"
  have account := read "account_id"
  have asset := read "asset_id"
  have amount := read "amount_atoms"
  have source := read "funding_source_reference"
  simp only [List.forall_mem_cons] at utf8
  obtain ⟨u1, u2, u3, u4, v1, v2, v3, v4, _⟩ := utf8
  simp [json, Payment.field_object, Payment.stringOf, Payment.jsonString, Payment.jsonAmount, u1, u2,
    u3, u4, v1, v2, v3, v4, Json.utf8_text_ascii (Json.decimal_ascii _)]
    at reference account asset amount source
  have value : r.amount = r'.amount := by
    have parsed := congrArg Payment.parseInteger amount
    rw [Payment.parseInteger_decimal, Payment.parseInteger_decimal] at parsed
    exact Option.some.inj parsed
  cases r
  cases r'
  simp_all

theorem digest_differs {value value' : Json.Value} (legal : value.Legal Json.maxNestingDepth)
    (legal' : value'.Legal Json.maxNestingDepth) (differs : value ≠ value')
    (collides : E.sha256 (Json.write value) = E.sha256 (Json.write value') →
      Json.write value = Json.write value') :
    E.sha256 (Json.write value) ≠ E.sha256 (Json.write value') := by
  intro same
  have parsed := congrArg Json.parse (collides same)
  rw [Json.parse_write legal, Json.parse_write legal'] at parsed
  exact differs (Option.some.inj parsed)

theorem provisionCustomerAccount_replays (config : Config) {request : CustomerAccountRequest}
    (draw : CustomerDraw) {stored : CustomerRow} (valid : request.Valid)
    (found : db.provisioningRecords.lookup request.externalReference = some stored)
    (same : stored.requestHash = request.digest E) :
    provisionCustomerAccount config request draw db = .ok (db, answerOf stored true) := by
  simp only [provisionCustomerAccount, bind_ok, require_ok, requestHash_text request.legal,
    Except.ok.injEq]
  refine ⟨(), valid, _, rfl, ?_⟩
  simp only [found, bind_ok, require_ok, pure_ok]
  exact ⟨(), same, rfl⟩

theorem provisionCustomerAccount_conflict (config : Config) {request : CustomerAccountRequest}
    (draw : CustomerDraw) {stored : CustomerRow} (valid : request.Valid)
    (found : db.provisioningRecords.lookup request.externalReference = some stored)
    (differs : stored.requestHash ≠ request.digest E) :
    provisionCustomerAccount config request draw db = .error .requestConflict := by
  rw [provisionCustomerAccount, bind_error]
  refine .inr ⟨(), require_ok.mpr valid, ?_⟩
  rw [bind_error]
  refine .inr ⟨_, requestHash_text request.legal, ?_⟩
  simp only [found]
  rw [bind_error]
  exact .inl (require_error.mpr ⟨differs, rfl⟩)

theorem deposit_replays {config : Config} {request : DepositRequest} (draw : DepositDraw)
    {stored : FundingRow} (configured : config.fundingAccountId ≠ []) (valid : request.Valid)
    (found : db.fundingRecords.lookup request.externalReference = some stored)
    (same : stored.requestHash = request.digest E) :
    deposit config request draw db = .ok (db, ⟨stored.ledgerTransactionId, true⟩) := by
  simp only [deposit, bind_ok, require_ok, requestHash_text request.legal, Except.ok.injEq]
  refine ⟨(), configured, (), valid, _, rfl, ?_⟩
  simp only [found, bind_ok, require_ok]
  exact ⟨(), same, rfl⟩

theorem deposit_conflict {config : Config} {request : DepositRequest} (draw : DepositDraw)
    {stored : FundingRow} (configured : config.fundingAccountId ≠ []) (valid : request.Valid)
    (found : db.fundingRecords.lookup request.externalReference = some stored)
    (differs : stored.requestHash ≠ request.digest E) :
    deposit config request draw db = .error .requestConflict := by
  rw [deposit, bind_error]
  refine .inr ⟨(), require_ok.mpr configured, ?_⟩
  rw [bind_error]
  refine .inr ⟨(), require_ok.mpr valid, ?_⟩
  rw [bind_error]
  refine .inr ⟨_, requestHash_text request.legal, ?_⟩
  simp only [found]
  rw [bind_error]
  exact .inl (require_error.mpr ⟨differs, rfl⟩)

def rightOf (st : Escrow.Tables) (key : Bytes × Bytes × Bytes) : Int :=
  ((st.regionalRights.lookup key).map Escrow.RightsRow.available).getD 0

/-- The total of one authority and one of its regional rights grow by the amount, and
nothing else moves. -/
def Raises (accountId assetId region : Bytes) (amount : Int) (st st' : Escrow.Tables) : Prop :=
  (∀ key, Escrow.authorityColumn st' Escrow.AuthorityRow.totalAuthority key =
    Escrow.authorityColumn st Escrow.AuthorityRow.totalAuthority key +
      if key = (accountId, assetId) then amount else 0) ∧
  ∀ key, rightOf st' key = rightOf st key +
    if key = (accountId, assetId, region) then amount else 0

theorem raiseEscrow_raises {accountId assetId region : Bytes} {amount version : Int}
    {st st' : Escrow.Tables}
    (done : raiseEscrow accountId assetId region amount st = .ok (st', version)) :
    Raises accountId assetId region amount st st' := by
  simp only [raiseEscrow, steps_ok] at done
  obtain ⟨_, total, mid, rfl, _, rights, last, rfl, _, _, rfl, _⟩ := done
  obtain ⟨authority, found, _, written⟩ := Escrow.updateAuthority_ok total
  obtain ⟨right, held, _, stored⟩ := Escrow.updateRights_ok rights
  simp only [Escrow.writeAuthority, steps_ok] at written
  obtain ⟨_, _, _, _, rfl⟩ := written
  simp only [Escrow.writeRights, steps_ok] at stored
  obtain ⟨_, _, _, _, _, _, rfl⟩ := stored
  refine ⟨?_, ?_⟩
  · intro key
    by_cases same : key = (accountId, assetId)
    · subst same
      simp [Escrow.authorityColumn, found]
    · simp [Escrow.authorityColumn, AList.lookup_insert_ne same, same]
  · intro key
    by_cases same : key = (accountId, assetId, region)
    · subst same
      dsimp only at held
      simp [rightOf, held]
    · simp [rightOf, AList.lookup_insert_ne same, same]

end PaymentPlatform.Provisioning
