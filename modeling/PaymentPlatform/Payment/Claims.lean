import PaymentPlatform.Payment.Operations

/-! What Claim, the operation under it and Complete leave when their transaction
commits. -/

namespace PaymentPlatform.Payment

open Framing Ledger Serial

variable {E : Engine} {db db' : Database E}
variable {request : ClaimRequest} {now : Int} {stored : IdempotencyRow E} {receipt : Receipt}

structure OnlyRecord (key : Bytes × Bytes) (db db' : Database E) : Prop where
  others : ∀ other, other ≠ key →
    db'.idempotencyRecords.lookup other = db.idempotencyRecords.lookup other
  frame : db' = { db with idempotencyRecords := db'.idempotencyRecords }

theorem OnlyRecord.refl (key : Bytes × Bytes) (db : Database E) : OnlyRecord key db db :=
  ⟨fun _ _ => rfl, rfl⟩

theorem OnlyRecord.insert (key : Bytes × Bytes) (row : IdempotencyRow E) (db : Database E) :
    OnlyRecord key db { db with idempotencyRecords := db.idempotencyRecords.insert key row } :=
  ⟨fun _ other => AList.lookup_insert_ne other, rfl⟩

structure Replayed (request : ClaimRequest) (db db' : Database E) (stored : IdempotencyRow E) :
    Prop where
  found : db.idempotencyRecords.lookup (request.scope, request.key) = some stored
  terminal : stored.state = .succeeded ∨ stored.state = .failed
  unchanged : db' = db

/-- A record that the caller owns while its transaction runs. -/
structure Claimed (request : ClaimRequest) (db db' : Database E) (stored : IdempotencyRow E) :
    Prop where
  open_ : ∀ earlier, db.idempotencyRecords.lookup (request.scope, request.key) = some earlier →
    earlier.state = .processing
  found : db'.idempotencyRecords.lookup (request.scope, request.key) = some stored
  state : stored.state = .processing
  only : OnlyRecord (request.scope, request.key) db db'
  texts : E.acceptsText request.scope = true ∧ E.acceptsText request.key = true

theorem loadRecord_cases (loaded : loadRecord request now db = .ok (db', stored)) :
    db'.idempotencyRecords.lookup (request.scope, request.key) = some stored ∧
      OnlyRecord (request.scope, request.key) db db' ∧
      ((db.idempotencyRecords.lookup (request.scope, request.key) = some stored ∧ db' = db) ∨
        (db.idempotencyRecords.lookup (request.scope, request.key) = none ∧
          stored = newRecord request now)) ∧
      E.acceptsText request.scope = true ∧ E.acceptsText request.key = true := by
  simp only [loadRecord, acceptsAll, steps_ok] at loaded
  obtain ⟨_, accepted, rest⟩ := loaded
  have scope := accepted request.scope (by simp)
  have key := accepted request.key (by simp)
  split at rest
  · rename_i earlier found
    simp only [pure_ok, Prod.mk.injEq] at rest
    obtain ⟨rfl, rfl⟩ := rest
    exact ⟨found, OnlyRecord.refl _ _, Or.inl ⟨found, rfl⟩, scope, key⟩
  · rename_i absent
    simp only [pure_ok, Prod.mk.injEq] at rest
    obtain ⟨rfl, rfl⟩ := rest
    exact ⟨AList.lookup_insert _, OnlyRecord.insert _ _ _, Or.inr ⟨absent, rfl⟩, scope, key⟩

theorem loadRecord_found (request : ClaimRequest) (now : Int)
    (texts : ∀ text ∈ [request.scope, request.key, request.ownerToken, request.operationId],
      E.acceptsText text = true)
    (found : db.idempotencyRecords.lookup (request.scope, request.key) = some stored) :
    loadRecord request now db = .ok (db, stored) := by
  simp only [loadRecord, acceptsAll, bind_ok, mapError_ok, require_ok, found]
  exact ⟨(), texts, rfl⟩

theorem claim_answers (request : ClaimRequest) (now : Int)
    (named : request.scope ≠ [] ∧ request.key ≠ [] ∧ request.ownerToken ≠ [] ∧
      request.operationId ≠ [] ∧ 0 < request.leaseMicros)
    (texts : ∀ text ∈ [request.scope, request.key, request.ownerToken, request.operationId],
      E.acceptsText text = true)
    (found : db.idempotencyRecords.lookup (request.scope, request.key) = some stored)
    (same : stored.requestHash = request.requestHash) (finished : stored.state = .succeeded) :
    claim request now db = .ok (db, stored, true) := by
  simp only [claim, steps_ok, Prod.exists]
  refine ⟨(), named, db, stored, loadRecord_found request now texts found, (), same, ?_⟩
  rw [if_pos (Or.inl finished)]
  rfl

theorem claim_cases {cached : Bool} (claimed : claim request now db = .ok (db', stored, cached)) :
    stored.requestHash = request.requestHash ∧ ((cached = true ∧ Replayed request db db' stored) ∨
        (cached = false ∧ Claimed request db db' stored)) := by
  simp only [claim, steps_ok, Prod.exists] at claimed
  obtain ⟨_, _, mid, earlier, loaded, _, hash, rest⟩ := claimed
  obtain ⟨found, only, origin, texts⟩ := loadRecord_cases loaded
  split at rest
  · rename_i terminal
    simp only [pure_ok, Prod.mk.injEq] at rest
    obtain ⟨rfl, rfl, rfl⟩ := rest
    refine ⟨hash, Or.inl ⟨rfl, ?_⟩⟩
    rcases origin with ⟨present, same⟩ | ⟨_, fresh⟩
    · exact ⟨present, terminal, same⟩
    · simp [fresh, newRecord] at terminal
  · rename_i live
    have processing : earlier.state = .processing := by
      cases state : earlier.state <;> simp_all
    have open_ : ∀ other, db.idempotencyRecords.lookup (request.scope, request.key) = some other →
        other.state = .processing := by
      intro other present
      rcases origin with ⟨same, _⟩ | ⟨absent, _⟩
      · rw [present] at same
        cases same
        exact processing
      · rw [absent] at present
        contradiction
    split at rest
    · simp only [pure_ok, Prod.mk.injEq] at rest
      obtain ⟨rfl, rfl, rfl⟩ := rest
      exact ⟨hash, Or.inr ⟨rfl, open_, found, processing, only, texts⟩⟩
    · simp only [steps_ok] at rest
      obtain ⟨_, _, rfl, rfl, rfl⟩ := rest
      refine ⟨hash, Or.inr ⟨rfl, open_, AList.lookup_insert _, processing, ⟨?_, ?_⟩, texts⟩⟩
      · intro other ne
        rw [AList.lookup_insert_ne ne]
        exact only.others other ne
      · rw [only.frame]

theorem claim_texts {cached : Bool} (claimed : claim request now db = .ok (db', stored, cached)) :
    E.acceptsText request.scope = true ∧ E.acceptsText request.key = true := by
  simp only [claim, steps_ok, Prod.exists] at claimed
  obtain ⟨_, _, _, _, loaded, _⟩ := claimed
  obtain ⟨_, _, _, texts⟩ := loadRecord_cases loaded
  exact texts

theorem insertEvent_ok {eventId : Bytes} {topic : String}
    (inserted : insertEvent eventId topic receipt db = .ok db') :
    db.outboxMessages.lookup eventId = none ∧ E.acceptsText receipt.paymentId = true ∧
      E.acceptsText receipt.ledger.transactionId = true ∧
      ∃ row, db' = { db with outboxMessages := db.outboxMessages.insert eventId row } := by
  simp only [insertEvent, acceptsAll, steps_ok] at inserted
  obtain ⟨_, _, _, _, _, accepted, _, _, _, absent, _, _, rfl⟩ := inserted
  exact ⟨absent, accepted _ (by simp), accepted _ (by simp), _, rfl⟩

structure Completed (scope key ledgerTransactionId : Bytes) (response : Json.Value)
    (db db' : Database E) (stored new : IdempotencyRow E) (payload : E.Jsonb) : Prop where
  response : responseJsonb E response = .ok payload
  before : db.idempotencyRecords.lookup (scope, key) = some stored
  row : new = { stored with
    state := .succeeded
    ledgerTransactionId := some ledgerTransactionId
    responseCode := some 200
    responsePayload := some payload
    failureCode := none }
  after : db' = { db with idempotencyRecords := db.idempotencyRecords.insert (scope, key) new }

theorem complete_ok {scope key ownerToken ledgerTransactionId : Bytes} {response : Json.Value}
    (completed : complete scope key ownerToken ledgerTransactionId response db = .ok db') :
    ∃ stored new payload,
      Completed scope key ledgerTransactionId response db db' stored new payload := by
  simp only [complete, steps_ok] at completed
  obtain ⟨_, _, payload, response, stored, before, _, _, _, _, rfl⟩ := completed
  exact ⟨stored, _, payload, response, before, rfl, rfl⟩

structure ReturnedStored (scope key : Bytes) (hash : Digest) (db db' : Database E)
    (receipt : Receipt) (stored : IdempotencyRow E) : Prop where
  found : db.idempotencyRecords.lookup (scope, key) = some stored
  hash : stored.requestHash = hash
  state : stored.state = .succeeded
  receipt : cachedReceipt stored = .ok receipt
  unchanged : db' = db

/-- An execution that ran its operation: `before` and `after` are the states
around the operation, inside the transaction. -/
structure Performed (scope key : Bytes) (hash : Digest) (ids : ExecutionIds)
    (operation : Database E → Except Failure (Database E × Receipt)) (db db' : Database E)
    (receipt : Receipt) (before after : Database E) (new : IdempotencyRow E) (payload : E.Jsonb) :
    Prop where
  open_ : ∀ earlier, db.idempotencyRecords.lookup (scope, key) = some earlier →
    earlier.state = .processing
  claimed : OnlyRecord (scope, key) db before
  operated : operation before = .ok (after, receipt)
  event : after.outboxMessages.lookup ids.outboxEventId = none
  keyTexts : E.acceptsText scope = true ∧ E.acceptsText key = true
  texts : E.acceptsText receipt.paymentId = true ∧
    E.acceptsText receipt.ledger.transactionId = true
  response : responseJsonb E receipt.json = .ok payload
  stored : new.requestHash = hash ∧ new.state = .succeeded ∧ new.responsePayload = some payload
  outbox : ∃ row, db'.outboxMessages = after.outboxMessages.insert ids.outboxEventId row
  records : db'.idempotencyRecords = after.idempotencyRecords.insert (scope, key) new
  frame : db' = { after with
    outboxMessages := db'.outboxMessages, idempotencyRecords := db'.idempotencyRecords }

theorem execute_cases {scope key : Bytes} {hash : Digest} {topic : String} {ids : ExecutionIds}
    {operation : Database E → Except Failure (Database E × Receipt)}
    (keeps : ∀ before after r, operation before = .ok (after, r) →
      after.idempotencyRecords = before.idempotencyRecords)
    (done : execute scope key hash topic ids now operation db = .ok (db', receipt)) :
    (∃ stored, ReturnedStored scope key hash db db' receipt stored) ∨ ∃ before after new payload,
        Performed scope key hash ids operation db db' receipt before after new payload := by
  simp only [execute, bind_ok, Prod.exists] at done
  obtain ⟨before, stored, cached, taken, rest⟩ := done
  obtain ⟨sameHash, cases⟩ := claim_cases taken
  rcases cases with ⟨rfl, replayed⟩ | ⟨rfl, claimed⟩
  · simp only [if_true] at rest
    split at rest
    · contradiction
    · rename_i notFailed
      simp only [steps_ok] at rest
      obtain ⟨_, read, rfl, rfl⟩ := rest
      refine .inl ⟨stored, replayed.found, sameHash, ?_, read, replayed.unchanged⟩
      rcases replayed.terminal with succeeded | failed
      · exact succeeded
      · exact absurd failed notFailed
  · simp only [Bool.false_eq_true, if_false, steps_ok, Prod.exists] at rest
    obtain ⟨after, _, operated, noted, inserted, last, completed, rfl, rfl⟩ := rest
    obtain ⟨absent, payment, journal, row, rfl⟩ := insertEvent_ok inserted
    obtain ⟨held, new, payload, facts⟩ := complete_ok completed
    have same : held = stored := by
      have found := facts.before
      rw [keeps _ _ _ operated, claimed.found] at found
      exact (Option.some.inj found).symm
    subst same
    refine .inr ⟨before, after, new, payload, ?_⟩
    exact
      { open_ := claimed.open_
        claimed := claimed.only
        operated := operated
        event := absent
        keyTexts := claimed.texts
        texts := ⟨payment, journal⟩
        response := facts.response
        stored := by rw [facts.row]; exact ⟨sameHash, rfl, rfl⟩
        outbox := ⟨row, by rw [facts.after]⟩
        records := by rw [facts.after]
        frame := by rw [facts.after] }

theorem attempt_cases {root : Bool} {r : Request} {draw : Draw}
    (done : attempt root r draw now db = .ok (db', receipt)) :
    ∃ hash, requestHash E r.json = .ok hash ∧
      ((∃ stored, ReturnedStored r.scope r.key hash db db' receipt stored) ∨
        ∃ before after new payload, Performed r.scope r.key hash draw.ids
          (r.operation root hash draw.ids) db db' receipt before after new payload) := by
  simp only [attempt, steps_ok] at done
  obtain ⟨_, _, hash, hashed, executed⟩ := done
  refine ⟨hash, hashed, execute_cases ?_ executed⟩
  intro before after other operated
  exact (operation_worked operated).framed.records

end PaymentPlatform.Payment
