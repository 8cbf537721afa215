import PaymentPlatform.Payment.Journals

/-! Concurrent calls. RunSerializable (internal/store/tx.go) runs the transaction of
a call up to a number of attempts; an attempt may be aborted, may be cut off before
its COMMIT, or may lose the answer to it. A schedule interleaves the attempts of
any calls with any other transactions. -/

namespace PaymentPlatform.Payment

open Framing Ledger Serial Idgen

variable {E : Engine} {ι : Type} [DecidableEq ι]

structure Call where
  root : Bool
  request : Request
  draw : Draw

inductive Outcome where
  /-- The transaction ran and its end was acknowledged. -/
  | acknowledged
  /-- A statement or COMMIT raised 40001. -/
  | aborted
  /-- The context ended, the connection was lost or the process crashed before COMMIT. -/
  | cutOff
  /-- The answer to COMMIT was lost, or the process crashed before it could return. -/
  | unknown (applied : Bool)

inductive Status where
  | pending (attempts : Nat)
  | returned (receipt : Receipt)
  | failed (failure : Failure)
  /-- Over without a receipt: the attempts are exhausted, the commit is ambiguous,
  or the process is gone. -/
  | interrupted

structure System (E : Engine) (ι : Type) where
  db : Database E
  calls : ι → Status

inductive Event (E : Engine) (ι : Type) where
  | attempt (call : ι) (now : Int) (outcome : Outcome)
  | elsewhere (change : Database E → Database E)

/-- The number of rounds of RunSerializable's loop. -/
def attemptLimit (maxAttempts : Int) : Nat :=
  if maxAttempts ≤ 0 then 1 else maxAttempts.toNat

/-- One round of RunSerializable's loop: what is committed, and how the call goes on. -/
def runAttempt (call : Call) (limit made : Nat) (now : Int) (outcome : Outcome) (db : Database E) :
    Database E × Status :=
  match outcome with
  | .aborted => (db, if made + 1 < limit then .pending (made + 1) else .interrupted)
  | .cutOff => (db, .interrupted)
  | .acknowledged =>
    match attempt call.root call.request call.draw now db with
    | .ok (db', receipt) => (db', .returned receipt)
    | .error failure => (db, .failed failure)
  | .unknown applied =>
    match attempt call.root call.request call.draw now db with
    -- an ambiguous COMMIT is not retried
    | .ok (db', _) => (if applied then db' else db, .interrupted)
    | .error failure => (db, .failed failure)

def scheduleStep (calls : ι → Call) (limit : Nat) (s : System E ι) : Event E ι → System E ι
  | .attempt i now outcome =>
    match s.calls i with
    | .pending made =>
      let next := runAttempt (calls i) limit made now outcome s.db
      ⟨next.1, Function.update s.calls i next.2⟩
    | _ => s
  | .elsewhere change => { s with db := change s.db }

def Marked (draw : Draw) (db : Database E) : Prop :=
  (∃ suffix ∈ suffixes, (∃ id row, db.ledger.transactions.lookup id = some row ∧
      row.effectId = draw.ids.effectId ++ suffix) ∨
    (db.payment.effects.lookup (draw.ids.effectId ++ suffix)).isSome) ∨
  (db.outboxMessages.lookup draw.ids.outboxEventId).isSome

/-- The draws of two calls have no name in common, as the generator guarantees. -/
def Distinct (calls : ι → Call) : Prop :=
  ∀ i j, i ≠ j → (calls i).draw.effect ≠ (calls j).draw.effect ∧
    (calls i).draw.event ≠ (calls j).draw.event

theorem event_name_inj {a b : Draw} (same : a.ids.outboxEventId = b.ids.outboxEventId) :
    a.event = b.event :=
  Identifier.text_injective (List.append_cancel_left same)

theorem not_marked_noEffect {draw : Draw} {db : Database E} (clean : ¬ Marked draw db) :
    NoEffect draw.ids.effectId db := by
  constructor
  · intro id row found same
    exact clean (Or.inl ⟨[], by decide, Or.inl ⟨id, row, found, by rw [same, List.append_nil]⟩⟩)
  · cases present : db.payment.effects.lookup draw.ids.effectId with
    | none => rfl
    | some =>
      refine absurd (Or.inl ⟨[], by decide, Or.inr ?_⟩) clean
      rw [List.append_nil, present]
      rfl

section Performed

variable {scope key : Bytes} {hash : Digest} {call : Call} {db db' before after : Database E}
  {receipt : Receipt} {new : IdempotencyRow E} {payload : E.Jsonb}

section

variable (done : Performed scope key hash call.draw.ids (call.request.operation call.root hash call.draw.ids) db db' receipt before after new payload)
include done

theorem Performed.journals : JournalsFrom call.draw.ids db.ledger db'.ledger := by
  have first : before.ledger = db.ledger := by rw [done.claimed.frame]
  have last : db'.ledger = after.ledger := by rw [done.frame]
  rw [last, ← first]
  exact (operation_worked done.operated).journals

theorem Performed.marks {other : Draw}
    (effects : other.effect ≠ call.draw.effect) (events : other.event ≠ call.draw.event)
    (marked : Marked other db') : Marked other db := by
  have first : before.payment = db.payment := by rw [done.claimed.frame]
  have last : db'.payment = after.payment := by rw [done.frame]
  have adds := (operation_worked done.operated).effects
  rcases marked with ⟨suffix, known, ⟨id, row, found, named⟩ | present⟩ | event
  · rcases done.journals id row found with ⟨old, earlier, same⟩ | ⟨_, own⟩ | ⟨_, own⟩
    · exact .inl ⟨suffix, known, Or.inl ⟨id, old, earlier, same.trans named⟩⟩
    · rw [named, ← List.append_nil call.draw.ids.effectId] at own
      exact absurd (effect_name_inj known (by decide) own) effects
    · rw [named] at own
      exact absurd (effect_name_inj known (by decide) own) effects
  · rw [last] at present
    rcases adds _ present with earlier | ⟨suffix', known', own⟩
    · rw [first] at earlier
      exact .inl ⟨suffix, known, Or.inr earlier⟩
    · exact absurd (effect_name_inj known known' own) effects
  · obtain ⟨row, outbox⟩ := done.outbox
    have different : other.ids.outboxEventId ≠ call.draw.ids.outboxEventId :=
      fun same => events (event_name_inj same)
    rw [outbox, AList.lookup_insert_ne different, (operation_worked done.operated).framed.outbox] at event
    rw [done.claimed.frame] at event
    exact .inr event

theorem Performed.other {record : Bytes × Bytes} (different : record ≠ (scope, key)) :
    db'.idempotencyRecords.lookup record = db.idempotencyRecords.lookup record := by
  rw [done.records, AList.lookup_insert_ne different, (operation_worked done.operated).framed.records]
  exact done.claimed.others record different

end

end Performed

section Key

variable (calls : ι → Call) (scope key : Bytes)

def OnKey (i : ι) : Prop := (calls i).request.scope = scope ∧ (calls i).request.key = key

def Receipt.plain (r : Receipt) : Receipt :=
  { r with duplicate := false, ledger := { r.ledger with duplicate := false } }

structure Settled (s : System E ι) (stored : IdempotencyRow E) : Prop where
  state : stored.state = .succeeded
  texts : E.acceptsText scope = true ∧ E.acceptsText key = true
  receipt : ∃ r, cachedReceipt stored = .ok r ∧
    ∀ i r', OnKey calls scope key i → s.calls i = .returned r' → r'.plain = r.plain
  single : ∀ i j, OnKey calls scope key i → OnKey calls scope key j →
    Marked (calls i).draw s.db → Marked (calls j).draw s.db → i = j

structure KeyInvariant (s : System E ι) : Prop where
  idle : ∀ i made, s.calls i = .pending made → ¬ Marked (calls i).draw s.db
  placed : ∀ i id row, s.db.ledger.transactions.lookup id = some row →
    row.effectId = (calls i).draw.ids.effectId → id = (calls i).draw.ids.transactionId
  free : s.db.idempotencyRecords.lookup (scope, key) = none → ∀ i, OnKey calls scope key i →
    ¬ Marked (calls i).draw s.db ∧ ∀ r, s.calls i ≠ .returned r
  settled : ∀ stored, s.db.idempotencyRecords.lookup (scope, key) = some stored →
    Settled calls scope key s stored

/-- A transaction of another service: it leaves the record of the key alone and
writes no row with the names of the calls. -/
structure Spares (change : Database E → Database E) : Prop where
  record : ∀ db, (change db).idempotencyRecords.lookup (scope, key) =
    db.idempotencyRecords.lookup (scope, key)
  marks : ∀ db i, Marked (calls i).draw (change db) → Marked (calls i).draw db
  entries : ∀ db i id row, (change db).ledger.transactions.lookup id = some row →
    row.effectId = (calls i).draw.ids.effectId →
    ∃ old, db.ledger.transactions.lookup id = some old ∧ old.effectId = row.effectId

variable {calls scope key} {s : System E ι}

omit [DecidableEq ι] in
theorem KeyInvariant.elsewhere (inv : KeyInvariant calls scope key s)
    {change : Database E → Database E} (spares : Spares calls scope key change) :
    KeyInvariant calls scope key { s with db := change s.db } where
  idle i made pending marked := inv.idle i made pending (spares.marks _ _ marked)
  placed i id row found named := by
    obtain ⟨old, earlier, same⟩ := spares.entries _ _ _ _ found named
    exact inv.placed i id old earlier (same.trans named)
  free absent i on := by
    obtain ⟨clean, silent⟩ := inv.free ((spares.record _).symm.trans absent) i on
    exact ⟨fun marked => clean (spares.marks _ _ marked), silent⟩
  settled stored found := by
    have before := inv.settled stored ((spares.record _).symm.trans found)
    exact ⟨before.state, before.texts, before.receipt, fun i j oi oj mi mj =>
      before.single i j oi oj (spares.marks _ _ mi) (spares.marks _ _ mj)⟩

theorem update_cases {i j : ι} {status x : Status} (read : Function.update s.calls i status j = x) :
    (j = i ∧ status = x) ∨ (j ≠ i ∧ s.calls j = x) := by
  by_cases same : j = i
  · subst same
    rw [Function.update_self] at read
    exact .inl ⟨rfl, read⟩
  · rw [Function.update_of_ne same] at read
    exact .inr ⟨same, read⟩

theorem KeyInvariant.unchanged (inv : KeyInvariant calls scope key s) {i : ι} {status : Status}
    (idle : ∀ made, status = .pending made → ¬ Marked (calls i).draw s.db)
    (answer : ∀ r, status = .returned r → OnKey calls scope key i →
      ∃ stored, s.db.idempotencyRecords.lookup (scope, key) = some stored ∧
        cachedReceipt stored = .ok r) :
    KeyInvariant calls scope key ⟨s.db, Function.update s.calls i status⟩ where
  idle j made pending := by
    rcases update_cases pending with ⟨rfl, now⟩ | ⟨_, before⟩
    · exact idle made now
    · exact inv.idle j made before
  placed := inv.placed
  free absent j on := by
    obtain ⟨clean, silent⟩ := inv.free absent j on
    refine ⟨clean, ?_⟩
    intro r returned
    rcases update_cases returned with ⟨rfl, now⟩ | ⟨_, before⟩
    · obtain ⟨stored, found, _⟩ := answer r now on
      exact absurd (absent.symm.trans found) (by simp)
    · exact silent r before
  settled stored found := by
    have settled := inv.settled stored found
    obtain ⟨r, read, agree⟩ := settled.receipt
    refine ⟨settled.state, settled.texts, ⟨r, read, ?_⟩, settled.single⟩
    intro j r' on returned
    rcases update_cases returned with ⟨rfl, now⟩ | ⟨_, before⟩
    · obtain ⟨stored', found', read'⟩ := answer r' now on
      cases found.symm.trans found'
      cases Except.ok.inj (read.symm.trans read')
      rfl
    · exact agree j r' on before

section Commit

variable {i : ι} {made : Nat} {hash : Digest} {db' before after : Database E} {receipt : Receipt}
  {new : IdempotencyRow E} {payload : E.Jsonb} {status : Status}
  (done : Performed (calls i).request.scope (calls i).request.key hash (calls i).draw.ids
    ((calls i).request.operation (calls i).root hash (calls i).draw.ids) s.db db' receipt before
    after new payload)
include done

omit [DecidableEq ι] in
theorem Performed.marks_apart (distinct : Distinct calls) :
    ∀ j, j ≠ i → Marked (calls j).draw db' → Marked (calls j).draw s.db :=
  fun j other => done.marks (distinct j i other).1 (distinct j i other).2

omit done in
theorem KeyInvariant.performed_idle (inv : KeyInvariant calls scope key s)
    (marks : ∀ j, j ≠ i → Marked (calls j).draw db' → Marked (calls j).draw s.db)
    (ceased : status = .returned receipt ∨ status = .interrupted) :
    ∀ j made, Function.update s.calls i status j = .pending made → ¬ Marked (calls j).draw db' := by
  intro j made waiting marked
  rcases update_cases waiting with ⟨_, now⟩ | ⟨other, earlier⟩
  · subst now
    rcases ceased with impossible | impossible <;> cases impossible
  · exact inv.idle j made earlier (marks j other marked)

theorem KeyInvariant.performed_placed (inv : KeyInvariant calls scope key s)
    (distinct : Distinct calls) : ∀ j id row, db'.ledger.transactions.lookup id = some row →
      row.effectId = (calls j).draw.ids.effectId → id = (calls j).draw.ids.transactionId := by
  intro j id row found named
  rw [← List.append_nil (calls j).draw.ids.effectId] at named
  rcases done.journals id row found with ⟨old, earlier, same⟩ | ⟨here, own⟩ | ⟨_, own⟩
  · exact inv.placed j id old earlier (same.trans (named.trans (List.append_nil _)))
  · by_cases same : j = i
    · rw [same]
      exact here
    · rw [named, ← List.append_nil (calls i).draw.ids.effectId] at own
      exact absurd (effect_name_inj (by decide) (by decide) own) (distinct j i same).1
  · rw [named] at own
    by_cases same : j = i
    · rw [same] at own
      exact absurd (List.append_cancel_left own) (by decide)
    · exact absurd (effect_name_inj (by decide) (by decide) own) (distinct j i same).1

omit [DecidableEq ι] in
theorem Performed.read (reads : ReadsBack E) (clean : ¬ Marked (calls i).draw s.db) :
    ∃ r, cachedReceipt new = .ok r ∧ receipt.plain = r.plain := by
  have ledger : before.ledger = s.db.ledger := by rw [done.claimed.frame]
  have payment : before.payment = s.db.payment := by rw [done.claimed.frame]
  obtain ⟨journal, effect⟩ := not_marked_noEffect clean
  have measured := operation_measured done.operated ⟨ledger ▸ journal, payment ▸ effect⟩
  exact ⟨_, cachedReceipt_stored reads (measured.readable done.texts) done.response
    done.stored.2.2, rfl⟩

omit [DecidableEq ι] done in
theorem KeyInvariant.no_record (inv : KeyInvariant calls scope key s)
    (open_ : ∀ earlier, s.db.idempotencyRecords.lookup (scope, key) = some earlier →
      earlier.state = .processing) : s.db.idempotencyRecords.lookup (scope, key) = none := by
  cases found : s.db.idempotencyRecords.lookup (scope, key) with
  | none => rfl
  | some stored =>
    have processing := open_ stored found
    rw [(inv.settled stored found).state] at processing
    contradiction

theorem KeyInvariant.performed_settled (inv : KeyInvariant calls scope key s) (reads : ReadsBack E)
    (distinct : Distinct calls) (pending : s.calls i = .pending made)
    (ceased : status = .returned receipt ∨ status = .interrupted) (on : OnKey calls scope key i) :
    Settled calls scope key ⟨db', Function.update s.calls i status⟩ new := by
  have quiet := inv.free (inv.no_record (by rw [← on.1, ← on.2]; exact done.open_))
  obtain ⟨r, read, same⟩ := done.read reads (inv.idle i made pending)
  have only : ∀ j, OnKey calls scope key j → Marked (calls j).draw db' → j = i := by
    intro j onj marked
    by_contra other
    exact (quiet j onj).1 (done.marks_apart distinct j other marked)
  refine ⟨done.stored.2.1, ?_, ⟨r, read, ?_⟩, ?_⟩
  · rw [← on.1, ← on.2]
    exact done.keyTexts
  · intro j r' onj returned
    rcases update_cases returned with ⟨_, now⟩ | ⟨_, earlier⟩
    · subst now
      rcases ceased with here | impossible
      · cases here
        exact same
      · cases impossible
    · exact absurd earlier ((quiet j onj).2 r')
  · intro j k onj onk mj mk
    rw [only j onj mj, only k onk mk]

theorem KeyInvariant.performed (inv : KeyInvariant calls scope key s) (reads : ReadsBack E)
    (distinct : Distinct calls) (pending : s.calls i = .pending made)
    (ceased : status = .returned receipt ∨ status = .interrupted) :
    KeyInvariant calls scope key ⟨db', Function.update s.calls i status⟩ := by
  have marks := done.marks_apart distinct
  have idle := inv.performed_idle marks ceased
  have placed := inv.performed_placed done distinct
  by_cases on : OnKey calls scope key i
  · have record : db'.idempotencyRecords.lookup (scope, key) = some new := by
      rw [done.records, ← on.1, ← on.2, AList.lookup_insert]
    refine ⟨idle, placed, ?_, ?_⟩
    · intro absent
      exact absurd (record.symm.trans absent) (by simp)
    · intro stored found
      cases record.symm.trans found
      exact inv.performed_settled done reads distinct pending ceased on
  · have different : (scope, key) ≠ ((calls i).request.scope, (calls i).request.key) := by
      intro same
      exact on ⟨(Prod.mk.inj same).1.symm, (Prod.mk.inj same).2.symm⟩
    have record := done.other different
    have others : ∀ j, OnKey calls scope key j → j ≠ i := by
      rintro j onj rfl
      exact on onj
    refine ⟨idle, placed, ?_, ?_⟩
    · intro absent j onj
      obtain ⟨unmarked, silent⟩ := inv.free (record.symm.trans absent) j onj
      refine ⟨fun marked => unmarked (marks j (others j onj) marked), ?_⟩
      intro r returned
      rcases update_cases returned with ⟨same, _⟩ | ⟨_, earlier⟩
      · exact others j onj same
      · exact silent r earlier
    · intro stored found
      have settled := inv.settled stored (record.symm.trans found)
      obtain ⟨r, read, agree⟩ := settled.receipt
      refine ⟨settled.state, settled.texts, ⟨r, read, ?_⟩, ?_⟩
      · intro j r' onj returned
        rcases update_cases returned with ⟨same, _⟩ | ⟨_, earlier⟩
        · exact absurd same (others j onj)
        · exact agree j r' onj earlier
      · intro j k onj onk mj mk
        exact settled.single j k onj onk (marks j (others j onj) mj) (marks k (others k onk) mk)

end Commit

variable (calls scope key) in
def Event.Legal : Event E ι → Prop
  | .attempt _ _ _ => True
  | .elsewhere change => Spares calls scope key change

theorem KeyInvariant.attempted (inv : KeyInvariant calls scope key s) (reads : ReadsBack E)
    (distinct : Distinct calls) {i : ι} {made : Nat} (pending : s.calls i = .pending made)
    (limit : Nat) (now : Int) (outcome : Outcome) :
    KeyInvariant calls scope key ⟨(runAttempt (calls i) limit made now outcome s.db).1,
      Function.update s.calls i (runAttempt (calls i) limit made now outcome s.db).2⟩ := by
  have clean := inv.idle i made pending
  have ceased : ∀ status, (∀ r, status ≠ .returned r) →
      KeyInvariant calls scope key ⟨s.db, Function.update s.calls i status⟩ := by
    intro status silent
    exact inv.unchanged (fun _ _ => clean) (fun r returned => absurd returned (silent r))
  cases outcome with
  | aborted =>
    simp only [runAttempt]
    apply ceased
    intro r
    split <;> simp
  | cutOff =>
    simp only [runAttempt]
    exact ceased _ (by simp)
  | acknowledged =>
    cases done : attempt (calls i).root (calls i).request (calls i).draw now s.db with
    | error =>
      simp only [runAttempt, done]
      exact ceased _ (by simp)
    | ok result =>
      obtain ⟨db', receipt⟩ := result
      simp only [runAttempt, done]
      obtain ⟨hash, _, cases⟩ := attempt_cases done
      rcases cases with ⟨stored, replayed⟩ | ⟨_, _, _, _, performed⟩
      · rw [replayed.unchanged]
        refine inv.unchanged (fun _ _ => clean) ?_
        intro r returned on
        cases returned
        exact ⟨stored, by rw [← on.1, ← on.2]; exact replayed.found, replayed.receipt⟩
      · exact inv.performed performed reads distinct pending (Or.inl rfl)
  | unknown =>
    cases done : attempt (calls i).root (calls i).request (calls i).draw now s.db with
    | error =>
      simp only [runAttempt, done]
      exact ceased _ (by simp)
    | ok result =>
      obtain ⟨db', receipt⟩ := result
      simp only [runAttempt, done]
      split
      · obtain ⟨hash, _, cases⟩ := attempt_cases done
        rcases cases with ⟨stored, replayed⟩ | ⟨_, _, _, _, performed⟩
        · rw [replayed.unchanged]
          exact ceased _ (by simp)
        · exact inv.performed performed reads distinct pending (Or.inr rfl)
      · exact ceased _ (by simp)

theorem KeyInvariant.step (inv : KeyInvariant calls scope key s) (reads : ReadsBack E)
    (distinct : Distinct calls) (limit : Nat) {event : Event E ι}
    (legal : event.Legal calls scope key) :
    KeyInvariant calls scope key (scheduleStep calls limit s event) := by
  cases event with
  | elsewhere => exact inv.elsewhere legal
  | attempt i now outcome =>
    simp only [scheduleStep]
    split
    · rename_i made pending
      exact inv.attempted reads distinct pending limit now outcome
    · exact inv

theorem Request.Valid.key_ne_nil {r : Request} (valid : r.Valid) : r.key ≠ [] := by
  cases r <;> exact valid.2.1

theorem Request.scope_ne_nil (r : Request) : r.scope ≠ [] := by
  cases r <;> simp [Request.scope, ascii]

theorem claim_conflict (request : ClaimRequest) {db : Database E} (now : Int)
    (named : request.scope ≠ [] ∧ request.key ≠ [] ∧ request.ownerToken ≠ [] ∧
      request.operationId ≠ [] ∧ 0 < request.leaseMicros)
    (texts : ∀ text ∈ [request.scope, request.key, request.ownerToken, request.operationId],
      E.acceptsText text = true) {stored : IdempotencyRow E}
    (found : db.idempotencyRecords.lookup (request.scope, request.key) = some stored)
    (differs : stored.requestHash ≠ request.requestHash) :
    claim request now db = .error (.idempotency .keyConflict) := by
  rw [claim, bind_error]
  refine .inr ⟨(), require_ok.mpr named, ?_⟩
  rw [bind_error]
  refine .inr ⟨_, loadRecord_found request now texts found, ?_⟩
  rw [bind_error]
  exact .inl (require_error.mpr ⟨differs, rfl⟩)

theorem attempt_conflict {call : Call} {db : Database E} {hash : Digest} (now : Int)
    (valid : call.request.Valid) (hashed : requestHash E call.request.json = .ok hash)
    (texts : ∀ text ∈ [call.request.scope, call.request.key, call.draw.ids.ownerToken,
      call.draw.ids.operationId], E.acceptsText text = true) {stored : IdempotencyRow E}
    (found : db.idempotencyRecords.lookup (call.request.scope, call.request.key) = some stored)
    (differs : stored.requestHash ≠ hash) :
    attempt call.root call.request call.draw now db = .error (.idempotency .keyConflict) := by
  have named : call.draw.ids.ownerToken ≠ [] ∧ call.draw.ids.operationId ≠ [] := by
    simp [Draw.ids, ascii]
  have lease : 0 < claimLease := by decide
  have refused := claim_conflict ⟨call.request.scope, call.request.key, hash,
    call.draw.ids.ownerToken, call.draw.ids.operationId, claimLease⟩ now
    ⟨call.request.scope_ne_nil, valid.key_ne_nil, named.1, named.2, lease⟩ texts found differs
  rw [attempt, bind_error]
  refine .inr ⟨(), require_ok.mpr valid, ?_⟩
  rw [bind_error]
  refine .inr ⟨hash, hashed, ?_⟩
  rw [execute, bind_error]
  exact .inl refused

/-- A refused attempt commits nothing; the call fails unless its process is gone
before it sees the answer. -/
theorem runAttempt_refused {call : Call} {db : Database E} {failure : Failure} {now : Int}
    (refused : attempt call.root call.request call.draw now db = .error failure)
    (limit made : Nat) (outcome : Outcome) : (runAttempt call limit made now outcome db).1 = db ∧
    (outcome = .acknowledged → (runAttempt call limit made now outcome db).2 = .failed failure) ∧
    ∀ r, (runAttempt call limit made now outcome db).2 ≠ .returned r := by
  cases outcome with
  | aborted =>
    refine ⟨rfl, by simp, fun r => ?_⟩
    simp only [runAttempt]
    split <;> simp
  | _ => simp [runAttempt, refused]

variable (calls scope key) in
/-- One key: what its calls have committed, what they have returned, and what a
call for another request would do next. -/
structure OncePerKey (limit : Nat) (s : System E ι) : Prop where
  entry : {id | ∃ i row, OnKey calls scope key i ∧ s.db.ledger.transactions.lookup id = some row ∧
    row.effectId = (calls i).draw.ids.effectId}.Subsingleton
  event : {id | ∃ i, OnKey calls scope key i ∧ id = (calls i).draw.ids.outboxEventId ∧
    (s.db.outboxMessages.lookup id).isSome}.Subsingleton
  /-- No two calls have both committed a row: neither an entry, nor the entry of a
  cashback, nor a payment effect, nor an event. -/
  caller : ∀ i j, OnKey calls scope key i → OnKey calls scope key j →
    Marked (calls i).draw s.db → Marked (calls j).draw s.db → i = j
  receipt : ∀ i j r r', OnKey calls scope key i → OnKey calls scope key j →
    s.calls i = .returned r → s.calls j = .returned r' → r.plain = r'.plain
  conflict : ∀ i stored hash, OnKey calls scope key i → (calls i).request.Valid →
    requestHash E (calls i).request.json = .ok hash →
    s.db.idempotencyRecords.lookup (scope, key) = some stored → stored.requestHash ≠ hash →
    ∀ made now outcome, s.calls i = .pending made →
      (scheduleStep calls limit s (.attempt i now outcome)).db = s.db ∧
      (outcome = .acknowledged → (scheduleStep calls limit s (.attempt i now outcome)).calls i =
        .failed (.idempotency .keyConflict)) ∧
      ∀ r, (scheduleStep calls limit s (.attempt i now outcome)).calls i ≠ .returned r

variable (E) in
def Call.Named (call : Call) : Prop :=
  E.acceptsText call.draw.ids.ownerToken = true ∧ E.acceptsText call.draw.ids.operationId = true

omit [DecidableEq ι] in
theorem KeyInvariant.single (inv : KeyInvariant calls scope key s) {i j : ι}
    (oni : OnKey calls scope key i) (onj : OnKey calls scope key j)
    (mi : Marked (calls i).draw s.db) (mj : Marked (calls j).draw s.db) : i = j := by
  cases record : s.db.idempotencyRecords.lookup (scope, key) with
  | none => exact absurd mi (inv.free record i oni).1
  | some stored => exact (inv.settled stored record).single i j oni onj mi mj

theorem KeyInvariant.oncePerKey (inv : KeyInvariant calls scope key s)
    (named : ∀ i, (calls i).Named E) (limit : Nat) : OncePerKey calls scope key limit s := by
  refine ⟨?_, ?_, fun i j => inv.single, ?_, ?_⟩
  · rintro a ⟨i, row, oni, found, own⟩ b ⟨j, row', onj, found', own'⟩
    have marked : ∀ k id row, s.db.ledger.transactions.lookup id = some row →
        row.effectId = (calls k).draw.ids.effectId → Marked (calls k).draw s.db :=
      fun k id row found own => Or.inl ⟨[], by decide, Or.inl ⟨id, row, found, by simp [own]⟩⟩
    have same := inv.single oni onj (marked i a row found own) (marked j b row' found' own')
    rw [inv.placed i a row found own, inv.placed j b row' found' own', same]
  · rintro a ⟨i, oni, rfl, present⟩ b ⟨j, onj, rfl, present'⟩
    rw [inv.single oni onj (Or.inr present) (Or.inr present')]
  · intro i j r r' oni onj returned returned'
    cases record : s.db.idempotencyRecords.lookup (scope, key) with
    | none => exact absurd returned ((inv.free record i oni).2 r)
    | some stored =>
      obtain ⟨kept, _, agree⟩ := (inv.settled stored record).receipt
      rw [agree i r oni returned, agree j r' onj returned']
  · intro i stored hash on valid hashed found differs made now outcome pending
    have texts := (inv.settled stored found).texts
    have refused := attempt_conflict now valid hashed
      (by simpa [on.1, on.2] using ⟨texts.1, texts.2, (named i).1, (named i).2⟩)
      (by rw [on.1, on.2]; exact found) differs
    simpa [scheduleStep, pending] using runAttempt_refused refused limit made outcome

/-- However the calls of a key are interleaved, aborted, cut off and repeated, with any
other transactions between them, the key has one effect, one event and one receipt. -/
theorem key_executes_once (reads : ReadsBack E) (calls : ι → Call) (distinct : Distinct calls)
    (named : ∀ i, (calls i).Named E) (scope key : Bytes) (maxAttempts : Int) (db : Database E)
    (unused : db.idempotencyRecords.lookup (scope, key) = none)
    (clean : ∀ i, ¬ Marked (calls i).draw db)
    (events : List (Event E ι)) (legal : ∀ event ∈ events, event.Legal calls scope key) :
    OncePerKey calls scope key (attemptLimit maxAttempts)
      (run (scheduleStep calls (attemptLimit maxAttempts)) ⟨db, fun _ => .pending 0⟩ events) := by
  have start : KeyInvariant calls scope key ⟨db, fun _ => .pending 0⟩ := by
    refine ⟨fun i _ _ => clean i, ?_, fun _ i _ => ⟨clean i, by simp⟩, ?_⟩
    · intro i id row found own
      exact absurd (Or.inl ⟨[], by decide, Or.inl ⟨id, row, found, by simp [own]⟩⟩) (clean i)
    · intro stored found
      exact absurd (unused.symm.trans found) (by simp)
  have reached := run_preserves_when (scheduleStep calls (attemptLimit maxAttempts))
    (KeyInvariant calls scope key) (Event.Legal calls scope key)
    (fun s event legal inv => inv.step reads distinct _ legal) events legal start
  exact reached.oncePerKey named _

end Key

/- A hold whose first answer is lost, its repetition, and another hold under its key. -/

def sampleHolds : Fin 3 → Call := fun i =>
  ⟨true, if i = 2 then sampleHoldUnder "v2" 10 else sampleHold 10, sampleDraw (i.castLE (by decide))⟩

def sampleSchedule : List (Event sampleEngine (Fin 3)) :=
  [.attempt 0 0 .aborted, .attempt 0 1 (.unknown true), .attempt 1 2 .acknowledged,
    .attempt 2 3 .acknowledged]

def Status.verdict : Status → Option (Option Bool)
  | .returned receipt => some (some receipt.duplicate)
  | .failed (.idempotency .keyConflict) => some none
  | _ => none

theorem sample_holds_execute_once :
    let s := run (scheduleStep sampleHolds (attemptLimit 3)) ⟨sampleDatabase, fun _ => .pending 0⟩
      sampleSchedule
    OncePerKey sampleHolds (sampleHold 10).scope (ascii "k1") (attemptLimit 3) s ∧
    (s.calls 1).verdict = some (some true) ∧ (s.calls 2).verdict = some none := by
  refine ⟨?_, ?_⟩
  · refine key_executes_once sample_reads_back sampleHolds ?_ ?_ _ _ 3 sampleDatabase rfl ?_
      sampleSchedule ?_
    · unfold Distinct
      decide +kernel
    · intro i
      revert i
      unfold Call.Named
      decide +kernel
    · have entries : sampleDatabase.ledger.transactions = ∅ := by rfl
      rintro i (⟨suffix, _, ⟨id, row, found, _⟩ | present⟩ | event)
      · rw [entries] at found
        cases found
      · cases present
      · cases event
    · simp [sampleSchedule, Event.Legal]
  · decide +kernel

theorem runAttempt_db (call : Call) (limit made : Nat) (now : Int) (outcome : Outcome)
    (db : Database E) : (runAttempt call limit made now outcome db).1 = db ∨
      ∃ receipt, attempt call.root call.request call.draw now db =
        .ok ((runAttempt call limit made now outcome db).1, receipt) := by
  cases done : attempt call.root call.request call.draw now db with
  | error => cases outcome <;> simp [runAttempt, done]
  | ok result =>
    obtain ⟨db', receipt⟩ := result
    cases outcome with
    | unknown applied => cases applied <;> simp [runAttempt, done]
    | _ => simp [runAttempt, done]

/-- A record that is SUCCEEDED or FAILED is never written again, whatever attempts of
whatever calls follow and however they end. -/
theorem terminal_records_stay (calls : ι → Call) (limit : Nat) (s : System E ι)
    (record : Bytes × Bytes) (stored : IdempotencyRow E)
    (found : s.db.idempotencyRecords.lookup record = some stored)
    (terminal : stored.state ≠ .processing) (events : List (Event E ι))
    (apart : ∀ change, .elsewhere change ∈ events → ∀ db : Database E,
      (change db).idempotencyRecords.lookup record = db.idempotencyRecords.lookup record) :
    (run (scheduleStep calls limit) s events).db.idempotencyRecords.lookup record = some stored := by
  refine run_preserves_when (scheduleStep calls limit)
    (fun s => s.db.idempotencyRecords.lookup record = some stored) (· ∈ events) ?_ events
    (fun _ => id) found
  intro s event member found
  cases event with
  | elsewhere change => exact (apart change member s.db).trans found
  | attempt i now outcome =>
    simp only [scheduleStep]
    split
    · rename_i made _
      rcases runAttempt_db (calls i) limit made now outcome s.db with same | ⟨receipt, done⟩
      · simpa only [same] using found
      · -- a call that finds the record processing is about another key
        obtain ⟨hash, _, ⟨_, returned⟩ | ⟨_, _, _, _, performed⟩⟩ := attempt_cases done
        · simpa only [returned.unchanged] using found
        · refine (performed.other ?_).trans found
          rintro rfl
          exact terminal (performed.open_ stored found)
    · exact found

def sampleCommitted : System sampleEngine (Fin 3) :=
  run (scheduleStep sampleHolds (attemptLimit 3)) ⟨sampleDatabase, fun _ => .pending 0⟩
    (sampleSchedule.take 2)

theorem sample_records_stay :
    ∃ stored, stored.state = .succeeded ∧
      (run (scheduleStep sampleHolds (attemptLimit 3)) sampleCommitted
        (sampleSchedule.drop 2)).db.idempotencyRecords.lookup ((sampleHold 10).scope, ascii "k1") =
          some stored := by
  have value : (sampleCommitted.db.idempotencyRecords.lookup
      ((sampleHold 10).scope, ascii "k1")).map (·.state) = some .succeeded := by decide +kernel
  obtain ⟨stored, found, state⟩ := Option.map_eq_some_iff.mp value
  exact ⟨stored, state, terminal_records_stay sampleHolds _ sampleCommitted _ stored found
    (by simp [state]) (sampleSchedule.drop 2) (by simp [sampleSchedule])⟩

end PaymentPlatform.Payment
