import PaymentPlatform.Messaging.Outbox
import PaymentPlatform.Payment.Replay

/-! PUBLISHED rows were published, valid messages are never retired, and what is not
published can be claimed again. -/

namespace PaymentPlatform.Messaging

open Framing Serial

variable {E : Engine}
variable {message : Message} {parentExists : Bool} {now : Int} {st st' : Outbox E} {u : Unit}
  {owner id eventId : Bytes} {row : OutboxEntry E} {loop : Loop} {index : Nat}
  {item : ClaimedMessage} {rest : List ClaimedMessage}

variable {lease limit : Int} {locked : List Bytes} {w : Publishing E}

/-- The headers of a stored message are read as those of the message itself, which lose
what is not valid UTF-8. -/
theorem unmarshalHeaders_stored (reads : Payment.ReadsBack E) {headers : Table Bytes Bytes}
    {stored : E.Jsonb} (kept : E.parseJsonb (Json.write (Json.textMap headers)) = some stored) :
    ∃ read, Json.unmarshalTextMap (E.jsonbText stored) = some read ∧
      Json.unmarshalTextMap (Json.write (Json.textMap headers)) = some read := by
  obtain ⟨members, same, texts, integral, legal⟩ := Json.textMap_texts headers
  rw [same] at kept ⊢
  have parsed : Json.parse (Json.write (.object members)) = some (.object members) :=
    Json.parse_write (legal 9999)
  obtain ⟨read, decoded, _⟩ := texts.unmarshal (legal 0)
  exact ⟨read, (Json.unmarshalTextMap_object (reads.parsed parsed integral kept)).trans decoded,
    (Json.unmarshalTextMap_object parsed).trans decoded⟩

def RowValid (eventId : Bytes) (row : OutboxEntry E) : Prop :=
  eventId ≠ [] ∧ row.body.topic ≠ [] ∧ row.body.aggregateId ≠ [] ∧ row.body.payload ≠ []

theorem insertOutbox_ok (done : insertOutbox message parentExists now st = .ok (st', u)) :
    st.lookup message.eventId = none ∧ ∃ body, st' = st.insert message.eventId (.fresh body now) ∧
      E.parseJsonb (Json.write (Json.textMap message.headers)) = some body.headers := by
  simp only [insertOutbox, outboxValues, steps_ok]
    at done
  obtain ⟨_, ⟨headers, kept, _, _, rfl⟩, _, _, _, _, _, fresh, rfl, _⟩ := done
  exact ⟨fresh, _, rfl, kept⟩

theorem enqueue_ok (done : enqueue message parentExists now st = .ok (st', u)) :
    st' = st ∨ insertOutbox message parentExists now st = .ok (st', u) := by
  simp only [enqueue, steps_ok] at done
  obtain ⟨_, _, done⟩ := done
  split at done
  · exact .inr done
  · simp only [steps_ok] at done
    obtain ⟨_, _, _, _, _, _, _, _, rfl, _⟩ := done
    exact .inl rfl

theorem foldl_leased {deadline : Int} (chosen : List (Bytes × OutboxEntry E)) (st : Outbox E)
    (id : Bytes) : (∃ row, (id, row) ∈ chosen ∧
      (chosen.foldl (fun st e => st.insert e.1 (e.2.leased owner deadline)) st).lookup id =
        some (row.leased owner deadline)) ∨
    (chosen.foldl (fun st e => st.insert e.1 (e.2.leased owner deadline)) st).lookup id =
      st.lookup id := by
  induction chosen generalizing st with
  | nil => exact .inr rfl
  | cons e rest ih =>
    rcases ih (st.insert e.1 (e.2.leased owner deadline)) with ⟨row, member, found⟩ | kept
    · exact .inl ⟨row, List.mem_cons_of_mem _ member, found⟩
    · rw [AList.lookup_insert_if] at kept
      split at kept
      · rename_i same
        subst same
        exact .inl ⟨e.2, List.mem_cons_self, kept⟩
      · exact .inr kept

theorem candidates_stored {limit : Nat} (member : (id, row) ∈ candidates now locked limit st) :
    st.lookup id = some row := by
  have sorted := List.mem_of_mem_take member
  have filtered := (List.perm_insertionSort _ _).mem_iff.mp sorted
  exact (AList.mem_rows _ _ _).mp (List.mem_filter.mp filtered).1

theorem claim_ok {claimed : List ClaimedMessage}
    (done : claim owner limit lease now locked st = .ok (st', claimed)) :
    (∀ id row', st'.lookup id = some row' → st.lookup id = some row' ∨
      ∃ row, st.lookup id = some row ∧ row' = row.leased owner (now + lease / 1000)) ∧
    (∀ id row, st.lookup id = some row → ∃ row', st'.lookup id = some row' ∧ row'.body = row.body) ∧
    ∀ item ∈ claimed, ∃ row, st.lookup item.message.eventId = some row ∧
      (item.message.Valid ↔ RowValid item.message.eventId row) := by
  simp only [claim, steps_ok] at done
  obtain ⟨_, _, _, _, _, _, _, _, _, read, rfl, rfl⟩ := done
  refine ⟨?_, ?_, ?_⟩
  · intro id row' found
    rcases foldl_leased (candidates now locked limit.toNat st) st id with ⟨row, member, leased⟩ | kept
    · rw [leased] at found
      exact .inr ⟨row, candidates_stored member, (Option.some.inj found).symm⟩
    · exact .inl (kept ▸ found)
  · intro id row found
    rcases foldl_leased (candidates now locked limit.toNat st) st id with ⟨old, member, leased⟩ | kept
    · cases found.symm.trans (candidates_stored member)
      exact ⟨_, leased, rfl⟩
    · exact ⟨row, kept.trans found, rfl⟩
  · intro item member
    obtain ⟨⟨id, row⟩, inside, built⟩ := mapM_mem read item member
    simp only [claimedMessage, steps_ok] at built
    obtain ⟨headers, _, rfl⟩ := built
    exact ⟨row, candidates_stored inside, Iff.rfl⟩

theorem updateLease_ok {change : OutboxEntry E → OutboxEntry E}
    (done : updateLease eventId owner change st = .ok (st', u)) :
    ∃ row, st.lookup eventId = some row ∧ st' = st.insert eventId (change row) := by
  simp only [updateLease, steps_ok] at done
  obtain ⟨row, found, _, _, rfl, _⟩ := done
  exact ⟨row, found, rfl⟩

theorem markPublished_ok (done : markPublished eventId owner now st = .ok (st', u)) :
    ∃ row next, st.lookup eventId = some row ∧ st' = st.insert eventId next ∧
      next.body = row.body ∧ next.status = .published := by
  simp only [markPublished, steps_ok] at done
  obtain ⟨_, _, done⟩ := done
  obtain ⟨row, found, rfl⟩ := updateLease_ok done
  exact ⟨row, _, found, rfl, rfl, rfl⟩

theorem markFailed_ok {cause : Bytes} {maxAttempts backoff : Int}
    (done : markFailed eventId owner cause maxAttempts backoff now st = .ok (st', u)) :
    ∃ row next, st.lookup eventId = some row ∧ st' = st.insert eventId next ∧ next.body = row.body ∧
      (next.status = .pending ∨ next.status = .poison ∧ maxAttempts ≤ row.attempts) := by
  simp only [markFailed, steps_ok] at done
  obtain ⟨_, _, _, _, done⟩ := done
  obtain ⟨row, found, rfl⟩ := updateLease_ok done
  refine ⟨row, _, found, rfl, rfl, ?_⟩
  dsimp only
  split
  · rename_i reached
    exact .inr ⟨rfl, reached⟩
  · exact .inl rfl

structure RowOk (sent : List Bytes) (id : Bytes) (row : OutboxEntry E) : Prop where
  published : row.status = .published → id ∈ sent
  poison : row.status = .poison → ¬ RowValid id row
  leased : row.status = .publishing → ∃ deadline, row.lockedUntil = some deadline
  headers : ∃ headers, E.parseJsonb (Json.write (Json.textMap headers)) = some row.body.headers

/-- What a loop holds is stored, and the phase of its first message says what happened. -/
structure LoopOk (w : Publishing E) (loop : Loop) : Prop where
  items : ∀ item ∈ loop.batch, ∃ row, w.outbox.lookup item.message.eventId = some row ∧
    (item.message.Valid ↔ RowValid item.message.eventId row)
  delivered : loop.phase = .delivered → ∀ item rest, loop.batch = item :: rest →
    item.message.eventId ∈ w.sent
  failing : ∀ cause, loop.phase = .failing cause true → ∀ item rest, loop.batch = item :: rest →
    ¬ item.message.Valid

structure Recorded (w : Publishing E) : Prop where
  rows : ∀ id row, w.outbox.lookup id = some row → RowOk w.sent id row
  loops : ∀ loop ∈ w.loops, LoopOk w loop

structure Grown (w w' : Publishing E) : Prop where
  rows : ∀ id row, w.outbox.lookup id = some row →
    ∃ row', w'.outbox.lookup id = some row' ∧ row'.body = row.body
  sent : ∀ id ∈ w.sent, id ∈ w'.sent

theorem rowValid_body {row' : OutboxEntry E} (body : row'.body = row.body) :
    RowValid id row' ↔ RowValid id row := by
  simp only [RowValid, body]

theorem Grown.refl (w : Publishing E) : Grown w w :=
  ⟨fun _ row found => ⟨row, found, rfl⟩, fun _ known => known⟩

theorem Grown.write {next : OutboxEntry E}
    (same : ∀ row, w.outbox.lookup id = some row → next.body = row.body) :
    Grown w { w with outbox := w.outbox.insert id next } := by
  refine ⟨?_, fun _ known => known⟩
  intro other row found
  rw [AList.lookup_insert_if]
  split
  · rename_i here
    exact ⟨next, rfl, same row (here ▸ found)⟩
  · exact ⟨row, found, rfl⟩

theorem LoopOk.grow {w' : Publishing E} (ok : LoopOk w loop) (grown : Grown w w') :
    LoopOk w' loop := by
  refine ⟨?_, ?_, ok.failing⟩
  · intro item member
    obtain ⟨row, found, valid⟩ := ok.items item member
    obtain ⟨row', kept, body⟩ := grown.rows _ row found
    exact ⟨row', kept, valid.trans (rowValid_body body).symm⟩
  · intro phase item rest batch
    exact grown.sent _ (ok.delivered phase item rest batch)

namespace Recorded

variable {w w' : Publishing E}

theorem grow (inv : Recorded w) (grown : Grown w w') (loops : w'.loops = w.loops)
    (rows : ∀ id row, w'.outbox.lookup id = some row → RowOk w'.sent id row) : Recorded w' :=
  ⟨rows, fun loop member => (inv.loops loop (loops ▸ member)).grow grown⟩

theorem put (inv : Recorded w) (ok : LoopOk w loop) : Recorded (w.put index loop) := by
  have same : Grown w (w.put index loop) := ⟨(Grown.refl w).rows, (Grown.refl w).sent⟩
  refine ⟨inv.rows, ?_⟩
  intro other member
  rcases List.mem_or_eq_of_mem_set member with old | rfl
  · exact (inv.loops other old).grow same
  · exact ok.grow same

theorem write (inv : Recorded w) {next : OutboxEntry E}
    (same : ∀ row, w.outbox.lookup id = some row → next.body = row.body) (ok : RowOk w.sent id next) :
    Recorded { w with outbox := w.outbox.insert id next } :=
  inv.grow (.write same) rfl (AList.forall_insert ok inv.rows)

theorem insertOutbox (inv : Recorded w)
    (done : insertOutbox message parentExists now w.outbox = .ok (st, u)) :
    Recorded { w with outbox := st } := by
  obtain ⟨fresh, body, rfl, headers⟩ := insertOutbox_ok done
  refine inv.write ?_ ⟨?_, ?_, ?_, ⟨_, headers⟩⟩
  · intro row found
    cases fresh.symm.trans found
  · intro status
    cases status
  · intro status
    cases status
  · intro status
    cases status

end Recorded

def Bounded (w : Publishing E) : Prop :=
  ∀ e ∈ w.outbox.rows, e.2.attempts < maxInt8
  deriving Decidable

theorem Bounded.stored (bounded : Bounded w)
    (found : w.outbox.lookup id = some row) : row.attempts < maxInt8 :=
  bounded (id, row) ((AList.mem_rows _ _ _).mpr found)

/-- Producer.Publish returns ErrInvalidMessage only for messages that fail Validate. -/
def Honest (w : Publishing E) : PublishCommand → Prop
  | .publish index (.failed _ true) =>
    ∀ loop ∈ w.loops[index]?, ∀ item ∈ loop.batch.head?, ¬ item.message.Valid
  | _ => True

instance (w : Publishing E) : ∀ command, Decidable (Honest w command)
  | .publish _ (.failed _ true) => inferInstanceAs (Decidable (∀ loop ∈ _, ∀ item ∈ _, ¬ _))
  | .publish _ (.failed _ false) | .publish _ .sent | .insert .. | .enqueue .. | .join _ | .claim ..
  | .mark .. => isTrue trivial

theorem claimStep_recorded (inv : Recorded w) (ready : loop.phase = .ready)
    (now : Int) (locked : List Bytes) (ending : Ending) :
    Recorded (claimStep w index loop now locked ending) := by
  unfold claimStep
  split
  · exact inv
  rename_i outbox claimed done
  obtain ⟨rows, bodies, items⟩ := claim_ok done
  have leased : Recorded { w with outbox := outbox } := by
    refine inv.grow ⟨bodies, fun _ known => known⟩ rfl ?_
    intro id row' found
    rcases rows id row' found with old | ⟨row, old, rfl⟩
    · exact inv.rows id row' old
    · exact ⟨fun status => (by cases status), fun status => (by cases status), fun _ => ⟨_, rfl⟩,
        (inv.rows id row old).headers⟩
  split
  · refine leased.put ⟨?_, ?_, ?_⟩
    · intro item member
      obtain ⟨row, found, valid⟩ := items item member
      obtain ⟨row', kept, body⟩ := bodies _ row found
      exact ⟨row', kept, valid.trans (rowValid_body body).symm⟩
    · intro phase
      cases ready.symm.trans phase
    · intro cause phase
      cases ready.symm.trans phase
  · exact leased
  · exact inv

theorem markTx_row (inv : Recorded w) (bounded : Bounded w) (ok : LoopOk w loop)
    (batch : loop.batch = item :: rest) (working : loop.phase ≠ .ready)
    (done : markTx loop.publisher item loop.phase now w.outbox = .ok (st, u)) :
    ∃ row next, w.outbox.lookup item.message.eventId = some row ∧
      st = w.outbox.insert item.message.eventId next ∧ next.body = row.body ∧
      RowOk w.sent item.message.eventId next := by
  obtain ⟨stored, here, valid⟩ := ok.items item (by simp [batch])
  cases phase : loop.phase with
  | ready => exact absurd phase working
  | delivered =>
    rw [phase] at done
    obtain ⟨row, next, found, rfl, body, status⟩ := markPublished_ok done
    refine ⟨row, next, found, rfl, body, ?_, ?_, ?_, body ▸ (inv.rows _ _ found).headers⟩
    · intro _
      exact ok.delivered phase item rest batch
    · intro poison
      cases status.symm.trans poison
    · intro publishing
      cases status.symm.trans publishing
  | failing cause invalid =>
    rw [phase] at done
    obtain ⟨row, next, found, rfl, body, status⟩ := markFailed_ok done
    cases here.symm.trans found
    refine ⟨_, next, found, rfl, body, ?_, ?_, ?_, body ▸ (inv.rows _ _ found).headers⟩
    · intro published
      rcases status with other | ⟨other, _⟩ <;> cases other.symm.trans published
    · intro poison
      rcases status with other | ⟨_, reached⟩
      · cases other.symm.trans poison
      · -- a limit is only set for an invalid message, and the other one is never reached
        cases invalid with
        | true =>
          rw [rowValid_body body, ← valid]
          exact ok.failing cause phase item rest batch
        | false =>
          have below := bounded.stored found
          simp only [Publisher.failureLimit, Bool.false_eq_true, if_false] at reached
          omega
    · intro publishing
      rcases status with other | ⟨other, _⟩ <;> cases other.symm.trans publishing

theorem markTx_recorded (inv : Recorded w) (bounded : Bounded w)
    (ok : LoopOk w loop) (batch : loop.batch = item :: rest) (working : loop.phase ≠ .ready)
    (now : Int)
    (marked : st = w.outbox ∨ st = commit (markTx loop.publisher item loop.phase now) w.outbox) :
    Recorded { w with outbox := st } ∧ Grown w { w with outbox := st } := by
  rcases marked with rfl | rfl
  · exact ⟨inv, .refl w⟩
  refine commit_preserves _
    (fun st => Recorded { w with outbox := st } ∧ Grown w { w with outbox := st }) ⟨inv, .refl w⟩ ?_
  intro st u done
  obtain ⟨row, next, found, rfl, body, fine⟩ := markTx_row inv bounded ok batch working done
  have same : ∀ other, w.outbox.lookup item.message.eventId = some other →
      next.body = other.body := by
    intro other known
    cases found.symm.trans known
    exact body
  exact ⟨inv.write same fine, .write same⟩

theorem markStep_recorded (inv : Recorded w) (bounded : Bounded w)
    (ok : LoopOk w loop) (batch : loop.batch = item :: rest) (working : loop.phase ≠ .ready)
    (now : Int) (ending : Ending) : Recorded (markStep w index loop item rest now ending) := by
  have put : ∀ st, st = w.outbox ∨ st = commit (markTx loop.publisher item loop.phase now) w.outbox →
      Recorded ({ w with outbox := st }.put index { loop with batch := rest, phase := .ready }) := by
    intro st ends
    obtain ⟨marked, grown⟩ := markTx_recorded inv bounded ok batch working now ends
    have later := ok.grow grown
    refine marked.put ⟨?_, ?_, ?_⟩
    · intro other member
      exact later.items other (by rw [batch]; exact List.mem_cons_of_mem _ member)
    · intro phase
      cases phase
    · intro cause phase
      cases phase
  cases ending with
  | acknowledged => exact put _ (.inr rfl)
  | unacknowledged => exact put _ (.inr rfl)
  | aborted => exact put _ (.inl rfl)

theorem loopStep_recorded (inv : Recorded w) (bounded : Bounded w)
    (here : w.loops[index]? = some loop) (command : PublishCommand)
    (honest : ∀ cause, command = .publish index (.failed cause true) →
      ∀ item rest, loop.batch = item :: rest → ¬ item.message.Valid)
    (addressed : ∀ i result, command = .publish i result → i = index) :
    Recorded (loopStep w index loop command) := by
  have ok := inv.loops loop (List.mem_of_getElem? here)
  unfold loopStep
  split
  · rename_i ready
    exact claimStep_recorded inv ready _ _ _
  · rename_i item rest _ batch ready
    have grown : Grown w { w with sent := w.sent ++ [item.message.eventId] } :=
      ⟨(Grown.refl w).rows, fun _ known => List.mem_append_left _ known⟩
    have sent : Recorded { w with sent := w.sent ++ [item.message.eventId] } := by
      refine inv.grow grown rfl ?_
      intro id row found
      have fine := inv.rows id row found
      exact ⟨fun status => grown.sent _ (fine.published status), fine.poison, fine.leased,
        fine.headers⟩
    refine sent.put ⟨(ok.grow grown).items, ?_, fun cause phase => (by cases phase)⟩
    intro _ item' rest' batch'
    cases batch.symm.trans batch'
    exact List.mem_append_right _ (List.mem_singleton.mpr rfl)
  · rename_i item rest i cause invalid batch ready
    refine inv.put ⟨ok.items, fun phase => (by cases phase), ?_⟩
    intro cause' phase item' rest' batch'
    cases phase
    cases addressed i _ rfl
    exact honest cause rfl item' rest' batch'
  · rename_i item rest _ _ _ batch delivered
    exact markStep_recorded inv bounded ok batch (by simp [delivered]) _ _
  · rename_i item rest _ _ _ _ _ batch failing
    exact markStep_recorded inv bounded ok batch (by simp [failing]) _ _
  · exact inv

theorem publishStep_recorded (inv : Recorded w) (bounded : Bounded w)
    (command : PublishCommand) (honest : Honest w command) : Recorded (publishStep w command) := by
  have worked : ∀ index, (∀ i result, command = .publish i result → i = index) →
      Recorded (atLoop w index command) := by
    intro index addressed
    unfold atLoop
    split
    · exact inv
    · rename_i loop here
      refine loopStep_recorded inv bounded here command ?_ addressed
      rintro cause rfl item rest batch
      exact honest loop here item (by simp [batch])
  cases command with
  | insert =>
    exact commit_preserves _ (fun st => Recorded { w with outbox := st }) inv
      fun st u done => inv.insertOutbox done
  | enqueue =>
    refine commit_preserves _ (fun st => Recorded { w with outbox := st }) inv ?_
    intro st u done
    rcases enqueue_ok done with rfl | inserted
    · exact inv
    · exact inv.insertOutbox inserted
  | join =>
    refine ⟨inv.rows, ?_⟩
    intro loop member
    rcases List.mem_append.mp member with old | new
    · exact (inv.loops loop old).grow ⟨(Grown.refl w).rows, (Grown.refl w).sent⟩
    · cases List.mem_singleton.mp new
      refine ⟨?_, ?_, ?_⟩
      · intro item impossible
        cases impossible
      · intro phase
        cases phase
      · intro cause phase
        cases phase
  | claim index => exact worked index (fun _ _ other => by cases other)
  | publish index =>
    refine worked index ?_
    intro i result' same
    cases same
    rfl
  | mark index => exact worked index (fun _ _ other => by cases other)

def OutboxEntry.claimableFrom (row : OutboxEntry E) : Int :=
  match row.status with
  | .publishing => row.lockedUntil.getD 0 + 1
  | _ => row.availableAt

theorem OutboxEntry.due_from (open_ : row.status = .pending ∨ row.status = .publishing ∧
      ∃ deadline, row.lockedUntil = some deadline) (later : row.claimableFrom ≤ now) :
    row.due now = true := by
  rcases open_ with pending | ⟨publishing, deadline, locked⟩
  · simpa [OutboxEntry.due, OutboxEntry.claimableFrom, pending] using later
  · simp only [OutboxEntry.claimableFrom, publishing, locked, Option.getD_some] at later
    simp only [OutboxEntry.due, publishing, locked, Option.any_some, decide_eq_true_eq]
    omega

theorem claim_returns (inv : Recorded w) (bounded : Bounded w)
    (reads : Payment.ReadsBack E) (found : w.outbox.lookup id = some row) (due : row.due now = true)
    (named : owner ≠ [] ∧ E.acceptsText owner = true)
    (room : (w.outbox.rows.length : Int) ≤ limit) (long : 1000 ≤ lease) :
    ∃ outbox claimed, claim owner limit lease now [] w.outbox = .ok (outbox, claimed) ∧
      ∃ item ∈ claimed, item.message.eventId = id := by
  have present := (AList.mem_rows _ _ _).mpr found
  have positive : 0 < w.outbox.rows.length := List.length_pos_of_mem present
  have read : ∀ e ∈ candidates now [] limit.toNat w.outbox,
      ∃ item, claimedMessage owner (now + lease / 1000) e.1 e.2 = .ok item := by
    rintro ⟨other, entry⟩ member
    obtain ⟨headers, stored⟩ := (inv.rows _ _ (candidates_stored member)).headers
    obtain ⟨decoded, unmarshalled, _⟩ := unmarshalHeaders_stored reads stored
    simp only [claimedMessage, unmarshalled, steps_ok]
    exact ⟨_, decoded, rfl, rfl⟩
  obtain ⟨claimed, mapped, answers⟩ := mapM_total read
  have selected : (id, row) ∈ candidates now [] limit.toNat w.outbox := by
    have filtered : (id, row) ∈ w.outbox.rows.filter fun e => e.2.due now && e.1 ∉ [] :=
      List.mem_filter.mpr ⟨present, by simp [due]⟩
    have short := List.length_filter_le (fun e => e.2.due now && decide (e.1 ∉ [])) w.outbox.rows
    unfold candidates
    rw [List.take_of_length_le (by rw [List.length_insertionSort]; omega)]
    exact (List.perm_insertionSort _ _).mem_iff.mpr filtered
  obtain ⟨item, inside, built⟩ := answers _ selected
  have below : ∀ e ∈ candidates now [] limit.toNat w.outbox, e.2.attempts < maxInt8 :=
    fun e member => bounded.stored (candidates_stored member)
  obtain ⟨outbox, done⟩ : ∃ outbox, claim owner limit lease now [] w.outbox = .ok (outbox, claimed) := by
    simp only [claim, steps_ok]
    exact ⟨_, (), ⟨named.1, by omega, by omega⟩, (), by omega, (), named.2, (), below, claimed, mapped,
      rfl, rfl⟩
  refine ⟨outbox, claimed, done, item, inside, ?_⟩
  simp only [claimedMessage, steps_ok] at built
  obtain ⟨_, _, rfl⟩ := built
  rfl

/-- What the environment of a run guarantees at each step. -/
def Fair (w : Publishing E) (command : PublishCommand) : Prop :=
  Honest w command ∧ Bounded (publishStep w command)
  deriving Decidable

theorem run_recorded (commands : List PublishCommand)
    (fair : Along publishStep Fair (Publishing.empty : Publishing E) commands) :
    Recorded (run publishStep (Publishing.empty : Publishing E) commands) ∧
      Bounded (run publishStep (Publishing.empty : Publishing E) commands) := by
  refine run_preserves_along publishStep Fair (fun w => Recorded w ∧ Bounded w) ?_ commands fair ?_
  · intro w command ⟨honest, after⟩ ⟨inv, bounded⟩
    exact ⟨publishStep_recorded inv bounded command honest, after⟩
  · refine ⟨⟨?_, ?_⟩, ?_⟩
    · intro id row found
      cases found
    · intro loop member
      cases member
    · intro e member
      cases member

/-- However loops claim, publish, fail, crash and overtake each other: a PUBLISHED row
was published, a valid message is never POISON, and a valid message that is not
PUBLISHED is PENDING or leased until some time, and from some time on every Claim that
takes enough rows returns it. -/
theorem outbox_loses_no_event (E : Engine) (reads : Payment.ReadsBack E)
    (commands : List PublishCommand)
    (fair : Along publishStep Fair (Publishing.empty : Publishing E) commands) :
    let w := run publishStep (Publishing.empty : Publishing E) commands
    ∀ id row, w.outbox.lookup id = some row →
      (row.status = .published → id ∈ w.sent) ∧
      (RowValid id row → row.status ≠ .poison) ∧
      (RowValid id row → row.status ≠ .published →
        (row.status = .pending ∨ row.status = .publishing ∧
          ∃ deadline, row.lockedUntil = some deadline) ∧
        ∃ time, ∀ now, time ≤ now → ∀ owner limit lease, owner ≠ [] → E.acceptsText owner = true →
          (w.outbox.rows.length : Int) ≤ limit → 1000 ≤ lease →
          ∃ outbox claimed, claim owner limit lease now [] w.outbox = .ok (outbox, claimed) ∧
            ∃ item ∈ claimed, item.message.eventId = id) := by
  intro w id row found
  obtain ⟨inv, bounded⟩ := run_recorded commands fair
  have ok := inv.rows id row found
  refine ⟨ok.published, fun valid poison => ok.poison poison valid, ?_⟩
  intro valid unpublished
  have open_ : row.status = .pending ∨ row.status = .publishing ∧
      ∃ deadline, row.lockedUntil = some deadline := by
    cases status : row.status with
    | pending => exact .inl rfl
    | publishing => exact .inr ⟨rfl, ok.leased status⟩
    | published => exact absurd status unpublished
    | poison => exact absurd valid (ok.poison status)
  refine ⟨open_, row.claimableFrom, ?_⟩
  intro now later owner limit lease named accepted room long
  exact claim_returns inv bounded reads found (row.due_from open_ later) ⟨named, accepted⟩ room long

/- Two loops: the first publishes the event and loses its lease before it marks the row,
the second claims the row again and finds no broker. -/

def sampleMessage : Message :=
  { eventId := ascii "e1", topic := ascii "payments", key := [], payload := ascii "p"
    headers := (∅ : Table Bytes Bytes).insert (ascii "event_type") (ascii "t")
    aggregateId := ascii "a1", aggregateVersion := 1, parentTransactionId := [] }

def samplePublisher (owner : String) : Publisher := ⟨ascii owner, 0, 1000, 0, none⟩

def samplePublishing : List PublishCommand :=
  [.enqueue sampleMessage true 0, .join (samplePublisher "a"), .join (samplePublisher "b"),
    .claim 0 0 [] .acknowledged, .publish 0 .sent, .claim 1 5 [] .acknowledged,
    .publish 1 (.failed (ascii "no broker") false), .mark 0 6 .acknowledged,
    .mark 1 7 .acknowledged]

theorem sample_outbox_loses_no_event :
    Along publishStep Fair (Publishing.empty : Publishing sampleEngine) samplePublishing ∧
    ((run publishStep (Publishing.empty : Publishing sampleEngine) samplePublishing).outbox.lookup
      (ascii "e1")).map (fun row => (row.status, row.attempts)) = some (.pending, 2) ∧
    ∀ id row,
      (run publishStep (Publishing.empty : Publishing sampleEngine) samplePublishing).outbox.lookup
        id = some row → RowValid id row → row.status ≠ .poison := by
  have fair : Along publishStep Fair (Publishing.empty : Publishing sampleEngine)
      samplePublishing := by decide +kernel
  refine ⟨fair, by decide +kernel, ?_⟩
  intro id row found
  exact (outbox_loses_no_event sampleEngine Payment.sample_reads_back samplePublishing fair id row
    found).2.1

end PaymentPlatform.Messaging
