import PaymentPlatform.Messaging.Consumer

/-! At most one committed effect for each consumer and event, final inbox states that
stay, and no offset commit for a record that is neither applied nor dead-lettered. -/

namespace PaymentPlatform.Messaging

open Framing Serial

variable {E : Engine} {maxAttempts : Bytes → Int}
variable {consumer messageId cause : Bytes} {message : Message} {handled : Handled}
  {result : ProcessResult} {hash : Digest} {poison : Bool} {record : Record} {rest : List Record}

variable {index : Nat} {r : Run} {base st st' : Store} {w w' : World}

/-- APPLIED is the mark of a committed effect, and POISON of exhausted attempts. -/
structure Marked (maxAttempts : Bytes → Int) (st : Store) : Prop where
  distinct : st.effects.Nodup
  applied : ∀ key, key ∈ st.effects ↔ ∃ row, st.inbox.lookup key = some row ∧
    row.status = .applied
  poison : ∀ key row, st.inbox.lookup key = some row → row.status = .poison →
    effectiveAttempts (maxAttempts key.1) ≤ row.attempts

structure Rewritten (key : Key) (st st' : Store) (next : InboxRow) : Prop where
  inbox : st'.inbox = st.inbox.insert key next
  applied : ∀ row, st.inbox.lookup key = some row → row.status ≠ .applied
  hash : ∀ row, st.inbox.lookup key = some row → next.payloadHash = row.payloadHash

theorem processTx_ok (h : processTx E consumer message handled st = .ok (st', result)) :
    (st' = st ∧ result.poison = true ∧
      ∃ row, st.inbox.lookup (consumer, message.eventId) = some row ∧ row.status = .poison) ∨
    (st' = st ∧ result.poison = false ∧
      ∃ row, st.inbox.lookup (consumer, message.eventId) = some row ∧ row.status = .applied ∧
        row.payloadHash = hashMessage E message) ∨
    (result.poison = false ∧ ∃ next, Rewritten (consumer, message.eventId) st st' next ∧
      next.status = .applied ∧ next.payloadHash = hashMessage E message ∧
      st'.effects = st.effects ++ [(consumer, message.eventId)] ∧
      ∀ row, st.inbox.lookup (consumer, message.eventId) = some row → row.status ≠ .poison) := by
  simp only [processTx, steps_ok] at h
  obtain ⟨_, _, _, _, _, same, h⟩ := h
  have known : ∀ status, status ≠ .processing →
      ((st.inbox.lookup (consumer, message.eventId)).getD
        (.fresh (hashMessage E message))).status = status →
      ∃ row, st.inbox.lookup (consumer, message.eventId) = some row ∧ row.status = status ∧
        row.payloadHash = hashMessage E message := by
    intro status other is
    cases found : st.inbox.lookup (consumer, message.eventId) with
    | none =>
      rw [found] at is
      exact absurd is.symm other
    | some row =>
      rw [found] at is same
      exact ⟨row, rfl, is, same⟩
  have open_ : ∀ {status}, ((st.inbox.lookup (consumer, message.eventId)).getD
      (.fresh (hashMessage E message))).status = status →
      ∀ row, st.inbox.lookup (consumer, message.eventId) = some row → row.status = status := by
    intro status is row found
    rwa [found] at is
  split at h
  · rename_i is
    simp only [pure_ok, Prod.mk.injEq] at h
    obtain ⟨rfl, rfl⟩ := h
    exact .inr (.inl ⟨rfl, rfl, known _ (by decide) is⟩)
  · rename_i is
    simp only [pure_ok, Prod.mk.injEq] at h
    obtain ⟨rfl, rfl⟩ := h
    obtain ⟨row, found, status, _⟩ := known _ (by decide) is
    exact .inl ⟨rfl, rfl, row, found, status⟩
  all_goals
    rename_i is
    split at h
    · cases h
    · simp only [steps_ok] at h
      obtain ⟨_, _, rfl, rfl⟩ := h
      refine .inr (.inr ⟨rfl, _, ⟨rfl, ?_, ?_⟩, rfl, same, rfl, ?_⟩)
      · intro row found
        simp [open_ is row found]
      · intro row found
        rw [found]
        rfl
      · intro row found
        simp [open_ is row found]

theorem recordFailure_ok {limit : Int}
    (h : recordFailure E consumer messageId hash cause limit st = .ok (st', poison)) :
    (st' = st ∧ poison = false) ∨
    ∃ next, Rewritten (consumer, messageId) st st' next ∧ next.status ≠ .applied ∧
      st'.effects = st.effects ∧ (poison = true ↔ next.status = .poison) ∧
      (next.status = .poison → limit ≤ next.attempts) ∧
      ∀ row, st.inbox.lookup (consumer, messageId) = some row →
        next.attempts = row.attempts + 1 ∧ (limit ≤ row.attempts → next.status = .poison) := by
  simp only [recordFailure, steps_ok] at h
  obtain ⟨_, _, h⟩ := h
  split at h
  · rename_i absent
    simp only [pure_ok, Prod.mk.injEq] at h
    obtain ⟨rfl, rfl⟩ := h
    refine .inr ⟨_, ⟨rfl, ?_, ?_⟩, ?_, rfl, ?_, ?_, ?_⟩
    · intro row found
      cases absent.symm.trans found
    · intro row found
      cases absent.symm.trans found
    · dsimp only
      split <;> decide
    · simp
    · dsimp only
      intro is
      split at is
      · assumption
      · cases is
    · intro row found
      cases absent.symm.trans found
  · rename_i row found
    split at h
    · simp only [pure_ok, Prod.mk.injEq] at h
      obtain ⟨rfl, rfl⟩ := h
      exact .inl ⟨rfl, rfl⟩
    · rename_i notApplied
      simp only [steps_ok] at h
      obtain ⟨_, _, rfl, rfl⟩ := h
      refine .inr ⟨_, ⟨rfl, ?_, ?_⟩, ?_, rfl, ?_, ?_, ?_⟩
      · intro other known
        cases found.symm.trans known
        exact notApplied
      · intro other known
        cases found.symm.trans known
        rfl
      · dsimp only
        split <;> decide
      · simp
      · dsimp only
        intro is
        split at is
        · assumption
        · cases is
      · intro other known
        cases found.symm.trans known
        refine ⟨rfl, ?_⟩
        intro reached
        dsimp only
        rw [if_pos (by omega)]

def Status.Final (status : Status) : Prop := status = .applied ∨ status = .poison

/-- Final rows stay final, and keep the payload they are for. -/
def Absorbs (st st' : Store) : Prop :=
  ∀ key row, st.inbox.lookup key = some row → row.status.Final →
    ∃ later, st'.inbox.lookup key = some later ∧ later.status = row.status ∧
      later.payloadHash = row.payloadHash

theorem Absorbs.refl (st : Store) : Absorbs st st :=
  fun _ row found _ => ⟨row, found, rfl, rfl⟩

theorem Absorbs.trans {a b c : Store} (first : Absorbs a b) (second : Absorbs b c) :
    Absorbs a c := by
  intro key row found final
  obtain ⟨mid, known, status, hash⟩ := first key row found final
  obtain ⟨later, kept, status', hash'⟩ := second key mid known (status ▸ final)
  exact ⟨later, kept, status'.trans status, hash'.trans hash⟩

theorem Rewritten.absorbs {key : Key} {next : InboxRow} (rewritten : Rewritten key st st' next)
    (poison : ∀ row, st.inbox.lookup key = some row → row.status = .poison →
      next.status = .poison) : Absorbs st st' := by
  intro other row found final
  rw [rewritten.inbox, AList.lookup_insert_if]
  split
  · rename_i same
    subst same
    rcases final with applied | poisoned
    · exact absurd applied (rewritten.applied row found)
    · exact ⟨next, rfl, (poison row found poisoned).trans poisoned.symm, rewritten.hash row found⟩
  · exact ⟨row, found, rfl, rfl⟩

namespace Marked

variable {st st' : Store}

theorem processTx (marked : Marked maxAttempts st)
    (h : processTx E consumer message handled st = .ok (st', result)) :
    Marked maxAttempts st' ∧ Absorbs st st' := by
  rcases processTx_ok h with ⟨rfl, _⟩ | ⟨rfl, _⟩ | ⟨_, next, rewritten, status, _, effects, open_⟩
  · exact ⟨marked, .refl _⟩
  · exact ⟨marked, .refl _⟩
  · have fresh : (consumer, message.eventId) ∉ st.effects := by
      intro member
      obtain ⟨row, found, applied⟩ := (marked.applied _).mp member
      exact rewritten.applied row found applied
    refine ⟨⟨?_, ?_, ?_⟩, rewritten.absorbs fun row found is => absurd is (open_ row found)⟩
    · rw [effects, List.nodup_append_comm]
      exact List.nodup_cons.mpr ⟨fresh, marked.distinct⟩
    · intro key
      rw [effects, rewritten.inbox, AList.lookup_insert_if, List.mem_append, List.mem_singleton]
      split
      · rename_i same
        simp [same, status]
      · rename_i other
        rw [marked.applied, or_iff_left other]
    · rw [rewritten.inbox]
      exact AList.forall_insert (fun is => by cases status.symm.trans is) marked.poison

theorem recordFailure (marked : Marked maxAttempts st)
    (h : recordFailure E consumer messageId hash cause
      (effectiveAttempts (maxAttempts consumer)) st = .ok (st', poison)) :
    Marked maxAttempts st' ∧ Absorbs st st' := by
  rcases recordFailure_ok h with ⟨rfl, _⟩ | ⟨next, rewritten, notApplied, effects, _, limit, later⟩
  · exact ⟨marked, .refl _⟩
  · refine ⟨⟨effects ▸ marked.distinct, ?_, ?_⟩, rewritten.absorbs ?_⟩
    · intro key
      rw [effects, marked.applied, rewritten.inbox, AList.lookup_insert_if]
      split
      · rename_i same
        subst same
        constructor
        · rintro ⟨row, found, applied⟩
          exact absurd applied (rewritten.applied row found)
        · rintro ⟨row, found, applied⟩
          cases found
          exact absurd applied notApplied
      · exact Iff.rfl
    · rw [rewritten.inbox]
      exact AList.forall_insert limit marked.poison
    · intro row found is
      exact (later row found).2 (marked.poison _ row found is)

end Marked

def Safe (E : Engine) (w : World) (consumer : Consumer) (record : Record) : Prop :=
  (∃ message row, decodeRecord record = .ok message ∧
    w.store.inbox.lookup (consumer.name, message.eventId) = some row ∧ row.status = .applied ∧
    row.payloadHash = hashMessage E message) ∨
  deadLetter consumer record ∈ w.published

structure Grows (w w' : World) : Prop where
  store : Absorbs w.store w'.store
  published : ∀ letter ∈ w.published, letter ∈ w'.published

theorem Safe.grow {consumer : Consumer} (safe : Safe E w consumer record)
    (grows : Grows w w') : Safe E w' consumer record := by
  rcases safe with ⟨message, row, decoded, found, applied, hash⟩ | published
  · obtain ⟨later, kept, status, same⟩ := grows.store _ row found (.inl applied)
    exact .inl ⟨message, later, decoded, kept, status.trans applied, same.trans hash⟩
  · exact .inr (grows.published _ published)

/-- The invariant of a Run: what it has finished is safe, and before it commits an
offset the record at the head of its queue is. -/
structure Careful (E : Engine) (w : World) (r : Run) : Prop where
  finished : ∀ record ∈ r.finished, Safe E w r.consumer record
  settled : r.phase = .settled → ∀ record rest, r.queue = record :: rest →
    Safe E w r.consumer record

theorem Careful.grow (careful : Careful E w r) (grows : Grows w w') : Careful E w' r :=
  ⟨fun record member => (careful.finished record member).grow grows,
    fun is record rest queue => (careful.settled is record rest queue).grow grows⟩

/-- The invariant, with the final rows of an earlier store. -/
structure Delivered (E : Engine) (maxAttempts : Bytes → Int) (base : Store) (w : World) :
    Prop where
  marked : Marked maxAttempts w.store
  runs : ∀ r ∈ w.runs, Careful E w r
  commits : ∀ c ∈ w.commits, ∀ record ∈ c.before ++ [c.record], Safe E w c.consumer record
  since : Absorbs base w.store

namespace Delivered

variable {base : Store} {w w' : World}

theorem grow (delivered : Delivered E maxAttempts base w) (grows : Grows w w')
    (marked : Marked maxAttempts w'.store) (runs : w'.runs = w.runs) (commits : w'.commits = w.commits) :
    Delivered E maxAttempts base w' where
  marked := marked
  runs r member := (delivered.runs r (runs ▸ member)).grow grows
  commits c member record known := (delivered.commits c (commits ▸ member) record known).grow grows
  since := delivered.since.trans grows.store

theorem put (delivered : Delivered E maxAttempts base w)
    (careful : Careful E w r) : Delivered E maxAttempts base (w.put index r) where
  marked := delivered.marked
  runs other member := by
    have same : Grows w (w.put index r) := ⟨.refl _, fun _ known => known⟩
    rcases List.mem_or_eq_of_mem_set member with old | rfl
    · exact (delivered.runs other old).grow same
    · exact careful.grow same
  commits := delivered.commits
  since := delivered.since

theorem enter (delivered : Delivered E maxAttempts base w) {phase : Phase}
    (careful : Careful E w r) (other : phase ≠ .settled) :
    Delivered E maxAttempts base (w.enter index r phase) :=
  delivered.put ⟨careful.finished, fun is => absurd is other⟩

end Delivered

namespace Delivered

variable {base : Store} {w : World} {index : Nat} {r : Run}

section

variable (delivered : Delivered E maxAttempts base w)
include delivered

theorem process (careful : Careful E w r)
    (queue : r.queue = record :: rest) (handled : Handled) (acknowledged : Bool) :
    Delivered E maxAttempts base (processStep E w index r record handled acknowledged) := by
  unfold processStep
  split
  · exact delivered.enter careful (by simp)
  · rename_i message decoded
    split
    · rename_i st result h
      obtain ⟨marked, absorbs⟩ := delivered.marked.processTx h
      have grows : Grows w { w with store := st } := ⟨absorbs, fun _ known => known⟩
      refine (delivered.grow grows marked rfl rfl).put
        ⟨(careful.grow grows).finished, ?_⟩
      -- only an acknowledged commit that is not POISON leads to the offset commit
      intro settled head tail same
      cases queue.symm.trans same
      refine .inl ⟨message, ?_⟩
      rcases processTx_ok h with ⟨_, poison, _⟩ | ⟨rfl, _, row, found, applied, hash⟩ |
        ⟨_, next, rewritten, status, hash, _⟩
      · simp only [seen, poison] at settled
        split at settled <;> simp at settled
      · exact ⟨row, decoded, found, applied, hash⟩
      · refine ⟨next, decoded, ?_, status, hash⟩
        rw [rewritten.inbox, AList.lookup_insert]
    · exact delivered.enter careful (by simp)
    · exact delivered.enter careful (by simp)

theorem recordFailure (careful : Careful E w r)
    (message : Message) (cause : Bytes) (acknowledged : Bool) : Delivered E maxAttempts base
      (recordFailureStep E maxAttempts w index r message cause acknowledged) := by
  unfold recordFailureStep
  split
  · rename_i st poison h
    obtain ⟨marked, absorbs⟩ := delivered.marked.recordFailure h
    have grows : Grows w { w with store := st } := ⟨absorbs, fun _ known => known⟩
    refine (delivered.grow grows marked rfl rfl).enter (careful.grow grows) ?_
    unfold seen
    split
    · split <;> simp
    · simp
  · exact delivered.enter careful (by simp)

theorem publish (careful : Careful E w r)
    (queue : r.queue = record :: rest) : Delivered E maxAttempts base
      ({ w with published := w.published ++ [deadLetter r.consumer record] }.enter index r
        .settled) := by
  have grows : Grows w { w with published := w.published ++ [deadLetter r.consumer record] } :=
    ⟨.refl _, fun _ known => List.mem_append_left _ known⟩
  refine (delivered.grow grows delivered.marked rfl rfl).put ⟨(careful.grow grows).finished, ?_⟩
  intro _ head tail same
  cases queue.symm.trans same
  exact .inr (List.mem_append_right _ (List.mem_singleton.mpr rfl))

theorem commit (careful : Careful E w r)
    (settled : r.phase = .settled) (queue : r.queue = record :: rest) (ok : Bool) :
    Delivered E maxAttempts base (commitStep w index r record rest ok) := by
  have safe : ∀ known ∈ r.finished ++ [record], Safe E w r.consumer known := by
    intro known member
    rcases List.mem_append.mp member with old | new
    · exact careful.finished known old
    · cases List.mem_singleton.mp new
      exact careful.settled settled record rest queue
  have same : Grows w { w with commits := w.commits ++ [⟨r.consumer, r.finished, record⟩] } :=
    ⟨.refl _, fun _ known => known⟩
  have logged : Delivered E maxAttempts base
      { w with commits := w.commits ++ [⟨r.consumer, r.finished, record⟩] } := by
    refine ⟨delivered.marked, fun other member => (delivered.runs other member).grow same, ?_,
      delivered.since⟩
    intro c member
    rcases List.mem_append.mp member with old | new
    · exact delivered.commits c old
    · cases List.mem_singleton.mp new
      exact safe
  unfold commitStep
  split
  · exact logged.put ⟨safe, fun is => by cases is⟩
  · exact logged.enter (careful.grow same) (by simp)

end

end Delivered

theorem runStep_delivered (w : World) (index : Nat) (r : Run) (command : Command)
    (delivered : Delivered E maxAttempts base w) (careful : Careful E w r) :
    Delivered E maxAttempts base (runStep E maxAttempts w index r command) := by
  unfold runStep
  split
  · rename_i ready _
    exact delivered.put ⟨careful.finished, fun is => by simp [ready] at is⟩
  · rename_i queue
    exact delivered.process careful queue _ _
  · exact delivered.recordFailure careful _ _ _
  · rename_i queue
    split
    · exact delivered.publish careful queue
    · exact delivered.enter careful (by simp)
  · rename_i settled queue
    exact delivered.commit careful settled queue _
  · exact delivered

theorem step_delivered (w : World) (command : Command)
    (delivered : Delivered E maxAttempts base w) :
    Delivered E maxAttempts base (step E maxAttempts w command) := by
  have worked : ∀ index, Delivered E maxAttempts base (atRun E maxAttempts w index command) := by
    intro index
    unfold atRun
    split
    · exact delivered
    · rename_i r here
      exact runStep_delivered w index r command delivered
        (delivered.runs r (List.mem_of_getElem? here))
  cases command with
  | call consumer message handled =>
    simp only [step, callStep]
    split
    · rename_i st _ h
      obtain ⟨marked, absorbs⟩ := delivered.marked.processTx h
      exact delivered.grow ⟨absorbs, fun _ known => known⟩ marked rfl rfl
    · exact delivered.grow ⟨.refl _, fun _ known => known⟩ delivered.marked rfl rfl
    · exact delivered
  | recordCall index =>
    simp only [step, recordCallStep]
    split
    · exact delivered
    · rename_i failure _
      obtain ⟨marked, absorbs⟩ := commit_preserves _
        (fun st => Marked maxAttempts st ∧ Absorbs w.store st) ⟨delivered.marked, .refl _⟩
        fun _ _ h => delivered.marked.recordFailure h
      exact delivered.grow ⟨absorbs, fun _ known => known⟩ marked rfl rfl
  | join consumer =>
    have same : Grows w (step E maxAttempts w (.join consumer)) :=
      ⟨.refl _, fun _ known => known⟩
    refine ⟨delivered.marked, ?_, delivered.commits, delivered.since⟩
    intro r member
    rcases List.mem_append.mp member with old | new
    · exact (delivered.runs r old).grow same
    · cases List.mem_singleton.mp new
      exact ⟨(fun _ known => by cases known), (fun is => by cases is)⟩
  | poll index => exact worked index
  | process index => exact worked index
  | recordFailure index => exact worked index
  | publish index => exact worked index
  | commitRecords index => exact worked index

theorem empty_delivered (E : Engine) (maxAttempts : Bytes → Int) :
    Delivered E maxAttempts World.empty.store World.empty := by
  refine ⟨⟨.nil, ?_, ?_⟩, ?_, ?_, .refl _⟩ <;> simp [World.empty]

theorem run_delivered (commands : List Command) (delivered : Delivered E maxAttempts base w) :
    Delivered E maxAttempts base (run (step E maxAttempts) w commands) :=
  run_preserves (step E maxAttempts) (Delivered E maxAttempts base) step_delivered commands
    delivered

/-- In every state that deliveries, redeliveries, failures and crashes lead to: an
effect is committed at most once, exactly for the APPLIED rows and never for a POISON
one; APPLIED and POISON rows stay as they are; and when Run commits an offset, the
record and all records it finished before are applied or dead-lettered. -/
theorem deliveries_take_effect_once (E : Engine) (maxAttempts : Bytes → Int)
    (commands : List Command) :
    let w := run (step E maxAttempts) World.empty commands
    w.store.effects.Nodup ∧
    (∀ key, key ∈ w.store.effects ↔
      ∃ row, w.store.inbox.lookup key = some row ∧ row.status = .applied) ∧
    (∀ key row, w.store.inbox.lookup key = some row → row.status = .poison →
      key ∉ w.store.effects) ∧
    (∀ key row, w.store.inbox.lookup key = some row →
      row.status = .applied ∨ row.status = .poison → ∀ later, ∃ kept,
      (run (step E maxAttempts) w later).store.inbox.lookup key = some kept ∧
        kept.status = row.status) ∧
    ∀ c ∈ w.commits, ∀ record ∈ c.before ++ [c.record], Safe E w c.consumer record := by
  intro w
  have delivered : Delivered E maxAttempts World.empty.store w :=
    run_delivered commands (empty_delivered E maxAttempts)
  refine ⟨delivered.marked.distinct, delivered.marked.applied, ?_, ?_, delivered.commits⟩
  · intro key row found poison member
    obtain ⟨other, known, applied⟩ := (delivered.marked.applied key).mp member
    cases found.symm.trans known
    rw [poison] at applied
    cases applied
  · intro key row found final later
    have here : Delivered E maxAttempts w.store w := { delivered with since := .refl _ }
    obtain ⟨kept, known, status, _⟩ := (run_delivered later here).since key row found final
    exact ⟨kept, known, status⟩

end PaymentPlatform.Messaging
