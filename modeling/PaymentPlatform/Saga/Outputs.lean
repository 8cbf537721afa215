import PaymentPlatform.Saga.Compensation

/-! The result of a completed saga is the output of its last step, unless that step was
completed from outside and a later Tick only closes the saga. -/

namespace PaymentPlatform.Saga

open Framing Serial

variable {E : Engine} {registry : Registry}
variable {definition : Definition} {st st' : Store} {sagaId : Bytes} {row : InstanceRow}
  {ordinal : Nat} {saga : Instance}

variable {failure : ActionFailure} {applied : Bool} {definitionName input sagaType : Bytes}
variable {output : Option Bytes} {outcome : Outcome}

def ResultIsLast (registry : Registry) (st : Store) (sagaId : Bytes) (row : InstanceRow) : Prop :=
  ∃ definition record, registry.find row.definition = some definition ∧
    st.steps.lookup (sagaId, definition.steps.length - 1) = some record ∧
    row.result = record.output

def ResultsMatch (registry : Registry) (st : Store) : Prop :=
  ∀ sagaId row, st.instances.lookup sagaId = some row → row.status = .completed →
    ResultIsLast registry st sagaId row

/-- A Tick does not find the saga RUNNING behind a last step that has an output: the step
was not completed through CompleteWaitingInTx, or it gave no output. -/
def Prompt (registry : Registry) (w : World) : Command → Prop
  | .tick sagaId _ => sagaId ≠ [] → ∀ row, w.store.instances.lookup sagaId = some row →
      row.status = .running → row.version < maxInt8 →
      ∀ definition, registry.find row.definition = some definition →
        definition.steps.length ≤ row.currentStep →
        ∀ record, w.store.steps.lookup (sagaId, definition.steps.length - 1) = some record →
          record.output = none
  | _ => True

/-- Every saga has its definition and a row for each of its steps. -/
def Furnished (registry : Registry) (st : Store) : Prop :=
  ∀ sagaId row, st.instances.lookup sagaId = some row →
    ∃ definition, registry.find row.definition = some definition ∧
      ∀ k < definition.steps.length, ∃ record, st.steps.lookup (sagaId, k) = some record

theorem find_steps {name : Bytes} (found : registry.find name = some definition) :
    0 < definition.steps.length := by
  have valid := registry.valid definition (List.mem_of_find?_eq_some found)
  exact List.length_pos_iff.mpr valid.2.1

theorem Furnished.last (furnished : Furnished registry st)
    (found : st.instances.lookup sagaId = some row)
    (defined : registry.find row.definition = some definition) :
    ∃ record, st.steps.lookup (sagaId, definition.steps.length - 1) = some record := by
  obtain ⟨other, known, present⟩ := furnished sagaId row found
  cases defined.symm.trans known
  exact present _ (Nat.sub_lt (find_steps defined) Nat.one_pos)

theorem Furnished.put (furnished : Furnished registry st)
    (others : ∀ id, id ≠ sagaId → SameSaga id st st')
    (here : ∀ row, st'.instances.lookup sagaId = some row →
      ∃ definition, registry.find row.definition = some definition ∧
        ∀ k < definition.steps.length, ∃ record, st'.steps.lookup (sagaId, k) = some record) :
    Furnished registry st' := by
  intro id row found
  by_cases same : id = sagaId
  · subst same
    exact here row found
  · have kept := others id same
    obtain ⟨definition, defined, present⟩ := furnished id row (kept.row.symm.trans found)
    refine ⟨definition, defined, fun k inside => ?_⟩
    rw [kept.steps]
    exact present k inside

theorem ResultsMatch.put (matching : ResultsMatch registry st)
    (others : ∀ id, id ≠ sagaId → SameSaga id st st')
    (found : st'.instances.lookup sagaId = some row) : ResultsMatch registry st' ↔
      (row.status = .completed → ResultIsLast registry st' sagaId row) := by
  constructor
  · intro all completed
    exact all sagaId row found completed
  · intro here id other known completed
    by_cases same : id = sagaId
    · subst same
      cases found.symm.trans known
      exact here completed
    · have kept := others id same
      obtain ⟨definition, record, defined, last, result⟩ :=
        matching id other (kept.row.symm.trans known) completed
      exact ⟨definition, record, defined, (kept.steps _).trans last, result⟩

theorem present_putStep {count : Nat} {written : StepRow}
    (present : ∀ k < count, ∃ record, st.steps.lookup (sagaId, k) = some record) :
    ∀ k < count, ∃ record,
      (st.putStep sagaId ordinal written).steps.lookup (sagaId, k) = some record := by
  intro k inside
  show ∃ record, (st.steps.insert (sagaId, ordinal) written).lookup (sagaId, k) = some record
  rw [AList.lookup_insert_if]
  split
  · exact ⟨written, rfl⟩
  · exact present k inside

section

variable (furnished : Furnished registry st)
include furnished

theorem Furnished.start
    (h : start E registry sagaId sagaType definitionName input st = .ok (st', saga)) :
    Furnished registry st' := by
  rcases start_ok h with rfl | ⟨definition, row, defined, _, rfl, _, _, inserted⟩
  · exact furnished
  · refine furnished.put (start_others inserted) ?_
    intro row' found
    rw [inserted.instances] at found
    cases (AList.lookup_insert _).symm.trans found
    refine ⟨definition, defined, fun k inside => ?_⟩
    obtain ⟨record, present, _⟩ := inserted.pending k (Nat.zero_le k) (by omega)
    exact ⟨record, present⟩

theorem Furnished.rewrite {mid : Store} {row' : InstanceRow}
    (found : st.instances.lookup sagaId = some row) (same : row'.definition = row.definition)
    (steps : mid.steps = st.steps ∨ ∃ ordinal written,
      mid.steps = (st.putStep sagaId ordinal written).steps)
    (others : ∀ id, id ≠ sagaId → SameSaga id st (mid.putInstance sagaId row')) :
    Furnished registry (mid.putInstance sagaId row') := by
  refine furnished.put others ?_
  intro row'' found'
  cases (AList.lookup_insert _).symm.trans found'
  obtain ⟨definition, defined, present⟩ := furnished sagaId row found
  refine ⟨definition, same ▸ defined, ?_⟩
  show ∀ k < _, ∃ record, mid.steps.lookup (sagaId, k) = some record
  rcases steps with steps | ⟨ordinal, written, steps⟩
  · rw [steps]
    exact present
  · rw [steps]
    exact present_putStep present

theorem Furnished.tick {answer : TickResult}
    (h : Saga.tick registry sagaId outcome st = .ok (st', answer)) : Furnished registry st' := by
  obtain ⟨row, definition, found, _, answered⟩ := tick_answered h
  have others := fun id (different : id ≠ sagaId) => answered.same different
  cases answered with
  | rest => exact furnished
  | stay => exact furnished
  | finish => exact furnished.rewrite found rfl (.inl rfl) others
  | await => exact furnished.rewrite found rfl (.inr ⟨_, _, rfl⟩) others
  | advance => exact furnished.rewrite found rfl (.inr ⟨_, _, rfl⟩) others
  | settle => exact furnished.rewrite found rfl (.inl rfl) others
  | compensate ordinal step record =>
    refine furnished.rewrite found rfl (.inr ⟨ordinal, { record with
      status := .compensated, lastError := none, attempts := record.attempts + 1 }, ?_⟩) others
    split <;> rfl

theorem Furnished.completeWaiting
    (h : completeWaitingInTx sagaId ordinal output applied st = .ok (st', ())) :
    Furnished registry st' := by
  rcases completeWaitingInTx_ok h with rfl | ⟨row, record, found, _, _, _, _, rfl⟩
  · exact furnished
  · exact furnished.rewrite found rfl (.inr ⟨_, _, rfl⟩) putRows_others

theorem Furnished.recordFailure
    (h : recordActionFailure E failure st = .ok (st', saga)) : Furnished registry st' := by
  obtain ⟨row, status, mid, text, found, _, ⟨_, rfl⟩ | ⟨record, _, rfl⟩, rfl⟩ :=
    recordActionFailure_ok h
  · exact furnished.rewrite found rfl (.inl rfl) fun id different => .putInstance different _ _
  · exact furnished.rewrite found rfl (.inr ⟨_, _, rfl⟩) putRows_others

end

theorem step_furnished (w : World) (command : Command) (furnished : Furnished registry w.store) :
    Furnished registry (step E registry w command).store := by
  cases command with
  | start => exact commit_preserves _ (Furnished registry) furnished fun _ _ h => furnished.start h
  | tick sagaId outcome =>
    simp only [step, tickStep]
    split
    · rename_i h
      exact furnished.tick h
    · exact furnished
    · exact furnished
  | recordFailure =>
    simp only [step, recordStep]
    split
    · exact furnished
    · exact commit_preserves _ (Furnished registry) furnished fun _ _ h => furnished.recordFailure h
  | completeWaiting =>
    exact commit_preserves _ (Furnished registry) furnished fun _ _ h => furnished.completeWaiting h

theorem ResultsMatch.start (matching : ResultsMatch registry st)
    (h : start E registry sagaId sagaType definitionName input st = .ok (st', saga)) :
    ResultsMatch registry st' := by
  rcases start_ok h with rfl | ⟨definition, row, _, _, _, running, _, inserted⟩
  · exact matching
  · have found : st'.instances.lookup sagaId = some row := by
      rw [inserted.instances]
      exact AList.lookup_insert _
    apply (matching.put (start_others inserted) found).mpr
    intro completed
    rw [running] at completed
    cases completed

theorem ResultsMatch.completeWaiting (matching : ResultsMatch registry st)
    (h : completeWaitingInTx sagaId ordinal output applied st = .ok (st', ())) :
    ResultsMatch registry st' := by
  rcases completeWaitingInTx_ok h with rfl | ⟨row, record, _, _, _, _, running, rfl⟩
  · exact matching
  · apply (matching.put putRows_others (AList.lookup_insert _)).mpr
    intro completed
    cases running.symm.trans completed

theorem ResultsMatch.recordFailure (matching : ResultsMatch registry st)
    (h : recordActionFailure E failure st = .ok (st', saga)) : ResultsMatch registry st' := by
  obtain ⟨row, status, mid, text, found, named, marked, rfl⟩ := recordActionFailure_ok h
  have kept : status = .completed → ResultIsLast registry st failure.sagaId row := by
    intro completed
    apply matching failure.sagaId row found
    rw [named] at completed
    split at completed
    · cases completed
    · exact completed
  rcases marked with ⟨_, rfl⟩ | ⟨record, present, rfl⟩
  · apply (matching.put (fun id different => .putInstance different _ _)
      (AList.lookup_insert _)).mpr
    exact kept
  · apply (matching.put putRows_others (AList.lookup_insert _)).mpr
    intro completed
    obtain ⟨definition, last, defined, known, result⟩ := kept completed
    have rewritten : ∃ record', ((st.putStep failure.sagaId failure.ordinal
        { record with
          status := if failure.compensation then .compensationFailed else .failed
          lastError := some text, attempts := record.attempts + 1 }).steps.lookup
            (failure.sagaId, definition.steps.length - 1)) = some record' ∧
        record'.output = last.output := by
      show ∃ record', (st.steps.insert (failure.sagaId, failure.ordinal) _).lookup _ = _ ∧ _
      rw [AList.lookup_insert_if]
      split
      · rename_i here
        rw [here] at known
        cases present.symm.trans known
        exact ⟨_, rfl, rfl⟩
      · exact ⟨last, known, rfl⟩
    obtain ⟨record', stored, output⟩ := rewritten
    exact ⟨definition, record', defined, stored, result.trans output.symm⟩

theorem ResultsMatch.tick_iff {w : World} (furnished : Furnished registry w.store)
    (matching : ResultsMatch registry w.store) {answer : TickResult}
    (h : Saga.tick registry sagaId outcome w.store = .ok (st', answer)) :
    ResultsMatch registry st' ↔ Prompt registry w (.tick sagaId outcome) := by
  obtain ⟨row, definition, found, defined, answered⟩ := tick_answered h
  have named : sagaId ≠ [] := by
    simp only [Saga.tick, steps_ok] at h
    exact h.choose_spec.1
  have others := fun id (different : id ≠ sagaId) => answered.same different
  -- a saga that is not RUNNING behind its last step is met promptly
  have prompt : (row.status = .running → row.currentStep < definition.steps.length) →
      Prompt registry w (.tick sagaId outcome) := by
    intro inside _ row' found' running _ definition' defined' past
    cases found.symm.trans found'
    cases defined.symm.trans defined'
    exact absurd (inside running) (Nat.not_lt_of_le past)
  cases answered with
  | rest terminal =>
    refine iff_of_true matching (prompt fun running => ?_)
    rw [running] at terminal
    rcases terminal with is | is | is <;> cases is
  | finish running past fits =>
    obtain ⟨record, last⟩ := furnished.last found defined
    rw [matching.put others (AList.lookup_insert _)]
    constructor
    · intro matched _ row' found' _ _ definition' defined' _ record' last'
      cases found.symm.trans found'
      cases defined.symm.trans defined'
      cases last.symm.trans last'
      obtain ⟨other, stored, defined', known, result⟩ := matched rfl
      cases defined.symm.trans defined'
      cases last.symm.trans known
      exact result.symm
    · intro prompt _
      exact ⟨definition, record, defined, last,
        (prompt named row found running fits definition defined past record last).symm⟩
  | stay record running inside => exact iff_of_true matching (prompt fun _ => inside)
  | await record action running inside =>
    refine iff_of_true ?_ (prompt fun _ => inside)
    apply (matching.put others (AList.lookup_insert _)).mpr
    intro completed
    cases running.symm.trans completed
  | advance record action running inside present ready acted wait status result next last =>
    refine iff_of_true ?_ (prompt fun _ => inside)
    apply (matching.put others (AList.lookup_insert _)).mpr
    intro completed
    have final : row.currentStep + 1 = definition.steps.length := by
      by_contra more
      rw [show status = _ from next, if_neg more] at completed
      cases completed
    refine ⟨definition, { record with
      status := .completed, output := action.output, lastError := none
      attempts := record.attempts + 1 }, defined, ?_, ?_⟩
    · rw [← final]
      exact AList.lookup_insert _
    · rw [show result = _ from last, if_pos final]
  | settle compensating =>
    refine iff_of_true ?_ (prompt fun running => ?_)
    · apply (matching.put others (AList.lookup_insert _)).mpr
      nofun
    · cases compensating.symm.trans running
  | compensate ordinal step record compensating =>
    refine iff_of_true ?_ (prompt fun running => ?_)
    · apply (matching.put others (AList.lookup_insert _)).mpr
      intro completed
      cases compensating.symm.trans completed
    · cases compensating.symm.trans running

theorem tick_closes (named : sagaId ≠ []) (found : st.instances.lookup sagaId = some row)
    (running : row.status = .running) (fits : row.version < maxInt8)
    (defined : registry.find row.definition = some definition)
    (past : definition.steps.length ≤ row.currentStep) (outcome : Outcome) :
    ∃ answered, tick registry sagaId outcome st = .ok answered := by
  have loaded : loadInstance st sagaId = .ok (row.loaded sagaId) := by
    simp only [loadInstance, bind_ok, expect_ok, pure_ok]
    exact ⟨row, found, rfl⟩
  refine ⟨(st.putInstance sagaId
    { row with status := .completed, result := none, version := row.version + 1 },
    ⟨{ row.loaded sagaId with status := .completed }, true, false⟩), ?_⟩
  simp only [tick, bind_ok, require_ok, expect_ok]
  refine ⟨(), named, _, loaded, definition, defined, ?_⟩
  simp only [InstanceRow.loaded, running, executeOne, if_pos past, completeSaga, updateInstance,
    found, bind_ok, require_ok, pure_ok]
  exact ⟨_, ⟨(), fits, rfl⟩, rfl⟩

theorem step_matches_iff (w : World) (command : Command) (furnished : Furnished registry w.store)
    (matching : ResultsMatch registry w.store) :
    ResultsMatch registry (step E registry w command).store ↔ Prompt registry w command := by
  cases command with
  | start =>
    exact iff_of_true
      (commit_preserves _ (ResultsMatch registry) matching fun _ _ h => matching.start h) trivial
  | tick sagaId outcome =>
    simp only [step, tickStep]
    cases h : tick registry sagaId outcome w.store with
    | ok => exact matching.tick_iff furnished h
    | error failure =>
      have prompt : Prompt registry w (.tick sagaId outcome) := by
        intro named row found running fits definition defined past
        obtain ⟨answered, closed⟩ := tick_closes named found running fits defined past outcome
        cases h.symm.trans closed
      refine iff_of_true ?_ prompt
      cases failure <;> exact matching
  | recordFailure =>
    refine iff_of_true ?_ trivial
    simp only [step, recordStep]
    split
    · exact matching
    · exact commit_preserves _ (ResultsMatch registry) matching fun _ _ h =>
        matching.recordFailure h
  | completeWaiting =>
    exact iff_of_true
      (commit_preserves _ (ResultsMatch registry) matching fun _ _ h => matching.completeWaiting h)
      trivial

/-- In a run every completed saga stores the output of its last step at all times exactly
when every Tick of the run is prompt. -/
theorem completed_results_are_last_outputs_iff (E : Engine) (registry : Registry)
    (commands : List Command) :
    Along (step E registry) (fun w c => ResultsMatch registry (step E registry w c).store)
        World.empty commands ↔
      Along (step E registry) (Prompt registry) World.empty commands := by
  refine along_iff (step E registry)
    (fun w => Furnished registry w.store ∧ ResultsMatch registry w.store)
    (fun w c inv _ => step_matches_iff w c inv.1 inv.2) ?_ commands ?_
    (along_true (step E registry) commands World.empty)
  · intro w c inv _ prompt
    exact ⟨step_furnished w c inv.1, (step_matches_iff w c inv.1 inv.2).mpr prompt⟩
  · exact ⟨fun _ _ found => by simp [World.empty] at found,
      fun _ _ found => by simp [World.empty] at found⟩

/- The last step of a saga waits and is completed from outside with an output; the Tick
that closes the saga stores no result. -/
def awaitedRun : List Command :=
  [sampleStart, sampleDone, .tick (ascii "s1") (.ok ⟨none, true⟩),
    .completeWaiting (ascii "s1") 1 (some (ascii "receipt")) true,
    .tick (ascii "s1") (.ok ⟨none, false⟩)]

theorem awaited_output_is_lost :
    let st := (run (step sampleEngine sampleRegistry) World.empty awaitedRun).store
    (st.instances.lookup (ascii "s1")).map (fun row => (row.status, row.result)) =
        some (.completed, none) ∧
      (st.steps.lookup (ascii "s1", 1)).map (fun record => (record.status, record.output)) =
        some (.completed, some (ascii "receipt")) := by
  decide +kernel

end PaymentPlatform.Saga
