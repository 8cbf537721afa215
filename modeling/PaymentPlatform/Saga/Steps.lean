import PaymentPlatform.Saga.Orchestrator

/-! What each saga transaction can do to the rows of its saga. -/

namespace PaymentPlatform.Saga

open Framing Serial

variable {E : Engine} {registry : Registry}
variable {definition : Definition} {sagaId : Bytes} {row : InstanceRow} {outcome : Outcome}
  {st st' : Store} {answer : TickResult} {saga : Instance} {change : InstanceRow → InstanceRow}
  {ordinal : Nat} {failure : ActionFailure}

def Store.putInstance (st : Store) (sagaId : Bytes) (row : InstanceRow) : Store :=
  { st with instances := st.instances.insert sagaId row }

def Store.putStep (st : Store) (sagaId : Bytes) (ordinal : Nat) (row : StepRow) : Store :=
  { st with steps := st.steps.insert (sagaId, ordinal) row }

def InstanceRow.loaded (row : InstanceRow) (sagaId : Bytes) : Instance :=
  { id := sagaId, sagaType := row.sagaType, definition := row.definition, status := row.status
    input := row.input, result := row.result, currentStep := row.currentStep
    version := row.version, lastError := row.lastError.getD [] }

/-- What a committed Tick made of the rows of its saga, with the result it returns. -/
inductive Answered (definition : Definition) (sagaId : Bytes) (row : InstanceRow)
    (outcome : Outcome) (st : Store) : Store → TickResult → Prop
  | rest (terminal : row.status.Terminal) :
      Answered definition sagaId row outcome st st ⟨row.loaded sagaId, false, false⟩
  | finish (running : row.status = .running) (past : definition.steps.length ≤ row.currentStep)
      (fits : row.version < maxInt8) :
      Answered definition sagaId row outcome st
        (st.putInstance sagaId
          { row with status := .completed, result := none, version := row.version + 1 })
        ⟨{ row.loaded sagaId with status := .completed }, true, false⟩
  | stay (record : StepRow) (running : row.status = .running)
      (inside : row.currentStep < definition.steps.length)
      (found : st.steps.lookup (sagaId, row.currentStep) = some record)
      (waiting : record.status = .waiting) :
      Answered definition sagaId row outcome st st ⟨row.loaded sagaId, false, true⟩
  | await (record : StepRow) (action : ActionResult) (running : row.status = .running)
      (inside : row.currentStep < definition.steps.length)
      (found : st.steps.lookup (sagaId, row.currentStep) = some record)
      (ready : record.status = .pending ∨ record.status = .failed)
      (acted : outcome = .ok action) (wait : action.wait = true) :
      Answered definition sagaId row outcome st
        (((commitEffect (.executed sagaId row.currentStep) st).putStep sagaId row.currentStep
          { record with
            status := .waiting, output := action.output, lastError := none
            attempts := record.attempts + 1 }).putInstance sagaId
          { row with version := row.version + 1 })
        ⟨{ row.loaded sagaId with version := row.version + 1 }, true, true⟩
  | advance (record : StepRow) (action : ActionResult) (running : row.status = .running)
      (inside : row.currentStep < definition.steps.length)
      (found : st.steps.lookup (sagaId, row.currentStep) = some record)
      (ready : record.status = .pending ∨ record.status = .failed)
      (acted : outcome = .ok action) (wait : action.wait = false) (status : Status)
      (result : Option Bytes)
      (next : status = if row.currentStep + 1 = definition.steps.length then .completed
        else .running)
      (last : result = if row.currentStep + 1 = definition.steps.length then action.output
        else none) :
      Answered definition sagaId row outcome st
        (((commitEffect (.executed sagaId row.currentStep) st).putStep sagaId row.currentStep
          { record with
            status := .completed, output := action.output, lastError := none
            attempts := record.attempts + 1 }).putInstance sagaId
          { row with
            currentStep := row.currentStep + 1, status := status, result := result
            lastError := none, version := row.version + 1 })
        ⟨{ row.loaded sagaId with
            currentStep := row.currentStep + 1, status := status, result := result
            version := row.version + 1 }, true, false⟩
  | settle (compensating : row.status = .compensating)
      (last : lastCompensatableStep st sagaId = none) :
      Answered definition sagaId row outcome st
        (st.putInstance sagaId { row with status := .compensated, version := row.version + 1 })
        ⟨{ row.loaded sagaId with status := .compensated, version := row.version + 1 }, true, false⟩
  | compensate (ordinal : Nat) (step : Step) (record : StepRow)
      (compensating : row.status = .compensating)
      (last : lastCompensatableStep st sagaId = some ordinal)
      (defined : definition.steps[ordinal]? = some step)
      (found : st.steps.lookup (sagaId, ordinal) = some record) :
      Answered definition sagaId row outcome st
        (((if step.compensates then commitEffect (.compensated sagaId ordinal) st
          else st).putStep sagaId ordinal
          { record with
            status := .compensated, lastError := none, attempts := record.attempts + 1 }).putInstance
          sagaId { row with version := row.version + 1 })
        ⟨{ row.loaded sagaId with version := row.version + 1 }, true, false⟩

theorem loadInstance_ok (h : loadInstance st sagaId = .ok saga) :
    ∃ row, st.instances.lookup sagaId = some row ∧ saga = row.loaded sagaId := by
  simp only [loadInstance, steps_ok] at h
  obtain ⟨row, found, rfl⟩ := h
  exact ⟨row, found, rfl⟩

theorem updateInstance_ok (found : st.instances.lookup sagaId = some row)
    (h : updateInstance sagaId change st = .ok st') :
    st' = st.putInstance sagaId { change row with version := row.version + 1 } := by
  simp only [updateInstance, found, steps_ok] at h
  obtain ⟨_, _, rfl⟩ := h
  rfl

theorem updateInstance_fits (found : st.instances.lookup sagaId = some row)
    (h : updateInstance sagaId change st = .ok st') : row.version < maxInt8 := by
  simp only [updateInstance, found, steps_ok] at h
  obtain ⟨_, fits, _⟩ := h
  exact fits

theorem updateStep_ok {change : StepRow → StepRow}
    (h : updateStep sagaId ordinal change st = .ok st') :
    (st.steps.lookup (sagaId, ordinal) = none ∧ st' = st) ∨
      ∃ row, st.steps.lookup (sagaId, ordinal) = some row ∧
        st' = st.putStep sagaId ordinal { change row with attempts := row.attempts + 1 } := by
  unfold updateStep at h
  split at h
  · rename_i absent
    exact .inl ⟨absent, (pure_ok.mp h).symm⟩
  · rename_i row found
    simp only [steps_ok] at h
    obtain ⟨_, _, rfl⟩ := h
    exact .inr ⟨row, found, rfl⟩

theorem updateStep_found {change : StepRow → StepRow} {row : StepRow}
    (found : st.steps.lookup (sagaId, ordinal) = some row)
    (h : updateStep sagaId ordinal change st = .ok st') :
    st' = st.putStep sagaId ordinal { change row with attempts := row.attempts + 1 } := by
  rcases updateStep_ok h with ⟨absent, _⟩ | ⟨row', found', same⟩
  · rw [found] at absent
    cases absent
  · rw [found] at found'
    cases found'
    exact same

theorem compensatable_mem :
    ordinal ∈ ((st.steps.rows.filter fun e => e.1.1 = sagaId && e.2.status.compensatable).map
      fun e => e.1.2) ↔
      ∃ record, st.steps.lookup (sagaId, ordinal) = some record ∧
        record.status.compensatable = true := by
  simp only [List.mem_map, List.mem_filter, Bool.and_eq_true, decide_eq_true_eq, Prod.exists,
    AList.mem_rows]
  constructor
  · rintro ⟨_, _, record, ⟨found, rfl, able⟩, rfl⟩
    exact ⟨record, found, able⟩
  · rintro ⟨record, found, able⟩
    exact ⟨sagaId, ordinal, record, ⟨found, rfl, able⟩, rfl⟩

theorem lastCompensatableStep_some (h : lastCompensatableStep st sagaId = some ordinal) :
    (∃ record, st.steps.lookup (sagaId, ordinal) = some record ∧
      record.status.compensatable = true) ∧
    ∀ k record, st.steps.lookup (sagaId, k) = some record → record.status.compensatable = true →
      k ≤ ordinal := by
  obtain ⟨member, largest⟩ := List.max?_eq_some_iff.mp h
  refine ⟨compensatable_mem.mp member, ?_⟩
  intro k record found able
  exact largest k (compensatable_mem.mpr ⟨record, found, able⟩)

theorem lastCompensatableStep_none (h : lastCompensatableStep st sagaId = none) {k : Nat}
    {record : StepRow} (found : st.steps.lookup (sagaId, k) = some record) :
    record.status.compensatable = false := by
  by_contra able
  have member := compensatable_mem.mpr ⟨record, found, Bool.eq_true_of_not_eq_false able⟩
  rw [List.max?_eq_none_iff.mp h] at member
  cases member

theorem executeOne_ok (found : st.instances.lookup sagaId = some row)
    (running : row.status = .running)
    (h : executeOne definition (row.loaded sagaId) outcome st = .ok (st', answer)) :
    Answered definition sagaId row outcome st st' answer := by
  unfold executeOne at h
  split at h
  · rename_i past
    simp only [completeSaga, steps_ok] at h
    obtain ⟨mid, updated, rfl, rfl⟩ := h
    rw [updateInstance_ok found updated]
    exact .finish running past (updateInstance_fits found updated)
  · rename_i inside
    have small : row.currentStep < definition.steps.length := Nat.lt_of_not_le inside
    simp only [bind_ok] at h
    obtain ⟨record, loaded, h⟩ := h
    have step : st.steps.lookup (sagaId, row.currentStep) = some record := expect_ok.mp loaded
    split at h
    · rename_i waiting
      simp only [pure_ok, Prod.mk.injEq] at h
      obtain ⟨rfl, rfl⟩ := h
      exact .stay record running small step waiting
    · simp only [steps_ok] at h
      obtain ⟨_, ready, h⟩ := h
      split at h
      · cases h
      · rename_i action
        simp only [bind_ok] at h
        obtain ⟨mid, updated, h⟩ := h
        have ready' : (commitEffect (.executed sagaId row.currentStep) st).steps.lookup
            (sagaId, row.currentStep) = some record := step
        have written := updateStep_found ready' updated
        have kept : mid.instances.lookup sagaId = some row := by
          rw [written]
          exact found
        split at h
        · rename_i wait
          simp only [steps_ok] at h
          obtain ⟨_, advanced, rfl, rfl⟩ := h
          rw [updateInstance_ok kept advanced, written, if_pos wait]
          exact .await record action running small step ready rfl wait
        · rename_i wait
          simp only [advanceInstance, steps_ok] at h
          obtain ⟨_, advanced, rfl, rfl⟩ := h
          rw [updateInstance_ok kept advanced, written, if_neg wait]
          exact .advance record action running small step ready rfl
            (Bool.eq_false_iff.mpr wait) _ _ rfl rfl

theorem compensateOne_ok (found : st.instances.lookup sagaId = some row)
    (compensating : row.status = .compensating)
    (h : compensateOne definition (row.loaded sagaId) outcome st = .ok (st', answer)) :
    Answered definition sagaId row outcome st st' answer := by
  unfold compensateOne at h
  split at h
  · rename_i last
    simp only [steps_ok] at h
    obtain ⟨_, updated, rfl, rfl⟩ := h
    rw [updateInstance_ok found updated]
    exact .settle compensating last
  · rename_i ordinal last
    obtain ⟨⟨record, present, _⟩, _⟩ := lastCompensatableStep_some last
    simp only [steps_ok] at h
    obtain ⟨step, defined, mid, acted, noted, marked, _, advanced, rfl, rfl⟩ := h
    have middle : mid = if step.compensates then
        commitEffect (.compensated sagaId ordinal) st else st := by
      unfold callCompensate at acted
      split at acted
      · rename_i acts
        rw [if_pos acts]
        split at acted
        · cases acted
        · exact (pure_ok.mp acted).symm
      · rename_i acts
        rw [if_neg acts]
        exact (pure_ok.mp acted).symm
    have steps : mid.steps = st.steps := by
      rw [middle]
      split <;> rfl
    have instances : mid.instances = st.instances := by
      rw [middle]
      split <;> rfl
    have written := updateStep_found (steps ▸ present) marked
    have kept : noted.instances.lookup sagaId = some row := by
      rw [written]
      exact instances ▸ found
    rw [updateInstance_ok kept advanced, written, middle]
    exact .compensate ordinal step record compensating last defined present

theorem tick_answered (h : tick registry sagaId outcome st = .ok (st', answer)) :
    ∃ row definition, st.instances.lookup sagaId = some row ∧
      registry.find row.definition = some definition ∧
      Answered definition sagaId row outcome st st' answer := by
  simp only [tick, steps_ok] at h
  obtain ⟨_, _, saga, loaded, definition, defined, h⟩ := h
  obtain ⟨row, found, rfl⟩ := loadInstance_ok loaded
  refine ⟨row, definition, found, defined, ?_⟩
  split at h
  case h_4 is => exact compensateOne_ok found is h
  case h_5 is => exact executeOne_ok found is h
  all_goals
    rename_i terminal
    simp only [pure_ok, Prod.mk.injEq] at h
    obtain ⟨rfl, rfl⟩ := h
    exact .rest (by simp only [Status.Terminal, show row.status = _ from terminal]; simp)

theorem updateInstance_error {e : Failure} (h : updateInstance sagaId change st = .error e) :
    e = .database := by
  unfold updateInstance at h
  split at h
  · exact absurd h pure_error
  · simp only [bind_error, require_error, pure_error, and_false, exists_false, or_false] at h
    exact h.2.symm

theorem updateStep_error {change : StepRow → StepRow} {e : Failure}
    (h : updateStep sagaId ordinal change st = .error e) : e = .database := by
  unfold updateStep at h
  split at h
  · exact absurd h pure_error
  · simp only [bind_error, require_error, pure_error, and_false, exists_false, or_false] at h
    exact h.2.symm

theorem executeOne_failed (h : executeOne definition saga outcome st = .error (.action failure)) :
    failure.sagaId = saga.id ∧ failure.compensation = false ∧
      failure.ordinal = saga.currentStep := by
  unfold executeOne at h
  split at h
  · simp only [completeSaga, bind_error, pure_error, and_false, exists_false, or_false] at h
    cases updateInstance_error h
  · simp only [loadStep, bind_error, expect_error, reduceCtorEq, and_false, false_or] at h
    obtain ⟨record, _, h⟩ := h
    split at h
    · exact absurd h pure_error
    · simp only [bind_error, require_error, reduceCtorEq, and_false, false_or] at h
      obtain ⟨_, _, h⟩ := h
      split at h
      · cases h
        exact ⟨rfl, rfl, rfl⟩
      · simp only [bind_error] at h
        rcases h with h | ⟨mid, _, h⟩
        · cases updateStep_error h
        · split at h
          · simp only [bind_error, pure_error, and_false, exists_false, or_false] at h
            cases updateInstance_error h
          · simp only [advanceInstance, bind_error, pure_error, and_false, exists_false,
              or_false] at h
            cases updateInstance_error h

theorem compensateOne_failed
    (h : compensateOne definition saga outcome st = .error (.action failure)) :
    failure.sagaId = saga.id ∧ failure.compensation = true ∧ failure.permanent = false := by
  unfold compensateOne at h
  split at h
  · simp only [bind_error, pure_error, and_false, exists_false, or_false] at h
    cases updateInstance_error h
  · simp only [bind_error, expect_error, pure_error, reduceCtorEq, and_false, exists_false,
      or_false, false_or] at h
    obtain ⟨step, _, h | ⟨_, _, h | ⟨_, _, h⟩⟩⟩ := h
    · unfold callCompensate at h
      split at h
      · split at h
        · cases h
          exact ⟨rfl, rfl, rfl⟩
        · exact absurd h pure_error
      · exact absurd h pure_error
    · cases updateStep_error h
    · cases updateInstance_error h

theorem tick_failed (h : tick registry sagaId outcome st = .error (.action failure)) :
    failure.sagaId = sagaId ∧ ∃ row, st.instances.lookup sagaId = some row ∧
      (failure.compensation = false → failure.ordinal = row.currentStep) := by
  simp only [tick, loadInstance, bind_error, steps_ok, require_error, expect_error, pure_error,
    reduceCtorEq, and_false, exists_false, or_false, false_or] at h
  obtain ⟨_, _, saga, ⟨row, found, rfl⟩, definition, _, h⟩ := h
  split at h
  case h_4 =>
    obtain ⟨same, compensation, _⟩ := compensateOne_failed h
    exact ⟨same, row, found, fun is => absurd (is.symm.trans compensation) (by decide)⟩
  case h_5 =>
    obtain ⟨same, _, ordinal⟩ := executeOne_failed h
    exact ⟨same, row, found, fun _ => ordinal⟩
  all_goals exact absurd h pure_error

theorem recordActionFailure_ok (h : recordActionFailure E failure st = .ok (st', saga)) :
    ∃ row status mid text, st.instances.lookup failure.sagaId = some row ∧
      status = (if failure.permanent ∧ failure.compensation = false then .compensating
        else row.status) ∧
      ((st.steps.lookup (failure.sagaId, failure.ordinal) = none ∧ mid = st) ∨
        ∃ record, st.steps.lookup (failure.sagaId, failure.ordinal) = some record ∧
          mid = st.putStep failure.sagaId failure.ordinal { record with
              status := if failure.compensation then .compensationFailed else .failed
              lastError := some text, attempts := record.attempts + 1 }) ∧
      st' = mid.putInstance failure.sagaId
        { row with status := status, lastError := some text, version := row.version + 1 } := by
  simp only [recordActionFailure, loadInstance, steps_ok] at h
  obtain ⟨_, ⟨row, found, rfl⟩, _, _, mid, marked, _, updated, rfl, _⟩ := h
  have steps := updateStep_ok marked
  have kept : mid.instances.lookup failure.sagaId = some row := by
    rcases steps with ⟨_, rfl⟩ | ⟨record, _, rfl⟩
    · exact found
    · exact found
  exact ⟨row, _, mid, _, found, rfl, steps, updateInstance_ok kept updated⟩

theorem completeWaitingInTx_ok {output : Option Bytes} {applied : Bool}
    (h : completeWaitingInTx sagaId ordinal output applied st = .ok (st', ())) :
    st' = st ∨ ∃ row record, st.instances.lookup sagaId = some row ∧
      st.steps.lookup (sagaId, ordinal) = some record ∧ record.status = .waiting ∧
      row.currentStep = ordinal ∧ row.status = .running ∧ st' = (st.putStep sagaId ordinal
        { record with status := .completed, output := output, lastError := none }).putInstance sagaId
        { row with currentStep := row.currentStep + 1, version := row.version + 1 } := by
  simp only [completeWaitingInTx, loadInstance, loadStep, steps_ok] at h
  obtain ⟨_, _, _, ⟨row, found, rfl⟩, record, present, h⟩ := h
  split at h
  · exact .inl (congrArg Prod.fst (pure_ok.mp h)).symm
  · simp only [steps_ok] at h
    obtain ⟨_, ⟨waiting, current, running⟩, _, _, _, updated, rfl, _⟩ := h
    have kept : (st.putStep sagaId ordinal
        { record with status := .completed, output := output, lastError := none }).instances.lookup
          sagaId = some row := found
    exact .inr ⟨row, record, found, present, waiting, current, running,
      updateInstance_ok kept updated⟩

/-- The rows that Start inserts, one pending step for every ordinal. -/
structure StepsInserted (sagaId : Bytes) (first count : Nat) (st st' : Store) : Prop where
  instances : st'.instances = st.instances
  effects : st'.effects = st.effects
  pending : ∀ k, first ≤ k → k < first + count →
    ∃ record, st'.steps.lookup (sagaId, k) = some record ∧ record.status = .pending
  others : ∀ id k, ¬ (id = sagaId ∧ first ≤ k ∧ k < first + count) →
    st'.steps.lookup (id, k) = st.steps.lookup (id, k)

theorem insertSteps_ok {steps : List Step} {first : Nat}
    (h : insertSteps E sagaId first steps st = .ok st') :
    StepsInserted sagaId first steps.length st st' := by
  induction steps generalizing first st with
  | nil =>
    cases pure_ok.mp h
    exact ⟨rfl, rfl, fun k low high => absurd high (by simp; omega), fun _ _ _ => rfl⟩
  | cons step rest ih =>
    simp only [insertSteps, insertStep, steps_ok] at h
    obtain ⟨_, ⟨_, _, _, _, _, _, rfl⟩, h⟩ := h
    have tail := ih h
    refine ⟨tail.instances, tail.effects, ?_, ?_⟩
    · intro k low high
      rw [List.length_cons] at high
      by_cases here : k = first
      · subst here
        rw [tail.others sagaId k (by omega), AList.lookup_insert]
        exact ⟨_, rfl, rfl⟩
      · exact tail.pending k (by omega) (by omega)
    · intro id k outside
      rw [List.length_cons] at outside
      have other : (id, k) ≠ (sagaId, first) := by
        intro same
        cases same
        exact outside ⟨rfl, by omega, by omega⟩
      rw [tail.others id k (fun inside => outside ⟨inside.1, by omega, by omega⟩)]
      exact AList.lookup_insert_ne other

theorem start_ok {sagaType definitionName input : Bytes}
    (h : start E registry sagaId sagaType definitionName input st = .ok (st', saga)) :
    st' = st ∨ ∃ definition row, registry.find definitionName = some definition ∧
      st.instances.lookup sagaId = none ∧ row.definition = definitionName ∧
      row.status = .running ∧ row.currentStep = 0 ∧
      StepsInserted sagaId 0 definition.steps.length (st.putInstance sagaId row) st' := by
  simp only [start, steps_ok] at h
  obtain ⟨definition, defined, _, _, h⟩ := h
  split at h
  · simp only [steps_ok] at h
    obtain ⟨_, _, _, _, rfl, _⟩ := h
    exact .inl rfl
  · rename_i absent
    simp only [steps_ok] at h
    obtain ⟨_, _, _, inserted, _, _, rfl, _⟩ := h
    exact .inr ⟨definition, _, defined, absent, rfl, rfl, rfl, insertSteps_ok inserted⟩

end PaymentPlatform.Saga
