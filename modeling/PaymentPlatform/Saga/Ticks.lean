import PaymentPlatform.Lib.Retry
import PaymentPlatform.Saga.Steps

/-! Tick as its caller sees it: the callback fills a TickResult of the caller, inTx runs it
again after a serialization failure, and the result is returned when an attempt commits. -/

namespace PaymentPlatform.Saga

open Framing Serial Retry

variable {registry : Registry}
variable {u : Unit} {definition : Definition} {saga : Instance} {st : Store} {sagaId : Bytes}
  {ordinal : Nat} {row : InstanceRow} {record : StepRow}

variable {action : ActionResult} {progress waiting : Bool}

/-- The variable result of Tick; its Instance is none until one is assigned. -/
structure Captured where
  saga : Option Instance
  progress : Bool
  waiting : Bool
  deriving DecidableEq

def Captured.zero : Captured := ⟨none, false, false⟩

/-- What an attempt meets: the database, and what the participant will answer it. -/
structure Visit where
  store : Store
  outcome : Outcome

variable {c c' : Conn Captured Visit}

def execute (update : Store → Except Failure Store) : Body Captured Visit Failure Unit :=
  statement fun v => (update v.store).map fun st => ({ v with store := st }, ())

def callExecute (sagaId : Bytes) (ordinal : Nat) : Body Captured Visit Failure ActionResult :=
  statement fun v =>
    match v.outcome with
    | .error e => .error (.action ⟨sagaId, ordinal, false, e.permanent, e.cause⟩)
    | .ok action => .ok ({ v with store := commitEffect (.executed sagaId ordinal) v.store }, action)

def advanceBody (definition : Definition) (saga : Instance) (output : Option Bytes) :
    Body Captured Visit Failure Unit := do
  let next := saga.currentStep + 1
  let finished := next = definition.steps.length
  let status := if finished then Status.completed else Status.running
  let sagaResult := if finished then output else none
  execute (updateInstance saga.id fun row =>
    { row with currentStep := next, status := status, result := sagaResult, lastError := none })
  assign fun r => { r with
    saga := some { saga with
      currentStep := next, status := status, result := sagaResult, version := saga.version + 1 }
    progress := true }

def recordBody (definition : Definition) (saga : Instance) (action : ActionResult) :
    Body Captured Visit Failure Unit := do
  let status := if action.wait then StepStatus.waiting else StepStatus.completed
  execute (updateStep saga.id saga.currentStep fun row =>
    { row with status := status, output := action.output, lastError := none })
  if action.wait then
    -- the result is assigned before the error of this statement is looked at
    assignAfter (execute (updateInstance saga.id id)) fun _ =>
      ⟨some { saga with version := saga.version + 1 }, true, true⟩
  else advanceBody definition saga action.output

def executeBody (definition : Definition) (saga : Instance) : Body Captured Visit Failure Unit := do
  if definition.steps.length ≤ saga.currentStep then
    execute (completeSaga saga.id none)
    assign fun r => { r with saga := some { saga with status := .completed }, progress := true }
  else
    let record ← query fun v => loadStep v.store saga.id saga.currentStep
    if record.status = .waiting then assign fun r => { r with waiting := true }
    else
      check (require (record.status = .pending ∨ record.status = .failed)
        (.currentStepStatus saga.currentStep record.status))
      let action ← callExecute saga.id saga.currentStep
      recordBody definition saga action

def compensateBody (definition : Definition) (saga : Instance) :
    Body Captured Visit Failure Unit := do
  let last ← query fun v => .ok (lastCompensatableStep v.store saga.id)
  match last with
  | none =>
    execute (updateInstance saga.id fun row => { row with status := .compensated })
    assign fun r => { r with
      saga := some { saga with status := .compensated, version := saga.version + 1 }
      progress := true }
  | some ordinal =>
    let step ← check (expect definition.steps[ordinal]? .panicked)
    statement fun v => (callCompensate step saga.id ordinal v.outcome v.store).map fun st =>
      ({ v with store := st }, ())
    execute (updateStep saga.id ordinal fun row =>
      { row with status := .compensated, lastError := none })
    execute (updateInstance saga.id id)
    assign fun r => { r with
      saga := some { saga with version := saga.version + 1 }, progress := true }

def tickBody (registry : Registry) (sagaId : Bytes) : Body Captured Visit Failure Unit := do
  let saga ← query fun v => loadInstance v.store sagaId
  let definition ← check (expect (registry.find saga.definition) .definitionMissing)
  assign fun r => { r with saga := some saga }
  match saga.status with
  | .completed | .compensated | .failed => pure ()
  | .compensating => compensateBody definition saga
  | .running => executeBody definition saga

/-- Tick, up to what it does with the error of an action. -/
def tickCall (retries : Nat) (registry : Registry) (sagaId : Bytes)
    (attempts : List (Attempt Visit)) : Captured × Reply Visit Failure Unit :=
  if sagaId = [] then (.zero, .failed .invalidSaga)
  else runSerializable (tickBody registry sagaId) retries .zero attempts

def Captured.answer (before : Captured) (answer : TickResult) : Captured :=
  ⟨some answer.saga, before.progress || answer.progress, before.waiting || answer.waiting⟩

theorem execute_finished {update : Store → Except Failure Store}
    (done : execute update c = (c', .ok u)) : update c.database.store = .ok c'.database.store ∧
      c'.database.outcome = c.database.outcome ∧ c'.captured = c.captured := by
  simp only [execute, statement_finished] at done
  obtain ⟨_, v, made, rfl⟩ := done
  cases updated : update c.database.store with
  | error => simp [updated, Except.map] at made
  | ok =>
    simp only [updated, Except.map, Except.ok.injEq, Prod.mk.injEq, and_true] at made
    rw [← made]
    exact ⟨rfl, rfl, rfl⟩

theorem advanceBody_finished {output : Option Bytes}
    (done : advanceBody definition saga output c = (c', .ok u)) :
    ∃ answer, advanceInstance definition saga output c.database.store =
        .ok (c'.database.store, answer) ∧ c'.captured = c.captured.answer answer := by
  simp only [advanceBody, bind_finished, assign_finished] at done
  obtain ⟨mid, _, updated, rfl⟩ := done
  obtain ⟨stored, _, kept⟩ := execute_finished updated
  simp only [advanceInstance, stored]
  exact ⟨_, rfl, by simp [Captured.answer, kept]⟩

def afterExecute (definition : Definition) (saga : Instance) (action : ActionResult)
    (st : Store) : Except Failure (Store × TickResult) := do
  let st := commitEffect (.executed saga.id saga.currentStep) st
  let status := if action.wait then StepStatus.waiting else StepStatus.completed
  let st ← updateStep saga.id saga.currentStep (fun row =>
    { row with status := status, output := action.output, lastError := none }) st
  if action.wait then
    let st ← updateInstance saga.id id st
    pure (st, ⟨{ saga with version := saga.version + 1 }, true, true⟩)
  else
    advanceInstance definition saga action.output st

theorem recordBody_finished
    (effect : c.database.store = commitEffect (.executed saga.id saga.currentStep) st)
    (done : recordBody definition saga action c = (c', .ok u)) :
    ∃ answer, afterExecute definition saga action st = .ok (c'.database.store, answer) ∧
      c'.captured = c.captured.answer answer := by
  simp only [recordBody, bind_finished] at done
  obtain ⟨mid, _, updated, done⟩ := done
  obtain ⟨stored, _, kept⟩ := execute_finished updated
  rw [effect] at stored
  simp only [afterExecute, stored]
  split at done
  · rename_i wait
    obtain ⟨last, noted, rfl⟩ := assignAfter_finished.mp done
    obtain ⟨stored', _, _⟩ := execute_finished noted
    refine ⟨⟨{ saga with version := saga.version + 1 }, true, true⟩, ?_, by simp [Captured.answer]⟩
    show (if action.wait = true then _ else _) = _
    rw [if_pos wait, stored']
    rfl
  · rename_i wait
    obtain ⟨answer, made, same⟩ := advanceBody_finished done
    refine ⟨answer, ?_, by rw [same, kept]⟩
    show (if action.wait = true then _ else _) = _
    rw [if_neg wait]
    exact made

theorem callExecute_finished (done : callExecute sagaId ordinal c = (c', .ok action)) :
    c.database.outcome = .ok action ∧
      c'.database.store = commitEffect (.executed sagaId ordinal) c.database.store ∧
      c'.captured = c.captured := by
  simp only [callExecute, statement_finished] at done
  obtain ⟨_, v, made, rfl⟩ := done
  cases answered : c.database.outcome with
  | error => simp [answered] at made
  | ok =>
    simp only [answered, Except.ok.injEq, Prod.mk.injEq] at made
    obtain ⟨rfl, rfl⟩ := made
    exact ⟨rfl, rfl, rfl⟩

theorem executeBody_finished (assigned : c.captured.saga = some saga)
    (done : executeBody definition saga c = (c', .ok u)) :
    ∃ answer, executeOne definition saga c.database.outcome c.database.store =
        .ok (c'.database.store, answer) ∧ c'.captured = c.captured.answer answer := by
  unfold executeBody at done
  unfold executeOne
  split at done
  · rename_i past
    rw [if_pos past]
    simp only [bind_finished, assign_finished] at done
    obtain ⟨mid, _, updated, rfl⟩ := done
    obtain ⟨stored, _, kept⟩ := execute_finished updated
    rw [stored]
    exact ⟨_, rfl, by simp [Captured.answer, kept]⟩
  · rename_i inside
    rw [if_neg inside]
    simp only [bind_finished, query_finished] at done
    obtain ⟨_, record, ⟨_, loaded, rfl⟩, done⟩ := done
    split at done
    · rename_i waiting
      cases assign_finished.mp done
      refine ⟨⟨saga, false, true⟩, ?_, by simp [Captured.answer, assigned]⟩
      simp only [bind_ok]
      refine ⟨record, loaded, ?_⟩
      rw [if_pos waiting]
      rfl
    · rename_i ready
      simp only [bind_finished, check_finished] at done
      obtain ⟨_, _, ⟨checked, rfl⟩, mid, action, acted, done⟩ := done
      obtain ⟨outcome, effect, kept⟩ := callExecute_finished acted
      obtain ⟨answer, made, same⟩ := recordBody_finished effect done
      refine ⟨answer, ?_, by rw [same, kept]⟩
      simp only [bind_ok]
      refine ⟨record, loaded, ?_⟩
      rw [if_neg ready]
      simp only [bind_ok]
      refine ⟨(), checked, ?_⟩
      simp only [show c.database.outcome = _ from outcome]
      exact made

theorem compensateBody_finished (done : compensateBody definition saga c = (c', .ok u)) :
    ∃ answer, compensateOne definition saga c.database.outcome c.database.store =
        .ok (c'.database.store, answer) ∧ c'.captured = c.captured.answer answer := by
  simp only [compensateBody, bind_finished, query_finished, Except.ok.injEq] at done
  obtain ⟨_, last, ⟨_, found, rfl⟩, done⟩ := done
  unfold compensateOne
  rw [show lastCompensatableStep c.database.store saga.id = last from found]
  cases last with
  | none =>
    simp only [bind_finished, assign_finished] at done
    obtain ⟨mid, _, updated, rfl⟩ := done
    obtain ⟨stored, _, kept⟩ := execute_finished updated
    simp only [show updateInstance saga.id _ c.database.store = _ from stored]
    exact ⟨_, rfl, by simp [Captured.answer, kept]⟩
  | some ordinal =>
    simp only [bind_finished, check_finished, statement_finished, expect_ok, assign_finished] at done
    obtain ⟨_, step, ⟨defined, rfl⟩, mid, _, ⟨_, v, called, rfl⟩, first, _, marked, second, _, noted,
      rfl⟩ := done
    obtain ⟨marks, _, kept⟩ := execute_finished marked
    obtain ⟨notes, _, kept'⟩ := execute_finished noted
    cases acted : callCompensate step saga.id ordinal c.database.outcome c.database.store with
    | error => simp [acted, Except.map] at called
    | ok st =>
      simp only [acted, Except.map, Except.ok.injEq, Prod.mk.injEq, and_true] at called
      subst called
      refine ⟨⟨{ saga with version := saga.version + 1 }, true, false⟩, ?_,
        by simp [Captured.answer, kept, kept']⟩
      simp only [bind_ok, expect_ok, pure_ok]
      exact ⟨step, defined, st, acted, _, marks, _, notes, rfl⟩

theorem tick_of_loaded {outcome : Outcome} (named : sagaId ≠ [])
    (loaded : loadInstance st sagaId = .ok saga)
    (defined : registry.find saga.definition = some definition) : tick registry sagaId outcome st =
      match saga.status with
      | .completed | .compensated | .failed => .ok (st, ⟨saga, false, false⟩)
      | .compensating => compensateOne definition saga outcome st
      | .running => executeOne definition saga outcome st := by
  simp only [tick, require, if_pos named, loaded, expect, bind, Except.bind, defined]
  rfl

/-- An attempt that comes to its end did what the transaction of Tick does, and added the
answer to what the variable held. -/
theorem tickBody_finished (named : sagaId ≠ []) (done : tickBody registry sagaId c = (c', .ok u)) :
    ∃ answer, tick registry sagaId c.database.outcome c.database.store =
        .ok (c'.database.store, answer) ∧ c'.captured = c.captured.answer answer := by
  simp only [tickBody, bind_finished, query_finished, check_finished, expect_ok,
    assign_finished] at done
  obtain ⟨_, saga, ⟨_, loaded, rfl⟩, _, definition, ⟨defined, rfl⟩, _, _, rfl, done⟩ := done
  rw [tick_of_loaded named loaded defined]
  cases status : saga.status with
  | compensating =>
    simp only [status] at done
    obtain ⟨answer, made, same⟩ := compensateBody_finished done
    exact ⟨answer, made, same⟩
  | running =>
    simp only [status] at done
    obtain ⟨answer, made, same⟩ := executeBody_finished rfl done
    exact ⟨answer, made, same⟩
  | _ =>
    simp only [status, pure_finished] at done
    obtain ⟨rfl, _⟩ := done
    exact ⟨_, rfl, by simp [Captured.answer]⟩

def StepWaiting (st : Store) (sagaId : Bytes) (ordinal : Nat) : Prop :=
  (st.steps.lookup (sagaId, ordinal)).map StepRow.status = some .waiting
  deriving Decidable

/-- The Instance is the committed row, Progress tells that the row was changed, and Waiting
that its current step is WAITING. -/
def Mirrors (sagaId : Bytes) (before after : Store) (result : Captured) : Prop :=
  ∃ saga row, result.saga = some saga ∧ after.instances.lookup sagaId = some row ∧
    (saga.status = row.status ∧ saga.currentStep = row.currentStep ∧ saga.result = row.result ∧
      saga.version = row.version ∧ saga.lastError = row.lastError.getD []) ∧
    (result.progress = true ↔
      after.instances.lookup sagaId ≠ before.instances.lookup sagaId) ∧
    (result.waiting = true ↔ StepWaiting after sagaId row.currentStep)

def advances : Outcome → Bool
  | .ok action => !action.wait
  | .error _ => false

/-- When the result will mirror the row: a saga behind its last step is never mirrored; one
that advances had no error; flags that aborted attempts left are right by chance; and
Waiting is only looked up for a saga that is RUNNING. -/
def Tidy (definition : Definition) (sagaId : Bytes) (row : InstanceRow) (v : Visit)
    (left : Captured) : Prop :=
  (row.status.Terminal → left.progress = false) ∧
  (row.status ≠ .running → (left.waiting = true ↔ StepWaiting v.store sagaId row.currentStep)) ∧
  (row.status = .running → row.currentStep < definition.steps.length ∧
    if StepWaiting v.store sagaId row.currentStep then left.progress = false
    else advances v.outcome = true → row.lastError.getD [] = [] ∧
      (left.waiting = true ↔ StepWaiting v.store sagaId (row.currentStep + 1)))

instance (definition : Definition) (sagaId : Bytes) (row : InstanceRow) (v : Visit)
    (left : Captured) : Decidable (Tidy definition sagaId row v left) :=
  inferInstanceAs (Decidable (_ ∧ _ ∧ _))

theorem mirrors_written {st' : Store} {before : InstanceRow}
    (found : st.instances.lookup sagaId = some before)
    (written : st'.instances.lookup sagaId = some row) (version : row.version = before.version + 1) :
    Mirrors sagaId st st' ⟨some saga, progress || true, waiting⟩ ↔
      (saga.status = row.status ∧ saga.currentStep = row.currentStep ∧ saga.result = row.result ∧
        saga.version = row.version ∧ saga.lastError = row.lastError.getD []) ∧
      (waiting = true ↔ StepWaiting st' sagaId row.currentStep) := by
  have changed : st'.instances.lookup sagaId ≠ st.instances.lookup sagaId := by
    rw [found, written]
    intro same
    have versions := congrArg InstanceRow.version (Option.some.inj same)
    omega
  constructor
  · rintro ⟨saga', row', named, written', agrees, _, waits⟩
    cases named
    cases written.symm.trans written'
    exact ⟨agrees, waits⟩
  · rintro ⟨agrees, waits⟩
    exact ⟨saga, row, rfl, written, agrees, by simp [changed], waits⟩

theorem mirrors_kept (found : st.instances.lookup sagaId = some row) :
    Mirrors sagaId st st ⟨some (row.loaded sagaId), progress || false, waiting⟩ ↔
      progress = false ∧ (waiting = true ↔ StepWaiting st sagaId row.currentStep) := by
  constructor
  · rintro ⟨saga, row', _, found', _, changes, waits⟩
    cases found.symm.trans found'
    have unset : progress = false := by simpa using changes
    exact ⟨unset, waits⟩
  · rintro ⟨rfl, waits⟩
    exact ⟨_, row, rfl, found, ⟨rfl, rfl, rfl, rfl, rfl⟩, by simp, waits⟩

theorem stepWaiting_put_other {k : Nat} (row : InstanceRow) (different : k ≠ ordinal) :
    StepWaiting ((st.putStep sagaId ordinal record).putInstance sagaId row) sagaId k ↔
      StepWaiting st sagaId k := by
  unfold StepWaiting
  have other : (sagaId, k) ≠ (sagaId, ordinal) := fun same => different (Prod.mk.inj same).2
  rw [show ((st.putStep sagaId ordinal record).putInstance sagaId row).steps.lookup (sagaId, k) =
    st.steps.lookup (sagaId, k) from AList.lookup_insert_ne other]

theorem stepWaiting_put_same (row : InstanceRow) :
    StepWaiting ((st.putStep sagaId ordinal record).putInstance sagaId row) sagaId ordinal ↔
      record.status = .waiting := by
  unfold StepWaiting
  rw [show ((st.putStep sagaId ordinal record).putInstance sagaId row).steps.lookup
    (sagaId, ordinal) = some record from AList.lookup_insert _]
  simp

theorem stepWaiting_found (found : st.steps.lookup (sagaId, ordinal) = some record) :
    StepWaiting st sagaId ordinal ↔ record.status = .waiting := by
  unfold StepWaiting
  rw [found]
  simp

theorem stepWaiting_compensated {k : Nat} {step : Step} (row : InstanceRow)
    (last : lastCompensatableStep st sagaId = some ordinal) :
    StepWaiting (((if step.compensates then commitEffect (.compensated sagaId ordinal) st
      else st).putStep sagaId ordinal { record with
        status := .compensated, lastError := none
        attempts := record.attempts + 1 }).putInstance sagaId row) sagaId k ↔
      StepWaiting st sagaId k := by
  by_cases here : k = ordinal
  · subst here
    obtain ⟨⟨held, present, able⟩, _⟩ := lastCompensatableStep_some last
    rw [stepWaiting_put_same, stepWaiting_found present]
    simp only [reduceCtorEq, false_iff]
    intro waiting
    rw [waiting] at able
    cases able
  · rw [stepWaiting_put_other row here]
    split <;> rfl

theorem Answered.mirrors_iff {v : Visit} {st' : Store} {answer : TickResult} (left : Captured)
    (found : v.store.instances.lookup sagaId = some row)
    (answered : Answered definition sagaId row v.outcome v.store st' answer) :
    Mirrors sagaId v.store st' (left.answer answer) ↔ Tidy definition sagaId row v left := by
  unfold Captured.answer
  cases answered with
  | rest terminal =>
    have stopped : row.status ≠ .running := by
      intro running
      rw [running] at terminal
      rcases terminal with is | is | is <;> cases is
    rw [mirrors_kept found]
    simp [Tidy, terminal, stopped]
  | finish running past =>
    rw [mirrors_written found (AList.lookup_insert _) rfl]
    simp only [Tidy, running, Nat.not_lt_of_le past, false_and, forall_const, and_false, iff_false,
      not_and]
    rintro ⟨_, _, _, version, _⟩
    have same : row.version = row.version + 1 := version
    omega
  | stay record running inside present waiting =>
    have waits := (stepWaiting_found present).mpr waiting
    rw [mirrors_kept found]
    simp [Tidy, Status.Terminal, running, inside, waits]
  | await record action running inside present ready acted wait =>
    have idle : ¬ StepWaiting v.store sagaId row.currentStep := by
      rw [stepWaiting_found present]
      rcases ready with is | is <;> rw [is] <;> exact StepStatus.noConfusion
    rw [mirrors_written found (AList.lookup_insert _) rfl, stepWaiting_put_same]
    simp [Tidy, Status.Terminal, running, inside, idle, acted, advances, wait, InstanceRow.loaded]
  | advance record action running inside present ready acted wait =>
    have idle : ¬ StepWaiting v.store sagaId row.currentStep := by
      rw [stepWaiting_found present]
      rcases ready with is | is <;> rw [is] <;> exact StepStatus.noConfusion
    have later : StepWaiting (commitEffect (.executed sagaId row.currentStep) v.store) sagaId
        (row.currentStep + 1) ↔ StepWaiting v.store sagaId (row.currentStep + 1) := Iff.rfl
    rw [mirrors_written found (AList.lookup_insert _) rfl,
      stepWaiting_put_other _ (Nat.succ_ne_self _), later]
    simp [Tidy, Status.Terminal, running, inside, idle, acted, advances, wait, InstanceRow.loaded]
  | settle compensating =>
    have same : StepWaiting (v.store.putInstance sagaId
        { row with status := .compensated, version := row.version + 1 }) sagaId row.currentStep ↔
        StepWaiting v.store sagaId row.currentStep := Iff.rfl
    rw [mirrors_written found (AList.lookup_insert _) rfl, same]
    simp [Tidy, Status.Terminal, compensating, InstanceRow.loaded]
  | compensate ordinal step record compensating last =>
    rw [mirrors_written found (AList.lookup_insert _) rfl, stepWaiting_compensated _ last]
    simp [Tidy, Status.Terminal, compensating, InstanceRow.loaded]

/-- Progress, or else Waiting. -/
def Captured.flag (progress : Bool) (r : Captured) : Bool := if progress then r.progress else r.waiting

/-- Which flags an attempt sets, and after how many statements but two. The flags of a step
that waits are set before its last statement. -/
def flags (registry : Registry) (sagaId : Bytes) (v : Visit) : Nat × Captured :=
  match loadInstance v.store sagaId with
  | .error _ => (0, .zero)
  | .ok saga =>
    match saga.status with
    | .completed | .compensated | .failed => (0, .zero)
    | .compensating =>
      (if lastCompensatableStep v.store saga.id = none then 1 else 3, ⟨none, true, false⟩)
    | .running =>
      if (registry.find saga.definition).any (·.steps.length ≤ saga.currentStep) then
        (0, ⟨none, true, false⟩)
      else if StepWaiting v.store saga.id saga.currentStep then (0, ⟨none, false, true⟩)
      else if advances v.outcome then (3, ⟨none, true, false⟩) else (2, ⟨none, true, true⟩)

theorem flag_progress (which : Bool) (r : Captured) (saga : Option Instance) :
    Captured.flag which { r with saga := saga, progress := true } = false ↔
      r.flag which = false ∧ Captured.flag which ⟨none, true, false⟩ = false := by
  cases which <;> simp [Captured.flag]

theorem compensateBody_leaves (which : Bool) (c : Conn Captured Visit) :
    Leaves (·.flag which = false)
      ((if lastCompensatableStep c.database.store saga.id = none then 1 else 3) + 1)
      (Captured.flag which ⟨none, true, false⟩ = false) (compensateBody definition saga) c := by
  refine leaves_query fun last read => ?_
  rw [Except.ok.inj read]
  cases last with
  | none => exact leaves_statement fun _ _ _ => leaves_assigned (flag_progress ..)
  | some =>
    exact leaves_check fun _ _ => leaves_statement fun _ _ _ => leaves_statement fun _ _ _ =>
      leaves_statement fun _ _ _ => leaves_assigned (flag_progress ..)

theorem executeBody_leaves (which : Bool) (c : Conn Captured Visit) :
    let left : Nat × Captured :=
      if definition.steps.length ≤ saga.currentStep then (0, ⟨none, true, false⟩)
      else if StepWaiting c.database.store saga.id saga.currentStep then (0, ⟨none, false, true⟩)
      else if advances c.database.outcome then (3, ⟨none, true, false⟩) else (2, ⟨none, true, true⟩)
    Leaves (·.flag which = false) (left.1 + 1) (left.2.flag which = false)
      (executeBody definition saga) c := by
  unfold executeBody
  split
  · exact leaves_statement fun _ _ _ => leaves_assigned (flag_progress ..)
  refine leaves_query fun record loaded => ?_
  simp only [stepWaiting_found (expect_ok.mp loaded)]
  split
  · exact leaves_assigned (by cases which <;> simp [Captured.flag])
  refine leaves_check fun _ _ => ?_
  cases outcome : c.database.outcome with
  | error => exact leaves_statement (n := 1) fun _ _ made => by simp [outcome] at made
  | ok action =>
    obtain ⟨output, wait⟩ := action
    cases wait with
    | false =>
      refine leaves_statement fun _ _ made => ?_
      simp only [outcome] at made
      cases made
      exact leaves_statement fun _ _ _ => leaves_statement fun _ _ _ =>
        leaves_assigned (flag_progress ..)
    | true =>
      refine leaves_statement fun _ _ made => ?_
      simp only [outcome] at made
      cases made
      refine leaves_statement fun _ _ _ => .inr ?_
      cases which <;> simp [assignAfter, Captured.flag, Before, advances]

theorem tickBody_leaves (which : Bool) (c : Conn Captured Visit) :
    Leaves (·.flag which = false) ((flags registry sagaId c.database).1 + 2)
      ((flags registry sagaId c.database).2.flag which = false) (tickBody registry sagaId) c := by
  refine leaves_query fun saga loaded => leaves_check fun definition defined =>
    leaves_assign (by cases which <;> rfl) ?_
  rw [expect_ok] at defined
  simp only [flags, loaded, defined, Option.any_some, decide_eq_true_eq]
  cases saga.status with
  | running => exact executeBody_leaves which _
  | compensating => exact compensateBody_leaves which _
  | _ => exact leaves_kept (by cases which <;> rfl) rfl

theorem flags_carried_iff (which : Bool) {aborted : List (Attempt Visit)}
    (aborts : AllAborted (tickBody registry sagaId) .zero aborted) :
    (carried (tickBody registry sagaId) .zero aborted).flag which = false ↔
      ∀ a ∈ aborted, Before a.fault ((flags registry sagaId a.database).1 + 2) ∨
        (flags registry sagaId a.database).2.flag which = false :=
  carried_iff (P := fun left => left.flag which = false) (fun _ _ => tickBody_leaves which _) aborts
    (by cases which <;> rfl)

/-- Whatever attempts were aborted first, the result that Tick returns mirrors the row that
its last attempt committed exactly when the state it found is tidy. -/
theorem ticks_mirror_committed_row_iff (retries : Nat) (registry : Registry) (sagaId : Bytes)
    (aborted : List (Attempt Visit)) (last : Attempt Visit) (result : Captured) (after : Visit)
    (aborts : AllAborted (tickBody registry sagaId) .zero aborted)
    (returned : tickCall retries registry sagaId (aborted ++ [last]) =
      (result, .committed after ())) :
    Mirrors sagaId last.database.store after.store result ↔
      ∀ row ∈ last.database.store.instances.lookup sagaId,
        ∀ definition ∈ registry.find row.definition,
          Tidy definition sagaId row last.database
            (carried (tickBody registry sagaId) .zero aborted) := by
  unfold tickCall at returned
  split at returned
  · cases returned
  · rename_i named
    obtain ⟨_, finished⟩ := last_finished aborts returned
    obtain ⟨answer, made, rfl⟩ := tickBody_finished named finished
    obtain ⟨row, definition, found, defined, answered⟩ := tick_answered made
    simp only [Attempt.begin] at found answered ⊢
    rw [answered.mirrors_iff _ found]
    constructor
    · intro tidy row' found' definition' defined'
      cases found.symm.trans found'
      cases defined.symm.trans defined'
      exact tidy
    · intro tidy
      exact tidy row found definition defined

def sampleStore (commands : List Command) : Store :=
  (run (step sampleEngine sampleRegistry) World.empty commands).store

def sampleVisit (commands : List Command) (action : ActionResult) (ending : Commit) :
    Attempt Visit :=
  ⟨⟨sampleStore commands, .ok action⟩, none, ending⟩

theorem sample_tick_mirrors_row :
    ∃ result after,
      tickCall 8 sampleRegistry (ascii "s1")
          ([⟨⟨sampleStore [sampleStart], .ok ⟨none, false⟩⟩, some 1, .committed⟩] ++
            [sampleVisit [sampleStart] ⟨some (ascii "out"), false⟩ .committed]) =
        (result, .committed after ()) ∧
      Mirrors (ascii "s1") (sampleStore [sampleStart]) after.store result := by
  have stored : (tickCall 8 sampleRegistry (ascii "s1")
      ([⟨⟨sampleStore [sampleStart], .ok ⟨none, false⟩⟩, some 1, .committed⟩] ++
        [sampleVisit [sampleStart] ⟨some (ascii "out"), false⟩ .committed])).2.stored.isSome := by
    decide +kernel
  obtain ⟨after, _, returned⟩ := returned_of_stored stored
  refine ⟨_, after, returned, ?_⟩
  exact (ticks_mirror_committed_row_iff 8 sampleRegistry (ascii "s1")
    [⟨⟨sampleStore [sampleStart], .ok ⟨none, false⟩⟩, some 1, .committed⟩]
    (sampleVisit [sampleStart] ⟨some (ascii "out"), false⟩ .committed) _ after (by decide +kernel)
    returned).mpr (by decide +kernel)

/- Three results that are not the row: a step that failed before and is done now, a saga
that is closed behind its last step, and a Tick whose first attempt set the flags and was
aborted while another coordinator completed the step. -/

def failedOnce : List Command :=
  [sampleStart, .tick (ascii "s1") (.error ⟨false, ascii "busy"⟩), .recordFailure 0]

def awaitedTwice : List Command :=
  [sampleStart, sampleDone, .tick (ascii "s1") (.ok ⟨none, true⟩),
    .completeWaiting (ascii "s1") 1 none true]

/-- The fields of the result and of the committed row that are compared. -/
def compared (call : Captured × Reply Visit Failure Unit) :
    Option (Int × Bytes) × Option (Int × Bytes) :=
  (call.1.saga.map fun saga => (saga.version, saga.lastError),
    call.2.stored.bind fun after => (after.store.instances.lookup (ascii "s1")).map fun row =>
      (row.version, row.lastError.getD []))

theorem tick_results_differ_from_row :
    compared (tickCall 8 sampleRegistry (ascii "s1")
        [sampleVisit failedOnce ⟨none, false⟩ .committed]) =
      (some (2, ascii "busy"), some (2, [])) ∧
    compared (tickCall 8 sampleRegistry (ascii "s1")
        [sampleVisit awaitedTwice ⟨none, false⟩ .committed]) = (some (3, []), some (4, [])) ∧
    (let call := tickCall 8 sampleRegistry (ascii "s1")
      [sampleVisit [sampleStart] ⟨none, true⟩ .serialization,
        sampleVisit [sampleStart, sampleDone] ⟨none, false⟩ .committed]
    call.1.waiting = true ∧ call.2.stored.map (fun after =>
      decide (StepWaiting after.store (ascii "s1") 2)) = some false) := by
  decide +kernel

end PaymentPlatform.Saga
