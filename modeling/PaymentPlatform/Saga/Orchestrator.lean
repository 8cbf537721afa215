import PaymentPlatform.Ledger.Types

/-! internal/saga: the durable rows of a saga (migration 003), the transactions of
the Orchestrator over them, and coordinators that interleave. A participant's
Execute and Compensate run inside the Tick transaction; their outcome is an input
of the step, and what they wrote is an effect that commits or rolls back with it.
Timestamps are left out: nothing reads them. -/

namespace PaymentPlatform.Saga

open Framing Serial

inductive Status where
  | running
  | compensating
  | completed
  | compensated
  | failed
  deriving DecidableEq, Repr

inductive StepStatus where
  | pending
  | waiting
  | completed
  | failed
  | compensated
  | compensationFailed
  deriving DecidableEq, Repr

def Status.Terminal (status : Status) : Prop :=
  status = .completed ∨ status = .compensated ∨ status = .failed
  deriving Decidable

structure InstanceRow where
  sagaType : Bytes
  definition : Bytes
  status : Status
  input : Bytes
  result : Option Bytes
  currentStep : Nat
  version : Int
  lastError : Option Bytes
  deriving DecidableEq

structure StepRow where
  name : Bytes
  effectId : Bytes
  status : StepStatus
  attempts : Int
  output : Option Bytes
  lastError : Option Bytes
  deriving DecidableEq

/-- A mutation of a participant, by the step whose action made it. -/
inductive Effect where
  | executed (sagaId : Bytes) (ordinal : Nat)
  | compensated (sagaId : Bytes) (ordinal : Nat)
  deriving DecidableEq

/-- saga_instances, saga_steps and the committed effects in commit order. -/
structure Store where
  instances : Table Bytes InstanceRow
  steps : Table (Bytes × Nat) StepRow
  effects : List Effect
  deriving DecidableEq

/-- A step of a definition; Compensate may be nil, Execute may not. -/
structure Step where
  name : Bytes
  compensates : Bool
  deriving DecidableEq

structure Definition where
  name : Bytes
  steps : List Step
  deriving DecidableEq

def Definition.Valid (d : Definition) : Prop :=
  d.name ≠ [] ∧ d.steps ≠ [] ∧ (∀ step ∈ d.steps, step.name ≠ []) ∧ (d.steps.map Step.name).Nodup
  deriving Decidable

/-- What New accepts: valid definitions of distinct names. -/
structure Registry where
  definitions : List Definition
  valid : ∀ d ∈ definitions, d.Valid
  distinct : (definitions.map Definition.name).Nodup

def Registry.find (registry : Registry) (name : Bytes) : Option Definition :=
  registry.definitions.find? (fun d => d.name = name)

structure ActionResult where
  output : Option Bytes
  wait : Bool
  deriving DecidableEq

structure ActionError where
  permanent : Bool
  cause : Bytes
  deriving DecidableEq

/-- What a participant's Execute or Compensate returns. -/
abbrev Outcome := Except ActionError ActionResult

structure ActionFailure where
  sagaId : Bytes
  ordinal : Nat
  compensation : Bool
  permanent : Bool
  cause : Bytes
  deriving DecidableEq

inductive Failure where
  | invalidSaga
  | definitionMissing
  | definitionConflict
  | notWaiting
  | noRows
  | currentStepStatus (ordinal : Nat) (status : StepStatus)
  | panicked
  | database
  | apply
  | action (failure : ActionFailure)
  deriving DecidableEq

structure Instance where
  id : Bytes
  sagaType : Bytes
  definition : Bytes
  status : Status
  input : Bytes
  result : Option Bytes
  currentStep : Nat
  version : Int
  lastError : Bytes
  deriving DecidableEq

structure TickResult where
  saga : Instance
  progress : Bool
  waiting : Bool
  deriving DecidableEq

def loadInstance (st : Store) (sagaId : Bytes) : Except Failure Instance := do
  let row ← expect (st.instances.lookup sagaId) .noRows
  pure
    { id := sagaId, sagaType := row.sagaType, definition := row.definition, status := row.status
      input := row.input, result := row.result, currentStep := row.currentStep
      version := row.version, lastError := row.lastError.getD [] }

def loadStep (st : Store) (sagaId : Bytes) (ordinal : Nat) : Except Failure StepRow :=
  expect (st.steps.lookup (sagaId, ordinal)) .noRows

/-- UPDATE saga_instances … version=version+1 WHERE saga_id: INT8 arithmetic raises
on overflow, a missing row is no error. -/
def updateInstance (sagaId : Bytes) (change : InstanceRow → InstanceRow) (st : Store) :
    Except Failure Store :=
  match st.instances.lookup sagaId with
  | none => pure st
  | some row => do
    require (row.version < maxInt8) .database
    pure { st with instances :=
      st.instances.insert sagaId { change row with version := row.version + 1 } }

/-- UPDATE saga_steps … attempts=attempts+1 WHERE saga_id AND ordinal. -/
def updateStep (sagaId : Bytes) (ordinal : Nat) (change : StepRow → StepRow) (st : Store) :
    Except Failure Store :=
  match st.steps.lookup (sagaId, ordinal) with
  | none => pure st
  | some row => do
    require (row.attempts < maxInt8) .database
    pure { st with steps :=
      st.steps.insert (sagaId, ordinal) { change row with attempts := row.attempts + 1 } }

def commitEffect (effect : Effect) (st : Store) : Store :=
  { st with effects := st.effects ++ [effect] }

/-- fmt.Sprintf("saga/%s/step/%d/%s", sagaID, ordinal, step.Name). -/
def effectIdFor (sagaId : Bytes) (ordinal : Nat) (name : Bytes) : Bytes :=
  ascii "saga/" ++ sagaId ++ ascii "/step/" ++ decimal ordinal ++ ascii "/" ++ name

def insertStep (E : Engine) (sagaId : Bytes) (ordinal : Nat) (step : Step) (st : Store) :
    Except Failure Store := do
  let effectId := effectIdFor sagaId ordinal step.name
  require (E.acceptsText step.name = true ∧ E.acceptsText effectId = true) .database
  require (st.steps.lookup (sagaId, ordinal) = none) .database
  require (∀ e ∈ st.steps.rows, e.2.effectId ≠ effectId) .database
  let row : StepRow :=
    { name := step.name, effectId := effectId, status := .pending, attempts := 0, output := none
      lastError := none }
  pure { st with steps := st.steps.insert (sagaId, ordinal) row }

def insertSteps (E : Engine) (sagaId : Bytes) : Nat → List Step → Store → Except Failure Store
  | _, [], st => pure st
  | ordinal, step :: rest, st => do
    let st ← insertStep E sagaId ordinal step st
    insertSteps E sagaId (ordinal + 1) rest st

/-- Start: idempotent on the saga id. -/
def start (E : Engine) (registry : Registry) (sagaId sagaType definitionName input : Bytes)
    (st : Store) : Except Failure (Store × Instance) := do
  let definition ← expect (registry.find definitionName) .invalidSaga
  require (sagaId ≠ [] ∧ sagaType ≠ [] ∧ input ≠ []) .invalidSaga
  match st.instances.lookup sagaId with
  | some existing =>
    require (existing.sagaType = sagaType ∧ existing.definition = definitionName ∧
      existing.input = input) .definitionConflict
    pure (st, ← loadInstance st sagaId)
  | none =>
    require (∀ text ∈ [sagaId, sagaType, definitionName], E.acceptsText text = true) .database
    let row : InstanceRow :=
      { sagaType := sagaType, definition := definitionName, status := .running, input := input
        result := none, currentStep := 0, version := 0, lastError := none }
    let st := { st with instances := st.instances.insert sagaId row }
    let st ← insertSteps E sagaId 0 definition.steps st
    pure (st, ← loadInstance st sagaId)

def completeSaga (sagaId : Bytes) (output : Option Bytes) (st : Store) : Except Failure Store :=
  updateInstance sagaId (fun row => { row with status := .completed, result := output }) st

def advanceInstance (definition : Definition) (saga : Instance) (output : Option Bytes)
    (st : Store) : Except Failure (Store × TickResult) := do
  let next := saga.currentStep + 1
  let finished := next = definition.steps.length
  let status := if finished then Status.completed else Status.running
  let sagaResult := if finished then output else none
  let st ← updateInstance saga.id (fun row =>
    { row with currentStep := next, status := status, result := sagaResult, lastError := none }) st
  pure (st, ⟨{ saga with
    currentStep := next, status := status, result := sagaResult, version := saga.version + 1 },
    true, false⟩)

def executeOne (definition : Definition) (saga : Instance) (outcome : Outcome) (st : Store) :
    Except Failure (Store × TickResult) := do
  if definition.steps.length ≤ saga.currentStep then
    let st ← completeSaga saga.id none st
    pure (st, ⟨{ saga with status := .completed }, true, false⟩)
  else
    let record ← loadStep st saga.id saga.currentStep
    if record.status = .waiting then
      pure (st, ⟨saga, false, true⟩)
    else
      require (record.status = .pending ∨ record.status = .failed)
        (.currentStepStatus saga.currentStep record.status)
      match outcome with
      | .error e => .error (.action ⟨saga.id, saga.currentStep, false, e.permanent, e.cause⟩)
      | .ok action =>
        let st := commitEffect (.executed saga.id saga.currentStep) st
        let status := if action.wait then StepStatus.waiting else StepStatus.completed
        let st ← updateStep saga.id saga.currentStep (fun row =>
          { row with status := status, output := action.output, lastError := none }) st
        if action.wait then
          let st ← updateInstance saga.id id st
          pure (st, ⟨{ saga with version := saga.version + 1 }, true, true⟩)
        else
          advanceInstance definition saga action.output st

def StepStatus.compensatable (status : StepStatus) : Bool :=
  status == .completed || status == .compensationFailed

/-- ORDER BY ordinal DESC LIMIT 1 over the COMPLETED and COMPENSATION_FAILED steps. -/
def lastCompensatableStep (st : Store) (sagaId : Bytes) : Option Nat :=
  ((st.steps.rows.filter fun e => e.1.1 = sagaId && e.2.status.compensatable).map
    fun e => e.1.2).max?

def callCompensate (step : Step) (sagaId : Bytes) (ordinal : Nat) (outcome : Outcome)
    (st : Store) : Except Failure Store :=
  if step.compensates then
    match outcome with
    | .error e => .error (.action ⟨sagaId, ordinal, true, false, e.cause⟩)
    | .ok _ => pure (commitEffect (.compensated sagaId ordinal) st)
  else pure st

def compensateOne (definition : Definition) (saga : Instance) (outcome : Outcome) (st : Store) :
    Except Failure (Store × TickResult) :=
  match lastCompensatableStep st saga.id with
  | none => do
    let st ← updateInstance saga.id (fun row => { row with status := .compensated }) st
    pure (st, ⟨{ saga with status := .compensated, version := saga.version + 1 }, true, false⟩)
  | some ordinal => do
    let step ← expect definition.steps[ordinal]? .panicked
    let st ← callCompensate step saga.id ordinal outcome st
    let st ← updateStep saga.id ordinal (fun row =>
      { row with status := .compensated, lastError := none }) st
    let st ← updateInstance saga.id id st
    pure (st, ⟨{ saga with version := saga.version + 1 }, true, false⟩)

def tick (registry : Registry) (sagaId : Bytes) (outcome : Outcome) (st : Store) :
    Except Failure (Store × TickResult) := do
  require (sagaId ≠ []) .invalidSaga
  let saga ← loadInstance st sagaId
  let definition ← expect (registry.find saga.definition) .definitionMissing
  match saga.status with
  | .completed | .compensated | .failed => pure (st, ⟨saga, false, false⟩)
  | .compensating => compensateOne definition saga outcome st
  | .running => executeOne definition saga outcome st

/-- CompleteWaitingInTx; the caller's apply may raise. -/
def completeWaitingInTx (sagaId : Bytes) (ordinal : Nat) (output : Option Bytes) (applied : Bool)
    (st : Store) : Except Failure (Store × Unit) := do
  require (sagaId ≠ []) .invalidSaga
  let saga ← loadInstance st sagaId
  let record ← loadStep st sagaId ordinal
  if record.status = .completed ∨ record.status = .compensated then
    pure (st, ())
  else
    require (record.status = .waiting ∧ saga.currentStep = ordinal ∧ saga.status = .running)
      .notWaiting
    require (applied = true) .apply
    -- attempts stay as they are, unlike in the updates of Tick
    let record := { record with status := .completed, output := output, lastError := none }
    let st := { st with steps := st.steps.insert (sagaId, ordinal) record }
    let st ← updateInstance sagaId (fun row =>
      { row with currentStep := row.currentStep + 1 }) st
    pure (st, ())

def truncate (value : Bytes) : Bytes := value.take 2048

/-- recordActionFailure: written in a transaction of its own, whatever the rows have
become since the action failed. -/
def recordActionFailure (E : Engine) (failure : ActionFailure) (st : Store) :
    Except Failure (Store × Instance) := do
  let saga ← loadInstance st failure.sagaId
  let stepStatus := if failure.compensation then StepStatus.compensationFailed else .failed
  let text := truncate failure.cause
  require (E.acceptsText text = true) .database
  let st ← updateStep failure.sagaId failure.ordinal (fun row =>
    { row with status := stepStatus, lastError := some text }) st
  let newStatus :=
    if failure.permanent ∧ failure.compensation = false then Status.compensating else saga.status
  let st ← updateInstance failure.sagaId (fun row =>
    { row with status := newStatus, lastError := some text }) st
  pure (st, { saga with status := newStatus, version := saga.version + 1, lastError := text })

/- Any number of coordinators share the database. A failed action's transaction has
rolled back; its failure stays in the coordinator's memory until that coordinator
records it, or for ever if it crashes. -/

structure World where
  store : Store
  failures : List ActionFailure
  deriving DecidableEq

inductive Command where
  | start (sagaId sagaType definitionName input : Bytes)
  | tick (sagaId : Bytes) (outcome : Outcome)
  | recordFailure (coordinator : Nat)
  | completeWaiting (sagaId : Bytes) (ordinal : Nat) (output : Option Bytes) (applied : Bool)

def tickStep (registry : Registry) (sagaId : Bytes) (outcome : Outcome) (w : World) : World :=
  match tick registry sagaId outcome w.store with
  | .ok (st, _) => { w with store := st }
  | .error (.action failure) => { w with failures := w.failures ++ [failure] }
  | .error _ => w

def recordStep (E : Engine) (coordinator : Nat) (w : World) : World :=
  match w.failures[coordinator]? with
  | none => w
  | some failure =>
    ⟨commit (recordActionFailure E failure) w.store, w.failures.eraseIdx coordinator⟩

def step (E : Engine) (registry : Registry) (w : World) : Command → World
  | .start sagaId sagaType definitionName input =>
    { w with store := commit (start E registry sagaId sagaType definitionName input) w.store }
  | .tick sagaId outcome => tickStep registry sagaId outcome w
  | .recordFailure coordinator => recordStep E coordinator w
  | .completeWaiting sagaId ordinal output applied =>
    { w with store := commit (completeWaitingInTx sagaId ordinal output applied) w.store }

def World.empty : World := ⟨⟨∅, ∅, []⟩, []⟩

def sampleRegistry : Registry where
  definitions := [⟨ascii "payout", [⟨ascii "debit", true⟩, ⟨ascii "credit", true⟩]⟩]
  valid := by decide
  distinct := by decide

def sampleStart : Command := .start (ascii "s1") (ascii "payout") (ascii "payout") (ascii "in")

def sampleDone : Command := .tick (ascii "s1") (.ok ⟨some (ascii "out"), false⟩)

def sampleDeclined : Command := .tick (ascii "s1") (.error ⟨true, ascii "declined"⟩)

/- One coordinator's Execute of the first step fails for good and rolls back; before
it records that, another one executes both steps and completes the saga. -/
def staleFailureRun : List Command := [sampleStart, sampleDeclined, sampleDone, sampleDone]

end PaymentPlatform.Saga
