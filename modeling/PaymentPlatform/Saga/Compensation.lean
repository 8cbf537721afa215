import PaymentPlatform.Saga.Steps

/-! Compensation undoes exactly the executed steps, last one first, in every run in
which a recorded failure finds its step as the failed action found it. -/

namespace PaymentPlatform.Saga

open Framing Serial

variable {E : Engine} {registry : Registry}
variable {k ordinal : Nat} {record record' : StepRow} {row' : InstanceRow} {failure : ActionFailure}
variable {sagaId : Bytes} {definition : Definition} {saga : Instance} {outcome : Outcome}
variable {st st' : Store}

/-- A failure of Execute is recorded while its step is still to be executed, one of
Compensate while its step is still to be compensated. -/
def Undisturbed (w : World) : Command → Prop
  | .recordFailure coordinator =>
    ∀ failure ∈ w.failures[coordinator]?,
      ∀ record ∈ w.store.steps.lookup (failure.sagaId, failure.ordinal),
        if failure.compensation then record.status.compensatable = true
        else record.status = .pending ∨ record.status = .failed
  | _ => True

instance (w : World) : ∀ command, Decidable (Undisturbed w command)
  | .recordFailure coordinator =>
    inferInstanceAs (Decidable (∀ failure ∈ w.failures[coordinator]?,
      ∀ record ∈ w.store.steps.lookup (failure.sagaId, failure.ordinal),
        if failure.compensation then record.status.compensatable = true
        else record.status = .pending ∨ record.status = .failed))
  | .start .. | .tick .. | .completeWaiting .. => isTrue trivial

def compensatedSteps (sagaId : Bytes) (effects : List Effect) : List Nat :=
  effects.filterMap fun
    | .compensated id k => if id = sagaId then some k else none
    | .executed .. => none

@[simp] theorem compensatedSteps_append (sagaId : Bytes) (first second : List Effect) :
    compensatedSteps sagaId (first ++ second) =
      compensatedSteps sagaId first ++ compensatedSteps sagaId second := by
  simp [compensatedSteps]

@[simp] theorem compensatedSteps_executed (sagaId id : Bytes) (k : Nat) :
    compensatedSteps sagaId [.executed id k] = [] := rfl

theorem compensatedSteps_compensated (sagaId id : Bytes) (k : Nat) :
    compensatedSteps sagaId [.compensated id k] = if id = sagaId then [k] else [] := by
  by_cases same : id = sagaId <;> simp [compensatedSteps, same]

theorem mem_compensatedSteps {effects : List Effect} :
    k ∈ compensatedSteps sagaId effects ↔ .compensated sagaId k ∈ effects := by
  simp only [compensatedSteps, List.mem_filterMap]
  constructor
  · rintro ⟨effect, member, named⟩
    cases effect with
    | executed => cases named
    | compensated =>
      simp only [Option.ite_none_right_eq_some, Option.some.injEq] at named
      obtain ⟨rfl, rfl⟩ := named
      exact member
  · intro member
    exact ⟨_, member, by simp⟩

theorem count_compensatedSteps (sagaId : Bytes) (effects : List Effect) (k : Nat) :
    effects.count (.compensated sagaId k) = (compensatedSteps sagaId effects).count k := by
  induction effects with
  | nil => rfl
  | cons effect rest ih =>
    rw [← List.singleton_append, List.count_append, compensatedSteps_append, List.count_append, ih]
    congr 1
    cases effect with
    | executed => simp
    | compensated id =>
      rw [compensatedSteps_compensated]
      by_cases same : id = sagaId <;> simp [List.count_singleton, same]

/-- What a step of the saga may be when `undone` steps are left to compensate. -/
def Expected (row : InstanceRow) (undone k : Nat) (status : StepStatus) : Prop :=
  if k < undone then status.compensatable = true
  else if k < row.currentStep then status = .compensated
  else status = .pending ∨ status = .failed ∨
    (status = .waiting ∧ k = row.currentStep ∧ row.status = .running)

def Definition.compensates (definition : Definition) (k : Nat) : Bool :=
  (definition.steps[k]?).any Step.compensates

structure Progress (definition : Definition) (sagaId : Bytes) (row : InstanceRow) (st : Store)
    (undone : Nat) : Prop where
  present : ∀ k, k < definition.steps.length → ∃ record, st.steps.lookup (sagaId, k) = some record
  absent : ∀ k record, st.steps.lookup (sagaId, k) = some record → k < definition.steps.length
  low : undone ≤ row.currentStep
  high : row.currentStep ≤ definition.steps.length
  status : ∀ k record, st.steps.lookup (sagaId, k) = some record →
    Expected row undone k record.status
  running : row.status = .running → undone = row.currentStep
  compensated : row.status = .compensated → undone = 0
  executed : ∀ k, .executed sagaId k ∈ st.effects ↔ k < row.currentStep ∨
    ∃ record, st.steps.lookup (sagaId, k) = some record ∧ record.status = .waiting
  order : compensatedSteps sagaId st.effects =
    ((List.range' undone (row.currentStep - undone)).reverse).filter definition.compensates

structure SameSaga (sagaId : Bytes) (st st' : Store) : Prop where
  row : st'.instances.lookup sagaId = st.instances.lookup sagaId
  steps : ∀ k, st'.steps.lookup (sagaId, k) = st.steps.lookup (sagaId, k)
  executed : ∀ k, .executed sagaId k ∈ st'.effects ↔ .executed sagaId k ∈ st.effects
  compensated : compensatedSteps sagaId st'.effects = compensatedSteps sagaId st.effects

theorem Progress.of_same {row : InstanceRow}
    {undone : Nat} (progress : Progress definition sagaId row st undone)
    (same : SameSaga sagaId st st') : Progress definition sagaId row st' undone where
  present k inside := by
    rw [same.steps]
    exact progress.present k inside
  absent k record found := progress.absent k record ((same.steps k).symm.trans found)
  low := progress.low
  high := progress.high
  status k record found := progress.status k record ((same.steps k).symm.trans found)
  running := progress.running
  compensated := progress.compensated
  executed k := by
    rw [same.executed, progress.executed, same.steps]
  order := same.compensated.trans progress.order

namespace SameSaga

variable {sagaId other : Bytes} {st st' st'' : Store}

theorem refl (sagaId : Bytes) (st : Store) : SameSaga sagaId st st :=
  ⟨rfl, fun _ => rfl, fun _ => Iff.rfl, rfl⟩

theorem trans (first : SameSaga sagaId st st') (second : SameSaga sagaId st' st'') :
    SameSaga sagaId st st'' :=
  ⟨second.row.trans first.row, fun k => (second.steps k).trans (first.steps k),
    fun k => (second.executed k).trans (first.executed k),
    second.compensated.trans first.compensated⟩

theorem putInstance (different : sagaId ≠ other) (st : Store) (row : InstanceRow) :
    SameSaga sagaId st (st.putInstance other row) :=
  ⟨AList.lookup_insert_ne different, fun _ => rfl, fun _ => Iff.rfl, rfl⟩

theorem putStep (different : sagaId ≠ other) (st : Store) (ordinal : Nat) (row : StepRow) :
    SameSaga sagaId st (st.putStep other ordinal row) := by
  refine ⟨rfl, ?_, fun _ => Iff.rfl, rfl⟩
  intro k
  apply AList.lookup_insert_ne
  intro same
  exact different (congrArg Prod.fst same)

theorem executedEffect (different : sagaId ≠ other) (st : Store) (ordinal : Nat) :
    SameSaga sagaId st (commitEffect (.executed other ordinal) st) := by
  refine ⟨rfl, fun _ => rfl, ?_, ?_⟩
  · intro k
    simp [commitEffect, different]
  · simp [commitEffect]

theorem compensatedEffect (different : sagaId ≠ other) (st : Store) (ordinal : Nat) :
    SameSaga sagaId st (commitEffect (.compensated other ordinal) st) := by
  refine ⟨rfl, fun _ => rfl, ?_, ?_⟩
  · intro k
    simp [commitEffect]
  · simp [commitEffect, compensatedSteps_compensated, different.symm]

end SameSaga

theorem putRows_others {row : InstanceRow} (id : Bytes) (different : id ≠ sagaId) :
    SameSaga id st ((st.putStep sagaId ordinal record).putInstance sagaId row) :=
  (SameSaga.putStep different _ _ _).trans (.putInstance different _ _)

theorem Answered.same {id : Bytes} {row : InstanceRow} {answer : TickResult}
    (answered : Answered definition sagaId row outcome st st' answer) (different : id ≠ sagaId) :
    SameSaga id st st' := by
  cases answered with
  | rest => exact .refl id st
  | stay => exact .refl id st
  | finish => exact .putInstance different _ _
  | await => exact (SameSaga.executedEffect different _ _).trans (putRows_others id different)
  | advance => exact (SameSaga.executedEffect different _ _).trans (putRows_others id different)
  | settle => exact .putInstance different _ _
  | compensate =>
    refine SameSaga.trans ?_ (putRows_others id different)
    split
    · exact .compensatedEffect different _ _
    · exact .refl id st

theorem start_others {row : InstanceRow} {count : Nat}
    (inserted : StepsInserted sagaId 0 count (st.putInstance sagaId row) st') (id : Bytes)
    (different : id ≠ sagaId) : SameSaga id st st' := by
  refine (SameSaga.putInstance different st row).trans ⟨?_, ?_, ?_, ?_⟩
  · rw [inserted.instances]
  · intro k
    exact inserted.others id k (fun inside => different inside.1)
  · intro k
    rw [inserted.effects]
  · rw [inserted.effects]

namespace Progress

variable {definition : Definition} {sagaId : Bytes} {row : InstanceRow} {st : Store} {undone : Nat}
  (progress : Progress definition sagaId row st undone)
include progress

theorem rewrite {undone' : Nat} (found : st.steps.lookup (sagaId, ordinal) = some record)
    (steps : st'.steps = st.steps.insert (sagaId, ordinal) record')
    (low : undone' ≤ row'.currentStep) (high : row'.currentStep ≤ definition.steps.length)
    (running : row'.status = .running → undone' = row'.currentStep)
    (compensated : row'.status = .compensated → undone' = 0)
    (hit : Expected row' undone' ordinal record'.status)
    (rest : ∀ k status, k ≠ ordinal → Expected row undone k status → Expected row' undone' k status)
    (executed : ∀ k, .executed sagaId k ∈ st'.effects ↔ k < row'.currentStep ∨
      ∃ record, st'.steps.lookup (sagaId, k) = some record ∧ record.status = .waiting)
    (order : compensatedSteps sagaId st'.effects =
      ((List.range' undone' (row'.currentStep - undone')).reverse).filter definition.compensates) :
    Progress definition sagaId row' st' undone' := by
  have at_ordinal : st'.steps.lookup (sagaId, ordinal) = some record' := by
    rw [steps, AList.lookup_insert]
  have elsewhere : ∀ k, k ≠ ordinal →
      st'.steps.lookup (sagaId, k) = st.steps.lookup (sagaId, k) := by
    intro k other
    rw [steps]
    apply AList.lookup_insert_ne
    simpa using other
  refine ⟨?_, ?_, low, high, ?_, running, compensated, executed, order⟩
  · intro k inside
    by_cases here : k = ordinal
    · exact ⟨record', here ▸ at_ordinal⟩
    · rw [elsewhere k here]
      exact progress.present k inside
  · intro k other known
    by_cases here : k = ordinal
    · exact progress.absent k record (here ▸ found)
    · exact progress.absent k other ((elsewhere k here).symm.trans known)
  · intro k other known
    by_cases here : k = ordinal
    · subst here
      rw [at_ordinal] at known
      cases known
      exact hit
    · exact rest k _ here (progress.status k other ((elsewhere k here).symm.trans known))

theorem relabel (steps : st'.steps = st.steps) (effects : st'.effects = st.effects)
    (current : row'.currentStep = row.currentStep)
    (running : row'.status = .running → undone = row'.currentStep)
    (compensated : row'.status = .compensated → undone = 0)
    (status : ∀ k record, st.steps.lookup (sagaId, k) = some record →
      Expected row' undone k record.status) : Progress definition sagaId row' st' undone := by
  refine ⟨steps ▸ progress.present, steps ▸ progress.absent, ?_, ?_, steps ▸ status, running,
    compensated, ?_, ?_⟩
  · exact current ▸ progress.low
  · exact current ▸ progress.high
  · rw [current, steps, effects]
    exact progress.executed
  · rw [current, effects]
    exact progress.order

section

variable (found : st.steps.lookup (sagaId, k) = some record)
include found

theorem waiting_at (waiting : record.status = .waiting) :
    k = row.currentStep ∧ row.status = .running := by
  have expected := progress.status k record found
  rw [waiting] at expected
  unfold Expected at expected
  split at expected
  · cases expected
  · split at expected
    · cases expected
    · simpa using expected

theorem ready_at
    (ready : record.status = .pending ∨ record.status = .failed) : row.currentStep ≤ k := by
  have expected := progress.status k record found
  by_contra before
  unfold Expected at expected
  rw [if_pos (Nat.lt_of_not_le before)] at expected
  rcases ready with is | is <;> rw [is] at expected <;> split at expected <;> cases expected

theorem compensatable_at : record.status.compensatable = true ↔ k < undone := by
  have expected := progress.status k record found
  unfold Expected at expected
  constructor
  · intro able
    by_contra beyond
    rw [if_neg beyond] at expected
    split at expected
    · rw [expected] at able
      cases able
    · rcases expected with is | is | ⟨is, _⟩ <;> rw [is] at able <;> cases able
  · intro inside
    rwa [if_pos inside] at expected

end

end Progress

theorem waiting_insert {steps : Table (Bytes × Nat) StepRow} :
    (∃ record, (steps.insert (sagaId, ordinal) record').lookup (sagaId, k) = some record ∧
      record.status = .waiting) ↔ (k = ordinal ∧ record'.status = .waiting) ∨
      (k ≠ ordinal ∧ ∃ record, steps.lookup (sagaId, k) = some record ∧
        record.status = .waiting) := by
  by_cases here : k = ordinal
  · subst here
    simp
  · have other : (sagaId, k) ≠ (sagaId, ordinal) := by simpa using here
    simp [AList.lookup_insert_ne other, here]

namespace Progress

variable {definition : Definition} {sagaId : Bytes} {row : InstanceRow} {st : Store} {undone : Nat}

theorem expected_of_label {row : InstanceRow} {undone : Nat} {status : StepStatus}
    (expected : Expected row undone k status) (current : row'.currentStep = row.currentStep)
    (label : status = .waiting → row.status = .running → row'.status = .running) :
    Expected row' undone k status := by
  unfold Expected at expected ⊢
  rw [current]
  split
  · rwa [if_pos ‹_›] at expected
  · rw [if_neg ‹_›] at expected
    split
    · rwa [if_pos ‹_›] at expected
    · rw [if_neg ‹_›] at expected
      rcases expected with is | is | ⟨is, here, running⟩
      · exact .inl is
      · exact .inr (.inl is)
      · exact .inr (.inr ⟨is, here, label is running⟩)

variable (progress : Progress definition sagaId row st undone)
include progress

theorem finished
    (past : definition.steps.length ≤ row.currentStep) (result : Option Bytes) (version : Int) :
    Progress definition sagaId { row with status := .completed, result := result, version := version }
      (st.putInstance sagaId
        { row with status := .completed, result := result, version := version }) undone := by
  refine progress.relabel rfl rfl rfl (fun is => by cases is) (fun is => by cases is) ?_
  intro k record found
  have expected := progress.status k record found
  have inside := progress.absent k record found
  unfold Expected at expected ⊢
  rw [if_pos (Nat.lt_of_lt_of_le inside past)] at expected
  simp only [if_pos (Nat.lt_of_lt_of_le inside past)]
  exact expected

theorem awaited (found : st.steps.lookup (sagaId, row.currentStep) = some record)
    (running : row.status = .running) (output lastError : Option Bytes) (attempts version : Int) :
    Progress definition sagaId { row with version := version }
      (((commitEffect (.executed sagaId row.currentStep) st).putStep sagaId row.currentStep
        { record with
          status := .waiting, output := output, lastError := lastError
          attempts := attempts }).putInstance sagaId { row with version := version }) undone := by
  refine progress.rewrite found rfl progress.low progress.high progress.running
    progress.compensated ?_ (fun k status _ expected => expected) ?_ ?_
  · unfold Expected
    rw [if_neg (by rw [progress.running running]; exact Nat.lt_irrefl _),
      if_neg (Nat.lt_irrefl _)]
    exact .inr (.inr ⟨rfl, rfl, running⟩)
  · intro k
    simp only [Store.putInstance, Store.putStep, commitEffect, waiting_insert, List.mem_append,
      progress.executed, List.mem_singleton, Effect.executed.injEq, true_and]
    by_cases here : k = row.currentStep <;> simp [here]
  · simp only [Store.putInstance, Store.putStep, commitEffect, compensatedSteps_append,
      compensatedSteps_executed, List.append_nil]
    exact progress.order

theorem executedNext (found : st.steps.lookup (sagaId, row.currentStep) = some record)
    (running : row.status = .running) (inside : row.currentStep < definition.steps.length)
    (current : row'.currentStep = row.currentStep + 1) (notCompensated : row'.status ≠ .compensated)
    (completed : record'.status = .completed)
    (steps : st'.steps = st.steps.insert (sagaId, row.currentStep) record')
    (executed : ∀ k, .executed sagaId k ∈ st'.effects ↔
      .executed sagaId k ∈ st.effects ∨ k = row.currentStep)
    (order : compensatedSteps sagaId st'.effects = compensatedSteps sagaId st.effects) :
    Progress definition sagaId row' st' (row.currentStep + 1) := by
  have all := progress.running running
  refine progress.rewrite found steps (by omega) (by omega) (fun _ => current.symm)
    (fun is => absurd is notCompensated) ?_ ?_ ?_ ?_
  · unfold Expected
    rw [if_pos (Nat.lt_succ_self _), completed]
    rfl
  · intro k status other expected
    unfold Expected at expected ⊢
    rw [current]
    by_cases before : k < row.currentStep
    · rw [if_pos (by omega)] at expected
      rwa [if_pos (by omega)]
    · rw [if_neg (by omega), if_neg before] at expected
      rw [if_neg (by omega), if_neg (by omega)]
      rcases expected with is | is | ⟨_, here, _⟩
      · exact .inl is
      · exact .inr (.inl is)
      · exact absurd here other
  · intro k
    rw [executed, progress.executed, steps, waiting_insert, current, completed]
    constructor
    · rintro ((before | ⟨record, present, waiting⟩) | here)
      · exact .inl (by omega)
      · have here := (progress.waiting_at present waiting).1
        exact .inl (by omega)
      · exact .inl (by omega)
    · rintro (before | ⟨_, waiting⟩ | ⟨_, waiting⟩)
      · by_cases here : k = row.currentStep
        · exact .inr here
        · exact .inl (.inl (by omega))
      · cases waiting
      · exact .inl (.inr waiting)
  · rw [order, progress.order, all, current]
    simp

theorem undone_zero (last : lastCompensatableStep st sagaId = none) : undone = 0 := by
  by_contra positive
  obtain ⟨record, found⟩ := progress.present 0
    (by have := progress.low; have := progress.high; omega)
  have unable := lastCompensatableStep_none last found
  rw [(progress.compensatable_at found).mpr (by omega)] at unable
  cases unable

theorem last_undone
    (last : lastCompensatableStep st sagaId = some ordinal) : undone = ordinal + 1 := by
  obtain ⟨⟨record, found, able⟩, largest⟩ := lastCompensatableStep_some last
  have inside := (progress.compensatable_at found).mp able
  obtain ⟨top, present⟩ := progress.present (undone - 1)
    (by have := progress.low; have := progress.high; omega)
  have bound := largest (undone - 1) top present
    ((progress.compensatable_at present).mpr (by omega))
  omega

theorem settled
    (compensating : row.status = .compensating) (last : lastCompensatableStep st sagaId = none)
    (version : Int) :
    Progress definition sagaId { row with status := .compensated, version := version }
      (st.putInstance sagaId { row with status := .compensated, version := version }) undone := by
  refine progress.relabel rfl rfl rfl (fun is => by cases is)
    (fun _ => progress.undone_zero last) ?_
  intro k record found
  exact expected_of_label (progress.status k record found) rfl fun _ running => by
    cases compensating.symm.trans running

theorem compensatedLast {step : Step} (compensating : row.status = .compensating)
    (last : lastCompensatableStep st sagaId = some ordinal)
    (defined : definition.steps[ordinal]? = some step)
    (found : st.steps.lookup (sagaId, ordinal) = some record) (lastError : Option Bytes)
    (attempts version : Int) : Progress definition sagaId { row with version := version }
      (((if step.compensates then commitEffect (.compensated sagaId ordinal) st
        else st).putStep sagaId ordinal
        { record with
          status := .compensated, lastError := lastError, attempts := attempts }).putInstance
        sagaId { row with version := version }) ordinal := by
  have top := progress.last_undone last
  have low := progress.low
  have notRunning : row.status ≠ .running := by simp [compensating]
  have notCompensated : row.status ≠ .compensated := by simp [compensating]
  have rows : (if step.compensates then
      commitEffect (.compensated sagaId ordinal) st else st).steps = st.steps := by
    cases step.compensates <;> rfl
  have steps : ∀ record', ((if step.compensates then
      commitEffect (.compensated sagaId ordinal) st else st).putStep sagaId ordinal record').steps =
      st.steps.insert (sagaId, ordinal) record' := by
    intro record'
    simp only [Store.putStep, rows]
  refine progress.rewrite found (steps _) (by dsimp only; omega) progress.high
    (fun is => absurd is notRunning) (fun is => absurd is notCompensated) ?_ ?_ ?_ ?_
  · unfold Expected
    rw [if_neg (Nat.lt_irrefl _), if_pos (by dsimp only; omega)]
  · intro k status other expected
    unfold Expected at expected ⊢
    by_cases before : k < ordinal
    · rw [if_pos (by omega)] at expected
      rwa [if_pos before]
    · rw [if_neg (by omega)] at expected
      rwa [if_neg before]
  · intro k
    have effects : .executed sagaId k ∈ (if step.compensates then
        commitEffect (.compensated sagaId ordinal) st else st).effects ↔
        .executed sagaId k ∈ st.effects := by
      cases step.compensates <;> simp [commitEffect]
    simp only [Store.putInstance, Store.putStep, effects, rows, waiting_insert, reduceCtorEq,
      and_false, false_or, progress.executed]
    constructor
    · rintro (before | ⟨waiter, present, waiting⟩)
      · exact .inl before
      · exact absurd (progress.waiting_at present waiting).2 notRunning
    · rintro (before | ⟨_, waiting⟩)
      · exact .inl before
      · exact .inr waiting
  · have range : List.range' ordinal (row.currentStep - ordinal) =
        ordinal :: List.range' undone (row.currentStep - undone) := by
      rw [show row.currentStep - ordinal = (row.currentStep - undone) + 1 by omega,
        List.range'_succ, top]
    have compensates : definition.compensates ordinal = step.compensates := by
      simp [Definition.compensates, defined]
    simp only [Store.putInstance, Store.putStep, range, List.reverse_cons, List.filter_append,
      ← progress.order, List.filter_cons, List.filter_nil, compensates]
    cases step.compensates <;> simp [commitEffect, compensatedSteps_compensated]

omit progress in
theorem label_before {permanent : Prop} [Decidable permanent] {before after label : Status}
    (status : after = if permanent then .compensating else before) (other : label ≠ .compensating)
    (is : after = label) : before = label := by
  rw [status] at is
  split at is
  · exact absurd is.symm other
  · exact is

theorem recorded (bounded : failure.compensation = false → failure.ordinal ≤ row.currentStep)
    (found : st.steps.lookup (sagaId, failure.ordinal) = some record)
    (undisturbed : if failure.compensation then record.status.compensatable = true
      else record.status = .pending ∨ record.status = .failed)
    (current : row'.currentStep = row.currentStep)
    (status : row'.status = if failure.permanent ∧ failure.compensation = false then
      .compensating else row.status)
    (marked : record'.status = if failure.compensation then .compensationFailed else .failed)
    (steps : st'.steps = st.steps.insert (sagaId, failure.ordinal) record')
    (effects : st'.effects = st.effects) : Progress definition sagaId row' st' undone := by
  have low := progress.low
  have notWaiting : record.status ≠ .waiting := by
    intro waiting
    rw [waiting] at undisturbed
    split at undisturbed <;> simp [StepStatus.compensatable] at undisturbed
  have stillNotWaiting : record'.status ≠ .waiting := by
    rw [marked]
    split <;> decide
  refine progress.rewrite found steps (current ▸ low) (current ▸ progress.high) ?_ ?_ ?_ ?_ ?_ ?_
  · intro running
    rw [current]
    exact progress.running (label_before status (by decide) running)
  · intro compensated
    exact progress.compensated (label_before status (by decide) compensated)
  · unfold Expected
    rw [marked]
    by_cases compensation : failure.compensation = true
    · rw [if_pos compensation] at undisturbed ⊢
      rw [if_pos ((progress.compensatable_at found).mp undisturbed)]
      rfl
    · rw [if_neg compensation] at undisturbed ⊢
      have beyond := progress.ready_at found undisturbed
      rw [if_neg (by omega), if_neg (by omega)]
      exact .inr (.inl rfl)
  · intro k other distinct expected
    apply expected_of_label expected current
    intro waiting running
    rw [status, if_neg]
    · exact running
    · rintro ⟨_, execution⟩
      rw [if_neg (by simp [execution])] at undisturbed
      have beyond := progress.ready_at found undisturbed
      have here : k = row.currentStep := by
        unfold Expected at expected
        rw [waiting] at expected
        split at expected
        · cases expected
        · split at expected
          · cases expected
          · simpa [running] using expected
      have := bounded execution
      omega
  · intro k
    rw [effects, progress.executed, current, steps, waiting_insert]
    by_cases here : k = failure.ordinal
    · subst here
      simp [found, notWaiting, stillNotWaiting]
    · simp [here]
  · rw [effects, current]
    exact progress.order

theorem recordedAbsent (bounded : failure.compensation = false → failure.ordinal ≤ row.currentStep)
    (absent : st.steps.lookup (sagaId, failure.ordinal) = none)
    (current : row'.currentStep = row.currentStep)
    (status : row'.status = if failure.permanent ∧ failure.compensation = false then
      .compensating else row.status) (steps : st'.steps = st.steps)
    (effects : st'.effects = st.effects) : Progress definition sagaId row' st' undone := by
  refine progress.relabel steps effects current ?_ ?_ ?_
  · intro running
    rw [current]
    exact progress.running (label_before status (by decide) running)
  · intro compensated
    exact progress.compensated (label_before status (by decide) compensated)
  · intro k record found
    apply expected_of_label (progress.status k record found) current
    intro waiting running
    rw [status, if_neg]
    · exact running
    · rintro ⟨_, execution⟩
      have inside := progress.absent k record found
      have here := (progress.waiting_at found waiting).1
      have below := bounded execution
      obtain ⟨other, present⟩ := progress.present failure.ordinal (by omega)
      rw [absent] at present
      cases present

end Progress

/-- The invariant of all sagas, and of the failures that coordinators hold. -/
structure Coherent (registry : Registry) (w : World) : Prop where
  sagas : ∀ id row, w.store.instances.lookup id = some row → ∃ definition undone,
    registry.find row.definition = some definition ∧ Progress definition id row w.store undone
  unstarted : ∀ id, w.store.instances.lookup id = none →
    (∀ k, w.store.steps.lookup (id, k) = none) ∧ (∀ k, .executed id k ∉ w.store.effects) ∧
      compensatedSteps id w.store.effects = []
  failures : ∀ failure ∈ w.failures, failure.compensation = false →
    ∃ row, w.store.instances.lookup failure.sagaId = some row ∧
      failure.ordinal ≤ row.currentStep

namespace Coherent

variable {w : World}

section

variable (coherent : Coherent registry w)
include coherent

theorem put (found' : st'.instances.lookup sagaId = some row')
    (defined : registry.find row'.definition = some definition)
    (progress : ∃ undone, Progress definition sagaId row' st' undone)
    (forward : ∀ row, w.store.instances.lookup sagaId = some row →
      row.currentStep ≤ row'.currentStep) (others : ∀ id, id ≠ sagaId → SameSaga id w.store st') :
    Coherent registry { w with store := st' } where
  sagas := by
    intro id other known
    by_cases here : id = sagaId
    · subst here
      cases found'.symm.trans known
      obtain ⟨undone, kept⟩ := progress
      exact ⟨definition, undone, defined, kept⟩
    · obtain ⟨d, undone, defined, before⟩ :=
        coherent.sagas id other ((others id here).row.symm.trans known)
      exact ⟨d, undone, defined, before.of_same (others id here)⟩
  unstarted := by
    intro id none
    have here : id ≠ sagaId := by
      rintro rfl
      rw [found'] at none
      cases none
    have same := others id here
    obtain ⟨steps, executed, compensated⟩ := coherent.unstarted id (same.row.symm.trans none)
    exact ⟨fun k => (same.steps k).trans (steps k), fun k => mt (same.executed k).mp (executed k),
      same.compensated.trans compensated⟩
  failures := by
    intro failure member execution
    obtain ⟨target, known, below⟩ := coherent.failures failure member execution
    by_cases here : failure.sagaId = sagaId
    · rw [here] at known ⊢
      exact ⟨row', found', below.trans (forward target known)⟩
    · exact ⟨target, (others _ here).row.trans known, below⟩

theorem advance {row : InstanceRow} (found : w.store.instances.lookup sagaId = some row)
    (found' : st'.instances.lookup sagaId = some row')
    (defined : registry.find row'.definition = some definition)
    (progress : ∃ undone, Progress definition sagaId row' st' undone)
    (forward : row.currentStep ≤ row'.currentStep)
    (others : ∀ id, id ≠ sagaId → SameSaga id w.store st') :
    Coherent registry { w with store := st' } := by
  refine coherent.put found' defined progress ?_ others
  intro before known
  cases found.symm.trans known
  exact forward

theorem drop {failures : List ActionFailure} (fewer : ∀ failure ∈ failures, failure ∈ w.failures) :
    Coherent registry { w with failures := failures } :=
  ⟨coherent.sagas, coherent.unstarted,
    fun failure member => coherent.failures failure (fewer failure member)⟩

theorem tick {result : TickResult} (h : tick registry sagaId outcome w.store = .ok (st', result)) :
    Coherent registry { w with store := st' } := by
  obtain ⟨row, definition, found, defined, answered⟩ := tick_answered h
  obtain ⟨d, undone, known, progress⟩ := coherent.sagas sagaId row found
  cases defined.symm.trans known
  have others := fun id (other : id ≠ sagaId) => answered.same other
  cases answered with
  | rest => exact coherent
  | stay => exact coherent
  | finish running past =>
    exact coherent.advance found (AList.lookup_insert _) defined ⟨undone, progress.finished past _ _⟩
      (le_refl _) others
  | await record action running inside present =>
    exact coherent.advance found (AList.lookup_insert _) defined
      ⟨undone, progress.awaited present running _ _ _ _⟩ (le_refl _) others
  | advance record action running inside present ready acted wait status result next =>
    refine coherent.advance found (AList.lookup_insert _) defined
      ⟨_, progress.executedNext present running inside rfl ?_ rfl rfl ?_ ?_⟩ (Nat.le_succ _) others
    · rw [next]
      split <;> simp
    · intro k
      simp [Store.putInstance, Store.putStep, commitEffect]
    · simp [Store.putInstance, Store.putStep, commitEffect]
  | settle compensating last =>
    exact coherent.advance found (AList.lookup_insert _) defined
      ⟨undone, progress.settled compensating last _⟩ (le_refl _) others
  | compensate ordinal step record compensating last declared present =>
    exact coherent.advance found (AList.lookup_insert _) defined
      ⟨ordinal, progress.compensatedLast compensating last declared present _ _ _⟩ (le_refl _) others

theorem failed (h : Saga.tick registry sagaId outcome w.store = .error (.action failure)) :
    Coherent registry { w with failures := w.failures ++ [failure] } := by
  obtain ⟨named, row, found, ordinal⟩ := tick_failed h
  refine ⟨coherent.sagas, coherent.unstarted, ?_⟩
  intro other member execution
  rcases List.mem_append.mp member with old | new
  · exact coherent.failures other old execution
  · cases List.mem_singleton.mp new
    exact ⟨row, named ▸ found, (ordinal execution).le⟩

theorem completeWaiting {output : Option Bytes} {applied : Bool}
    (h : completeWaitingInTx sagaId ordinal output applied w.store = .ok (st', ())) :
    Coherent registry { w with store := st' } := by
  rcases completeWaitingInTx_ok h with rfl | ⟨row, record, found, present, waiting, rfl, running, rfl⟩
  · exact coherent
  · obtain ⟨definition, undone, defined, progress⟩ := coherent.sagas sagaId row found
    have inside := progress.absent _ record present
    refine coherent.advance found (AList.lookup_insert _) defined
      ⟨_, progress.executedNext present running inside rfl ?_ rfl rfl ?_ rfl⟩ (Nat.le_succ _)
      putRows_others
    · simp [running]
    · intro k
      constructor
      · exact .inl
      · rintro (old | rfl)
        · exact old
        · exact (progress.executed _).mpr (.inr ⟨record, present, waiting⟩)

theorem recordFailure (held : failure ∈ w.failures)
    (undisturbed : ∀ record ∈ w.store.steps.lookup (failure.sagaId, failure.ordinal),
      if failure.compensation then record.status.compensatable = true
      else record.status = .pending ∨ record.status = .failed)
    (h : recordActionFailure E failure w.store = .ok (st', saga)) :
    Coherent registry { w with store := st' } := by
  obtain ⟨row, status, mid, text, found, named, marked, rfl⟩ := recordActionFailure_ok h
  obtain ⟨definition, undone, defined, progress⟩ := coherent.sagas failure.sagaId row found
  have bounded : failure.compensation = false → failure.ordinal ≤ row.currentStep := by
    intro execution
    obtain ⟨target, known, below⟩ := coherent.failures failure held execution
    cases found.symm.trans known
    exact below
  rcases marked with ⟨absent, rfl⟩ | ⟨record, present, rfl⟩
  · refine coherent.advance found (AList.lookup_insert _) defined ⟨undone, ?_⟩ (le_refl _) ?_
    · exact progress.recordedAbsent bounded absent (by rfl) named rfl rfl
    · intro id other
      exact .putInstance other _ _
  · refine coherent.advance found (AList.lookup_insert _) defined ⟨undone, ?_⟩ (le_refl _)
      putRows_others
    exact progress.recorded bounded present (undisturbed record present) (by rfl) named rfl rfl rfl

theorem start {sagaType definitionName input : Bytes}
    (h : start E registry sagaId sagaType definitionName input w.store = .ok (st', saga)) :
    Coherent registry { w with store := st' } := by
  rcases start_ok h with rfl | ⟨definition, row, defined, fresh, rfl, running, zero, inserted⟩
  · exact coherent
  obtain ⟨noSteps, notExecuted, notCompensated⟩ := coherent.unstarted sagaId fresh
  have found' : st'.instances.lookup sagaId = some row := by
    rw [inserted.instances]
    exact AList.lookup_insert _
  have pending : ∀ k record, st'.steps.lookup (sagaId, k) = some record →
      k < definition.steps.length ∧ record.status = .pending := by
    intro k record known
    by_cases inside : k < definition.steps.length
    · obtain ⟨other, present, is⟩ := inserted.pending k (Nat.zero_le k) (by omega)
      cases present.symm.trans known
      exact ⟨inside, is⟩
    · have same := inserted.others sagaId k (by omega)
      rw [known] at same
      exact absurd (same.trans (noSteps k)) (by simp)
  have progress : Progress definition sagaId row st' 0 := by
    refine ⟨?_, fun k record known => (pending k record known).1, Nat.zero_le _, by omega, ?_,
      fun _ => zero.symm, fun _ => rfl, ?_, ?_⟩
    · intro k inside
      obtain ⟨record, present, _⟩ := inserted.pending k (Nat.zero_le k) (by omega)
      exact ⟨record, present⟩
    · intro k record known
      unfold Expected
      rw [if_neg (Nat.not_lt_zero k), if_neg (by omega)]
      exact .inl (pending k record known).2
    · intro k
      rw [inserted.effects]
      constructor
      · intro executed
        exact absurd executed (notExecuted k)
      · rintro (before | ⟨record, known, waiting⟩)
        · omega
        · rw [(pending k record known).2] at waiting
          cases waiting
    · rw [inserted.effects, zero]
      exact notCompensated
  refine coherent.put found' defined ⟨0, progress⟩ ?_ (start_others inserted)
  intro before known
  cases fresh.symm.trans known

end

end Coherent

theorem step_coherent (w : World) (command : Command) (undisturbed : Undisturbed w command)
    (coherent : Coherent registry w) : Coherent registry (step E registry w command) := by
  cases command with
  | start =>
    exact commit_preserves _ (fun st => Coherent registry { w with store := st }) coherent
      fun _ _ h => coherent.start h
  | tick sagaId outcome =>
    simp only [step, tickStep]
    split
    · rename_i h
      exact coherent.tick h
    · rename_i h
      exact coherent.failed h
    · exact coherent
  | recordFailure coordinator =>
    simp only [step, recordStep]
    split
    · exact coherent
    · rename_i failure held
      have recorded : Coherent registry
          { w with store := commit (recordActionFailure E failure) w.store } :=
        commit_preserves _ (fun st => Coherent registry { w with store := st }) coherent
          fun _ _ h => coherent.recordFailure (List.mem_of_getElem? held) (undisturbed failure held) h
      exact recorded.drop fun _ member => List.mem_of_mem_eraseIdx member
  | completeWaiting =>
    exact commit_preserves _ (fun st => Coherent registry { w with store := st }) coherent
      fun _ _ h => coherent.completeWaiting h

theorem empty_coherent (registry : Registry) : Coherent registry World.empty := by
  refine ⟨?_, ?_, ?_⟩
  · intro id row found
    cases found
  · intro id _
    exact ⟨fun _ => rfl, fun _ => by simp [World.empty], rfl⟩
  · intro failure member
    cases member

/-- In a run whose failures are recorded undisturbed, the compensations of every
saga descend and touch executed steps only; once the saga is COMPENSATED, every
executed step that has a Compensate was compensated exactly once. -/
theorem compensation_undoes_execution (E : Engine) (registry : Registry) (commands : List Command)
    (undisturbed : Along (step E registry) Undisturbed World.empty commands) (sagaId : Bytes) :
    let st := (run (step E registry) World.empty commands).store
    (compensatedSteps sagaId st.effects).Pairwise (· > ·) ∧
    (∀ k, .compensated sagaId k ∈ st.effects → .executed sagaId k ∈ st.effects) ∧
    ∀ row definition, st.instances.lookup sagaId = some row →
      registry.find row.definition = some definition → row.status = .compensated →
      ∀ k, definition.compensates k = true → .executed sagaId k ∈ st.effects →
        st.effects.count (.compensated sagaId k) = 1 := by
  intro st
  have coherent : Coherent registry (run (step E registry) World.empty commands) :=
    run_preserves_along (step E registry) Undisturbed (Coherent registry)
      (fun w command => step_coherent w command) commands undisturbed (empty_coherent registry)
  cases known : st.instances.lookup sagaId with
  | none =>
    obtain ⟨_, _, nothing⟩ := coherent.unstarted sagaId known
    refine ⟨?_, ?_, ?_⟩
    · rw [nothing]
      exact .nil
    · intro k compensated
      have member := mem_compensatedSteps.mpr compensated
      rw [nothing] at member
      cases member
    · intro row _ found
      cases found
  | some row =>
    obtain ⟨definition, undone, defined, progress⟩ := coherent.sagas sagaId row known
    have descending : (compensatedSteps sagaId st.effects).Pairwise (· > ·) := by
      rw [progress.order]
      apply List.Pairwise.filter
      rw [List.pairwise_reverse]
      exact List.pairwise_lt_range'
    have members : ∀ k, .compensated sagaId k ∈ st.effects ↔
        (undone ≤ k ∧ k < row.currentStep) ∧ definition.compensates k = true := by
      intro k
      have low := progress.low
      rw [← mem_compensatedSteps, progress.order, List.mem_filter, List.mem_reverse,
        List.mem_range'_1]
      constructor
      · rintro ⟨range, compensates⟩
        exact ⟨by omega, compensates⟩
      · rintro ⟨range, compensates⟩
        exact ⟨by omega, compensates⟩
    refine ⟨descending, ?_, ?_⟩
    · intro k compensated
      exact (progress.executed k).mpr (.inl ((members k).mp compensated).1.2)
    · intro row' definition' found defined' status k compensates executed
      cases found
      cases defined.symm.trans defined'
      have before : k < row.currentStep := by
        rcases (progress.executed k).mp executed with before | ⟨record, present, waiting⟩
        · exact before
        · rw [(progress.waiting_at present waiting).2] at status
          cases status
      have none := progress.compensated status
      rw [count_compensatedSteps]
      apply List.count_eq_one_of_mem
      · exact descending.imp (fun greater => Ne.symm (Nat.ne_of_lt greater))
      · exact mem_compensatedSteps.mpr ((members k).mpr ⟨⟨by omega, before⟩, compensates⟩)

/-- The failure of the first step, recorded after both steps were executed, hides
that step from compensation. -/
theorem stale_failure_skips_compensation :
    let st := (run (step sampleEngine sampleRegistry) World.empty
      (staleFailureRun ++ [.recordFailure 0, sampleDone, sampleDone])).store
    ((st.instances.lookup (ascii "s1")).map InstanceRow.status = some .compensated) ∧
      st.effects = [.executed (ascii "s1") 0, .executed (ascii "s1") 1,
        .compensated (ascii "s1") 1] := by
  decide +kernel

def sampleCompensationRun : List Command :=
  [sampleStart, sampleDone, sampleDeclined, .recordFailure 0, sampleDone, sampleDone]

theorem sample_compensation_undoes_execution :
    let st := (run (step sampleEngine sampleRegistry) World.empty sampleCompensationRun).store
    ((st.instances.lookup (ascii "s1")).map InstanceRow.status = some .compensated) ∧
      .executed (ascii "s1") 0 ∈ st.effects ∧
      st.effects.count (.compensated (ascii "s1") 0) = 1 := by
  have undone := (compensation_undoes_execution sampleEngine sampleRegistry sampleCompensationRun
    (by decide +kernel) (ascii "s1")).2.2
  have row : (run (step sampleEngine sampleRegistry) World.empty
      sampleCompensationRun).store.instances.lookup (ascii "s1") =
      some ⟨ascii "payout", ascii "payout", .compensated, ascii "in", none, 1, 4,
        some (ascii "declined")⟩ := by
    decide +kernel
  refine ⟨by rw [row]; rfl, by decide +kernel, ?_⟩
  exact undone _ ⟨ascii "payout", [⟨ascii "debit", true⟩, ⟨ascii "credit", true⟩]⟩ row rfl rfl 0
    rfl (by decide +kernel)

end PaymentPlatform.Saga
