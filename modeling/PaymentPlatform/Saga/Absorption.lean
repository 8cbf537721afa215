import PaymentPlatform.Saga.Compensation

/-! A finished saga keeps its status, step index and result, unless a coordinator
records a permanent failure of Execute that it has been holding meanwhile. -/

namespace PaymentPlatform.Saga

open Framing Serial

variable {E : Engine} {registry : Registry}
variable {sagaId id : Bytes} {row : InstanceRow} {st st' : Store} {saga : Instance}
variable {failure : ActionFailure} {outcome : Outcome} {result : TickResult}

/-- No permanent failure of Execute is recorded for a saga that is finished. -/
def Timely (w : World) : Command → Prop
  | .recordFailure coordinator =>
    ∀ failure ∈ w.failures[coordinator]?, failure.permanent = true →
      failure.compensation = false →
      ∀ row ∈ w.store.instances.lookup failure.sagaId, ¬ row.status.Terminal
  | _ => True

instance (w : World) : ∀ command, Decidable (Timely w command)
  | .recordFailure coordinator =>
    inferInstanceAs (Decidable (∀ failure ∈ w.failures[coordinator]?, failure.permanent = true →
      failure.compensation = false →
      ∀ row ∈ w.store.instances.lookup failure.sagaId, ¬ row.status.Terminal))
  | .start .. | .tick .. | .completeWaiting .. => isTrue trivial

/-- The saga's row has the status, step index and result of an earlier row. -/
def Settled (sagaId : Bytes) (row : InstanceRow) (st : Store) : Prop :=
  ∃ current, st.instances.lookup sagaId = some current ∧ current.status = row.status ∧
    current.currentStep = row.currentStep ∧ current.result = row.result

theorem Answered.idle_of_terminal {definition : Definition}
    {answer : TickResult} (answered : Answered definition sagaId row outcome st st' answer)
    (terminal : row.status.Terminal) : st' = st := by
  unfold Status.Terminal at terminal
  cases answered with
  | rest => rfl
  | stay => rfl
  | finish running => simp [running] at terminal
  | await _ _ running => simp [running] at terminal
  | advance _ _ running => simp [running] at terminal
  | settle compensating => simp [compensating] at terminal
  | compensate _ _ _ compensating => simp [compensating] at terminal

section

variable (settled : Settled sagaId row st)
include settled

theorem Settled.of_same
    (same : st'.instances.lookup sagaId = st.instances.lookup sagaId) : Settled sagaId row st' := by
  obtain ⟨current, found, rest⟩ := settled
  exact ⟨current, same.trans found, rest⟩

theorem Settled.start {sagaType definitionName input : Bytes}
    (h : start E registry id sagaType definitionName input st = .ok (st', saga)) :
    Settled sagaId row st' := by
  rcases start_ok h with rfl | ⟨definition, new, _, absent, _, _, _, inserted⟩
  · exact settled
  · apply settled.of_same
    rw [inserted.instances]
    apply AList.lookup_insert_ne
    rintro rfl
    obtain ⟨current, found, _⟩ := settled
    rw [absent] at found
    cases found

theorem Settled.tick
    (terminal : row.status.Terminal) (h : tick registry id outcome st = .ok (st', result)) :
    Settled sagaId row st' := by
  obtain ⟨target, definition, found, _, answered⟩ := tick_answered h
  by_cases same : sagaId = id
  · subst same
    obtain ⟨current, here, status, rest⟩ := settled
    rw [found] at here
    cases here
    rw [answered.idle_of_terminal (status ▸ terminal)]
    exact ⟨target, found, status, rest⟩
  · exact settled.of_same (answered.same same).row

theorem Settled.completeWaiting {ordinal : Nat} {output : Option Bytes} {applied : Bool}
    (terminal : row.status.Terminal)
    (h : completeWaitingInTx id ordinal output applied st = .ok (st', ())) :
    Settled sagaId row st' := by
  rcases completeWaitingInTx_ok h with rfl | ⟨target, record, found, _, _, _, running, rfl⟩
  · exact settled
  · apply settled.of_same
    apply AList.lookup_insert_ne
    rintro rfl
    obtain ⟨current, here, status, _⟩ := settled
    rw [found] at here
    cases here
    simp [Status.Terminal, ← status, running] at terminal

end

theorem recordActionFailure_instances (h : recordActionFailure E failure st = .ok (st', saga)) :
    ∃ row next, st.instances.lookup failure.sagaId = some row ∧
      st'.instances = st.instances.insert failure.sagaId next ∧
      next.status = (if failure.permanent ∧ failure.compensation = false then .compensating
        else row.status) ∧
      next.currentStep = row.currentStep ∧ next.result = row.result := by
  obtain ⟨row, status, mid, text, found, named, steps, rfl⟩ := recordActionFailure_ok h
  have same : mid.instances = st.instances := by
    rcases steps with ⟨_, rfl⟩ | ⟨_, _, rfl⟩
    · rfl
    · rfl
  refine ⟨row, { row with
    status := status, lastError := some text, version := row.version + 1 }, found, ?_, named, rfl,
    rfl⟩
  rw [← same]
  rfl

theorem Settled.recordFailure (settled : Settled sagaId row st) (terminal : row.status.Terminal)
    (timely : failure.permanent = true → failure.compensation = false →
      ∀ target ∈ st.instances.lookup failure.sagaId, ¬ target.status.Terminal)
    (h : recordActionFailure E failure st = .ok (st', saga)) : Settled sagaId row st' := by
  obtain ⟨target, next, found, written, status, index, result⟩ := recordActionFailure_instances h
  by_cases same : sagaId = failure.sagaId
  · subst same
    obtain ⟨current, here, sameStatus, sameIndex, sameResult⟩ := settled
    rw [found] at here
    cases here
    refine ⟨next, by rw [written, AList.lookup_insert], ?_, index.trans sameIndex,
      result.trans sameResult⟩
    rw [status, if_neg, sameStatus]
    rintro ⟨permanent, compensation⟩
    exact timely permanent compensation target found (sameStatus ▸ terminal)
  · apply settled.of_same
    rw [written]
    exact AList.lookup_insert_ne same

theorem step_settled (terminal : row.status.Terminal) (w : World) (command : Command)
    (timely : Timely w command) (settled : Settled sagaId row w.store) :
    Settled sagaId row (step E registry w command).store := by
  cases command with
  | start =>
    exact commit_preserves _ (Settled sagaId row) settled fun _ _ h => settled.start h
  | tick id outcome =>
    simp only [step, tickStep]
    split
    · rename_i h
      exact settled.tick terminal h
    · exact settled
    · exact settled
  | recordFailure coordinator =>
    simp only [step, recordStep]
    split
    · exact settled
    · rename_i failure held
      exact commit_preserves _ (Settled sagaId row) settled fun _ _ h =>
        settled.recordFailure terminal (timely failure held) h
  | completeWaiting =>
    exact commit_preserves _ (Settled sagaId row) settled fun _ _ h =>
      settled.completeWaiting terminal h

/-- The second part says that the condition is exact: a permanent failure whose
recording commits after the saga has finished reopens it. -/
theorem finished_sagas_stay (E : Engine) (registry : Registry) (w : World) (sagaId : Bytes)
    (row : InstanceRow) (found : w.store.instances.lookup sagaId = some row)
    (terminal : row.status.Terminal) :
    (∀ commands, Along (step E registry) Timely w commands →
      Settled sagaId row (run (step E registry) w commands).store) ∧
    ∀ coordinator failure st saga, w.failures[coordinator]? = some failure →
      failure.sagaId = sagaId → failure.permanent = true → failure.compensation = false →
      recordActionFailure E failure w.store = .ok (st, saga) →
      ¬ Settled sagaId row (step E registry w (.recordFailure coordinator)).store := by
  constructor
  · intro commands timely
    apply run_preserves_along (step E registry) Timely (fun w => Settled sagaId row w.store)
      (fun w command => step_settled terminal w command) commands timely
    exact ⟨row, found, rfl, rfl, rfl⟩
  · rintro coordinator failure st saga held rfl permanent execution recorded settled
    obtain ⟨_, next, _, written, status, _, _⟩ := recordActionFailure_instances recorded
    obtain ⟨current, here, same, _⟩ := settled
    simp only [step, recordStep, held, commit, recorded, written, AList.lookup_insert,
      Option.some.injEq] at here
    subst here
    rw [status, if_pos ⟨permanent, execution⟩] at same
    simp [Status.Terminal, ← same] at terminal

theorem stale_failure_reopens_saga :
    let w := run (step sampleEngine sampleRegistry) World.empty staleFailureRun
    ((w.store.instances.lookup (ascii "s1")).map InstanceRow.status = some .completed) ∧
      ((step sampleEngine sampleRegistry w (.recordFailure 0)).store.instances.lookup
        (ascii "s1")).map InstanceRow.status = some .compensating := by
  decide +kernel

/-- The saga that run completes, and a later tick that meets the condition. -/
theorem sample_finished_saga_stays :
    ∃ row, (run (step sampleEngine sampleRegistry) World.empty
      staleFailureRun).store.instances.lookup (ascii "s1") = some row ∧ row.status.Terminal ∧
      Settled (ascii "s1") row (run (step sampleEngine sampleRegistry)
        (run (step sampleEngine sampleRegistry) World.empty staleFailureRun)
        [.tick (ascii "s1") (.error ⟨true, ascii "declined"⟩)]).store := by
  have found : (run (step sampleEngine sampleRegistry) World.empty
      staleFailureRun).store.instances.lookup (ascii "s1") =
      some ⟨ascii "payout", ascii "payout", .completed, ascii "in", some (ascii "out"), 2, 2,
        none⟩ := by
    decide +kernel
  refine ⟨_, found, by decide, ?_⟩
  exact (finished_sagas_stay sampleEngine sampleRegistry _ (ascii "s1") _ found (by decide)).1 _
    (by decide +kernel)

/-- A later row of the same saga: a change of the row shows in its version. -/
structure Later (row next : InstanceRow) : Prop where
  identity : next.sagaType = row.sagaType ∧ next.definition = row.definition ∧
    next.input = row.input
  index : row.currentStep ≤ next.currentStep
  version : next = row ∨ row.version < next.version

def Grows (st st' : Store) : Prop :=
  ∀ id row, st.instances.lookup id = some row →
    ∃ next, st'.instances.lookup id = some next ∧ Later row next

theorem Grows.refl (st : Store) : Grows st st :=
  fun _ row found => ⟨row, found, ⟨rfl, rfl, rfl⟩, le_refl _, .inl rfl⟩

theorem Grows.trans {st'' : Store} (left : Grows st st') (right : Grows st' st'') :
    Grows st st'' := by
  intro id row found
  obtain ⟨mid, held, ⟨t, d, i⟩, index, version⟩ := left id row found
  obtain ⟨next, kept, ⟨t', d', i'⟩, index', version'⟩ := right id mid held
  refine ⟨next, kept, ⟨t'.trans t, d'.trans d, i'.trans i⟩, index.trans index', ?_⟩
  rcases version with rfl | less
  · exact version'
  · rcases version' with rfl | more
    · exact .inr less
    · exact .inr (less.trans more)

/-- Every UPDATE of saga_instances raises the version. -/
theorem Grows.update {next : InstanceRow} (found : st.instances.lookup sagaId = some row)
    (same : st'.instances = st.instances)
    (identity : next.sagaType = row.sagaType ∧ next.definition = row.definition ∧
      next.input = row.input) (index : row.currentStep ≤ next.currentStep)
    (version : next.version = row.version + 1) : Grows st (st'.putInstance sagaId next) := by
  intro id old here
  simp only [Store.putInstance, same, AList.lookup_insert_if]
  split
  · rename_i same
    subst same
    cases here.symm.trans found
    exact ⟨next, rfl, identity, index, .inr (by omega)⟩
  · exact Grows.refl st id old here

theorem tick_grows (h : tick registry id outcome st = .ok (st', result)) : Grows st st' := by
  obtain ⟨target, definition, found, _, answered⟩ := tick_answered h
  cases answered with
  | rest => exact .refl st
  | stay => exact .refl st
  | compensate => exact .update found (by split <;> rfl) ⟨rfl, rfl, rfl⟩ (le_refl _) rfl
  | advance => exact .update found rfl ⟨rfl, rfl, rfl⟩ (Nat.le_succ _) rfl
  | _ => exact .update found rfl ⟨rfl, rfl, rfl⟩ (le_refl _) rfl

theorem step_grows (w : World) (command : Command) :
    Grows w.store (step E registry w command).store := by
  cases command with
  | start =>
    refine commit_preserves _ (Grows w.store) (.refl _) ?_
    intro st' saga h
    rcases start_ok h with rfl | ⟨definition, new, _, absent, _, _, _, inserted⟩
    · exact .refl _
    · intro other row found
      rw [inserted.instances]
      exact ⟨row, AList.lookup_insert_fresh absent _ found, ⟨rfl, rfl, rfl⟩, le_refl _, .inl rfl⟩
  | tick id outcome =>
    simp only [step, tickStep]
    split
    · rename_i h
      exact tick_grows h
    · exact .refl _
    · exact .refl _
  | recordFailure =>
    simp only [step, recordStep]
    split
    · exact .refl _
    · refine commit_preserves _ (Grows w.store) (.refl _) ?_
      intro st' saga h
      obtain ⟨row, status, mid, text, found, _, steps, rfl⟩ := recordActionFailure_ok h
      have same : mid.instances = w.store.instances := by
        rcases steps with ⟨_, rfl⟩ | ⟨_, _, rfl⟩ <;> rfl
      exact .update found same ⟨rfl, rfl, rfl⟩ (le_refl _) rfl
  | completeWaiting =>
    refine commit_preserves _ (Grows w.store) (.refl _) ?_
    intro st' _ h
    rcases completeWaitingInTx_ok h with rfl | ⟨target, record, found, _, _, _, _, rfl⟩
    · exact .refl _
    · exact .update found rfl ⟨rfl, rfl, rfl⟩ (Nat.le_succ _) rfl

/-- Whatever coordinators do, no saga is lost or becomes another one, its step index never
goes back, and no two different rows of it carry one version. -/
theorem saga_rows_grow (E : Engine) (registry : Registry) (w : World) (commands : List Command) :
    Grows w.store (run (step E registry) w commands).store :=
  run_preserves (step E registry) (fun later => Grows w.store later.store)
    (fun later command grown => grown.trans (step_grows later command)) commands (.refl _)

end PaymentPlatform.Saga
