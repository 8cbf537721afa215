import PaymentPlatform.Rails.Processor
import Mathlib.Data.List.Perm.Basic

/-! One external operation: every Submit carries the reference and payload of its
row, each durable claim is submitted at most once, and a final status stays. -/

namespace PaymentPlatform.Rails

open Framing Serial

variable {E : Engine} {rails : RailMap}
variable {request : Request} {st st' : Attempts} {operationId token : Bytes} {attempt : Attempt}
  {number : Int}

structure Claims (row : AttemptRow) (request : Request) : Prop where
  rail : request.rail = row.rail
  reference : request.providerReference = row.providerReference
  payload : request.payload = row.requestPayload

/-- The row of a later state: what was claimed is fixed, attempts only grow, and a
final status stays. -/
structure Follows (row later : AttemptRow) : Prop where
  rail : later.rail = row.rail
  reference : later.providerReference = row.providerReference
  payload : later.requestPayload = row.requestPayload
  attempts : row.attempts ≤ later.attempts
  final : row.status.Final → later.status = row.status

theorem Follows.refl (row : AttemptRow) : Follows row row :=
  ⟨rfl, rfl, rfl, le_refl _, fun _ => rfl⟩

theorem Follows.trans {a b c : AttemptRow} (first : Follows a b) (second : Follows b c) :
    Follows a c where
  rail := second.rail.trans first.rail
  reference := second.reference.trans first.reference
  payload := second.payload.trans first.payload
  attempts := first.attempts.trans second.attempts
  final is := (second.final (first.final is ▸ is)).trans (first.final is)

theorem Follows.claims {row later : AttemptRow} (follows : Follows row later)
    (claims : Claims row request) : Claims later request :=
  ⟨claims.rail.trans follows.rail.symm, claims.reference.trans follows.reference.symm,
    claims.payload.trans follows.payload.symm⟩

def Extends (st st' : Attempts) : Prop :=
  ∀ operationId row, st.lookup operationId = some row →
    ∃ later, st'.lookup operationId = some later ∧ Follows row later

theorem Extends.refl (st : Attempts) : Extends st st :=
  fun _ row found => ⟨row, found, .refl row⟩

theorem Extends.trans {a b c : Attempts} (first : Extends a b) (second : Extends b c) :
    Extends a c := by
  intro operationId row found
  obtain ⟨mid, known, follows⟩ := first operationId row found
  obtain ⟨later, kept, after⟩ := second operationId mid known
  exact ⟨later, kept, follows.trans after⟩

theorem Extends.insert {next : AttemptRow}
    (follows : ∀ row, st.lookup operationId = some row → Follows row next) :
    Extends st (st.insert operationId next) := by
  intro id row found
  by_cases same : id = operationId
  · subst same
    exact ⟨next, AList.lookup_insert _, follows row found⟩
  · exact ⟨row, (AList.lookup_insert_ne same).trans found, .refl row⟩

theorem loadAttempt_ok (h : loadAttempt st operationId = .ok attempt) :
    ∃ row, st.lookup operationId = some row ∧ attempt.request.operationId = operationId ∧
      Claims row attempt.request ∧ attempt.status = row.status := by
  simp only [loadAttempt, steps_ok] at h
  obtain ⟨row, found, rfl⟩ := h
  exact ⟨row, found, rfl, ⟨rfl, rfl, rfl⟩, rfl⟩

theorem claimStart_ok {existing : Option Attempt}
    (h : claimStart E rails request token st = .ok (st', existing)) :
    (existing.isSome = true ∧ st' = st) ∨
      (existing = none ∧ st.lookup (withReference E request).operationId = none ∧
        ∃ row, st' = st.insert (withReference E request).operationId row ∧
          Claims row (withReference E request) ∧ row.attempts = 1) := by
  simp only [claimStart, steps_ok] at h
  obtain ⟨_, _, _, _, h⟩ := h
  split at h
  · simp only [steps_ok] at h
    obtain ⟨_, _, _, _, rfl, rfl⟩ := h
    exact .inl ⟨rfl, rfl⟩
  · rename_i fresh
    simp only [steps_ok] at h
    obtain ⟨_, _, _, _, rfl, rfl⟩ := h
    exact .inr ⟨rfl, fresh, _, rfl, ⟨rfl, rfl, rfl⟩, rfl⟩

theorem claimRetry_ok {newToken : Bytes} (h : claimRetry E attempt newToken st = .ok (st', number)) :
    ∃ row next, st' = st.insert attempt.request.operationId next ∧
      st.lookup attempt.request.operationId = some row ∧ number = row.attempts + 1 ∧
      next.attempts = number ∧ Follows row next := by
  simp only [claimRetry, steps_ok] at h
  obtain ⟨_, _, row, found, _, ⟨unknown, _⟩, _, _, rfl, rfl⟩ := h
  refine ⟨row, _, rfl, found, rfl, rfl, ⟨rfl, rfl, rfl, ?_, ?_⟩⟩
  · dsimp only
    omega
  · intro final
    simp [Status.Final, unknown] at final

theorem persistOutcome_ok {answer : Answer}
    (h : persistOutcome E operationId token answer st = .ok (st', attempt)) :
    st' = st ∨ ∃ row next, st' = st.insert operationId next ∧ st.lookup operationId = some row ∧
      next.attempts = row.attempts ∧ Follows row next := by
  simp only [persistOutcome, steps_ok] at h
  obtain ⟨_, _, h⟩ := h
  split at h
  · cases h
  · rename_i row found
    split at h
    · rename_i open_
      simp only [steps_ok] at h
      obtain ⟨_, _, rfl, _⟩ := h
      exact .inr ⟨row, _, rfl, found, rfl,
        ⟨rfl, rfl, rfl, le_refl _, fun final => absurd final open_.2⟩⟩
    · simp only [steps_ok] at h
      obtain ⟨_, _, _, _, rfl, _⟩ := h
      exact .inl rfl

/-- The claims that workers have committed and not yet submitted. -/
def unsubmitted (tasks : List Task) : List (Bytes × Int) :=
  tasks.filterMap fun
    | .claimed request _ number => some (request.operationId, number)
    | _ => none

def Submission.key (s : Submission) : Bytes × Int := (s.request.operationId, s.number)

def Claimed (st : Attempts) (request : Request) (number : Int) : Prop :=
  ∃ row, st.lookup request.operationId = some row ∧ Claims row request ∧ 1 ≤ number ∧
    number ≤ row.attempts

theorem Claimed.extend (claimed : Claimed st request number) (extends_ : Extends st st') :
    Claimed st' request number := by
  obtain ⟨row, found, claims, low, high⟩ := claimed
  obtain ⟨later, kept, follows⟩ := extends_ _ row found
  exact ⟨later, kept, follows.claims claims, low, high.trans follows.attempts⟩

/-- Attempts are counted from one, and a rail without idempotent references has one. -/
def Counted (rails : RailMap) (row : AttemptRow) : Prop :=
  1 ≤ row.attempts ∧
    (supportsIdempotentReference rails row.rail = false → row.attempts = 1)

structure Guarded (rails : RailMap) (w : World) : Prop where
  submitted : ∀ s ∈ w.submissions, Claimed w.attempts s.request s.number
  claimed : ∀ request token number, .claimed request token number ∈ w.tasks →
    Claimed w.attempts request number
  retrying : ∀ attempt, .retrying attempt ∈ w.tasks →
    supportsIdempotentReference rails attempt.request.rail = true ∧
      ∃ row, w.attempts.lookup attempt.request.operationId = some row ∧
        Claims row attempt.request
  counted : ∀ operationId row, w.attempts.lookup operationId = some row →
    Counted rails row
  distinct : (w.submissions.map Submission.key ++ unsubmitted w.tasks).Nodup

namespace Guarded

variable {w : World}

theorem empty (rails : RailMap) : Guarded rails World.empty :=
  ⟨by simp [World.empty], by simp [World.empty], by simp [World.empty],
    (fun _ _ found => by cases found), .nil⟩

section

variable (guarded : Guarded rails w)
include guarded

theorem write {next : AttemptRow}
    (follows : ∀ row, w.attempts.lookup operationId = some row → Follows row next)
    (counted : Counted rails next) :
    Guarded rails { w with attempts := w.attempts.insert operationId next } where
  submitted s member := (guarded.submitted s member).extend (.insert follows)
  claimed request token number member :=
    (guarded.claimed request token number member).extend (.insert follows)
  retrying attempt member := by
    obtain ⟨supports, row, found, claims⟩ := guarded.retrying attempt member
    obtain ⟨later, kept, after⟩ := Extends.insert follows _ row found
    exact ⟨supports, later, kept, after.claims claims⟩
  counted := AList.forall_insert counted guarded.counted
  distinct := guarded.distinct

theorem drop (task : Nat) : Guarded rails { w with tasks := w.tasks.eraseIdx task } := by
  have fewer : (w.tasks.eraseIdx task).Sublist w.tasks := List.eraseIdx_sublist _ _
  exact ⟨guarded.submitted,
    fun request token number member =>
      guarded.claimed request token number (fewer.subset member),
    fun attempt member => guarded.retrying attempt (fewer.subset member), guarded.counted,
    guarded.distinct.sublist ((List.Sublist.refl _).append (fewer.filterMap _))⟩

theorem push {task : Task} (noClaim : unsubmitted [task] = [])
    (retrying : ∀ attempt, task = .retrying attempt →
      supportsIdempotentReference rails attempt.request.rail = true ∧
        ∃ row, w.attempts.lookup attempt.request.operationId = some row ∧
          Claims row attempt.request) : Guarded rails { w with tasks := w.tasks ++ [task] } where
  submitted := guarded.submitted
  claimed request token number member := by
    rcases List.mem_append.mp member with old | new
    · exact guarded.claimed request token number old
    · cases List.mem_singleton.mp new
      cases noClaim
  retrying attempt member := by
    rcases List.mem_append.mp member with old | new
    · exact guarded.retrying attempt old
    · exact retrying attempt (List.mem_singleton.mp new).symm
  counted := guarded.counted
  distinct := by
    have same : unsubmitted (w.tasks ++ [task]) = unsubmitted w.tasks := by
      simp only [unsubmitted, List.filterMap_append] at noClaim ⊢
      rw [noClaim, List.append_nil]
    rw [same]
    exact guarded.distinct

theorem pushClaim (claimed : Claimed w.attempts request number)
    (fresh : (request.operationId, number) ∉
      w.submissions.map Submission.key ++ unsubmitted w.tasks) :
    Guarded rails { w with tasks := w.tasks ++ [.claimed request token number] } where
  submitted := guarded.submitted
  claimed other _ n member := by
    rcases List.mem_append.mp member with old | new
    · exact guarded.claimed other _ n old
    · cases List.mem_singleton.mp new
      exact claimed
  retrying attempt member := by
    rcases List.mem_append.mp member with old | new
    · exact guarded.retrying attempt old
    · cases List.mem_singleton.mp new
  counted := guarded.counted
  distinct := by
    have grown : unsubmitted (w.tasks ++ [.claimed request token number]) =
        unsubmitted w.tasks ++ [(request.operationId, number)] := by
      simp [unsubmitted]
    rw [grown, ← List.append_assoc, List.nodup_append_comm]
    exact List.nodup_cons.mpr ⟨fresh, guarded.distinct⟩

theorem known
    (member : (operationId, number) ∈ w.submissions.map Submission.key ++ unsubmitted w.tasks) :
    ∃ row, w.attempts.lookup operationId = some row ∧ number ≤ row.attempts := by
  rcases List.mem_append.mp member with submitted | waiting
  · obtain ⟨s, logged, same⟩ := List.mem_map.mp submitted
    cases same
    obtain ⟨row, found, _, _, high⟩ := guarded.submitted s logged
    exact ⟨row, found, high⟩
  · simp only [unsubmitted, List.mem_filterMap] at waiting
    obtain ⟨task, held, named⟩ := waiting
    cases task with
    | claimed request token =>
      cases named
      obtain ⟨row, found, _, _, high⟩ := guarded.claimed request token _ held
      exact ⟨row, found, high⟩
    | retrying => cases named
    | answered => cases named

end

end Guarded

namespace Guarded

variable {w : World}

section

variable (guarded : Guarded rails w)
include guarded

theorem start (request : Request) (token : Bytes) :
    Guarded rails (startStep E rails request token w) := by
  unfold startStep
  split
  · rename_i st h
    rcases claimStart_ok h with ⟨found, _⟩ | ⟨_, fresh, row, rfl, claims, first⟩
    · cases found
    · have follows : ∀ old, w.attempts.lookup (withReference E request).operationId = some old →
          Follows old row := by
        intro old known
        rw [fresh] at known
        cases known
      apply (guarded.write follows ⟨first.ge, fun _ => first⟩).pushClaim
      · exact ⟨row, AList.lookup_insert _, claims, le_refl 1, first.ge⟩
      · intro member
        obtain ⟨old, known, _⟩ := guarded.known member
        rw [fresh] at known
        cases known
  · rename_i st existing h
    rcases claimStart_ok h with ⟨_, rfl⟩ | ⟨none, _⟩
    · exact guarded
    · cases none
  · exact guarded

theorem resolve (operationId : Bytes) (answer : Answer) :
    Guarded rails (resolveStep rails operationId answer w) := by
  unfold resolveStep
  split
  · exact guarded
  · split
    · exact guarded
    · apply guarded.push rfl
      intro attempt same
      cases same

theorem retry (operationId : Bytes) : Guarded rails (retryStep rails operationId w) := by
  unfold retryStep
  split
  · exact guarded
  · rename_i attempt loaded
    split
    · rename_i allowed
      obtain ⟨row, found, named, claims, _⟩ := loadAttempt_ok loaded
      apply guarded.push rfl
      intro other same
      cases same
      exact ⟨allowed.2, row, named.symm ▸ found, claims⟩
    · exact guarded

theorem submit {task : Nat}
    (here : w.tasks[task]? = some (.claimed request token number)) (answer : Answer) : Guarded rails
      { w with
        submissions := w.submissions ++ [⟨request, number⟩]
        tasks := w.tasks.eraseIdx task ++ [.answered request.operationId token answer] } := by
  have dropped := guarded.drop task
  have held := guarded.claimed request token number (List.mem_of_getElem? here)
  have moved : (unsubmitted w.tasks).Perm
      ((request.operationId, number) :: unsubmitted (w.tasks.eraseIdx task)) := by
    obtain ⟨inside, same⟩ := List.getElem?_eq_some_iff.mp here
    have front := (List.getElem_cons_eraseIdx_perm inside).symm.filterMap fun
      | .claimed request _ number => some (request.operationId, number)
      | _ => none
    rw [same] at front
    exact front
  have submitted : Guarded rails
      { w with
        submissions := w.submissions ++ [⟨request, number⟩]
        tasks := w.tasks.eraseIdx task } := by
    refine ⟨?_, dropped.claimed, dropped.retrying, dropped.counted, ?_⟩
    · intro s member
      rcases List.mem_append.mp member with old | new
      · exact guarded.submitted s old
      · cases List.mem_singleton.mp new
        exact held
    · have all := (List.Perm.append_left (w.submissions.map Submission.key) moved).nodup
        guarded.distinct
      simpa [Submission.key, List.append_assoc] using all
  apply submitted.push rfl
  intro attempt same
  cases same

theorem proceed {task : Nat} {held : Task} (here : w.tasks[task]? = some held) (command : Command) :
    Guarded rails (Rails.proceed E { w with tasks := w.tasks.eraseIdx task } held command) := by
  have dropped := guarded.drop task
  have member : held ∈ w.tasks := List.mem_of_getElem? here
  unfold Rails.proceed
  split
  · rename_i attempt _ newToken
    dsimp only
    split
    · rename_i st number h
      obtain ⟨row, next, rfl, found, rfl, counted, follows⟩ := claimRetry_ok h
      obtain ⟨supports, row', found', claims⟩ := guarded.retrying attempt member
      cases found.symm.trans found'
      have positive := (guarded.counted _ row found).1
      have after : ∀ old, w.attempts.lookup attempt.request.operationId = some old →
          Follows old next := by
        intro old known
        cases found.symm.trans known
        exact follows
      have recounted : Counted rails next := by
        refine ⟨by omega, ?_⟩
        intro unsupported
        rw [follows.rail, ← claims.rail, supports] at unsupported
        cases unsupported
      apply (dropped.write after recounted).pushClaim
      · exact ⟨next, AList.lookup_insert _, follows.claims claims, by omega, counted.ge⟩
      · intro old
        obtain ⟨earlier, known, bound⟩ := dropped.known old
        cases found.symm.trans known
        omega
    · exact dropped
  · rename_i request token number _ answer
    exact guarded.submit here answer
  · rename_i operationId token answer _ ending
    apply attempt_preserves _ (fun st => Guarded rails
      { w with attempts := st, tasks := w.tasks.eraseIdx task }) ending dropped
    intro st attempt h
    rcases persistOutcome_ok h with rfl | ⟨row, next, rfl, found, counted, follows⟩
    · exact dropped
    · apply dropped.write
      · intro old known
        cases found.symm.trans known
        exact follows
      · unfold Counted
        rw [counted, follows.rail]
        exact guarded.counted _ row found
  · exact dropped

end

end Guarded

theorem step_guarded (w : World) (command : Command) (guarded : Guarded rails w) :
    Guarded rails (step E rails w command) := by
  have worked : ∀ task, Guarded rails (taskStep E task command w) := by
    intro task
    unfold taskStep
    split
    · exact guarded
    · rename_i held here
      exact guarded.proceed here command
  cases command with
  | start request token => exact guarded.start request token
  | resolve operationId answer => exact guarded.resolve operationId answer
  | retry operationId => exact guarded.retry operationId
  | claim task => exact worked task
  | submit task => exact worked task
  | persist task => exact worked task
  | crash task => exact guarded.drop task

theorem proceed_extends (w : World) (held : Task) (command : Command) :
    Extends w.attempts (proceed E w held command).attempts := by
  unfold proceed
  split
  · split
    · rename_i h
      obtain ⟨row, next, rfl, found, _, _, follows⟩ := claimRetry_ok h
      apply Extends.insert
      intro old known
      cases found.symm.trans known
      exact follows
    · exact .refl _
  · exact .refl _
  · apply attempt_preserves _ (Extends w.attempts) _ (.refl _)
    intro st attempt h
    rcases persistOutcome_ok h with rfl | ⟨row, next, rfl, found, _, follows⟩
    · exact .refl _
    · apply Extends.insert
      intro old known
      cases found.symm.trans known
      exact follows
  · exact .refl _

theorem step_extends (w : World) (command : Command) :
    Extends w.attempts (step E rails w command).attempts := by
  have worked : ∀ task, Extends w.attempts (taskStep E task command w).attempts := by
    intro task
    unfold taskStep
    split
    · exact .refl _
    · rename_i held _
      exact proceed_extends { w with tasks := w.tasks.eraseIdx task } held command
  cases command with
  | start request token =>
    simp only [step, startStep]
    split
    · rename_i h
      rcases claimStart_ok h with ⟨_, rfl⟩ | ⟨_, fresh, row, rfl, _⟩
      · exact .refl _
      · apply Extends.insert
        intro old known
        cases fresh.symm.trans known
    · rename_i h
      rcases claimStart_ok h with ⟨_, rfl⟩ | ⟨none, _⟩
      · exact .refl _
      · cases none
    · exact .refl _
  | resolve =>
    simp only [step, resolveStep]
    split
    · exact .refl _
    · split <;> exact .refl _
  | retry =>
    simp only [step, retryStep]
    split
    · exact .refl _
    · split <;> exact .refl _
  | claim task => exact worked task
  | submit task => exact worked task
  | persist task => exact worked task
  | crash => exact .refl _

theorem run_extends (w : World) (commands : List Command) :
    Extends w.attempts (run (step E rails) w commands).attempts :=
  run_preserves (step E rails) (fun w' => Extends w.attempts w'.attempts)
    (fun w' command before => before.trans (step_extends w' command)) commands (.refl _)

namespace Guarded

variable {w : World}

theorem same_request (guarded : Guarded rails w) {s t : Submission} (logged : s ∈ w.submissions)
    (logged' : t ∈ w.submissions) (same : s.request.operationId = t.request.operationId) :
    s.request = t.request := by
  obtain ⟨row, found, claims, _⟩ := guarded.submitted s logged
  obtain ⟨row', found', claims', _⟩ := guarded.submitted t logged'
  rw [same] at found
  cases found.symm.trans found'
  obtain ⟨⟨_, _, _, _⟩, _⟩ := s
  obtain ⟨⟨_, _, _, _⟩, _⟩ := t
  simp only [Request.mk.injEq]
  exact ⟨same, claims.rail.trans claims'.rail.symm,
    claims.reference.trans claims'.reference.symm, claims.payload.trans claims'.payload.symm⟩

theorem single (guarded : Guarded rails w) {row : AttemptRow}
    (found : w.attempts.lookup operationId = some row)
    (unsupported : supportsIdempotentReference rails row.rail = false) :
    (w.submissions.filter fun s => s.request.operationId = operationId).length ≤ 1 := by
  generalize own : (w.submissions.filter fun s => s.request.operationId = operationId) = calls
  have distinct : (calls.map Submission.key).Nodup := by
    rw [← own]
    exact (List.nodup_append.mp guarded.distinct).1.sublist
      (List.filter_sublist.map Submission.key)
  have copies : calls.map Submission.key = List.replicate calls.length (operationId, 1) := by
    rw [List.eq_replicate_iff]
    refine ⟨List.length_map _, ?_⟩
    intro key member
    obtain ⟨s, kept, rfl⟩ := List.mem_map.mp member
    obtain ⟨logged, named⟩ := List.mem_filter.mp (own ▸ kept)
    obtain ⟨row', found', _, low, high⟩ := guarded.submitted s logged
    rw [of_decide_eq_true named] at found'
    cases found.symm.trans found'
    have one := (guarded.counted operationId row found).2 unsupported
    simp only [Submission.key, Prod.mk.injEq]
    exact ⟨of_decide_eq_true named, by omega⟩
  rw [copies] at distinct
  exact List.nodup_replicate.mp distinct

end Guarded

/-- Whatever the workers do and wherever they crash: the calls of Submit for one
operation are equal, an operation on a rail without idempotent references has at
most one, each durably claimed attempt has at most one, and a final status stays. -/
theorem rail_submissions_are_safe (E : Engine) (rails : RailMap) (commands : List Command) :
    let w := run (step E rails) World.empty commands
    (∀ s ∈ w.submissions, ∀ t ∈ w.submissions, s.request.operationId = t.request.operationId →
      s.request = t.request) ∧
    (∀ operationId row, w.attempts.lookup operationId = some row →
      supportsIdempotentReference rails row.rail = false →
      (w.submissions.filter fun s => s.request.operationId = operationId).length ≤ 1) ∧
    (w.submissions.map Submission.key).Nodup ∧
    (∀ s ∈ w.submissions, ∃ row, w.attempts.lookup s.request.operationId = some row ∧
      s.request.rail = row.rail ∧ 1 ≤ s.number ∧ s.number ≤ row.attempts) ∧
    ∀ later operationId row, w.attempts.lookup operationId = some row → row.status.Final →
      ∃ kept, (run (step E rails) w later).attempts.lookup operationId = some kept ∧
        kept.status = row.status := by
  intro w
  have guarded : Guarded rails w :=
    run_preserves (step E rails) (Guarded rails) step_guarded commands (.empty rails)
  refine ⟨?_, ?_, (List.nodup_append.mp guarded.distinct).1, ?_, ?_⟩
  · intro s logged t logged' same
    exact guarded.same_request logged logged' same
  · intro operationId row found unsupported
    exact guarded.single found unsupported
  · intro s logged
    obtain ⟨row, found, claims, low, high⟩ := guarded.submitted s logged
    exact ⟨row, found, claims.rail, low, high⟩
  · intro later operationId row found final
    obtain ⟨kept, known, follows⟩ := run_extends w later operationId row found
    exact ⟨kept, known, follows.final final⟩

def sampleRequest : Request := ⟨ascii "op1", ascii "BANK", ascii "ref", ascii "pay"⟩

def timedOut : Answer := ⟨emptyResponse, some ⟨ascii "timeout", true, false⟩⟩

end PaymentPlatform.Rails
