import PaymentPlatform.Rails.Submissions

/-! What the callers of Start, Resolve and RetrySameReference are told. The error of a
call comes from the answer its own worker got, the attempt from the row, which another
worker may have made final in between; where the row cannot be stored, no attempt is
returned but the error of the rail still is. -/

namespace PaymentPlatform.Rails

open Framing Serial

variable {E : Engine} {rails : RailMap} {w : World} {st st' : Attempts}
  {operationId token : Bytes} {attempt : Attempt} {answer : Answer} {command : Command}

def Doubt.none : Doubt := ⟨false, false⟩

def Doubt.Raised (doubt : Doubt) : Prop := doubt.railTimeout = true ∨ doubt.unknownOutcome = true
  deriving Decidable

/-- errors.Join. -/
def Doubt.join (a b : Doubt) : Doubt :=
  ⟨a.railTimeout || b.railTimeout, a.unknownOutcome || b.unknownOutcome⟩

/-- The doubt that the error of the rail carries by itself. -/
def Answer.doubt (answer : Answer) : Doubt := (answer.cause.map (·.doubt)).getD .none

/-- The error after the outcome was stored; only Start tells a failed Submit apart. -/
def doubtOf (start : Bool) (answer : Answer) : Doubt :=
  if start ∧ answer.cause.isSome then Doubt.join ⟨true, false⟩ answer.doubt
  else if answer.status = .unknown then Doubt.join ⟨false, true⟩ answer.doubt
  else .none

/-- What a call returns; without an attempt it is the zero Attempt, whose status is empty. -/
structure Told where
  operationId : Bytes
  attempt : Option Attempt
  doubt : Doubt
  deriving DecidableEq

/-- The attempt that persistOutcome returns to its caller; none where it returns an error. -/
def persisted (E : Engine) (operationId token : Bytes) (answer : Answer) (ending : Ending)
    (st : Attempts) : Option Attempt :=
  if ending = .acknowledged then
    (persistOutcome E operationId token answer st).toOption.map Prod.snd
  else none

/-- What a call of RetrySameReference returns before it claims anything. -/
def retryReport (rails : RailMap) (attempt : Attempt) : Option Told :=
  if attempt.status ≠ .unknown then some ⟨attempt.request.operationId, some attempt, .none⟩
  else if supportsIdempotentReference rails attempt.request.rail = true then none
  else some ⟨attempt.request.operationId, some attempt, ⟨false, true⟩⟩

/-- The attempt and the error with which a call returns in this step, where it returns one
of the two; `start` says whether the call that stores its answer is Start. -/
def report (E : Engine) (rails : RailMap) (start : Bool) (w : World) : Command → Option Told
  | .start request token =>
    match claimStart E rails request token w.attempts with
    | .ok (_, some existing) => some ⟨request.operationId, some existing, .none⟩
    | _ => none
  | .resolve operationId _ =>
    match loadAttempt w.attempts operationId with
    | .ok attempt =>
      if attempt.status.Final then some ⟨operationId, some attempt, .none⟩ else none
    | .error _ => none
  | .retry operationId =>
    match loadAttempt w.attempts operationId with
    | .ok attempt => retryReport rails attempt
    | .error _ => none
  | .persist task ending =>
    match w.tasks[task]? with
    | some (.answered operationId token answer) =>
      match persisted E operationId token answer ending w.attempts with
      | some attempt => some ⟨operationId, some attempt, doubtOf start answer⟩
      | none => some ⟨operationId, none, answer.doubt⟩
    | _ => none
  | _ => none

def Settled (w : World) (operationId : Bytes) : Prop :=
  ∃ row, w.attempts.lookup operationId = some row ∧ row.status.Final

/-- Who is told that the outcome is unknown is told so of an attempt that was not final. -/
def Sparing (E : Engine) (rails : RailMap) (w : World) (command : Command) : Prop :=
  ∀ start told, report E rails start w command = some told → told.doubt.Raised →
    ¬ Settled w told.operationId

/-- Moreover, an attempt that is UNKNOWN is returned. -/
def Truthful (E : Engine) (rails : RailMap) (w : World) (command : Command) : Prop :=
  ∀ start told, report E rails start w command = some told → told.doubt.Raised →
    (∃ attempt, told.attempt = some attempt ∧ attempt.status = .unknown) ∧
      ¬ Settled w told.operationId

structure Open (E : Engine) (answer : Answer) : Prop where
  status : answer.status = .unknown
  texts : E.acceptsText answer.response.providerCode = true ∧
    E.acceptsText answer.lastError = true

/-- No open answer is stored for an attempt that is already final. -/
def Unsettled (E : Engine) (w : World) (command : Command) : Prop :=
  ∀ task operationId token answer row, command = .persist task .acknowledged →
    w.tasks[task]? = some (.answered operationId token answer) → Open E answer →
    w.attempts.lookup operationId = some row → row.attemptToken = token → ¬ row.status.Final

/-- The answer of the rail for the operation is not stored, or its worker does not hear that
it is. -/
def Fails (E : Engine) (w : World) (command : Command) (operationId : Bytes) (answer : Answer) :
    Prop :=
  ∃ task ending token, command = .persist task ending ∧
    w.tasks[task]? = some (.answered operationId token answer) ∧
    persisted E operationId token answer ending w.attempts = none

theorem doubtOf_raised {start : Bool} :
    (doubtOf start answer).Raised ↔ answer.status = .unknown := by
  unfold doubtOf
  split
  · rename_i timeout
    simp [Doubt.Raised, Doubt.join, Answer.status, timeout.2]
  · split
    · rename_i unknown
      simp [Doubt.Raised, Doubt.join, unknown]
    · rename_i known
      simp [Doubt.Raised, Doubt.none, known]

theorem persisted_some {ending : Ending}
    (stored : persisted E operationId token answer ending st = some attempt) :
    ending = .acknowledged ∧
      ∃ st', persistOutcome E operationId token answer st = .ok (st', attempt) := by
  unfold persisted at stored
  split at stored
  · rename_i heard
    obtain ⟨⟨st', attempt'⟩, done, rfl⟩ := Option.map_eq_some_iff.mp stored
    exact ⟨heard, st', toOption_some done⟩
  · cases stored

theorem persistOutcome_attempt
    (stored : persistOutcome E operationId token answer st = .ok (st', attempt)) :
    ∃ row, st.lookup operationId = some row ∧ row.attemptToken = token ∧
      (E.acceptsText answer.response.providerCode = true ∧ E.acceptsText answer.lastError = true) ∧
      attempt.status = if row.status.Final then row.status else answer.status := by
  simp only [persistOutcome, steps_ok] at stored
  obtain ⟨_, texts, stored⟩ := stored
  split at stored
  · cases stored
  · rename_i row found
    refine ⟨row, found, ?_⟩
    split at stored
    · rename_i running
      simp only [steps_ok] at stored
      obtain ⟨_, loaded, rfl, rfl⟩ := stored
      obtain ⟨next, written, _, _, status⟩ := loadAttempt_ok loaded
      rw [AList.lookup_insert] at written
      cases written
      exact ⟨running.1, texts, by rw [status, if_neg running.2]⟩
    · simp only [steps_ok] at stored
      obtain ⟨_, final, _, loaded, rfl, rfl⟩ := stored
      obtain ⟨row', again, _, _, status⟩ := loadAttempt_ok loaded
      cases found.symm.trans again
      exact ⟨final.1, texts, by rw [status, if_pos final.2]⟩

theorem persistOutcome_final {row : AttemptRow} (open_ : Open E answer)
    (found : st.lookup operationId = some row) (claimed : row.attemptToken = token)
    (final : row.status.Final) :
    ∃ attempt, persistOutcome E operationId token answer st = .ok (st, attempt) := by
  have loaded : ∃ attempt, loadAttempt st operationId = .ok attempt := by
    simp only [loadAttempt, bind_ok, expect_ok, pure_ok]
    exact ⟨_, row, found, rfl⟩
  obtain ⟨attempt, loaded⟩ := loaded
  refine ⟨attempt, ?_⟩
  simp only [persistOutcome, bind_ok, require_ok]
  refine ⟨(), open_.texts, ?_⟩
  rw [found]
  simp only [final, not_true_eq_false, and_false, if_false, bind_ok, require_ok, pure_ok]
  exact ⟨(), ⟨claimed, trivial⟩, attempt, loaded, rfl⟩

theorem retryReport_told {told : Told} (loaded : loadAttempt w.attempts operationId = .ok attempt)
    (reported : retryReport rails attempt = some told) (raised : told.doubt.Raised) :
    (∃ attempt, told.attempt = some attempt ∧ attempt.status = .unknown) ∧
      ¬ Settled w told.operationId := by
  unfold retryReport at reported
  split at reported
  · cases reported
    simp [Doubt.Raised, Doubt.none] at raised
  · rename_i unknown
    split at reported
    · cases reported
    · cases reported
      obtain ⟨row, found, same, _, status⟩ := loadAttempt_ok loaded
      rw [not_not] at unknown
      refine ⟨⟨attempt, rfl, unknown⟩, ?_⟩
      rintro ⟨row', again, final⟩
      rw [same] at again
      cases found.symm.trans again
      rw [← status, unknown] at final
      revert final
      decide

/-- A doubt that is raised without need comes from an answer that was not stored. -/
theorem Unsettled.told {start : Bool} {told : Told} (unsettled : Unsettled E w command)
    (reported : report E rails start w command = some told) (raised : told.doubt.Raised) :
    ((∃ attempt, told.attempt = some attempt ∧ attempt.status = .unknown) ∧
      ¬ Settled w told.operationId) ∨
    ∃ answer, Fails E w command told.operationId answer ∧ answer.doubt.Raised := by
  have calm : ¬ Doubt.none.Raised := by decide
  cases command with
  | start =>
    simp only [report] at reported
    split at reported
    · cases reported
      exact absurd raised calm
    · cases reported
  | resolve =>
    simp only [report] at reported
    split at reported
    · split at reported
      · cases reported
        exact absurd raised calm
      · cases reported
    · cases reported
  | retry operationId =>
    simp only [report] at reported
    split at reported
    · rename_i loaded
      exact .inl (retryReport_told loaded reported raised)
    · cases reported
  | persist task ending =>
    simp only [report] at reported
    split at reported
    · rename_i operationId token answer held
      split at reported
      · rename_i attempt stored
        cases reported
        obtain ⟨rfl, _, stored⟩ := persisted_some stored
        have unknown := doubtOf_raised.mp raised
        obtain ⟨row, found, claimed, texts, status⟩ := persistOutcome_attempt stored
        have running := unsettled task operationId token answer row rfl held ⟨unknown, texts⟩ found
          claimed
        rw [if_neg running] at status
        refine .inl ⟨⟨attempt, rfl, status.trans unknown⟩, ?_⟩
        rintro ⟨row', again, final⟩
        cases found.symm.trans again
        exact running final
      · rename_i failed
        cases reported
        exact .inr ⟨answer, ⟨task, ending, token, rfl, held, failed⟩, raised⟩
    · cases reported
  | claim => cases reported
  | submit => cases reported
  | crash => cases reported

theorem Sparing.unsettled (sparing : Sparing E rails w command) : Unsettled E w command := by
  rintro task operationId token answer row rfl held open_ found claimed final
  obtain ⟨attempt, stored⟩ := persistOutcome_final open_ found claimed final
  have heard : persisted E operationId token answer .acknowledged w.attempts = some attempt := by
    simp [persisted, stored, Except.toOption]
  have reported : report E rails false w (.persist task .acknowledged) =
      some ⟨operationId, some attempt, doubtOf false answer⟩ := by
    simp only [report, held, heard]
  exact sparing false _ reported (doubtOf_raised.mpr open_.status) ⟨row, found, final⟩

theorem Fails.reported (fails : Fails E w command operationId answer) :
    report E rails false w command = some ⟨operationId, none, answer.doubt⟩ := by
  obtain ⟨task, ending, token, rfl, held, failed⟩ := fails
  simp only [report, held, failed]

/-- In every interleaving of any workers: all calls that report an unknown outcome return an
UNKNOWN attempt just when no open answer is stored for a claim that is already final and no
answer whose error is such a report by itself fails to be stored; and no final attempt is
reported as unknown just when no such answer fails to be stored for it. -/
theorem doubts_are_truthful_iff (E : Engine) (rails : RailMap) (commands : List Command) :
    (Along (step E rails) (Truthful E rails) World.empty commands ↔
      Along (step E rails) (fun w command => Unsettled E w command ∧
        ∀ operationId answer, Fails E w command operationId answer → ¬ answer.doubt.Raised)
        World.empty commands) ∧
    (Along (step E rails) (Sparing E rails) World.empty commands ↔
      Along (step E rails) (fun w command => Unsettled E w command ∧
        ∀ operationId answer, Fails E w command operationId answer → answer.doubt.Raised →
          ¬ Settled w operationId) World.empty commands) := by
  refine ⟨along_iff (step E rails) (fun _ => True) (fun w command _ _ => ?_)
    (fun _ _ _ _ _ => trivial) commands trivial (along_true _ _ _),
    along_iff (step E rails) (fun _ => True) (fun w command _ _ => ?_)
    (fun _ _ _ _ _ => trivial) commands trivial (along_true _ _ _)⟩
  · constructor
    · intro truthful
      refine ⟨Sparing.unsettled fun start told reported raised =>
        (truthful start told reported raised).2, fun operationId answer fails raised => ?_⟩
      obtain ⟨⟨attempt, returned, _⟩, _⟩ := truthful false _ fails.reported raised
      cases returned
    · rintro ⟨unsettled, quiet⟩ start told reported raised
      rcases unsettled.told reported raised with good | ⟨answer, fails, doubted⟩
      · exact good
      · exact absurd doubted (quiet _ answer fails)
  · constructor
    · intro sparing
      exact ⟨sparing.unsettled, fun operationId answer fails raised =>
        sparing false _ fails.reported raised⟩
    · rintro ⟨unsettled, quiet⟩ start told reported raised
      rcases unsettled.told reported raised with ⟨_, good⟩ | ⟨answer, fails, doubted⟩
      · exact good
      · exact quiet _ answer fails doubted

def confirmed : Answer := ⟨{ emptyResponse with outcome := ascii "SUCCEEDED" }, none⟩

/-- Submit has timed out, and before its worker stores that, Resolve finds the payment. -/
def racing : List Command :=
  [.start sampleRequest (ascii "t1"), .submit 0 timedOut, .resolve (ascii "op1") confirmed,
    .persist 1 .acknowledged]

/-- Start then returns an attempt that has succeeded, with the timeout as its error; and no
attempt with the timeout, where its transaction is aborted. -/
theorem settled_attempt_reported_unknown :
    ¬ Along (step sampleEngine ((∅ : RailMap).insert (ascii "BANK") true))
      (Truthful sampleEngine ((∅ : RailMap).insert (ascii "BANK") true)) World.empty
      (racing ++ [.persist 0 .acknowledged]) ∧
    (report sampleEngine ((∅ : RailMap).insert (ascii "BANK") true) true
      (run (step sampleEngine ((∅ : RailMap).insert (ascii "BANK") true)) World.empty racing)
      (.persist 0 .acknowledged)).map (fun told => (told.attempt.map (·.status), told.doubt)) =
        some (some .succeeded, ⟨true, false⟩) ∧
    report sampleEngine ((∅ : RailMap).insert (ascii "BANK") true) true
      (run (step sampleEngine ((∅ : RailMap).insert (ascii "BANK") true)) World.empty racing)
      (.persist 0 .aborted) = some ⟨ascii "op1", none, ⟨true, false⟩⟩ := by
  have told : (report sampleEngine ((∅ : RailMap).insert (ascii "BANK") true) true
      (run (step sampleEngine ((∅ : RailMap).insert (ascii "BANK") true)) World.empty racing)
      (.persist 0 .acknowledged)).map (fun told => (told.attempt.map (·.status), told.doubt)) =
        some (some .succeeded, ⟨true, false⟩) := by
    decide +kernel
  refine ⟨fun along => ?_, told, by decide +kernel⟩
  obtain ⟨_, _, _, _, truthful, _⟩ := along
  obtain ⟨result, reported, same⟩ := Option.map_eq_some_iff.mp told
  obtain ⟨succeeded, doubted⟩ := Prod.mk.inj same
  obtain ⟨⟨attempt, returned, unknown⟩, _⟩ :=
    truthful true result reported (by rw [doubted]; decide)
  rw [returned, Option.map_some, unknown] at succeeded
  cases succeeded

end PaymentPlatform.Rails
