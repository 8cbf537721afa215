import PaymentPlatform.Ledger.Types

/-! internal/rails/processor.go over external_attempts (migration 003): the durable
claims, the calls to the external rail that lie between two transactions, and
workers that interleave and crash. A rail's answers and the random attempt tokens
are inputs. response_payload holds the JSON of the response; it is kept as the
response itself. Timestamps are left out: nothing reads them. -/

namespace PaymentPlatform.Rails

open Framing Serial

inductive Status where
  | inFlight
  | unknown
  | succeeded
  | failed
  deriving DecidableEq, Repr

def Status.Final (status : Status) : Prop := status = .succeeded ∨ status = .failed
  deriving Decidable

structure Request where
  operationId : Bytes
  rail : Bytes
  providerReference : Bytes
  payload : Bytes
  deriving DecidableEq

structure Response where
  outcome : Bytes
  providerReference : Bytes
  providerCode : Bytes
  payload : Bytes
  duplicate : Bool
  deriving DecidableEq

/-- What errors.Is tells of an error: whether it is ErrRailTimeout, or ErrUnknownOutcome. -/
structure Doubt where
  railTimeout : Bool
  unknownOutcome : Bool
  deriving DecidableEq, Repr

/-- The error of a rail, which may wrap either sentinel. -/
structure Cause where
  text : Bytes
  doubt : Doubt
  deriving DecidableEq

/-- What Submit or Lookup returns: a response, and an error where it failed. -/
structure Answer where
  response : Response
  cause : Option Cause
  deriving DecidableEq

def Answer.lastError (answer : Answer) : Bytes := (answer.cause.map (·.text)).getD []

structure AttemptRow where
  rail : Bytes
  providerReference : Bytes
  requestHash : Digest
  requestPayload : Bytes
  status : Status
  attemptToken : Bytes
  attempts : Int
  response : Option Response
  providerCode : Option Bytes
  lastError : Option Bytes
  deriving DecidableEq

abbrev Attempts := Table Bytes AttemptRow

structure Attempt where
  request : Request
  requestHash : Digest
  status : Status
  attemptToken : Bytes
  attempts : Int
  response : Response
  lastError : Bytes
  duplicate : Bool
  deriving DecidableEq

inductive Failure where
  | invalidRequest
  | requestConflict
  | unknownOutcome
  | staleAttempt
  | noRows
  | database
  deriving DecidableEq, Repr

/-- Processor.Rails: the configured rails, each with the answer of
SupportsIdempotentReference, which is no for a rail that is no IdempotentSubmitter. -/
abbrev RailMap := Table Bytes Bool

def supportsIdempotentReference (rails : RailMap) (rail : Bytes) : Bool :=
  (rails.lookup rail).getD false

def stableReference (E : Engine) (rail operationId : Bytes) : Bytes :=
  ascii "pp-" ++ encodeHex
    ((E.sha256 (ascii "payment-platform/provider-reference/" ++ rail ++ ascii "/" ++
      operationId)).val.take 16)

def requestHash (E : Engine) (request : Request) : Digest :=
  E.sha256 (ascii "payment-platform/external-request" ++ [0] ++ request.rail ++ [0] ++
    request.providerReference ++ [0] ++ request.payload)

def emptyResponse : Response := ⟨[], [], [], [], false⟩

def loadAttempt (st : Attempts) (operationId : Bytes) : Except Failure Attempt := do
  let row ← expect (st.lookup operationId) .noRows
  pure
    { request := ⟨operationId, row.rail, row.providerReference, row.requestPayload⟩
      requestHash := row.requestHash, status := row.status, attemptToken := row.attemptToken
      attempts := row.attempts, response := row.response.getD emptyResponse
      lastError := row.lastError.getD [], duplicate := false }

def withReference (E : Engine) (request : Request) : Request :=
  if request.providerReference = [] then
    { request with providerReference := stableReference E request.rail request.operationId }
  else request

/-- The transaction of Start: the row of an earlier call, or a new claim. -/
def claimStart (E : Engine) (rails : RailMap) (request : Request) (token : Bytes)
    (st : Attempts) : Except Failure (Attempts × Option Attempt) := do
  require (request.operationId ≠ [] ∧ request.rail ≠ [] ∧ request.payload ≠ []) .invalidRequest
  require ((rails.lookup request.rail).isSome = true) .invalidRequest
  let request := withReference E request
  let hash := requestHash E request
  match st.lookup request.operationId with
  | some _ =>
    let existing ← loadAttempt st request.operationId
    require (existing.request.rail = request.rail ∧
      existing.request.providerReference = request.providerReference ∧
      existing.requestHash = hash) .requestConflict
    pure (st, some { existing with duplicate := true })
  | none =>
    require (∀ text ∈ [request.operationId, request.rail, request.providerReference, token],
      E.acceptsText text = true) .database
    require (∀ e ∈ st.rows, e.2.providerReference ≠ request.providerReference) .database
    let row : AttemptRow :=
      { rail := request.rail, providerReference := request.providerReference, requestHash := hash
        requestPayload := request.payload, status := .inFlight, attemptToken := token, attempts := 1
        response := none, providerCode := none, lastError := none }
    pure (st.insert request.operationId row, none)

/-- The transaction of RetrySameReference, with the attempt that Get returned; the
answer is the number of the claimed attempt. -/
def claimRetry (E : Engine) (attempt : Attempt) (newToken : Bytes) (st : Attempts) :
    Except Failure (Attempts × Int) := do
  require (E.acceptsText newToken = true) .database
  let row ← expect (st.lookup attempt.request.operationId) .staleAttempt
  require (row.status = .unknown ∧ row.attemptToken = attempt.attemptToken) .staleAttempt
  require (row.attempts < maxInt8) .database
  let next := { row with
    status := .inFlight, attemptToken := newToken, attempts := row.attempts + 1 }
  pure (st.insert attempt.request.operationId next, row.attempts + 1)

def Answer.status (answer : Answer) : Status :=
  if answer.cause.isSome then .unknown
  else if answer.response.outcome = ascii "SUCCEEDED" then .succeeded
  else if answer.response.outcome = ascii "FAILED" then .failed
  else .unknown

def persistOutcome (E : Engine) (operationId token : Bytes) (answer : Answer) (st : Attempts) :
    Except Failure (Attempts × Attempt) := do
  require (E.acceptsText answer.response.providerCode = true ∧
    E.acceptsText answer.lastError = true) .database
  match st.lookup operationId with
  | none => .error .noRows
  | some row =>
    if row.attemptToken = token ∧ ¬ row.status.Final then
      let next := { row with
        status := answer.status, response := some answer.response
        providerCode := some answer.response.providerCode, lastError := some answer.lastError }
      let st := st.insert operationId next
      pure (st, ← loadAttempt st operationId)
    else
      -- a concurrent resolver may have made the same attempt final
      require (row.attemptToken = token ∧ row.status.Final) .staleAttempt
      pure (st, ← loadAttempt st operationId)

/- Workers. Between its transactions a worker holds what it read, a claim it has
committed and not yet submitted, or an answer it has not yet stored; a crash loses
any of these. -/

inductive Task where
  | retrying (attempt : Attempt)
  | claimed (request : Request) (token : Bytes) (number : Int)
  | answered (operationId token : Bytes) (answer : Answer)
  deriving DecidableEq

/-- A call of Submit, with the number of the claimed attempt it was made for. -/
structure Submission where
  request : Request
  number : Int
  deriving DecidableEq

structure World where
  attempts : Attempts
  tasks : List Task
  submissions : List Submission
  deriving DecidableEq

inductive Command where
  | start (request : Request) (token : Bytes)
  | resolve (operationId : Bytes) (answer : Answer)
  | retry (operationId : Bytes)
  | claim (task : Nat) (newToken : Bytes)
  | submit (task : Nat) (answer : Answer)
  | persist (task : Nat) (ending : Ending)
  | crash (task : Nat)
  deriving DecidableEq

def startStep (E : Engine) (rails : RailMap) (request : Request) (token : Bytes) (w : World) :
    World :=
  match claimStart E rails request token w.attempts with
  | .ok (st, none) =>
    { w with attempts := st, tasks := w.tasks ++ [.claimed (withReference E request) token 1] }
  | .ok (st, some _) => { w with attempts := st }
  | .error _ => w

/-- Resolve up to the answer of Lookup, which is asked for attempts that are not final. -/
def resolveStep (rails : RailMap) (operationId : Bytes) (answer : Answer) (w : World) : World :=
  match loadAttempt w.attempts operationId with
  | .error _ => w
  | .ok attempt =>
    if attempt.status.Final ∨ (rails.lookup attempt.request.rail).isNone then w
    else { w with tasks := w.tasks ++ [.answered operationId attempt.attemptToken answer] }

def retryStep (rails : RailMap) (operationId : Bytes) (w : World) : World :=
  match loadAttempt w.attempts operationId with
  | .error _ => w
  | .ok attempt =>
    if attempt.status = .unknown ∧
        supportsIdempotentReference rails attempt.request.rail = true then
      { w with tasks := w.tasks ++ [.retrying attempt] }
    else w

def proceed (E : Engine) (w : World) : Task → Command → World
  | .retrying attempt, .claim _ newToken =>
    match claimRetry E attempt newToken w.attempts with
    | .ok (st, number) =>
      { w with attempts := st, tasks := w.tasks ++ [.claimed attempt.request newToken number] }
    | .error _ => w
  | .claimed request token number, .submit _ answer =>
    { w with
      submissions := w.submissions ++ [⟨request, number⟩]
      tasks := w.tasks ++ [.answered request.operationId token answer] }
  | .answered operationId token answer, .persist _ ending =>
    { w with attempts := attempt (persistOutcome E operationId token answer) ending w.attempts }
  | _, _ => w

/-- A task is worked on once: whatever comes of it, its worker does not come back to it. -/
def taskStep (E : Engine) (task : Nat) (command : Command) (w : World) : World :=
  match w.tasks[task]? with
  | none => w
  | some held => proceed E { w with tasks := w.tasks.eraseIdx task } held command

def step (E : Engine) (rails : RailMap) (w : World) (command : Command) : World :=
  match command with
  | .start request token => startStep E rails request token w
  | .resolve operationId answer => resolveStep rails operationId answer w
  | .retry operationId => retryStep rails operationId w
  | .claim task _ => taskStep E task command w
  | .submit task _ => taskStep E task command w
  | .persist task _ => taskStep E task command w
  | .crash task => { w with tasks := w.tasks.eraseIdx task }

def World.empty : World := ⟨∅, [], []⟩

end PaymentPlatform.Rails
