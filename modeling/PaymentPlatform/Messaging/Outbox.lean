import PaymentPlatform.Database
import PaymentPlatform.Lib.JsonMaps
import PaymentPlatform.Messaging.Inbox

/-! internal/messaging/outbox.go and publisher.go over outbox_messages (migration 003):
the services insert rows, and any number of Publisher.RunOnce loops claim, publish and
mark them. The broker and the clock are inputs, and a transaction may abort or commit
without an acknowledgement. Times are microseconds, durations nanoseconds. -/

namespace PaymentPlatform.Messaging

open Framing Serial

inductive OutboxStatus where
  | pending
  | publishing
  | published
  | poison
  deriving DecidableEq, Repr

structure OutboxEntry (E : Engine) where
  body : OutboxRow E
  status : OutboxStatus
  attempts : Int
  availableAt : Int
  lockedBy : Option Bytes
  lockedUntil : Option Int
  lastError : Option Bytes
  createdAt : Int
  publishedAt : Option Int

abbrev Outbox (E : Engine) := Table Bytes (OutboxEntry E)

inductive OutboxFailure where
  | invalidMessage
  | payloadConflict
  | leaseLost
  | database
  deriving DecidableEq, Repr

variable {E : Engine}

def signed64 (value : UInt64) : Int :=
  if value.toNat < 2 ^ 63 then value.toNat else value.toNat - 2 ^ 64

def bodyOf (message : Message) (headers : E.Jsonb) : OutboxRow E :=
  { topic := message.topic
    messageKey := message.key
    payload := message.payload
    headers := headers
    aggregateId := message.aggregateId
    aggregateVersion := signed64 message.aggregateVersion
    parentTransactionId :=
      if message.parentTransactionId = [] then none else some message.parentTransactionId }

def OutboxEntry.fresh (body : OutboxRow E) (now : Int) : OutboxEntry E :=
  { body := body, status := .pending, attempts := 0, availableAt := now, lockedBy := none
    lockedUntil := none, lastError := none, createdAt := now, publishedAt := none }

/-- The values of an INSERT, once the database has read them; a nil map of headers is read back
as the empty one. -/
def outboxValues (E : Engine) (message : Message) : Except OutboxFailure (OutboxRow E) := do
  let headers ← expect (E.parseJsonb (Json.write (Json.textMap message.headers))) .database
  let body := bodyOf message headers
  require (∀ text ∈ [message.eventId, message.topic, message.aggregateId] ++
    body.parentTransactionId.toList, E.acceptsText text = true) .database
  return body

/-- INSERT INTO outbox_messages as the services write it, without Validate; the input
`parentExists` is the answer of the foreign key. -/
def insertOutbox (message : Message) (parentExists : Bool) (now : Int) (st : Outbox E) :
    Except OutboxFailure (Outbox E × Unit) := do
  let body ← outboxValues E message
  require (0 ≤ body.aggregateVersion) .database
  require (body.parentTransactionId ≠ none → parentExists = true) .database
  require (st.lookup message.eventId = none) .database
  return (st.insert message.eventId (.fresh body now), ())

/-- A key that the second map lacks reads as the empty text. -/
def equalHeaders (a b : Table Bytes Bytes) : Bool :=
  a.rows.length = b.rows.length && a.rows.all fun e => (b.lookup e.1).getD [] = e.2

/-- Enqueue: an identical retry is harmless. The conversion of the version to int64 and
back always gives the same version, so its check never fails. -/
def enqueue (message : Message) (parentExists : Bool) (now : Int) (st : Outbox E) :
    Except OutboxFailure (Outbox E × Unit) := do
  require message.Valid .invalidMessage
  match st.lookup message.eventId with
  | none => insertOutbox message parentExists now st
  | some stored =>
    let body ← outboxValues E message
    let kept ← expect (Json.unmarshalTextMap (E.jsonbText stored.body.headers)) .database
    let incoming ← expect (Json.unmarshalTextMap (Json.write (Json.textMap message.headers))) .database
    require (stored.body.topic = body.topic ∧ stored.body.messageKey = body.messageKey ∧
      stored.body.payload = body.payload ∧ stored.body.aggregateId = body.aggregateId ∧
      stored.body.aggregateVersion = body.aggregateVersion ∧
      stored.body.parentTransactionId.getD [] = message.parentTransactionId ∧
      equalHeaders kept incoming = true) .payloadConflict
    return (st, ())

structure ClaimedMessage where
  message : Message
  attempts : Int
  owner : Bytes
  deadline : Int

def unsigned64 (value : Int) : UInt64 := UInt64.ofNat (value % 2 ^ 64).toNat

def claimedMessage (owner : Bytes) (deadline : Int) (eventId : Bytes) (row : OutboxEntry E) :
    Except OutboxFailure ClaimedMessage := do
  let headers ← expect (Json.unmarshalTextMap (E.jsonbText row.body.headers)) .database
  let message : Message :=
    { eventId := eventId
      topic := row.body.topic
      key := row.body.messageKey
      payload := row.body.payload
      headers := headers
      aggregateId := row.body.aggregateId
      aggregateVersion := unsigned64 row.body.aggregateVersion
      parentTransactionId := row.body.parentTransactionId.getD [] }
  return ⟨message, row.attempts + 1, owner, deadline⟩

def OutboxEntry.due (row : OutboxEntry E) (now : Int) : Bool :=
  match row.status with
  | .pending => row.availableAt ≤ now
  | .publishing => row.lockedUntil.any (· < now)
  | _ => false

/-- ORDER BY available_at, created_at, event_id. -/
def claimOrder (a b : Bytes × OutboxEntry E) : Prop :=
  a.2.availableAt < b.2.availableAt ∨ a.2.availableAt = b.2.availableAt ∧
    (a.2.createdAt < b.2.createdAt ∨ a.2.createdAt = b.2.createdAt ∧ a.1 ≤ b.1)
  deriving Decidable

/-- The rows that other transactions hold locked are skipped. -/
def candidates (now : Int) (locked : List Bytes) (limit : Nat) (st : Outbox E) :
    List (Bytes × OutboxEntry E) :=
  ((st.rows.filter fun e => e.2.due now && e.1 ∉ locked).insertionSort claimOrder).take limit

def OutboxEntry.leased (row : OutboxEntry E) (owner : Bytes) (deadline : Int) : OutboxEntry E :=
  { row with
    status := .publishing
    lockedBy := some owner
    lockedUntil := some deadline
    attempts := row.attempts + 1 }

def claim (owner : Bytes) (limit lease now : Int) (locked : List Bytes) (st : Outbox E) :
    Except OutboxFailure (Outbox E × List ClaimedMessage) := do
  require (owner ≠ [] ∧ 0 < limit ∧ 0 < lease) .invalidMessage
  let leaseMicros := lease / 1000
  require (0 < leaseMicros) .invalidMessage
  require (E.acceptsText owner = true) .database
  let chosen := candidates now locked limit.toNat st
  require (∀ e ∈ chosen, e.2.attempts < maxInt8) .database
  let claimed ← chosen.mapM fun e => claimedMessage owner (now + leaseMicros) e.1 e.2
  return (chosen.foldl (fun st e => st.insert e.1 (e.2.leased owner (now + leaseMicros))) st, claimed)

def updateLease (eventId owner : Bytes) (change : OutboxEntry E → OutboxEntry E) (st : Outbox E) :
    Except OutboxFailure (Outbox E × Unit) := do
  let row ← expect (st.lookup eventId) .leaseLost
  require (row.status = .publishing ∧ row.lockedBy = some owner) .leaseLost
  return (st.insert eventId (change row), ())

def markPublished (eventId owner : Bytes) (now : Int) (st : Outbox E) :
    Except OutboxFailure (Outbox E × Unit) := do
  require (eventId ≠ [] ∧ owner ≠ []) .invalidMessage
  updateLease eventId owner (fun row => { row with
    status := .published
    publishedAt := some now
    lockedBy := none
    lockedUntil := none
    lastError := none }) st

def markFailed (eventId owner cause : Bytes) (maxAttempts backoff now : Int) (st : Outbox E) :
    Except OutboxFailure (Outbox E × Unit) := do
  require (0 < maxAttempts ∧ 0 ≤ backoff) .invalidMessage
  require (E.acceptsText (truncateError cause) = true) .database
  updateLease eventId owner (fun row => { row with
    status := if maxAttempts ≤ row.attempts then .poison else .pending
    availableAt := now + backoff / 1000
    lockedBy := none
    lockedUntil := none
    lastError := some (truncateError cause) }) st

structure Publisher where
  owner : Bytes
  batchSize : Int
  lease : Int
  maxAttempts : Int
  backoff : Option (Int → Int)

def Publisher.batch (p : Publisher) : Int := if p.batchSize ≤ 0 then 100 else p.batchSize

def Publisher.leaseTime (p : Publisher) : Int := if p.lease ≤ 0 then 30000000000 else p.lease

def Publisher.attemptLimit (p : Publisher) : Int := if p.maxAttempts ≤ 0 then 20 else p.maxAttempts

/-- Only an invalid message has a limit; `int(^uint(0) >> 1)` stands for none. -/
def Publisher.failureLimit (p : Publisher) (invalid : Bool) : Int :=
  if invalid then p.attemptLimit else maxInt8

def Publisher.backoffTime (p : Publisher) (attempts : Int) : Int :=
  match p.backoff with
  | some backoff => backoff attempts
  | none => 1000000000

/-- What Producer.Publish returns; `invalid` is errors.Is(err, ErrInvalidMessage). -/
inductive Publication where
  | sent
  | failed (cause : Bytes) (invalid : Bool)
  deriving DecidableEq

inductive LoopPhase where
  | ready
  | delivered
  | failing (cause : Bytes) (invalid : Bool)
  deriving DecidableEq

/-- A loop over RunOnce with what is left of its batch; a crash is a loop that takes no
further step, and a restart is a new loop. -/
structure Loop where
  publisher : Publisher
  batch : List ClaimedMessage
  phase : LoopPhase

/-- `sent` lists the events for which some Publish call returned success. -/
structure Publishing (E : Engine) where
  outbox : Outbox E
  sent : List Bytes
  loops : List Loop

inductive PublishCommand where
  | insert (message : Message) (parentExists : Bool) (now : Int)
  | enqueue (message : Message) (parentExists : Bool) (now : Int)
  | join (publisher : Publisher)
  | claim (index : Nat) (now : Int) (locked : List Bytes) (ending : Ending)
  | publish (index : Nat) (result : Publication)
  | mark (index : Nat) (now : Int) (ending : Ending)

def Publishing.put (w : Publishing E) (index : Nat) (loop : Loop) : Publishing E :=
  { w with loops := w.loops.set index loop }

def claimStep (w : Publishing E) (index : Nat) (loop : Loop) (now : Int) (locked : List Bytes)
    (ending : Ending) : Publishing E :=
  match claim loop.publisher.owner loop.publisher.batch loop.publisher.leaseTime now locked
      w.outbox with
  | .error _ => w
  | .ok (outbox, claimed) =>
    match ending with
    | .acknowledged => { w with outbox := outbox }.put index { loop with batch := claimed }
    | .unacknowledged => { w with outbox := outbox }
    | .aborted => w

def markTx (publisher : Publisher) (item : ClaimedMessage) (phase : LoopPhase) (now : Int) :
    Outbox E → Except OutboxFailure (Outbox E × Unit) :=
  match phase with
  | .failing cause invalid => markFailed item.message.eventId publisher.owner cause
      (publisher.failureLimit invalid) (publisher.backoffTime item.attempts) now
  | _ => markPublished item.message.eventId publisher.owner now

/-- RunOnce goes on with the next message whatever the transaction returns. -/
def markStep (w : Publishing E) (index : Nat) (loop : Loop) (item : ClaimedMessage)
    (rest : List ClaimedMessage) (now : Int) (ending : Ending) : Publishing E :=
  let outbox := match ending with
    | .aborted => w.outbox
    | _ => commit (markTx loop.publisher item loop.phase now) w.outbox
  { w with outbox := outbox }.put index { loop with batch := rest, phase := .ready }

def loopStep (w : Publishing E) (index : Nat) (loop : Loop) (command : PublishCommand) :
    Publishing E :=
  match loop.batch, loop.phase, command with
  | [], .ready, .claim _ now locked ending => claimStep w index loop now locked ending
  | item :: _, .ready, .publish _ .sent =>
    { w with sent := w.sent ++ [item.message.eventId] }.put index { loop with phase := .delivered }
  | _ :: _, .ready, .publish _ (.failed cause invalid) =>
    w.put index { loop with phase := .failing cause invalid }
  | item :: rest, .delivered, .mark _ now ending => markStep w index loop item rest now ending
  | item :: rest, .failing _ _, .mark _ now ending => markStep w index loop item rest now ending
  | _, _, _ => w

def atLoop (w : Publishing E) (index : Nat) (command : PublishCommand) : Publishing E :=
  match w.loops[index]? with
  | none => w
  | some loop => loopStep w index loop command

def publishStep (w : Publishing E) (command : PublishCommand) : Publishing E :=
  match command with
  | .insert message parentExists now =>
    { w with outbox := commit (insertOutbox message parentExists now) w.outbox }
  | .enqueue message parentExists now =>
    { w with outbox := commit (enqueue message parentExists now) w.outbox }
  | .join publisher => { w with loops := w.loops ++ [⟨publisher, [], .ready⟩] }
  | .claim index _ _ _ | .publish index _ | .mark index _ _ => atLoop w index command

def Publishing.empty : Publishing E := ⟨∅, [], []⟩

end PaymentPlatform.Messaging
