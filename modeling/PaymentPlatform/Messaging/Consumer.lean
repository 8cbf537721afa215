import PaymentPlatform.Messaging.Inbox

/-! internal/messaging/kafka.go: decoding a record, the loop of KafkaConsumer.Run over
the records of a poll, and any number of such loops, and of direct callers of
Inbox.Process, over one inbox. The broker and the dead-letter producer are inputs: a
poll may deliver any records, and every call to them may fail. -/

namespace PaymentPlatform.Messaging

open Framing Serial

structure Record where
  topic : Bytes
  partition : Int
  offset : Int
  key : Bytes
  value : Bytes
  headers : List (Bytes × Bytes)
  deriving DecidableEq

/-- strconv.ParseUint(text, 10, 64). -/
def parseUint (text : Bytes) : Option UInt64 :=
  if text ≠ [] ∧ text.all fun c => 48 ≤ c ∧ c ≤ 57 then
    let value := text.foldl (fun acc c => acc * 10 + (c.toNat - 48)) 0
    if value < 2 ^ 64 then some (UInt64.ofNat value) else none
  else none

/-- The map of the record's headers, unless a header is repeated. -/
def headerMap : List (Bytes × Bytes) → Table Bytes Bytes → Except Failure (Table Bytes Bytes)
  | [], headers => pure headers
  | (name, value) :: rest, headers => do
    require (headers.lookup name = none) .invalidMessage
    headerMap rest (headers.insert name value)

def decodeRecord (record : Record) : Except Failure Message := do
  require (record.topic ≠ [] ∧ record.value ≠ []) .invalidMessage
  let headers ← headerMap record.headers ∅
  let header := fun name => (headers.lookup (ascii name)).getD []
  let version ← expect (parseUint (header "aggregate_version")) .invalidMessage
  let rest := ["event_id", "aggregate_id", "aggregate_version", "parent_transaction_id"].foldl
    (fun t name => t.erase (ascii name)) headers
  let message : Message :=
    { eventId := header "event_id", topic := record.topic, key := record.key
      payload := record.value, headers := rest, aggregateId := header "aggregate_id"
      aggregateVersion := version, parentTransactionId := header "parent_transaction_id" }
  require message.Valid .invalidMessage
  pure message

structure Consumer where
  name : Bytes
  dlqTopic : Bytes
  deriving DecidableEq

def corruptRecordDLQ (consumer : Consumer) (record : Record) : Message :=
  let coordinate := record.topic ++ ascii "/" ++ decimal record.partition ++ ascii "/" ++
    decimal record.offset
  { eventId := ascii "dlq-corrupt:" ++ coordinate, topic := consumer.dlqTopic, key := record.key
    payload := if record.value = [] then ascii "<empty Kafka value>" else record.value
    headers := [("failure_class", ascii "MALFORMED_TRANSPORT_RECORD"),
      ("source_topic", record.topic), ("source_partition", decimal record.partition),
      ("source_offset", decimal record.offset)].foldl
        (fun t e => t.insert (ascii e.1) e.2) (∅ : Table Bytes Bytes)
    aggregateId := ascii "transport/" ++ coordinate, aggregateVersion := 0
    parentTransactionId := [] }

def poisonDLQ (consumer : Consumer) (message : Message) : Message :=
  { message with
    topic := consumer.dlqTopic, eventId := ascii "dlq:" ++ message.eventId
    headers := (message.headers.insert (ascii "original_event_id") message.eventId).insert
      (ascii "failure_class") (ascii "POISON") }

def deadLetter (consumer : Consumer) (record : Record) : Message :=
  match decodeRecord record with
  | .error _ => corruptRecordDLQ consumer record
  | .ok message => poisonDLQ consumer message

/- A call of Run. It holds the records of the current poll that it has not finished;
the head of the queue is the one it works on. A crash is a Run that takes no further
step. -/

inductive Phase where
  | ready
  | failing (message : Message) (cause : Bytes)
  | dead
  | settled
  | stopped
  deriving DecidableEq

structure Run where
  consumer : Consumer
  finished : List Record
  queue : List Record
  phase : Phase
  deriving DecidableEq

/-- A call of CommitRecords, with the records that this Run finished before. -/
structure Commit where
  consumer : Consumer
  before : List Record
  record : Record
  deriving DecidableEq

structure PendingFailure where
  consumer : Bytes
  message : Message
  cause : Bytes
  deriving DecidableEq

structure World where
  store : Store
  published : List Message
  commits : List Commit
  runs : List Run
  failures : List PendingFailure
  deriving DecidableEq

inductive Command where
  | call (consumer : Bytes) (message : Message) (handled : Handled)
  | recordCall (index : Nat)
  | join (consumer : Consumer)
  | poll (index : Nat) (records : List Record)
  | process (index : Nat) (handled : Handled) (acknowledged : Bool)
  | recordFailure (index : Nat) (acknowledged : Bool)
  | publish (index : Nat) (ok : Bool)
  | commitRecords (index : Nat) (ok : Bool)

def World.put (w : World) (index : Nat) (r : Run) : World :=
  { w with runs := w.runs.set index r }

def World.enter (w : World) (index : Nat) (r : Run) (phase : Phase) : World :=
  w.put index { r with phase := phase }

/-- A transaction's result reaches the caller only when its commit is acknowledged. -/
def seen (acknowledged : Bool) (phase : Phase) : Phase :=
  if acknowledged then phase else .stopped

def processStep (E : Engine) (w : World) (index : Nat) (r : Run) (record : Record)
    (handled : Handled) (acknowledged : Bool) : World :=
  match decodeRecord record with
  | .error _ => w.enter index r .dead
  | .ok message =>
    match processTx E r.consumer.name message handled w.store with
    | .ok (st, result) =>
      { w with store := st }.enter index r
        (seen acknowledged (if result.poison then .dead else .settled))
    | .error (.handler cause) => w.enter index r (.failing message cause)
    | .error _ => w.enter index r .stopped

def recordFailureStep (E : Engine) (maxAttempts : Bytes → Int) (w : World) (index : Nat) (r : Run)
    (message : Message) (cause : Bytes) (acknowledged : Bool) : World :=
  match Messaging.recordFailure E r.consumer.name message.eventId (hashMessage E message) cause
      (effectiveAttempts (maxAttempts r.consumer.name)) w.store with
  | .ok (st, poison) =>
    { w with store := st }.enter index r (seen acknowledged (if poison then .dead else .stopped))
  | .error _ => w.enter index r .stopped

def commitStep (w : World) (index : Nat) (r : Run) (record : Record) (rest : List Record)
    (ok : Bool) : World :=
  let entry : Commit := ⟨r.consumer, r.finished, record⟩
  let w := { w with commits := w.commits ++ [entry] }
  if ok then
    w.put index { r with finished := r.finished ++ [record], queue := rest, phase := .ready }
  else w.enter index r .stopped

def runStep (E : Engine) (maxAttempts : Bytes → Int) (w : World) (index : Nat) (r : Run)
    (command : Command) : World :=
  match r.phase, r.queue, command with
  | .ready, [], .poll _ records => w.put index { r with queue := records }
  | .ready, record :: _, .process _ handled acknowledged =>
    processStep E w index r record handled acknowledged
  | .failing message cause, _, .recordFailure _ acknowledged =>
    recordFailureStep E maxAttempts w index r message cause acknowledged
  | .dead, record :: _, .publish _ ok =>
    if ok then
      { w with published := w.published ++ [deadLetter r.consumer record] }.enter index r .settled
    else w.enter index r .stopped
  | .settled, record :: rest, .commitRecords _ ok => commitStep w index r record rest ok
  | _, _, _ => w

def atRun (E : Engine) (maxAttempts : Bytes → Int) (w : World) (index : Nat)
    (command : Command) : World :=
  match w.runs[index]? with
  | none => w
  | some r => runStep E maxAttempts w index r command

def callStep (E : Engine) (consumer : Bytes) (message : Message) (handled : Handled) (w : World) :
    World :=
  match processTx E consumer message handled w.store with
  | .ok (st, _) => { w with store := st }
  | .error (.handler cause) => { w with failures := w.failures ++ [⟨consumer, message, cause⟩] }
  | .error _ => w

def recordCallStep (E : Engine) (maxAttempts : Bytes → Int) (index : Nat) (w : World) : World :=
  match w.failures[index]? with
  | none => w
  | some failure =>
    { w with
      store := commit (Messaging.recordFailure E failure.consumer failure.message.eventId
        (hashMessage E failure.message) failure.cause
        (effectiveAttempts (maxAttempts failure.consumer))) w.store
      failures := w.failures.eraseIdx index }

/-- MaxAttempts is fixed for every consumer name. -/
def step (E : Engine) (maxAttempts : Bytes → Int) (w : World) (command : Command) : World :=
  match command with
  | .call consumer message handled => callStep E consumer message handled w
  | .recordCall index => recordCallStep E maxAttempts index w
  | .join consumer => { w with runs := w.runs ++ [⟨consumer, [], [], .ready⟩] }
  | .poll index _ | .process index _ _ | .recordFailure index _ | .publish index _
  | .commitRecords index _ => atRun E maxAttempts w index command

def World.empty : World := ⟨⟨∅, []⟩, [], [], [], []⟩

end PaymentPlatform.Messaging
