import PaymentPlatform.Ledger.Types

/-! internal/messaging/inbox.go: the durable inbox (transport_inbox_messages,
migration 003). Process is two transactions: the handler's effect with the APPLIED
marker, and after a failed handler the record of the failure. The handler's outcome
is an input; what it wrote is an effect that commits or rolls back with its
transaction. Timestamps are left out: nothing reads them. -/

namespace PaymentPlatform.Messaging

open Framing Serial

structure Message where
  eventId : Bytes
  topic : Bytes
  key : Bytes
  payload : Bytes
  headers : Table Bytes Bytes
  aggregateId : Bytes
  aggregateVersion : UInt64
  parentTransactionId : Bytes
  deriving DecidableEq

def Message.Valid (m : Message) : Prop :=
  m.eventId ≠ [] ∧ m.topic ≠ [] ∧ m.aggregateId ≠ [] ∧ m.payload ≠ []
  deriving Decidable

def writeHashBytes (value : Bytes) : Bytes := bigEndian 8 value.length ++ value

def hashMessage (E : Engine) (m : Message) : Digest :=
  let headers := m.headers.rows.insertionSort fun a b => a.1 ≤ b.1
  E.sha256 (ascii "payment-platform/transport-message/v1" ++ [0] ++
    [m.eventId, m.topic, m.aggregateId, m.parentTransactionId].flatMap writeHashBytes ++
    bigEndian 8 m.aggregateVersion.toNat ++ writeHashBytes m.key ++ writeHashBytes m.payload ++
    bigEndian 8 headers.length ++
    headers.flatMap fun e => writeHashBytes e.1 ++ writeHashBytes e.2)

inductive Status where
  | processing
  | failed
  | applied
  | poison
  deriving DecidableEq, Repr

structure InboxRow where
  payloadHash : Digest
  status : Status
  attempts : Int
  lastError : Option Bytes
  result : Option Bytes
  deriving DecidableEq

abbrev Key := Bytes × Bytes

/-- The inbox, and the keys of the committed handler effects in commit order. -/
structure Store where
  inbox : Table Key InboxRow
  effects : List Key
  deriving DecidableEq

inductive Failure where
  | invalidMessage
  | payloadConflict
  | database
  | handler (cause : Bytes)
  deriving DecidableEq, Repr

structure ProcessResult where
  duplicate : Bool
  poison : Bool
  result : Option Bytes
  deriving DecidableEq, Repr

abbrev Handled := Except Bytes (Option Bytes)

/-- The row that INSERT … ON CONFLICT DO NOTHING leaves behind. -/
def InboxRow.fresh (hash : Digest) : InboxRow :=
  { payloadHash := hash, status := .processing, attempts := 0, lastError := none, result := none }

/-- Process, the transaction with the handler in it. -/
def processTx (E : Engine) (consumer : Bytes) (message : Message) (handled : Handled)
    (st : Store) : Except Failure (Store × ProcessResult) := do
  require (consumer ≠ [] ∧ message.eventId ≠ [] ∧ message.payload ≠ []) .invalidMessage
  require (E.acceptsText consumer = true ∧ E.acceptsText message.eventId = true) .database
  let hash := hashMessage E message
  let key := (consumer, message.eventId)
  let row := (st.inbox.lookup key).getD (.fresh hash)
  require (row.payloadHash = hash) .payloadConflict
  match row.status with
  | .applied => pure (st, ⟨true, false, row.result⟩)
  | .poison => pure (st, ⟨false, true, none⟩)
  | .failed | .processing =>
    match handled with
    | .error cause => .error (.handler cause)
    | .ok result =>
      require (row.attempts < maxInt8) .database
      let next := { row with
        status := .applied, attempts := row.attempts + 1, result := result, lastError := none }
      pure (⟨st.inbox.insert key next, st.effects ++ [key]⟩, ⟨false, false, result⟩)

/-- The MaxAttempts of a consumer as Process reads it. -/
def effectiveAttempts (maxAttempts : Int) : Int :=
  if maxAttempts ≤ 0 then 10 else maxAttempts

def truncateError (value : Bytes) : Bytes := value.take 2048

/-- recordFailure; the answer is whether the message is POISON. -/
def recordFailure (E : Engine) (consumer messageId : Bytes) (hash : Digest) (cause : Bytes)
    (maxAttempts : Int) (st : Store) : Except Failure (Store × Bool) := do
  let text := truncateError cause
  require (∀ t ∈ [consumer, messageId, text], E.acceptsText t = true) .database
  match st.inbox.lookup (consumer, messageId) with
  | none =>
    let status := if maxAttempts ≤ 1 then Status.poison else .failed
    let row : InboxRow :=
      { payloadHash := hash, status := status, attempts := 1, lastError := some text
        result := none }
    pure ({ st with inbox := st.inbox.insert (consumer, messageId) row }, status = .poison)
  | some row =>
    if row.status = .applied then
      -- a concurrent successful application won
      pure (st, false)
    else
      require (row.attempts < maxInt8) .database
      let status := if maxAttempts ≤ row.attempts + 1 then Status.poison else .failed
      let next := { row with
        status := status, attempts := row.attempts + 1, lastError := some text }
      pure ({ st with inbox := st.inbox.insert (consumer, messageId) next }, status = .poison)

end PaymentPlatform.Messaging
