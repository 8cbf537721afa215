import PaymentPlatform.Messaging.Publishing

/-! An event id that is enqueued again. The stored row and the new message are compared
after the headers of both went through JSON, and by a comparison of maps that reads a
missing header as the empty text. -/

namespace PaymentPlatform.Messaging

open Framing Serial

variable {E : Engine} {message first : Message} {parentExists : Bool} {now : Int}
  {st st' : Outbox E} {row : OutboxEntry E}

structure SameFields (message first : Message) : Prop where
  topic : message.topic = first.topic
  key : message.key = first.key
  payload : message.payload = first.payload
  aggregateId : message.aggregateId = first.aggregateId
  aggregateVersion : message.aggregateVersion = first.aggregateVersion
  parent : message.parentTransactionId = first.parentTransactionId

structure SameMessage (message first : Message) : Prop where
  fields : SameFields message first
  headers : ∀ name, message.headers.lookup name = first.headers.lookup name

/-- The row holds what Enqueue of a message inserted, whatever became of its status. -/
def WrittenBy (first : Message) (row : OutboxEntry E) : Prop :=
  ∃ parentExists now st st' entry, st.lookup first.eventId = none ∧
    enqueue first parentExists now st = .ok (st', ()) ∧
    st'.lookup first.eventId = some entry ∧ entry.body = row.body

/-- Nil for the same message and a conflict for any other one, without a change. -/
structure ExactRetry (message first : Message) (parentExists : Bool) (now : Int) (st : Outbox E) :
    Prop where
  nil : (∃ st', enqueue message parentExists now st = .ok (st', ())) ↔ SameMessage message first
  conflict : ¬ SameMessage message first →
    enqueue message parentExists now st = .error .payloadConflict
  kept : ∀ st', enqueue message parentExists now st = .ok (st', ()) → st' = st

/-- The headers once they went through JSON: what is no valid UTF-8 is replaced. -/
def asWritten (headers : Table Bytes Bytes) : Table Bytes Bytes :=
  (Json.unmarshalTextMap (Json.write (Json.textMap headers))).getD ∅

/-- As many headers, and each reads in the other map as here; one that is missing there
reads as the empty text. -/
def Alike (a b : Table Bytes Bytes) : Prop :=
  a.rows.length = b.rows.length ∧
    ∀ name value, a.lookup name = some value → (b.lookup name).getD [] = value

/-- The database reads the values of another message, and its headers are told apart. -/
def ToldApart (E : Engine) (message first : Message) : Prop :=
  ¬ SameMessage message first →
    (∃ body, outboxValues E message = .ok body) ∧
      (SameFields message first → ¬ Alike (asWritten first.headers) (asWritten message.headers))

theorem signed64_injective {a b : UInt64} (same : signed64 a = signed64 b) : a = b := by
  have := a.toNat_lt
  have := b.toNat_lt
  unfold signed64 at same
  refine UInt64.toNat_inj.mp ?_
  split at same <;> split at same <;> omega

theorem equalHeaders_iff {a b : Table Bytes Bytes} : equalHeaders a b = true ↔ Alike a b := by
  simp only [equalHeaders, Bool.and_eq_true, decide_eq_true_eq, List.all_eq_true, Alike]
  refine and_congr_right fun _ => ⟨fun all name value found => ?_, fun all e member => ?_⟩
  · exact all (name, value) ((AList.mem_rows _ _ _).mpr found)
  · exact all e.1 e.2 ((AList.mem_rows _ _ _).mp member)

theorem Alike.of_same {a b : Table Bytes Bytes} (same : ∀ name, a.lookup name = b.lookup name) :
    Alike a b := by
  refine ⟨(AList.rows_perm same).length_eq, fun name value found => ?_⟩
  rw [← same, found, Option.getD_some]

theorem unmarshalHeaders_written (headers : Table Bytes Bytes) :
    Json.unmarshalTextMap (Json.write (Json.textMap headers)) = some (asWritten headers) := by
  obtain ⟨members, same, texts, _, legal⟩ := Json.textMap_texts headers
  have parsed : Json.parse (Json.write (.object members)) = some (.object members) :=
    Json.parse_write (legal 9999)
  obtain ⟨written, decoded, _⟩ := texts.unmarshal (legal 0)
  rw [asWritten, same, Json.unmarshalTextMap_object parsed, decoded]
  rfl

theorem outboxValues_error {failure : OutboxFailure}
    (failed : outboxValues E message = .error failure) : failure = .database := by
  simp only [outboxValues, bind_error, expect_error, require_error] at failed
  rcases failed with ⟨_, same⟩ | ⟨_, _, ⟨_, same⟩ | ⟨_, _, impossible⟩⟩
  · exact same.symm
  · exact same.symm
  · cases impossible

theorem outboxValues_ok {body : OutboxRow E} (read : outboxValues E message = .ok body) :
    ∃ headers, E.parseJsonb (Json.write (Json.textMap message.headers)) = some headers ∧
      body = bodyOf message headers := by
  simp only [outboxValues, steps_ok] at read
  obtain ⟨headers, parsed, _, _, rfl⟩ := read
  exact ⟨headers, parsed, rfl⟩

theorem WrittenBy.values (written : WrittenBy first row) : outboxValues E first = .ok row.body := by
  obtain ⟨parentExists, now, st, st', entry, fresh, done, found, same⟩ := written
  simp only [enqueue, fresh, steps_ok, insertOutbox] at done
  obtain ⟨_, _, body, read, _, _, _, _, _, _, rfl, _⟩ := done
  rw [AList.lookup_insert] at found
  rw [read, ← same, ← Option.some.inj found]
  rfl

theorem SameMessage.values (same : SameMessage message first)
    (eventId : message.eventId = first.eventId) :
    outboxValues E message = outboxValues E first := by
  obtain ⟨⟨topic, key, payload, aggregateId, version, parent⟩, headers⟩ := same
  unfold outboxValues bodyOf
  rw [Json.textMap_congr headers, topic, key, payload, aggregateId, version, parent, eventId]

theorem SameMessage.alike (same : SameMessage message first) :
    Alike (asWritten first.headers) (asWritten message.headers) := by
  refine Alike.of_same fun name => ?_
  rw [asWritten, asWritten, Json.textMap_congr same.headers]

theorem parent_getD (message : Message) (headers : E.Jsonb) :
    (bodyOf message headers).parentTransactionId.getD [] = message.parentTransactionId := by
  unfold bodyOf
  split
  · rename_i empty
    exact empty.symm
  · rfl

/-- For values that the database reads, Enqueue compares the fields and the written
headers, and nothing else. -/
theorem enqueue_compares (reads : Payment.ReadsBack E) (valid : message.Valid)
    (found : st.lookup message.eventId = some row) (written : WrittenBy first row)
    {body : OutboxRow E} (read : outboxValues E message = .ok body) :
    (enqueue message parentExists now st = .ok (st, ()) ∧ SameFields message first ∧
        Alike (asWritten first.headers) (asWritten message.headers)) ∨
      (enqueue message parentExists now st = .error .payloadConflict ∧ ¬ (SameFields message first ∧
          Alike (asWritten first.headers) (asWritten message.headers))) := by
  obtain ⟨headers, parsed, stored⟩ := outboxValues_ok written.values
  obtain ⟨headers', _, rfl⟩ := outboxValues_ok read
  obtain ⟨_, back, own⟩ := unmarshalHeaders_stored reads parsed
  cases own.symm.trans (unmarshalHeaders_written first.headers)
  have incoming := unmarshalHeaders_written message.headers
  have compared : (row.body.topic = message.topic ∧ row.body.messageKey = message.key ∧
      row.body.payload = message.payload ∧ row.body.aggregateId = message.aggregateId ∧
      row.body.aggregateVersion = signed64 message.aggregateVersion ∧
      row.body.parentTransactionId.getD [] = message.parentTransactionId ∧
      equalHeaders (asWritten first.headers) (asWritten message.headers) = true) ↔
      SameFields message first ∧ Alike (asWritten first.headers) (asWritten message.headers) := by
    rw [equalHeaders_iff, stored, parent_getD]
    constructor
    · rintro ⟨topic, key, payload, aggregateId, version, parent, alike⟩
      exact ⟨⟨topic.symm, key.symm, payload.symm, aggregateId.symm,
        (signed64_injective version).symm, parent.symm⟩, alike⟩
    · rintro ⟨⟨topic, key, payload, aggregateId, version, parent⟩, alike⟩
      exact ⟨topic.symm, key.symm, payload.symm, aggregateId.symm, by rw [version]; rfl, parent.symm,
        alike⟩
  by_cases same : SameFields message first ∧
      Alike (asWritten first.headers) (asWritten message.headers)
  · refine .inl ⟨?_, same⟩
    simp only [enqueue, found, steps_ok]
    exact ⟨(), valid, _, read, _, by rw [stored]; exact back, _, incoming, (), compared.mpr same,
      trivial⟩
  · refine .inr ⟨?_, same⟩
    simp only [enqueue, found, bind_error, require_error, expect_error, require_ok, expect_ok]
    exact .inr ⟨(), valid, .inr ⟨_, read, .inr ⟨_, by rw [stored]; exact back, .inr ⟨_, incoming,
      .inl ⟨fun agrees => same (compared.mp agrees), trivial⟩⟩⟩⟩⟩

/-- For every message and every row that another one wrote under its event id: Enqueue
answers nil just for the same message and a conflict for any other, exactly where the
database can read the values of the other message, and its headers are not taken for
those of the first. -/
theorem retries_are_exact_iff (reads : Payment.ReadsBack E) (message first : Message)
    (valid : message.Valid) (eventId : message.eventId = first.eventId) (parentExists : Bool)
    (now : Int) (st : Outbox E) (row : OutboxEntry E)
    (found : st.lookup message.eventId = some row) (written : WrittenBy first row) :
    ExactRetry message first parentExists now st ↔ ToldApart E message first := by
  cases read : outboxValues E message with
  | error =>
    cases outboxValues_error read
    have refused : enqueue message parentExists now st = .error .database := by
      simp only [enqueue, found, bind_error, require_ok]
      exact .inr ⟨(), valid, .inl read⟩
    have other : ¬ SameMessage message first := by
      intro same
      rw [same.values eventId, written.values] at read
      cases read
    constructor
    · intro exact_
      have conflict := exact_.conflict other
      rw [refused] at conflict
      cases conflict
    · intro apart
      obtain ⟨⟨body, impossible⟩, _⟩ := apart other
      rw [read] at impossible
      cases impossible
  | ok body =>
    rcases enqueue_compares reads valid found written read with
      ⟨accepted, fields, alike⟩ | ⟨refused, differs⟩
    · constructor
      · intro exact_ other
        exact absurd (exact_.nil.mp ⟨st, accepted⟩) other
      · intro apart
        have same : SameMessage message first := by
          by_contra other
          exact (apart other).2 fields alike
        refine ⟨⟨fun _ => same, fun _ => ⟨st, accepted⟩⟩, absurd same, fun st' done => ?_⟩
        rw [accepted] at done
        cases done
        rfl
    · have other : ¬ SameMessage message first := fun same => differs ⟨same.fields, same.alike⟩
      constructor
      · exact fun _ _ => ⟨⟨body, read⟩, fun fields alike => differs ⟨fields, alike⟩⟩
      · intro _
        have never : ∀ st', enqueue message parentExists now st ≠ .ok (st', ()) := by
          intro st' done
          rw [refused] at done
          cases done
        refine ⟨⟨?_, fun same => absurd same other⟩, fun _ => refused, fun st' done =>
          absurd done (never st')⟩
        rintro ⟨st', done⟩
        exact absurd done (never st')

/- Messages with one empty header. -/

def headed (name : String) : Message :=
  { eventId := ascii "e1", topic := ascii "t", key := [], payload := ascii "p"
    headers := (∅ : Table Bytes Bytes).insert (ascii name) []
    aggregateId := ascii "a", aggregateVersion := 1, parentTransactionId := [] }

def headedEntry (name : String) : OutboxEntry sampleEngine :=
  .fresh (bodyOf (headed name) (Json.write (Json.textMap (headed name).headers))) 0

theorem headed_values (name payload : String) :
    let message := { headed name with payload := ascii payload }
    outboxValues sampleEngine message =
      .ok (bodyOf message (Json.write (Json.textMap message.headers))) := by
  intro message
  have texts : ∀ text ∈ [ascii "e1", ascii "t", ascii "a"] ++ (none : Option Bytes).toList,
      sampleEngine.acceptsText text = true := by decide
  simp only [outboxValues, steps_ok]
  exact ⟨_, rfl, (), texts, rfl⟩

theorem headed_written (name : String) : WrittenBy (headed name) (headedEntry name) := by
  have valid : (headed name).Valid := by simp [Message.Valid, headed, ascii]
  refine ⟨false, 0, ∅, (∅ : Outbox sampleEngine).insert (ascii "e1") (headedEntry name),
    headedEntry name, rfl, ?_, AList.lookup_insert _, rfl⟩
  have fresh : (∅ : Outbox sampleEngine).lookup (headed name).eventId = none := rfl
  simp only [enqueue, fresh, insertOutbox, bind_ok, require_ok]
  exact ⟨(), valid, _, headed_values name "p", (), show (0 : Int) ≤ 1 by decide, (),
    fun named => absurd rfl named, (), trivial, rfl⟩

def reworded : Message := { headed "x" with payload := ascii "q" }

/-- The same message again, and one with another payload. -/
theorem sample_retries_are_exact :
    let stored := (∅ : Outbox sampleEngine).insert (ascii "e1") (headedEntry "x")
    ExactRetry (headed "x") (headed "x") false 0 stored ∧
      enqueue reworded false 0 stored = .error .payloadConflict := by
  intro stored
  have exactly := fun message valid eventId found => retries_are_exact_iff
    Payment.sample_reads_back message (headed "x") valid eventId false 0 stored (headedEntry "x")
    found (headed_written "x")
  have differs : ¬ SameFields reworded (headed "x") := by
    intro same
    have payloads := same.payload
    revert payloads
    decide
  refine ⟨(exactly (headed "x") (by decide) rfl (AList.lookup_insert _)).mpr ?_,
    ((exactly reworded (by decide) rfl (AList.lookup_insert _)).mpr
      fun _ => ⟨⟨_, headed_values "x" "q"⟩, ?_⟩).conflict ?_⟩
  · exact fun other => absurd ⟨⟨rfl, rfl, rfl, rfl, rfl, rfl⟩, fun _ => rfl⟩ other
  · exact fun same => absurd same differs
  · exact fun same => differs same.fields

/-- A header x and a header y, both empty: Enqueue takes the second message for the
first. -/
theorem other_header_is_accepted :
    (headed "y").Valid ∧ WrittenBy (headed "x") (headedEntry "x") ∧
    ¬ SameMessage (headed "y") (headed "x") ∧
    ∃ st', enqueue (headed "y") false 0
      ((∅ : Outbox sampleEngine).insert (ascii "e1") (headedEntry "x")) = .ok (st', ()) := by
  refine ⟨by decide, headed_written "x", fun same => ?_, ?_⟩
  · have names := same.headers (ascii "y")
    revert names
    decide
  · have alike : Alike (asWritten (headed "x").headers) (asWritten (headed "y").headers) := by
      rw [← equalHeaders_iff]
      decide +kernel
    have fields : SameFields (headed "y") (headed "x") := ⟨rfl, rfl, rfl, rfl, rfl, rfl⟩
    rcases enqueue_compares Payment.sample_reads_back (by decide) (AList.lookup_insert _)
      (headed_written "x") (headed_values "y" "p") with ⟨accepted, _⟩ | ⟨_, differs⟩
    · exact ⟨_, accepted⟩
    · exact absurd ⟨fields, alike⟩ differs

end PaymentPlatform.Messaging
