import PaymentPlatform.Messaging.Consumer
import PaymentPlatform.Messaging.Retries

/-! encodeRecord of internal/messaging/kafka.go, and what decodeRecord makes of its
records: the typed fields travel as headers under reserved names. -/

namespace PaymentPlatform.Messaging

open Framing Serial

variable {message : Message} {headers : Table Bytes Bytes} {name value : Bytes}

def withSchemaVersion (headers : Table Bytes Bytes) : Table Bytes Bytes :=
  if (headers.lookup (ascii "schema_version")).isSome then headers
  else headers.insert (ascii "schema_version") (ascii "1")

def recordHeaders (message : Message) : Table Bytes Bytes :=
  withSchemaVersion ((((message.headers.insert (ascii "event_id") message.eventId).insert
    (ascii "aggregate_id") message.aggregateId).insert
    (ascii "aggregate_version") (decimal message.aggregateVersion.toNat)).insert
    (ascii "parent_transaction_id") message.parentTransactionId)

/-- The broker sets the partition and the offset. -/
def encodeRecord (message : Message) : Record :=
  { topic := message.topic
    partition := 0
    offset := 0
    key := message.key
    value := message.payload
    headers := (recordHeaders message).rows.insertionSort fun a b => a.1 ≤ b.1 }

def reserved : List Bytes :=
  ["event_id", "aggregate_id", "aggregate_version", "parent_transaction_id"].map ascii

theorem foldl_digits (digits : List Nat) (small : ∀ d ∈ digits, d < 10) (start : Nat) :
    (digits.map fun d => UInt8.ofNat (48 + d)).foldl (fun acc c => acc * 10 + (c.toNat - 48)) start =
      digits.foldl (fun acc d => 10 * acc + d) start := by
  induction digits generalizing start with
  | nil => rfl
  | cons d rest ih =>
    have below := small d List.mem_cons_self
    have code : (UInt8.ofNat (48 + d)).toNat - 48 = d := by
      rw [UInt8.toNat_ofNat']
      omega
    rw [List.map_cons, List.foldl_cons, List.foldl_cons, code, Nat.mul_comm]
    exact ih (fun d' member => small d' (List.mem_cons_of_mem _ member)) _

theorem parseUint_decimal (version : UInt64) : parseUint (decimal version.toNat) = some version := by
  have digits := Json.digits_decimal version.toNat
  have read : (decimal version.toNat).foldl (fun acc c => acc * 10 + (c.toNat - 48)) 0 =
      version.toNat := by
    simp only [decimal, Int.natAbs_natCast, Int.natCast_nonneg, not_lt.mpr, if_false,
      List.nil_append]
    rw [foldl_digits _ (numeral_lt (by decide) _), numeral_value]
  have checked : decimal version.toNat ≠ [] ∧
      (decimal version.toNat).all fun c => 48 ≤ c ∧ c ≤ 57 := by
    refine ⟨digits.1, List.all_eq_true.mpr fun c member => ?_⟩
    simpa [Json.isDigit] using digits.2 c member
  rw [parseUint, if_pos checked]
  simp only [read, version.toNat_lt, if_true, UInt64.ofNat_toNat]

theorem headerMap_distinct (rows : List (Bytes × Bytes)) (distinct : (rows.map Prod.fst).Nodup)
    (fresh : ∀ e ∈ rows, headers.lookup e.1 = none) :
    headerMap rows headers = .ok (rows.foldl (fun t e => t.insert e.1 (id e.2)) headers) := by
  induction rows generalizing headers with
  | nil => rfl
  | cons e rest ih =>
    rw [List.map_cons, List.nodup_cons] at distinct
    have later : ∀ e' ∈ rest, (headers.insert e.1 e.2).lookup e'.1 = none := by
      intro e' member
      have other : e'.1 ≠ e.1 := by
        intro same
        exact distinct.1 (same ▸ List.mem_map_of_mem member)
      rw [AList.lookup_insert_ne other]
      exact fresh e' (List.mem_cons_of_mem _ member)
    simp only [headerMap, steps_ok]
    exact ⟨(), fresh e List.mem_cons_self, ih distinct.2 later⟩

theorem headerMap_sorted (t : Table Bytes Bytes) :
    ∃ read, headerMap (t.rows.insertionSort fun a b => a.1 ≤ b.1) ∅ = .ok read ∧
      ∀ name, read.lookup name = t.lookup name := by
  have sorted := t.rows.perm_insertionSort fun a b => a.1 ≤ b.1
  have distinct : ((t.rows.insertionSort fun a b => a.1 ≤ b.1).map Prod.fst).Nodup :=
    (sorted.map Prod.fst).nodup_iff.mpr t.rows_keys_nodup
  refine ⟨_, headerMap_distinct _ distinct fun _ _ => rfl, fun name => ?_⟩
  cases known : t.lookup name with
  | some =>
    exact AList.lookup_load_present id _ ∅ distinct
      (sorted.mem_iff.mpr ((AList.mem_rows _ _ _).mpr known))
  | none =>
    rw [AList.lookup_load_absent id _ ∅ fun member => ?_]
    · rfl
    · obtain ⟨e, inside, same⟩ := List.mem_map.mp member
      have found := (AList.mem_rows t e.1 e.2).mp (sorted.mem_iff.mp inside)
      rw [same, known] at found
      cases found

theorem withSchemaVersion_lookup (headers : Table Bytes Bytes) (name : Bytes) :
    (withSchemaVersion headers).lookup name = if name = ascii "schema_version" then
        some ((headers.lookup (ascii "schema_version")).getD (ascii "1"))
      else headers.lookup name := by
  unfold withSchemaVersion
  by_cases asked : name = ascii "schema_version"
  · rw [if_pos asked, asked]
    cases known : headers.lookup (ascii "schema_version") with
    | none => rw [if_neg (by decide), AList.lookup_insert]; rfl
    | some => rw [Option.isSome_some, if_pos rfl, known]; rfl
  · rw [if_neg asked]
    split
    · rfl
    · exact AList.lookup_insert_ne asked

theorem recordHeaders_other (message : Message) (other : name ∉ reserved) :
    (recordHeaders message).lookup name = (withSchemaVersion message.headers).lookup name := by
  have apart : ∀ key, key ∈ reserved → ascii "schema_version" ≠ key := by decide
  have kept : ∀ asked, asked ∉ reserved → ((((message.headers.insert (ascii "event_id")
      message.eventId).insert (ascii "aggregate_id") message.aggregateId).insert
      (ascii "aggregate_version") (decimal message.aggregateVersion.toNat)).insert
      (ascii "parent_transaction_id") message.parentTransactionId).lookup asked =
        message.headers.lookup asked := by
    intro asked outside
    simp only [reserved, List.map_cons, List.map_nil, List.mem_cons, List.not_mem_nil, or_false,
      not_or] at outside
    obtain ⟨event, aggregate, version, parent⟩ := outside
    rw [AList.lookup_insert_ne parent, AList.lookup_insert_ne version,
      AList.lookup_insert_ne aggregate, AList.lookup_insert_ne event]
  rw [recordHeaders, withSchemaVersion_lookup, withSchemaVersion_lookup, kept name other,
    kept (ascii "schema_version") fun inside => apart _ inside rfl]

theorem recordHeaders_reserved (message : Message) :
    (recordHeaders message).lookup (ascii "event_id") = some message.eventId ∧
    (recordHeaders message).lookup (ascii "aggregate_id") = some message.aggregateId ∧
    (recordHeaders message).lookup (ascii "aggregate_version") =
      some (decimal message.aggregateVersion.toNat) ∧
    (recordHeaders message).lookup (ascii "parent_transaction_id") =
      some message.parentTransactionId := by
  refine ⟨?_, ?_, ?_, ?_⟩
  · rw [recordHeaders, withSchemaVersion_lookup, if_neg (by decide),
      AList.lookup_insert_ne (by decide), AList.lookup_insert_ne (by decide),
      AList.lookup_insert_ne (by decide), AList.lookup_insert]
  · rw [recordHeaders, withSchemaVersion_lookup, if_neg (by decide),
      AList.lookup_insert_ne (by decide), AList.lookup_insert_ne (by decide), AList.lookup_insert]
  · rw [recordHeaders, withSchemaVersion_lookup, if_neg (by decide),
      AList.lookup_insert_ne (by decide), AList.lookup_insert]
  · rw [recordHeaders, withSchemaVersion_lookup, if_neg (by decide), AList.lookup_insert]

theorem lookup_eraseAll (names : List Bytes) (t : Table Bytes Bytes) (name : Bytes) :
    (names.foldl (fun t name => t.erase name) t).lookup name =
      if name ∈ names then none else t.lookup name := by
  induction names generalizing t with
  | nil => rfl
  | cons first rest ih =>
    rw [List.foldl_cons, ih]
    by_cases same : name = first
    · rw [same, AList.lookup_erase]
      simp
    · rw [AList.lookup_erase_ne same]
      simp only [List.mem_cons, same, false_or]

theorem hashMessage_congr (E : Engine) {other : Message} (eventId : message.eventId = other.eventId)
    (same : SameMessage message other) : hashMessage E message = hashMessage E other := by
  obtain ⟨⟨topic, key, payload, aggregateId, version, parent⟩, headers⟩ := same
  unfold hashMessage
  rw [AList.sort_congr headers, eventId, topic, key, payload, aggregateId, version, parent]

def Message.received (message : Message) : Message :=
  { message with headers := withSchemaVersion message.headers }

/-- A record of a valid message is decoded, wherever the broker put it, into the message it
was made of, with its schema version if it had none; so every delivery has the hash of
that message. -/
theorem records_round_trip (E : Engine) (message : Message) (valid : message.Valid)
    (unreserved : ∀ name ∈ reserved, message.headers.lookup name = none) :
    ∃ decoded, (∀ partition offset, decodeRecord { encodeRecord message with
        partition := partition, offset := offset } = .ok decoded) ∧
      decoded.eventId = message.eventId ∧ SameMessage decoded message.received ∧
      hashMessage E decoded = hashMessage E message.received := by
  obtain ⟨read, built, same⟩ := headerMap_sorted (recordHeaders message)
  obtain ⟨event, aggregate, version, parent⟩ := recordHeaders_reserved message
  have decoded : ∃ decoded : Message,
      (∀ partition offset, decodeRecord { encodeRecord message with
        partition := partition, offset := offset } = .ok decoded) ∧
      decoded.eventId = message.eventId ∧ SameFields decoded message ∧
      decoded.headers = reserved.foldl (fun t name => t.erase name) read := by
    refine ⟨⟨message.eventId, message.topic, message.key, message.payload,
      reserved.foldl (fun t name => t.erase name) read, message.aggregateId,
      message.aggregateVersion, message.parentTransactionId⟩, fun partition offset => ?_, rfl,
      ⟨rfl, rfl, rfl, rfl, rfl, rfl⟩, rfl⟩
    have number : parseUint ((read.lookup (ascii "aggregate_version")).getD []) =
        some message.aggregateVersion := by
      rw [same, version, Option.getD_some, parseUint_decimal]
    simp only [decodeRecord, steps_ok]
    refine ⟨(), ⟨valid.2.1, valid.2.2.2⟩, read, built, message.aggregateVersion, number, (), ?_⟩
    simp only [same, event, aggregate, parent, Option.getD_some]
    exact ⟨valid, rfl⟩
  obtain ⟨decoded, delivered, eventId, fields, headers⟩ := decoded
  have sameMessage : SameMessage decoded message.received := by
    refine ⟨⟨fields.topic, fields.key, fields.payload, fields.aggregateId, fields.aggregateVersion,
      fields.parent⟩, fun name => ?_⟩
    rw [headers, lookup_eraseAll]
    show _ = (withSchemaVersion message.headers).lookup name
    split
    · rename_i inside
      have apart : ∀ key ∈ reserved, key ≠ ascii "schema_version" := by decide
      rw [withSchemaVersion_lookup, if_neg (apart name inside), unreserved name inside]
    · rename_i outside
      rw [same, recordHeaders_other message outside]
  exact ⟨decoded, delivered, eventId, sameMessage, hashMessage_congr E eventId sameMessage⟩

theorem sample_records_round_trip :
    ∃ decoded, (∀ partition offset, decodeRecord { encodeRecord (headed "x") with
        partition := partition, offset := offset } = .ok decoded) ∧
      decoded.eventId = (headed "x").eventId ∧ SameMessage decoded (headed "x").received ∧
      hashMessage sampleEngine decoded = hashMessage sampleEngine (headed "x").received :=
  records_round_trip sampleEngine (headed "x") (by decide) (by decide)

end PaymentPlatform.Messaging
