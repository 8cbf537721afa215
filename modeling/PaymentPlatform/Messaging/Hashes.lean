import PaymentPlatform.Messaging.Retries

/-! The string that hashMessage gives to SHA-256 tells the message, and does not depend on
the order in which the header map is ranged over. -/

namespace PaymentPlatform.Messaging

open Framing Serial

variable {message other : Message} {headers : Table Bytes Bytes} {keys : List Bytes}

/-- The part of the headers, for the keys as the range over the map collected them. -/
def headerBytes (headers : Table Bytes Bytes) (keys : List Bytes) : Bytes :=
  let keys := keys.insertionSort (· ≤ ·)
  bigEndian 8 keys.length ++ keys.flatMap fun key =>
    writeHashBytes key ++ writeHashBytes ((headers.lookup key).getD [])

def messageBytes (m : Message) (keys : List Bytes) : Bytes :=
  ascii "payment-platform/transport-message/v1" ++ [0] ++
    [m.eventId, m.topic, m.aggregateId, m.parentTransactionId].flatMap writeHashBytes ++
    bigEndian 8 m.aggregateVersion.toNat ++ writeHashBytes m.key ++ writeHashBytes m.payload ++
    headerBytes m.headers keys

/-- An order in which a range over the map may yield its keys. -/
def RangesOver (headers : Table Bytes Bytes) (keys : List Bytes) : Prop :=
  keys.Perm (headers.rows.map Prod.fst)

/-- The length of a string, a slice or a map is an int. -/
structure Message.InMemory (m : Message) : Prop where
  fields : ∀ field ∈ [m.eventId, m.topic, m.aggregateId, m.parentTransactionId, m.key, m.payload],
    field.length < 2 ^ 63
  count : m.headers.rows.length < 2 ^ 63
  headers : ∀ e ∈ m.headers.rows, e.1.length < 2 ^ 63 ∧ e.2.length < 2 ^ 63

def sortedRows (headers : Table Bytes Bytes) : List (Bytes × Bytes) :=
  headers.rows.insertionSort fun a b => a.1 ≤ b.1

theorem sortedRows_perm (headers : Table Bytes Bytes) : (sortedRows headers).Perm headers.rows :=
  List.perm_insertionSort _ _

theorem sorted_keys (order : RangesOver headers keys) :
    keys.insertionSort (· ≤ ·) = (sortedRows headers).map Prod.fst := by
  have sorted : ((sortedRows headers).map Prod.fst).Pairwise (· ≤ ·) :=
    List.pairwise_map.mpr (List.pairwise_insertionSort _ _)
  refine List.Perm.eq_of_pairwise (fun _ _ _ _ => List.le_antisymm)
    (List.pairwise_insertionSort _ _) sorted ?_
  exact (List.perm_insertionSort _ _).trans (order.trans ((sortedRows_perm headers).map _).symm)

theorem headerBytes_eq (order : RangesOver headers keys) :
    headerBytes headers keys = bigEndian 8 (sortedRows headers).length ++
      (sortedRows headers).flatMap fun e => writeHashBytes e.1 ++ writeHashBytes e.2 := by
  rw [headerBytes, sorted_keys order, List.length_map, List.flatMap_map]
  congr 1
  refine List.flatMap_congr fun e member => ?_
  rw [(AList.mem_rows headers e.1 e.2).mp ((sortedRows_perm headers).mem_iff.mp member)]
  rfl

theorem writeHashBytes_selfDelimiting :
    SelfDelimiting (fun value : Bytes => value.length < 2 ^ 63) writeHashBytes := by
  intro a b s t ha hb same
  simp only [writeHashBytes, List.append_assoc] at same
  obtain ⟨length, rest⟩ := bigEndian_selfDelimiting 8 (by omega) (by omega) same
  exact List.append_inj rest length

theorem headerRow_selfDelimiting :
    SelfDelimiting (fun e : Bytes × Bytes => e.1.length < 2 ^ 63 ∧ e.2.length < 2 ^ 63)
      fun e => writeHashBytes e.1 ++ writeHashBytes e.2 := by
  intro a b s t ha hb same
  simp only [List.append_assoc] at same
  obtain ⟨name, rest⟩ := writeHashBytes_selfDelimiting ha.1 hb.1 same
  obtain ⟨value, rest⟩ := writeHashBytes_selfDelimiting ha.2 hb.2 rest
  exact ⟨Prod.ext name value, rest⟩

theorem sortedRows_inj (memory : message.InMemory) (memory' : other.InMemory)
    (same : bigEndian 8 (sortedRows message.headers).length ++
        (sortedRows message.headers).flatMap (fun e => writeHashBytes e.1 ++ writeHashBytes e.2) =
      bigEndian 8 (sortedRows other.headers).length ++
        (sortedRows other.headers).flatMap fun e => writeHashBytes e.1 ++ writeHashBytes e.2) :
    sortedRows message.headers = sortedRows other.headers := by
  have legal : ∀ {m : Message}, m.InMemory → (sortedRows m.headers).length < 256 ^ 8 ∧
      ∀ e ∈ sortedRows m.headers, e.1.length < 2 ^ 63 ∧ e.2.length < 2 ^ 63 := by
    intro m memory
    have count := memory.count
    rw [← (sortedRows_perm m.headers).length_eq] at count
    exact ⟨by omega, fun e member => memory.headers e ((sortedRows_perm m.headers).mem_iff.mp member)⟩
  obtain ⟨length, rest⟩ :=
    bigEndian_selfDelimiting 8 (legal memory).1 (legal memory').1 same
  exact (list_selfDelimiting headerRow_selfDelimiting _ (s := []) (t := []) ⟨length, (legal memory).2⟩
    ⟨rfl, (legal memory').2⟩ (by simpa using rest)).1

/-- What hashMessage hashes is the same for every order of the header map, and two messages
of which it hashes the same bytes are the same message. -/
theorem message_bytes_determine_message (E : Engine) (message : Message) (keys : List Bytes)
    (order : RangesOver message.headers keys) :
    hashMessage E message = E.sha256 (messageBytes message keys) ∧
    (∀ keys', RangesOver message.headers keys' →
      messageBytes message keys' = messageBytes message keys) ∧
    ∀ other : Message, message.InMemory → other.InMemory → ∀ keys', RangesOver other.headers keys' →
      messageBytes message keys = messageBytes other keys' →
      message.eventId = other.eventId ∧ SameMessage message other := by
  refine ⟨?_, ?_, ?_⟩
  · rw [hashMessage, messageBytes, headerBytes_eq order]
    simp only [List.append_assoc]
    rfl
  · intro keys' order'
    rw [messageBytes, messageBytes, headerBytes_eq order', headerBytes_eq order]
  · intro other memory memory' keys' order' same
    have fields := memory.fields
    have fields' := memory'.fields
    simp only [List.forall_mem_cons, List.not_mem_nil, false_imp_iff, implies_true, and_true]
      at fields fields'
    simp only [messageBytes, headerBytes_eq order, headerBytes_eq order', List.flatMap_cons,
      List.flatMap_nil, List.append_nil, List.append_assoc] at same
    have same := List.append_cancel_left (List.append_cancel_left same)
    obtain ⟨event, same⟩ := writeHashBytes_selfDelimiting fields.1 fields'.1 same
    obtain ⟨topic, same⟩ := writeHashBytes_selfDelimiting fields.2.1 fields'.2.1 same
    obtain ⟨aggregate, same⟩ :=
      writeHashBytes_selfDelimiting fields.2.2.1 fields'.2.2.1 same
    obtain ⟨parent, same⟩ :=
      writeHashBytes_selfDelimiting fields.2.2.2.1 fields'.2.2.2.1 same
    obtain ⟨version, same⟩ := bigEndian_selfDelimiting 8 message.aggregateVersion.toNat_lt
      other.aggregateVersion.toNat_lt same
    obtain ⟨key, same⟩ :=
      writeHashBytes_selfDelimiting fields.2.2.2.2.1 fields'.2.2.2.2.1 same
    obtain ⟨payload, same⟩ :=
      writeHashBytes_selfDelimiting fields.2.2.2.2.2 fields'.2.2.2.2.2 same
    have rows := sortedRows_inj memory memory' same
    refine ⟨event, ⟨topic, key, payload, aggregate, UInt64.toNat_inj.mp version, parent⟩, ?_⟩
    intro name
    ext value
    rw [← AList.mem_rows, ← AList.mem_rows, ← (sortedRows_perm _).mem_iff, rows,
      (sortedRows_perm _).mem_iff]

/-- Two messages that differ in a header name are hashed from different strings. -/
theorem sample_message_bytes_differ :
    messageBytes (headed "x") ((headed "x").headers.rows.map Prod.fst) ≠
      messageBytes (headed "y") ((headed "y").headers.rows.map Prod.fst) := by
  have memory : ∀ name ∈ ["x", "y"], (headed name).InMemory := by
    intro name member
    constructor
    all_goals
      revert name
      decide
  intro same
  have headers := ((message_bytes_determine_message sampleEngine (headed "x") _ (.refl _)).2.2
    (headed "y") (memory "x" (by simp)) (memory "y" (by simp)) _ (.refl _) same).2.headers
  exact absurd (headers (ascii "x")) (by decide)

end PaymentPlatform.Messaging
