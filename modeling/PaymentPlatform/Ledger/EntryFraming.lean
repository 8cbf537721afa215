import PaymentPlatform.Ledger.Hash
import PaymentPlatform.Ledger.Validation

/-! The canonical bytes of an entry in closed form: fixed-width integers and
length-prefixed fields, the lines last. No two entries have the same bytes. -/

namespace PaymentPlatform.Ledger

open Framing Serial

variable {bytes : Bytes} {index : Nat} {sequenceNo : Int} {request : PostRequest}

def Short (field : Bytes) : Prop := field.length < 2 ^ 32
  deriving Decidable

def frameLine (index : Nat) (line : Line) : Bytes :=
  writeInt64 (index + 1) ++ (prefixed line.accountId ++ (prefixed line.assetId ++
    (prefixed line.side ++ (prefixed line.memo ++ prefixed (decimal line.amountAtoms)))))

structure Line.Short (line : Line) : Prop where
  account : Ledger.Short line.accountId
  asset : Ledger.Short line.assetId
  side : Ledger.Short line.side
  memo : Ledger.Short line.memo
  amount : Ledger.Short (decimal line.amountAtoms)

def frameLines : Nat → List Line → Bytes
  | _, [] => []
  | index, line :: rest => frameLine index line ++ frameLines (index + 1) rest

def frameHeader (prevHash : Digest) (sequenceNo : Int) (request : PostRequest)
    (canonical : Bytes) : Bytes :=
  ledgerHashDomain ++ (prevHash.val ++ (writeInt64 sequenceNo ++
    (prefixed request.transactionId ++ (prefixed request.bookId ++ (prefixed request.operationId ++
    (prefixed request.effectId ++ (prefixed request.kind ++ (prefixed request.postingRuleVersion ++
    (writeInt64 request.schemaVersion.toInt ++
    (flagged prefixed request.referenceTransactionId ++ (request.requestHash.val ++
    prefixed canonical)))))))))))

structure PostRequest.Short (request : PostRequest) (canonical : Bytes) : Prop where
  transaction : Ledger.Short request.transactionId
  book : Ledger.Short request.bookId
  operation : Ledger.Short request.operationId
  effect : Ledger.Short request.effectId
  kind : Ledger.Short request.kind
  rule : Ledger.Short request.postingRuleVersion
  reference : ∀ reference ∈ request.referenceTransactionId, Ledger.Short reference
  metadata : Ledger.Short canonical
  lines : ∀ line ∈ request.lines, line.Short

theorem writeBytes_ok {field : Bytes} :
    writeBytes field = .ok bytes ↔ Short field ∧ bytes = prefixed field := by
  simp only [writeBytes, steps_ok, Short, prefixed, writeUint32]
  constructor
  · rintro ⟨_, short, rfl⟩
    exact ⟨by omega, rfl⟩
  · rintro ⟨short, rfl⟩
    exact ⟨(), by omega, rfl⟩

theorem writeReference_ok {reference : Option Bytes} : writeReference reference = .ok bytes ↔
      (∀ r ∈ reference, Short r) ∧ bytes = flagged prefixed reference := by
  cases reference with
  | none => simp [writeReference, flagged, eq_comm]
  | some =>
    simp only [writeReference, steps_ok, writeBytes_ok, flagged, Option.mem_def, Option.some.injEq,
      forall_eq']
    constructor
    · rintro ⟨_, ⟨short, rfl⟩, rfl⟩
      exact ⟨short, rfl⟩
    · rintro ⟨short, rfl⟩
      exact ⟨_, ⟨short, rfl⟩, rfl⟩

theorem writeFields_ok {fields : List Bytes} : writeFields fields = .ok bytes ↔
      (∀ field ∈ fields, Short field) ∧ bytes = fields.flatMap prefixed := by
  induction fields generalizing bytes with
  | nil => simp [writeFields, eq_comm]
  | cons field rest ih =>
    simp only [writeFields, steps_ok, writeBytes_ok, ih, List.forall_mem_cons, List.flatMap_cons]
    constructor
    · rintro ⟨_, ⟨short, rfl⟩, _, ⟨others, rfl⟩, rfl⟩
      exact ⟨⟨short, others⟩, rfl⟩
    · rintro ⟨⟨short, others⟩, rfl⟩
      exact ⟨_, ⟨short, rfl⟩, _, ⟨others, rfl⟩, rfl⟩

theorem writeLine_ok {line : Line} :
    writeLine index line = .ok bytes ↔ line.Short ∧ bytes = frameLine index line := by
  simp only [writeLine, steps_ok, writeFields_ok, writeBytes_ok, List.forall_mem_cons]
  constructor
  · rintro ⟨_, ⟨⟨account, asset, side, memo, _⟩, rfl⟩, _, ⟨amount, rfl⟩, rfl⟩
    exact ⟨⟨account, asset, side, memo, amount⟩, by simp [frameLine]⟩
  · rintro ⟨short, rfl⟩
    exact ⟨_, ⟨⟨short.account, short.asset, short.side, short.memo, by simp⟩, rfl⟩, _,
      ⟨short.amount, rfl⟩, by simp [frameLine]⟩

theorem writeLines_ok {lines : List Line} : writeLines index lines = .ok bytes ↔
      (∀ line ∈ lines, line.Short) ∧ bytes = frameLines index lines := by
  induction lines generalizing index bytes with
  | nil => simp [writeLines, frameLines, eq_comm]
  | cons line rest ih =>
    simp only [writeLines, steps_ok, writeLine_ok, ih, frameLines, List.forall_mem_cons]
    constructor
    · rintro ⟨_, ⟨short, rfl⟩, _, ⟨others, rfl⟩, rfl⟩
      exact ⟨⟨short, others⟩, rfl⟩
    · rintro ⟨⟨short, others⟩, rfl⟩
      exact ⟨_, ⟨short, rfl⟩, _, ⟨others, rfl⟩, rfl⟩

theorem entryBytes_ok {prevHash : Digest} : entryBytes prevHash sequenceNo request = .ok bytes ↔
      0 < sequenceNo ∧ request.validate = .ok () ∧ ∃ canonical,
        canonicalJson request.metadata = some canonical ∧ request.Short canonical ∧
        bytes = frameHeader prevHash sequenceNo request canonical ++
          (writeUint32 request.lines.length ++ frameLines 0 request.lines) := by
  simp only [entryBytes, steps_ok, writeFields_ok, writeBytes_ok, writeReference_ok, writeLines_ok,
    List.forall_mem_cons]
  constructor
  · rintro ⟨_, positive, _, valid, canonical, made, _, ⟨⟨t, b, o, e, k, p, _⟩, rfl⟩, _, ⟨r, rfl⟩, _,
      ⟨m, rfl⟩, _, ⟨lines, rfl⟩, rfl⟩
    exact ⟨positive, valid, canonical, made, ⟨t, b, o, e, k, p, r, m, lines⟩,
      by simp [frameHeader]⟩
  · rintro ⟨positive, valid, canonical, made, short, rfl⟩
    exact ⟨(), positive, (), valid, canonical, made, _, ⟨⟨short.transaction, short.book,
      short.operation, short.effect, short.kind, short.rule, by simp⟩, rfl⟩, _,
      ⟨short.reference, rfl⟩, _, ⟨short.metadata, rfl⟩, _, ⟨short.lines, rfl⟩,
      by simp [frameHeader]⟩

theorem hashEntry_ok {E : Engine} {prevHash digest : Digest} :
    hashEntry E prevHash sequenceNo request = .ok digest ↔
      ∃ bytes, entryBytes prevHash sequenceNo request = .ok bytes ∧ E.sha256 bytes = digest := by
  simp only [hashEntry, steps_ok]

theorem writeInt64_selfDelimiting :
    SelfDelimiting (fun v : Int => -2 ^ 63 ≤ v ∧ v < 2 ^ 63) writeInt64 := by
  apply fixed_selfDelimiting 8
  · intro v _
    exact bigEndian_length 8 _
  · intro v w hv hw same
    have hv' : (v % 2 ^ 64).toNat < 256 ^ 8 := by omega
    have hw' : (w % 2 ^ 64).toNat < 256 ^ 8 := by omega
    have bits := bigEndian_inj hv' hw' same
    omega

theorem digest_selfDelimiting : SelfDelimiting (fun _ : Digest => True) (fun d => d.val) := by
  apply fixed_selfDelimiting 32
  · intro d _
    exact d.property
  · intro a b _ _ same
    exact Subtype.ext same

theorem frameLine_selfDelimiting (index : Nat) :
    SelfDelimiting (fun line : Line => line.Short ∧ 0 < line.amountAtoms) (frameLine index) := by
  rintro a b s t ⟨ha, pa⟩ ⟨hb, pb⟩ same
  simp only [frameLine, List.append_assoc, List.append_cancel_left_eq] at same
  obtain ⟨account, same⟩ := prefixed_selfDelimiting ha.account hb.account same
  obtain ⟨asset, same⟩ := prefixed_selfDelimiting ha.asset hb.asset same
  obtain ⟨side, same⟩ := prefixed_selfDelimiting ha.side hb.side same
  obtain ⟨memo, same⟩ := prefixed_selfDelimiting ha.memo hb.memo same
  obtain ⟨text, rest⟩ := prefixed_selfDelimiting ha.amount hb.amount same
  have amount := decimal_inj (Int.le_of_lt pa) (Int.le_of_lt pb) text
  refine ⟨?_, rest⟩
  cases a
  cases b
  simp_all

theorem frameLine_append_ne_nil (index : Nat) (line : Line) (rest : Bytes) :
    frameLine index line ++ rest ≠ [] := by
  intro empty
  have length := congrArg List.length empty
  simp [frameLine, writeInt64] at length

theorem frameLines_inj {xs ys : List Line} (hx : ∀ line ∈ xs, line.Short ∧ 0 < line.amountAtoms)
    (hy : ∀ line ∈ ys, line.Short ∧ 0 < line.amountAtoms)
    (same : frameLines index xs = frameLines index ys) : xs = ys := by
  induction xs generalizing ys index with
  | nil =>
    cases ys with
    | nil => rfl
    | cons y => exact absurd same.symm (frameLine_append_ne_nil index y _)
  | cons x xs ih =>
    cases ys with
    | nil => exact absurd same (frameLine_append_ne_nil index x _)
    | cons y =>
      obtain ⟨rfl, rest⟩ := frameLine_selfDelimiting index (hx x List.mem_cons_self)
        (hy y List.mem_cons_self) same
      have tail := ih (fun l member => hx l (List.mem_cons_of_mem _ member))
        (fun l member => hy l (List.mem_cons_of_mem _ member)) rest
      rw [tail]

theorem validate_positive (valid : request.validate = .ok ()) :
    ∀ line ∈ request.lines, 0 < line.amountAtoms :=
  fun line member => ((validate_wellFormed valid).lines line member).positive

structure SameFields (a b : PostRequest) : Prop where
  transactionId : a.transactionId = b.transactionId
  bookId : a.bookId = b.bookId
  operationId : a.operationId = b.operationId
  effectId : a.effectId = b.effectId
  kind : a.kind = b.kind
  reference : a.referenceTransactionId = b.referenceTransactionId
  rule : a.postingRuleVersion = b.postingRuleVersion
  schema : a.schemaVersion = b.schemaVersion
  requestHash : a.requestHash = b.requestHash
  metadata : canonicalJson a.metadata = canonicalJson b.metadata
  lines : a.lines = b.lines

theorem entryBytes_inj {prev prev' : Digest} {sequenceNo' : Int} {a b : PostRequest}
    (ha : entryBytes prev sequenceNo a = .ok bytes)
    (hb : entryBytes prev' sequenceNo' b = .ok bytes) : prev = prev' ∧ SameFields a b := by
  obtain ⟨_, validA, canonicalA, madeA, shortA, closedA⟩ := entryBytes_ok.mp ha
  obtain ⟨_, validB, canonicalB, madeB, shortB, closedB⟩ := entryBytes_ok.mp hb
  have same := closedA.symm.trans closedB
  simp only [frameHeader, List.append_assoc, List.append_cancel_left_eq] at same
  obtain ⟨previous, same⟩ := digest_selfDelimiting trivial trivial same
  obtain ⟨_, same⟩ := List.append_inj same (by simp [writeInt64])
  obtain ⟨transactionId, same⟩ :=
    prefixed_selfDelimiting shortA.transaction shortB.transaction same
  obtain ⟨bookId, same⟩ := prefixed_selfDelimiting shortA.book shortB.book same
  obtain ⟨operationId, same⟩ :=
    prefixed_selfDelimiting shortA.operation shortB.operation same
  obtain ⟨effectId, same⟩ := prefixed_selfDelimiting shortA.effect shortB.effect same
  obtain ⟨kind, same⟩ := prefixed_selfDelimiting shortA.kind shortB.kind same
  obtain ⟨rule, same⟩ := prefixed_selfDelimiting shortA.rule shortB.rule same
  obtain ⟨schema, same⟩ := writeInt64_selfDelimiting
    ⟨Int64.le_toInt _, Int64.toInt_lt _⟩ ⟨Int64.le_toInt _, Int64.toInt_lt _⟩ same
  obtain ⟨reference, same⟩ := flagged_selfDelimiting prefixed_selfDelimiting
    shortA.reference shortB.reference same
  obtain ⟨requestHash, same⟩ := digest_selfDelimiting trivial trivial same
  obtain ⟨canonical, same⟩ :=
    prefixed_selfDelimiting shortA.metadata shortB.metadata same
  obtain ⟨_, same⟩ := List.append_inj same (by simp [writeUint32])
  have lines := frameLines_inj
    (fun l member => ⟨shortA.lines l member, validate_positive validA l member⟩)
    (fun l member => ⟨shortB.lines l member, validate_positive validB l member⟩) same
  exact ⟨previous, transactionId, bookId, operationId, effectId, kind, reference, rule,
    Int64.toInt_inj.mp schema, requestHash, by rw [madeA, madeB, canonical], lines⟩

end PaymentPlatform.Ledger
