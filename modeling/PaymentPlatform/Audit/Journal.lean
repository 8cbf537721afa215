import PaymentPlatform.Audit.Verify
import PaymentPlatform.Ledger.Duplicates
import PaymentPlatform.Payment.Replay

/-! The loop of LoadRange in internal/audit/verifier.go over the journal that the ledger
wrote: what the ledger posts, the auditor reads back and accepts. -/

namespace PaymentPlatform.Audit

open Framing Serial Ledger

variable {E : Engine} {st st' : Tables E} {id : Bytes} {row : TransactionRow E}
  {request : PostRequest}

inductive LoadError where
  | canonicalMetadata (transactionId : Bytes)
  | sequenceGap (transactionId : Bytes) (lineNo : Int)
  | invalidAmount
  deriving DecidableEq

def verifiedCanonicalMetadata (storedJson : Bytes) (canonical : Option Bytes) : Option Bytes := do
  let fromStored ← canonicalJson storedJson
  match canonical with
  | none => some fromStored
  | some canonical =>
    if canonicalJson canonical = some canonical ∧ fromStored = canonical then some canonical
    else none

def loadLines (transactionId : Bytes) : Nat → List (Int × LineRow) → Except LoadError (List Line)
  | _, [] => .ok []
  | index, (lineNo, line) :: rest => do
    require (index + 1 = lineNo) (.sequenceGap transactionId lineNo)
    require (fitsDecimal38 line.amountAtoms) .invalidAmount
    let lines ← loadLines transactionId (index + 1) rest
    return line.asLine :: lines

/-- The rounds of the loop over the lines of one transaction, which are adjacent. -/
def loadEntry (st : Tables E) (e : Bytes × TransactionRow E) : Except LoadError Transaction := do
  let metadata ← expect (verifiedCanonicalMetadata (E.jsonbText e.2.metadata) e.2.canonicalMetadata)
    (.canonicalMetadata e.1)
  let lines ← loadLines e.1 0 (orderByLineNo (linesOf st e.1))
  return {
    request :=
      { transactionId := e.1
        bookId := e.2.bookId
        operationId := e.2.operationId
        effectId := e.2.effectId
        kind := e.2.transactionKind
        referenceTransactionId := e.2.referenceTransactionId
        postingRuleVersion := e.2.postingRuleVersion
        schemaVersion := .ofInt e.2.schemaVersion
        requestHash := e.2.requestHash
        metadata := metadata
        lines := lines }
    sequenceNo := .ofInt e.2.sequenceNo
    prevHash := e.2.prevHash
    entryHash := e.2.entryHash }

/-- The row was written for the request, with the hash of its bytes. -/
structure Stored (st : Tables E) (id : Bytes) (row : TransactionRow E) (request : PostRequest) :
    Prop where
  name : request.transactionId = id
  columns : row = { draftRow request row.metadata row.sequenceNo row.prevHash row.entryHash with
    status := row.status }
  parsed : E.parseJsonb request.metadata = some row.metadata
  canonical : canonicalJson request.metadata = some request.metadata
  lines : linesOf st id = (numberedLines 0 request.lines).reverse
  hash : hashEntry E row.prevHash row.sequenceNo request = .ok row.entryHash
  bounded : row.status = .posted → row.sequenceNo < maxInt8

def Written (st : Tables E) : Prop :=
  LinesHaveParent st ∧ ∀ id row, st.transactions.lookup id = some row →
    ∃ request, Stored st id row request

theorem Written.drafted {head : BookRow} {entryHash : Digest} {metadata : E.Jsonb}
    (written : Written st) (canonical : canonicalJson request.metadata = some request.metadata)
    (drafted : Drafted st st' request head entryHash metadata) : Written st' := by
  refine ⟨drafted.linesHaveParent written.1, ?_⟩
  intro id row found
  rw [drafted.transactions, AList.lookup_insert_if] at found
  split at found
  · rename_i same
    cases found
    exact ⟨request, same.symm, rfl, drafted.parsed, canonical, same ▸ drafted.linesOf written.1,
      drafted.hash, fun posted => (nomatch posted)⟩
  · rename_i other
    obtain ⟨original, stored⟩ := written.2 id row found
    have lines := (insertLines_linesOf request.lines drafted.inserted).2.1 id other
    exact ⟨original, { stored with lines := lines.trans stored.lines }⟩

theorem Written.finalized {head : BookRow} (written : Written st)
    (effect : Finalized st st' id row head) : Written st' := by
  refine ⟨effect.linesHaveParent written.1, ?_⟩
  intro other stored found
  have lines : linesOf st' other = linesOf st other := by simp only [linesOf, effect.lines]
  rw [effect.transactions, AList.lookup_insert_if] at found
  split at found
  · rename_i same
    cases found
    obtain ⟨request, kept⟩ := written.2 id row effect.draft
    subst same
    refine ⟨request, kept.name, ?_, kept.parsed, kept.canonical, lines.trans kept.lines, kept.hash,
      fun _ => effect.bounded⟩
    exact congrArg (fun row : TransactionRow E => { row with status := .posted }) kept.columns
  · obtain ⟨request, kept⟩ := written.2 other stored found
    exact ⟨request, { kept with lines := lines.trans kept.lines }⟩

theorem step_written (st : Tables E) (command : Command) (written : Written st) :
    Written (step st command) := by
  cases command with
  | createAccount =>
    refine commit_preserves _ Written written ?_
    intro st' _ committed
    obtain ⟨_, _, rfl⟩ := createAccount_frame committed
    exact ⟨written.1, fun id row found =>
      (written.2 id row found).imp fun _ stored => { stored with lines := stored.lines }⟩
  | post =>
    refine commit_preserves _ Written written fun _ _ committed =>
      postInTx_preserves Written ?_ ?_ written committed
    · exact fun _ _ _ _ _ _ made drafted => written.drafted (canonicalJson_idem made) drafted
    · exact fun _ _ _ _ middle effect => middle.finalized effect
  | finalize =>
    exact commit_preserves _ Written written fun _ _ committed =>
      finalize_preserves Written (fun _ _ _ effect => written.finalized effect) written committed

theorem validateLines_fits {index : Nat} {perAsset totals : Table Bytes Totals} {lines : List Line}
    (validated : validateLines index perAsset lines = .ok totals) :
    ∀ line ∈ lines, line.WellFormed ∧ fitsDecimal38 line.amountAtoms := by
  induction lines generalizing index perAsset with
  | nil => simp
  | cons line rest ih =>
    simp only [validateLines, bind_ok] at validated
    obtain ⟨_, first, others⟩ := validated
    obtain ⟨formed, fits, _⟩ := validateLine_ok.mp first
    exact List.forall_mem_cons.mpr ⟨⟨formed, fits⟩, ih others⟩

theorem loadLines_numbered (id : Bytes) {lines : List Line} (index : Nat)
    (fits : ∀ line ∈ lines, line.WellFormed ∧ fitsDecimal38 line.amountAtoms) :
    loadLines id index (numberedLines index lines) = .ok lines := by
  induction lines generalizing index with
  | nil => rfl
  | cons line rest ih =>
    obtain ⟨⟨formed, amount⟩, others⟩ := List.forall_mem_cons.mp fits
    have again : (storedLine line ((Side.ofText line.side).getD .debit)).asLine = line := by
      rcases formed.side with side | side <;> simp [storedLine, LineRow.asLine, side, Side.ofText_text]
      all_goals rw [← side]
    simp only [numberedLines, loadLines, steps_ok, again]
    exact ⟨(), trivial, (), amount, rest, ih _ others, rfl⟩

/-- A canonical document without other numbers than integers is printed as a text with that
canonical form. -/
theorem canonicalJson_stored (reads : Payment.ReadsBack E) {text : Bytes} {stored : E.Jsonb}
    (canonical : canonicalJson text = some text)
    (whole : ∀ value, Json.parse text = some value → value.Integral)
    (kept : E.parseJsonb text = some stored) : canonicalJson (E.jsonbText stored) = some text := by
  have filled : text ≠ [] := by
    rintro rfl
    simp [canonicalJson, ascii] at canonical
  simp only [canonicalJson, if_neg filled, Option.map_eq_some_iff] at canonical ⊢
  obtain ⟨value, parsed, written⟩ := canonical
  have shown := reads.parsed parsed (whole value parsed) kept
  have printed : E.jsonbText stored ≠ [] := by
    intro empty
    rw [empty] at shown
    cases shown
  rw [if_neg printed, shown]
  exact congrArg some written

theorem Stored.loaded (reads : Payment.ReadsBack E) (stored : Stored st id row request)
    (whole : ∀ value, Json.parse request.metadata = some value → value.Integral) :
    loadEntry st (id, row) = .ok ⟨request, .ofInt row.sequenceNo, row.prevHash, row.entryHash⟩ := by
  obtain ⟨_, written, _⟩ := hashEntry_ok.mp stored.hash
  obtain ⟨_, valid, _⟩ := entryBytes_ok.mp written
  simp only [PostRequest.validate, bind_ok] at valid
  obtain ⟨_, _, _, _, _, _, _, _, _, _, _, validated, _⟩ := valid
  have lines := loadLines_numbered id 0 (validateLines_fits validated)
  have printed := canonicalJson_stored reads stored.canonical whole stored.parsed
  rw [← orderByLineNo_reverse _ (numberedLines_sorted 0 request.lines), ← stored.lines] at lines
  obtain ⟨rfl, columns, _, canonical, _⟩ := stored
  cases row
  simp only [draftRow, TransactionRow.mk.injEq] at columns
  obtain ⟨rfl, rfl, rfl, rfl, rfl, rfl, rfl, rfl, _, rfl, _⟩ := columns
  simp [loadEntry, verifiedCanonicalMetadata, printed, canonical, lines]

theorem Unused.written (unused : Unused st) : Written st := by
  constructor
  · intro id n line found
    rw [unused.lines] at found
    cases found
  · intro id row found
    rw [unused.transactions] at found
    cases found

/-- What the ledger posts, the auditor accepts: in every reachable journal each posted entry
whose metadata has no other numbers than integers is read back and has the hash that is
stored with it. -/
theorem posted_entries_verify (reads : Payment.ReadsBack E) (st : Tables E) (unused : Unused st)
    (commands : List Command) (bookId id : Bytes) (row : TransactionRow E)
    (posted : PostedIn (run step st commands) bookId id row)
    (whole : ∀ text value, row.canonicalMetadata = some text → Json.parse text = some value →
      value.Integral) :
    ∃ entry verification, loadEntry (run step st commands) (id, row) = .ok entry ∧
      verifyRange E ⟨bookId, .ofInt row.sequenceNo, .ofInt row.sequenceNo, row.prevHash⟩ [entry] =
        .ok verification ∧
      verification.lastHash = row.entryHash := by
  have written := run_preserves step Written step_written commands (Unused.written unused)
  obtain ⟨request, stored⟩ := written.2 id row posted.found
  obtain ⟨_, bytes, _⟩ := hashEntry_ok.mp stored.hash
  have positive := (entryBytes_ok.mp bytes).1
  have bounded := stored.bounded posted.posted
  have back : (Int64.ofInt row.sequenceNo).toInt = row.sequenceNo := by
    unfold maxInt8 at bounded
    exact Int64.toInt_ofInt_of_le (by omega) (by omega)
  have named : request.bookId = bookId :=
    (congrArg TransactionRow.bookId stored.columns).symm.trans posted.book
  have metadata : row.canonicalMetadata = some request.metadata :=
    congrArg TransactionRow.canonicalMetadata stored.columns
  refine ⟨_, _, stored.loaded reads fun value => whole _ value metadata, bind_ok.2 ⟨(), require_ok.2 ⟨rfl, rfl, by simp⟩, bind_ok.2
    ⟨(row.entryHash, [row.entryHash]), ?_, rfl⟩⟩, rfl⟩
  simp [verifyFrom, back, named, stored.hash, require]

def sampleMetadata : Json.Value :=
  Json.object [("order", .number (decimal 7)), ("note", .string ['x'])]

def sampleNumbered : List Command :=
  sampleCommands ++
    [.post { samplePosting "t4" 4 [] with metadata := Json.write sampleMetadata } false]

theorem sample_entries_verify :
    ∃ id row entry verification,
      PostedIn (run step sampleTables sampleNumbered) (ascii "book") id row ∧ row.sequenceNo = 3 ∧
      loadEntry (run step sampleTables sampleNumbered) (id, row) = .ok entry ∧
      verifyRange sampleEngine ⟨ascii "book", .ofInt row.sequenceNo, .ofInt row.sequenceNo,
        row.prevHash⟩ [entry] = .ok verification ∧ verification.lastHash = row.entryHash := by
  have third : ((run step sampleTables sampleNumbered).transactions.lookup (ascii "t4")).map
      (fun row => (row.status, row.bookId, row.sequenceNo, row.canonicalMetadata)) =
        some (.posted, ascii "book", 3, some (Json.write sampleMetadata)) := by
    decide +kernel
  have document : Json.parse (Json.write sampleMetadata) = some sampleMetadata :=
    Json.parse_write (@Json.object_legal 9999 _ (by simp [Json.Value.Legal, Json.numberText_decimal]))
  obtain ⟨row, found, columns⟩ := Option.map_eq_some_iff.mp third
  simp only [Prod.mk.injEq] at columns
  obtain ⟨status, book, number, metadata⟩ := columns
  obtain ⟨entry, verification, read⟩ := posted_entries_verify Payment.sample_reads_back sampleTables
    ⟨rfl, rfl, rfl, rfl⟩ sampleNumbered _ _ row ⟨found, status, book⟩ (by
      intro text value kept parsed
      cases kept.symm.trans metadata
      cases parsed.symm.trans document
      exact Json.object_integral (by simp [Json.Value.Integral]))
  exact ⟨_, row, entry, verification, ⟨found, status, book⟩, number, read⟩

end PaymentPlatform.Audit
