import PaymentPlatform.Ledger.Books
import PaymentPlatform.Ledger.Entries

/-! Which requests are answered with an earlier entry. receiptByEffect compares the stored
header and the request hash that the caller supplies; the metadata and the lines are
compared only through that hash. -/

namespace PaymentPlatform.Ledger

open Framing Serial

variable {E : Engine} {st st' : Tables E} {request : PostRequest} {id : Bytes}
  {row : TransactionRow E} {receipt : Receipt} {paymentDraft : Bool}

def LineRow.asLine (line : LineRow) : Line :=
  ⟨line.accountId, line.assetId, line.side.text, line.amountAtoms, line.memo⟩

def storedLines (st : Tables E) (id : Bytes) : List Line :=
  (orderByLineNo (linesOf st id)).map fun e => e.2.asLine

structure SameHeader (row : TransactionRow E) (request : PostRequest) : Prop where
  book : row.bookId = request.bookId
  operation : row.operationId = request.operationId
  kind : row.transactionKind = request.kind
  rule : row.postingRuleVersion = request.postingRuleVersion
  version : row.schemaVersion = request.schemaVersion.toInt
  reference : row.referenceTransactionId = request.referenceTransactionId

structure SameBody (st : Tables E) (id : Bytes) (row : TransactionRow E) (request : PostRequest) :
    Prop where
  metadata : row.canonicalMetadata = canonicalJson request.metadata
  lines : storedLines st id = request.lines

structure PostedEffect (st : Tables E) (id : Bytes) (row : TransactionRow E)
    (request : PostRequest) : Prop where
  found : st.transactions.lookup id = some row
  posted : row.status = .posted
  effect : row.effectId = request.effectId

/-- A duplicate names an entry that moves what the request moves, and a request that
differs from the entry of its effect is a conflict. -/
structure RepeatsOnly (st : Tables E) (request : PostRequest) (paymentDraft : Bool) : Prop where
  repeated : ∀ st' receipt, postInTx request paymentDraft st = .ok (st', receipt) →
    receipt.duplicate = true → ∃ row, PostedEffect st receipt.transactionId row request ∧
      SameHeader row request ∧ SameBody st receipt.transactionId row request
  conflicts : ∀ id row, PostedEffect st id row request →
    ¬ (SameHeader row request ∧ SameBody st id row request) →
    postInTx request paymentDraft st = .error .effectConflict

/-- The request hash stands for the metadata and the lines. -/
def HashFaithful (st : Tables E) (request : PostRequest) : Prop :=
  ∀ id row, PostedEffect st id row request → row.requestHash = request.requestHash →
    SameHeader row request → SameBody st id row request

def EffectsOnce (st : Tables E) : Prop :=
  ∀ id row id' row', st.transactions.lookup id = some row →
    st.transactions.lookup id' = some row' → row.effectId = row'.effectId → id = id'

theorem EffectsOnce.rewrite {next : TransactionRow E} (once : EffectsOnce st)
    (found : st.transactions.lookup id = some row)
    (written : st'.transactions = st.transactions.insert id next)
    (same : next.effectId = row.effectId) : EffectsOnce st' := by
  have before : ∀ other new, st'.transactions.lookup other = some new →
      ∃ old, st.transactions.lookup other = some old ∧ old.effectId = new.effectId := by
    intro other new known
    rw [written, AList.lookup_insert_if] at known
    split at known
    · rename_i here
      cases known
      exact ⟨row, here ▸ found, same.symm⟩
    · exact ⟨new, known, rfl⟩
  intro first row₁ second row₂ known known' effect
  obtain ⟨old, found₁, same₁⟩ := before first row₁ known
  obtain ⟨old', found₂, same₂⟩ := before second row₂ known'
  exact once first old second old' found₁ found₂ (same₁.trans (effect.trans same₂.symm))

theorem EffectsOnce.draft {head : BookRow} {entryHash : Digest} {metadata : E.Jsonb}
    (once : EffectsOnce st) (drafted : Drafted st st' request head entryHash metadata) :
    EffectsOnce st' := by
  intro first row₁ second row₂ known known' effect
  rw [drafted.transactions, AList.lookup_insert_if] at known known'
  split at known
  · rename_i own
    cases known
    split at known'
    · rename_i own'
      exact own.trans own'.symm
    · exact absurd effect.symm (drafted.effect second row₂ known')
  · split at known'
    · cases known'
      exact absurd effect (drafted.effect first row₁ known)
    · exact once first row₁ second row₂ known known' effect

theorem EffectsOnce.wrote (once : EffectsOnce st) (wrote : Wrote st st') : EffectsOnce st' := by
  induction wrote with
  | kept books transactions =>
    unfold EffectsOnce
    rw [transactions]
    exact once
  | opened => exact once
  | drafted drafted => exact once.draft drafted
  | marked found => exact once.rewrite found rfl rfl
  | finalized effect => exact once.rewrite effect.draft effect.transactions rfl
  | both before after first second => exact second (first once)

theorem run_effectsOnce {start : Tables E} (empty : start.transactions = ∅)
    (commands : List JournalCommand) : EffectsOnce (run journalStep start commands) := by
  refine run_preserves journalStep EffectsOnce (fun st command once => ?_) commands ?_
  · exact once.wrote (journalStep_wrote st command)
  · intro id row id' row' found
    rw [empty] at found
    cases found

theorem receiptByEffect_posted (once : EffectsOnce st) (entry : PostedEffect st id row request) :
    (∃ receipt, receiptByEffect st request = .ok (some receipt) ∧ receipt.duplicate = true ∧
        row.requestHash = request.requestHash ∧ SameHeader row request) ∨
      (receiptByEffect st request = .error .effectConflict ∧
        ¬ (row.requestHash = request.requestHash ∧ SameHeader row request)) := by
  obtain ⟨e, first⟩ : ∃ e, st.transactions.rows.find? (fun e => e.2.effectId = request.effectId) =
      some e := by
    cases absent : st.transactions.rows.find? (fun e => e.2.effectId = request.effectId) with
    | some e => exact ⟨e, rfl⟩
    | none =>
      have other := List.find?_eq_none.mp absent _ ((AList.mem_rows _ _ _).mpr entry.found)
      exact absurd entry.effect (by simpa using other)
  have known := (AList.mem_rows _ _ _).mp (List.mem_of_find?_eq_some first)
  have effect : e.2.effectId = request.effectId := by simpa using List.find?_some first
  have same : e.1 = id := once _ _ _ _ known entry.found (effect.trans entry.effect.symm)
  rw [same] at known
  have rows : e = (id, row) :=
    Prod.ext same (Option.some.inj (known.symm.trans entry.found))
  rw [rows] at first
  by_cases agree : row.requestHash = request.requestHash ∧ SameHeader row request
  · left
    obtain ⟨hash, header⟩ := agree
    simp only [receiptByEffect, first, steps_ok, Option.some.injEq]
    exact ⟨_, ⟨(), ⟨hash, header.book, header.operation, header.kind, header.rule, header.version,
      header.reference⟩, (), entry.posted, rfl⟩, rfl, hash, header⟩
  · refine .inr ⟨?_, agree⟩
    simp only [receiptByEffect, first]
    refine bind_error.mpr (.inl (require_error.mpr ⟨fun compared => agree ?_, rfl⟩))
    obtain ⟨hash, book, operation, kind, rule, version, reference⟩ := compared
    exact ⟨hash, book, operation, kind, rule, version, reference⟩

theorem PostedEffect.canonical (entry : PostedEffect st id row request) (metadata : Bytes) :
    PostedEffect st id row { request with metadata := metadata } :=
  ⟨entry.found, entry.posted, entry.effect⟩

theorem SameHeader.canonical {metadata : Bytes} :
    SameHeader row { request with metadata := metadata } ↔ SameHeader row request :=
  ⟨fun h => ⟨h.1, h.2, h.3, h.4, h.5, h.6⟩, fun h => ⟨h.1, h.2, h.3, h.4, h.5, h.6⟩⟩

theorem postInTx_posted (once : EffectsOnce st) (valid : request.validate = .ok ())
    (entry : PostedEffect st id row request) :
    (∃ receipt, postInTx request paymentDraft st = .ok (st, receipt) ∧ receipt.duplicate = true ∧
        row.requestHash = request.requestHash ∧ SameHeader row request) ∨
      (postInTx request paymentDraft st = .error .effectConflict ∧
        ¬ (row.requestHash = request.requestHash ∧ SameHeader row request)) := by
  obtain ⟨canonical, made⟩ := Option.isSome_iff_exists.mp (validate_wellFormed valid).metadata
  have read : expect (canonicalJson request.metadata) (Failure.invalidPosting "metadata") =
      .ok canonical := expect_ok.mpr made
  rcases receiptByEffect_posted once (entry.canonical canonical) with
    ⟨receipt, looked, duplicate, hash, header⟩ | ⟨looked, differs⟩
  · refine .inl ⟨receipt, ?_, duplicate, hash, SameHeader.canonical.mp header⟩
    simp only [postInTx, bind_ok]
    exact ⟨(), valid, canonical, read, some receipt, looked, rfl⟩
  · refine .inr ⟨?_, fun same => differs ⟨same.1, SameHeader.canonical.mpr same.2⟩⟩
    simp only [postInTx, bind_error]
    exact .inr ⟨(), valid, .inr ⟨canonical, read, .inl looked⟩⟩

theorem postInTx_duplicate (committed : postInTx request paymentDraft st = .ok (st', receipt))
    (duplicate : receipt.duplicate = true) :
    ∃ row, PostedEffect st receipt.transactionId row request := by
  obtain ⟨_, canonical, _, ⟨_, looked⟩ | ⟨_, _, _, _, _, shown, _⟩⟩ := postInTx_ok committed
  · obtain ⟨row, found, records⟩ := receiptByEffect_some looked
    exact ⟨row, found, records.posted, records.effect⟩
  · -- what was stored now is no duplicate
    rw [shown] at duplicate
    cases duplicate

/-- In every reachable journal and for every valid request: a duplicate is always a repeat
of the stored movement, and everything else a conflict, just when an entry of the effect
with this header and request hash has the metadata and lines of the request. -/
theorem duplicates_repeat_iff (start : Tables E) (empty : start.transactions = ∅)
    (commands : List JournalCommand) (request : PostRequest) (valid : request.validate = .ok ())
    (paymentDraft : Bool) :
    RepeatsOnly (run journalStep start commands) request paymentDraft ↔
      HashFaithful (run journalStep start commands) request := by
  have once := run_effectsOnce empty commands
  constructor
  · intro only id row entry hash header
    by_contra differs
    rcases postInTx_posted once valid entry with ⟨receipt, answered, _⟩ | ⟨_, unequal⟩
    · have refused := only.conflicts id row entry fun same => differs same.2
      rw [answered] at refused
      cases refused
    · exact unequal ⟨hash, header⟩
  · intro faithful
    refine ⟨fun st' receipt committed duplicate => ?_, fun id row entry differs => ?_⟩
    · obtain ⟨row, entry⟩ := postInTx_duplicate committed duplicate
      rcases postInTx_posted once valid entry with ⟨_, _, _, hash, header⟩ | ⟨refused, _⟩
      · exact ⟨row, entry, header, faithful _ row entry hash header⟩
      · rw [refused] at committed
        cases committed
    · rcases postInTx_posted once valid entry with ⟨_, _, _, hash, header⟩ | ⟨refused, _⟩
      · exact absurd ⟨header, faithful id row entry hash header⟩ differs
      · exact refused

def sampleJournal : List JournalCommand :=
  [.entry (.createAccount (sampleAccount "cash" .debit false)),
    .entry (.createAccount (sampleAccount "alice" .credit false)),
    .entry (.post (samplePosting "t1" 5 []) false)]

/-- The same posting again. -/
theorem sample_duplicates_repeat :
    RepeatsOnly (run journalStep sampleTables sampleJournal) (samplePosting "t1" 5 []) false := by
  refine (duplicates_repeat_iff sampleTables rfl sampleJournal (samplePosting "t1" 5 [])
    (by decide +kernel) false).mpr ?_
  have bodies : ∀ e ∈ (run journalStep sampleTables sampleJournal).transactions.rows,
      e.2.canonicalMetadata = canonicalJson (samplePosting "t1" 5 []).metadata ∧
        storedLines (run journalStep sampleTables sampleJournal) e.1 =
          (samplePosting "t1" 5 []).lines := by
    decide +kernel
  intro id row entry _ _
  obtain ⟨metadata, lines⟩ := bodies (id, row) ((AList.mem_rows _ _ _).mpr entry.found)
  exact ⟨metadata, lines⟩

/-- The effect of the entry over five units, with its request hash and nine units, is
answered as a duplicate. -/
theorem other_amount_is_duplicate :
    (samplePosting "t1" 9 []).validate = .ok () ∧
    ¬ RepeatsOnly (run journalStep sampleTables sampleJournal) (samplePosting "t1" 9 []) false := by
  refine ⟨by decide +kernel, fun only => ?_⟩
  have answered : (postInTx (samplePosting "t1" 9 []) false
      (run journalStep sampleTables sampleJournal)).toOption.map (fun out => out.2.duplicate) =
        some true := by decide +kernel
  obtain ⟨⟨st', receipt⟩, known, duplicate⟩ := Option.map_eq_some_iff.mp answered
  have committed : postInTx (samplePosting "t1" 9 []) false
      (run journalStep sampleTables sampleJournal) = .ok (st', receipt) := by
    generalize postInTx (samplePosting "t1" 9 []) false
      (run journalStep sampleTables sampleJournal) = outcome at known
    cases outcome with
    | error => cases known
    | ok => exact congrArg Except.ok (Option.some.inj known)
  obtain ⟨row, entry, _, body⟩ := only.repeated st' receipt committed duplicate
  have amounts : ∀ e ∈ (run journalStep sampleTables sampleJournal).transactions.rows,
      storedLines (run journalStep sampleTables sampleJournal) e.1 ≠ (samplePosting "t1" 9 []).lines := by
    decide +kernel
  exact amounts (receipt.transactionId, row) ((AList.mem_rows _ _ _).mpr entry.found) body.lines

end PaymentPlatform.Ledger
