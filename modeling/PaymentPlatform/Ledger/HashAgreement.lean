import PaymentPlatform.Ledger.EntryFraming
import PaymentPlatform.Ledger.Steps

/-! The bytes HashEntry hashes against the bytes the database rebuilds from the
stored rows. All fields agree; the number of lines is written by an unchecked
conversion to uint32 in Go and by lpad in SQL, which differ beyond 32 bits. -/

namespace PaymentPlatform.Ledger

open Framing Serial

variable {E : Engine}
variable {st st' : Tables E} {id : Bytes} {n : Int} {index k : Nat} {line : Line}
  {request : PostRequest} {head : BookRow} {entryHash : Digest} {metadata : E.Jsonb}
  {row : TransactionRow E}

theorem hexLength_le {v width : Nat} (fits : v < 16 ^ width) : hexLength v ≤ width :=
  (Nat.digits_length_le_iff (by decide) v).mpr fits

theorem ledgerHashUint32_eq (v : Nat) :
    ledgerHashUint32 v = some (bigEndian 4 (v / 16 ^ (hexLength v - 8))) := by
  rw [ledgerHashUint32, lpad_toHex v 8 (by decide)]
  exact decodeHex_digitsOf 4 _

theorem ledgerHashUint32_short {v : Nat} (fits : v < 2 ^ 32) :
    ledgerHashUint32 v = some (bigEndian 4 v) := by
  have length : hexLength v ≤ 8 := hexLength_le fits
  rw [ledgerHashUint32_eq, Nat.sub_eq_zero_of_le length, pow_zero, Nat.div_one]

theorem ledgerHashInt64_eq (v : Int) : ledgerHashInt64 v = some (writeInt64 v) := by
  have fits : (v % 2 ^ 64).toNat < 16 ^ 16 := by
    have bound : v % 2 ^ 64 < 2 ^ 64 := Int.emod_lt_of_pos v (by decide)
    omega
  have length : hexLength (v % 2 ^ 64).toNat ≤ 16 := hexLength_le fits
  rw [ledgerHashInt64, lpad_toHex _ 16 (by decide), Nat.sub_eq_zero_of_le length, pow_zero,
    Nat.div_one]
  exact decodeHex_digitsOf 8 _

theorem ledgerHashLengthPrefixed_short {field : Bytes} (short : Short field) :
    ledgerHashLengthPrefixed field = some (prefixed field) := by
  rw [ledgerHashLengthPrefixed, ledgerHashUint32_short short]
  rfl

theorem referenceFrame_short {reference : Option Bytes} (short : ∀ r ∈ reference, Short r) :
    referenceFrame reference = some (flagged prefixed reference) := by
  cases reference with
  | none => decide
  | some r =>
    have flag : decodeHex (ascii "01") = some [1] := by decide
    rw [referenceFrame, flag, ledgerHashLengthPrefixed_short (short r rfl)]
    rfl

def numberedLines : Nat → List Line → List (Int × LineRow)
  | _, [] => []
  | index, line :: rest =>
    (index + 1, storedLine line ((Side.ofText line.side).getD .debit)) ::
      numberedLines (index + 1) rest

theorem numberedLines_length (index : Nat) (lines : List Line) :
    (numberedLines index lines).length = lines.length := by
  induction lines generalizing index with
  | nil => rfl
  | cons line rest ih => simp [numberedLines, ih]

theorem numberedLines_above (index : Nat) (lines : List Line) :
    ∀ e ∈ numberedLines index lines, (index : Int) < e.1 := by
  induction lines generalizing index with
  | nil => simp [numberedLines]
  | cons line rest ih =>
    intro e member
    rcases List.mem_cons.mp member with rfl | later
    · exact Int.lt_succ _
    · have above := ih (index + 1) e later
      push_cast at above
      omega

theorem linesOf_insert {row : LineRow} (fresh : st.lines.lookup (id, n) = none) :
    linesOf { st with lines := st.lines.insert (id, n) row } id = (n, row) :: linesOf st id := by
  simp only [linesOf, AList.rows_insert_fresh fresh]
  simp

theorem linesOf_insert_other {other : Bytes} {row : LineRow}
    (fresh : st.lines.lookup (id, n) = none) (different : other ≠ id) :
    linesOf { st with lines := st.lines.insert (id, n) row } other = linesOf st other := by
  simp only [linesOf, AList.rows_insert_fresh fresh]
  simp [different.symm]

theorem insertLines_linesOf (lines : List Line) (inserted : insertLines id index lines st = .ok st') :
    linesOf st' id = (numberedLines index lines).reverse ++ linesOf st id ∧
      (∀ other, other ≠ id → linesOf st' other = linesOf st other) ∧
      ∀ line ∈ lines, ∃ side, Side.ofText line.side = some side := by
  induction lines generalizing index st with
  | nil =>
    cases inserted
    exact ⟨rfl, fun _ _ => rfl, by simp⟩
  | cons line rest ih =>
    simp only [insertLines, bind_ok] at inserted
    obtain ⟨mid, first, others⟩ := inserted
    obtain ⟨parent, account, side, effect⟩ := insertLine_ok first
    obtain ⟨own, foreign, known⟩ := ih others
    refine ⟨?_, ?_, ?_⟩
    · rw [own, effect.row, linesOf_insert effect.fresh]
      simp [numberedLines, effect.known]
    · intro other different
      rw [foreign other different, effect.row, linesOf_insert_other effect.fresh different]
    · intro l member
      rcases List.mem_cons.mp member with rfl | later
      · exact ⟨side, effect.known⟩
      · exact known l later

theorem orderedInsert_last {rows : List (Int × LineRow)} {x : Int × LineRow}
    (above : ∀ e ∈ rows, e.1 < x.1) :
    rows.orderedInsert (fun a b => a.1 ≤ b.1) x = rows ++ [x] := by
  induction rows with
  | nil => rfl
  | cons e rows ih =>
    have first := above e (by simp)
    rw [List.orderedInsert_cons, if_neg (by omega), ih (fun e' member => above e' (by simp [member]))]
    rfl

theorem orderByLineNo_reverse (rows : List (Int × LineRow))
    (sorted : rows.Pairwise (fun a b => a.1 < b.1)) : orderByLineNo rows.reverse = rows := by
  induction rows using List.reverseRecOn with
  | nil => rfl
  | append_singleton front x ih =>
    obtain ⟨ordered, _, above⟩ := List.pairwise_append.mp sorted
    have rest := ih ordered
    unfold orderByLineNo at rest ⊢
    rw [List.reverse_append, List.reverse_singleton, List.singleton_append,
      List.insertionSort_cons, rest, orderedInsert_last (fun e member => above e member x (by simp))]

theorem numberedLines_sorted (index : Nat) (lines : List Line) :
    (numberedLines index lines).Pairwise (fun a b => a.1 < b.1) := by
  induction lines generalizing index with
  | nil => exact List.Pairwise.nil
  | cons line rest ih =>
    refine List.pairwise_cons.mpr ⟨?_, ih (index + 1)⟩
    intro e member
    have above := numberedLines_above (index + 1) rest e member
    push_cast at above
    exact above

theorem lineFrame_stored (index : Nat) {side : Side} (short : line.Short)
    (known : Side.ofText line.side = some side) :
    lineFrame (index + 1) (storedLine line side) = some (frameLine index line) := by
  have text : side.text = line.side := (Side.text_of_ofText known).symm
  simp only [lineFrame, storedLine, ledgerHashInt64_eq, text,
    ledgerHashLengthPrefixed_short short.account, ledgerHashLengthPrefixed_short short.asset,
    ledgerHashLengthPrefixed_short short.side, ledgerHashLengthPrefixed_short short.memo,
    ledgerHashLengthPrefixed_short short.amount]
  rfl

theorem frames_of_numberedLines (index : Nat) (lines : List Line)
    (short : ∀ line ∈ lines, line.Short)
    (known : ∀ line ∈ lines, ∃ side, Side.ofText line.side = some side) :
    ∃ frames, (numberedLines index lines).mapM (fun e => lineFrame e.1 e.2) = some frames ∧
      frames.flatten = frameLines index lines := by
  induction lines generalizing index with
  | nil => exact ⟨[], rfl, rfl⟩
  | cons line rest ih =>
    obtain ⟨frames, mapped, flat⟩ := ih (index + 1) (fun l member => short l (by simp [member]))
      (fun l member => known l (by simp [member]))
    obtain ⟨side, hside⟩ := known line (by simp)
    have first := lineFrame_stored index (short line (by simp)) hside
    refine ⟨frameLine index line :: frames, ?_, by simp [flat, frameLines]⟩
    simp only [numberedLines, hside, Option.getD_some, List.mapM_cons, first, mapped]
    rfl

theorem canonicalLineBytes_stored (lines : List Line) (short : ∀ line ∈ lines, line.Short)
    (known : ∀ line ∈ lines, ∃ side, Side.ofText line.side = some side) :
    canonicalLineBytes (numberedLines 0 lines).reverse = some (frameLines 0 lines) := by
  obtain ⟨frames, mapped, flat⟩ := frames_of_numberedLines 0 lines short known
  rw [canonicalLineBytes, orderByLineNo_reverse _ (numberedLines_sorted 0 lines), mapped,
    Option.bind_eq_bind, Option.bind_some, decodeHex_flatMap, flat]

/-- The foreign key of ledger_lines. -/
def LinesHaveParent (st : Tables E) : Prop :=
  ∀ id n line, st.lines.lookup (id, n) = some line → (st.transactions.lookup id).isSome = true

theorem LinesHaveParent.linesOf_absent (parents : LinesHaveParent st)
    (absent : st.transactions.lookup id = none) : linesOf st id = [] := by
  rw [linesOf, List.map_eq_nil_iff, List.filter_eq_nil_iff]
  rintro ⟨⟨owner, n⟩, line⟩ member same
  have present := parents owner n line ((AList.mem_rows _ _ _).mp member)
  rw [show owner = id by simpa using same, absent] at present
  contradiction

def rebuiltCount (n : Nat) : Nat := n / 16 ^ (hexLength n - 8)

/-- The eight leading hexadecimal digits, kept by lpad, are the low 32 bits, kept
by the conversion to uint32. -/
def SameCount (n : Nat) : Prop := rebuiltCount n = n % 2 ^ 32

theorem sameCount_of_lt {n : Nat} (fits : n < 2 ^ 32) : SameCount n := by
  have length : hexLength n ≤ 8 := hexLength_le fits
  rw [SameCount, rebuiltCount, Nat.sub_eq_zero_of_le length, pow_zero, Nat.div_one,
    Nat.mod_eq_of_lt fits]

theorem not_sameCount_two_pow : ¬ SameCount (2 ^ 32) := by
  have length : hexLength (2 ^ 32) = 9 := by norm_num [hexLength]
  rw [SameCount, rebuiltCount, length]
  decide

theorem count_eq_iff (n : Nat) : writeUint32 n = bigEndian 4 (rebuiltCount n) ↔ SameCount n := by
  have fits : rebuiltCount n < 256 ^ 4 := leading_lt n 8
  have low : writeUint32 n = bigEndian 4 (n % 2 ^ 32) := (bigEndian_mod 4 n).symm
  rw [low]
  constructor
  · intro same
    exact (bigEndian_inj (Nat.mod_lt _ (by decide)) fits same).symm
  · intro same
    rw [same]

theorem Drafted.linesOf (drafted : Drafted st st' request head entryHash metadata)
    (parents : LinesHaveParent st) :
    Ledger.linesOf st' request.transactionId = (numberedLines 0 request.lines).reverse := by
  have own := (insertLines_linesOf request.lines drafted.inserted).1
  calc Ledger.linesOf st' request.transactionId
      = (numberedLines 0 request.lines).reverse ++ Ledger.linesOf st request.transactionId := own
    _ = (numberedLines 0 request.lines).reverse := by
      rw [parents.linesOf_absent drafted.fresh, List.append_nil]

theorem Drafted.canonicalHashInput (drafted : Drafted st st' request head entryHash metadata)
    (parents : LinesHaveParent st) {canonical : Bytes} (short : request.Short canonical) :
    Ledger.canonicalHashInput request.transactionId
        (draftRow request metadata head.nextSequenceNo head.lastEntryHash entryHash) canonical
        (Ledger.linesOf st' request.transactionId) =
      some (frameHeader head.lastEntryHash head.nextSequenceNo request canonical ++
        (bigEndian 4 (rebuiltCount request.lines.length) ++ frameLines 0 request.lines)) := by
  have known := (insertLines_linesOf request.lines drafted.inserted).2.2
  have domain : decodeHex
      (ascii "7061796d656e742d706c6174666f726d2f6c65646765722d656e7472792f763100") =
        some ledgerHashDomain := by decide
  simp only [Ledger.canonicalHashInput, drafted.linesOf parents, draftRow, domain,
    ledgerHashInt64_eq, ledgerHashLengthPrefixed_short short.transaction,
    ledgerHashLengthPrefixed_short short.book, ledgerHashLengthPrefixed_short short.operation,
    ledgerHashLengthPrefixed_short short.effect, ledgerHashLengthPrefixed_short short.kind,
    ledgerHashLengthPrefixed_short short.rule, ledgerHashLengthPrefixed_short short.metadata,
    referenceFrame_short short.reference, ledgerHashUint32_eq, List.length_reverse,
    numberedLines_length, canonicalLineBytes_stored request.lines short.lines known]
  simp [frameHeader, rebuiltCount]

theorem entryBytes_canonical {prevHash : Digest} {sequenceNo : Int} {canonical : Bytes}
    (valid : request.validate = .ok ()) (made : canonicalJson request.metadata = some canonical) :
    entryBytes prevHash sequenceNo { request with metadata := canonical } =
      entryBytes prevHash sequenceNo request := by
  have again := canonicalJson_idem made
  have both : ({ request with metadata := canonical } : PostRequest).validate = .ok () := by
    simp only [PostRequest.validate, made, again] at valid ⊢
    exact valid
  simp only [entryBytes, valid, both, made, again]

theorem Drafted.bytes_agree (drafted : Drafted st st' request head entryHash metadata)
    (parents : LinesHaveParent st)
    (canonical : canonicalJson request.metadata = some request.metadata) : ∃ bytes rebuilt,
      entryBytes head.lastEntryHash head.nextSequenceNo request = .ok bytes ∧
      entryHash = E.sha256 bytes ∧ Ledger.canonicalHashInput request.transactionId
        (draftRow request metadata head.nextSequenceNo head.lastEntryHash entryHash)
        request.metadata (Ledger.linesOf st' request.transactionId) = some rebuilt ∧
      (bytes = rebuilt ↔ SameCount request.lines.length) := by
  obtain ⟨bytes, written, digest⟩ := hashEntry_ok.mp drafted.hash
  obtain ⟨_, _, made, same, short, closed⟩ := entryBytes_ok.mp written
  cases canonical.symm.trans same
  refine ⟨bytes, _, written, digest.symm, drafted.canonicalHashInput parents short, ?_⟩
  rw [closed, List.append_cancel_left_eq, List.append_cancel_right_eq]
  exact count_eq_iff _

/-- The input the database rebuilds for every DRAFT has the stored hash. -/
def DraftsVerify (st : Tables E) : Prop :=
  ∀ id row, st.transactions.lookup id = some row → row.status = .draft →
    ∀ canonical input, row.canonicalMetadata = some canonical →
      canonicalHashInput id row canonical (linesOf st id) = some input →
      E.sha256 input = row.entryHash

theorem checkDraft_hashMismatch (failed : checkDraft st id row = .error .hashMismatch) :
    ∃ canonical input, row.canonicalMetadata = some canonical ∧
      canonicalHashInput id row canonical (linesOf st id) = some input ∧
      E.sha256 input ≠ row.entryHash := by
  simp only [checkDraft, bind_error, require_error, expect_error, require_ok, expect_ok,
    reduceCtorEq, and_false, and_true, false_or] at failed
  obtain ⟨_, _, _, _, _, _, _, _, canonical, stored, _, _, _, _, input, rebuilt, different⟩ := failed
  exact ⟨canonical, input, stored, rebuilt, different⟩

theorem applyBalances_error (accountIds : List Bytes) {lines : List (Int × LineRow)}
    {sequenceNo : Int} {e : SqlError}
    (failed : accountIds.foldlM (applyBalance lines sequenceNo) st = .error e) :
    e = .outOfRange ∨ e = .violates .check := by
  induction accountIds generalizing st with
  | nil => cases failed
  | cons accountId rest ih =>
    simp only [List.foldlM_cons, bind_error] at failed
    rcases failed with first | ⟨mid, _, others⟩
    · unfold applyBalance at first
      split at first
      · cases first
      · simp only [bind_error, require_error, require_ok] at first
        rcases first with ⟨_, rfl⟩ | ⟨_, _, ⟨_, rfl⟩ | ⟨_, _, ⟨_, rfl⟩ | ⟨_, _, impossible⟩⟩⟩
        · exact .inl rfl
        · exact .inl rfl
        · exact .inr rfl
        · exact absurd impossible pure_error
    · exact ih others

theorem finalize_hashMismatch (failed : finalizeLedgerTransaction id st = .error .hashMismatch) :
    ∃ row, st.transactions.lookup id = some row ∧ row.status = .draft ∧
      checkDraft st id row = .error .hashMismatch := by
  unfold finalizeLedgerTransaction at failed
  split at failed
  · cases failed
  rename_i row found
  split at failed
  · cases failed
  rename_i status
  simp only [bind_error] at failed
  rcases failed with checked | ⟨_, _, advanced | ⟨_, _, posted | ⟨_, _, applied | ⟨_, _, last⟩⟩⟩⟩
  · exact ⟨row, found, by simpa using status, checked⟩
  · simp only [advanceBook, bind_error, require_error, expect_error, pure_error, reduceCtorEq,
      and_false, exists_false, or_false] at advanced
  · simp only [postRow, bind_error, require_error, pure_error, reduceCtorEq, and_false,
      exists_false, or_false] at posted
  · rcases applyBalances_error _ applied with impossible | impossible <;> cases impossible
  · simp only [require_error, pure_error, reduceCtorEq, and_false, exists_false, or_false] at last

theorem DraftsVerify.never_mismatch (verify : DraftsVerify st) (id : Bytes) :
    finalizeLedgerTransaction id st ≠ .error .hashMismatch := by
  intro failed
  obtain ⟨row, found, status, checked⟩ := finalize_hashMismatch failed
  obtain ⟨canonical, input, stored, rebuilt, different⟩ := checkDraft_hashMismatch checked
  exact different (verify id row found status canonical input stored rebuilt)

theorem LineInserted.linesHaveParent {parent : TransactionRow E} {account : AccountRow}
    {side : Side} (effect : LineInserted st st' id n line parent account side)
    (parents : LinesHaveParent st) : LinesHaveParent st' := by
  intro owner m stored found
  rw [effect.row] at found ⊢
  rw [AList.lookup_insert_if] at found
  split at found
  · rename_i same
    rw [(Prod.mk.inj same).1, effect.draft]
    rfl
  · exact parents owner m stored found

theorem Drafted.linesHaveParent (drafted : Drafted st st' request head entryHash metadata)
    (parents : LinesHaveParent st) : LinesHaveParent st' := by
  refine insertLines_preserves LinesHaveParent
    (fun _ _ _ _ _ _ _ holds effect => effect.linesHaveParent holds) request.lines ?_
    drafted.inserted
  intro owner n line found
  simp only [AList.lookup_insert_if]
  split
  · rfl
  · exact parents owner n line found

theorem Drafted.draftsVerify (drafted : Drafted st st' request head entryHash metadata)
    (parents : LinesHaveParent st)
    (canonical : canonicalJson request.metadata = some request.metadata)
    (count : SameCount request.lines.length) (verify : DraftsVerify st) : DraftsVerify st' := by
  intro id row found status made input stored rebuilt
  rw [drafted.transactions, AList.lookup_insert_if] at found
  split at found
  · rename_i same
    subst same
    cases found
    cases stored
    obtain ⟨bytes, again, _, digest, same, agree⟩ := drafted.bytes_agree parents canonical
    cases same.symm.trans rebuilt
    rw [← agree.mpr count, ← digest]
    rfl
  · rename_i other
    have lines := (insertLines_linesOf request.lines drafted.inserted).2.1 id other
    rw [lines] at rebuilt
    exact verify id row found status made input stored rebuilt

theorem Finalized.linesHaveParent (effect : Finalized st st' id row head)
    (parents : LinesHaveParent st) : LinesHaveParent st' := by
  intro owner n line found
  rw [effect.lines] at found
  rw [effect.transactions, AList.lookup_insert_if]
  split
  · rfl
  · exact parents owner n line found

theorem Finalized.draftsVerify (effect : Finalized st st' id row head) (verify : DraftsVerify st) :
    DraftsVerify st' := by
  intro other stored found status made input metadata rebuilt
  have lines : linesOf st' other = linesOf st other := by simp only [linesOf, effect.lines]
  rw [lines] at rebuilt
  rw [effect.transactions, AList.lookup_insert_if] at found
  split at found
  · cases found
    cases status
  · exact verify other stored found status made input metadata rebuilt

def Command.Counted : Command → Prop
  | .post request _ => SameCount request.lines.length
  | _ => True

theorem step_draftsVerify (st : Tables E) (command : Command) (counted : command.Counted)
    (holds : LinesHaveParent st ∧ DraftsVerify st) :
    LinesHaveParent (step st command) ∧ DraftsVerify (step st command) := by
  cases command with
  | createAccount =>
    refine commit_preserves _ (fun t => LinesHaveParent t ∧ DraftsVerify t) holds ?_
    intro st' _ committed
    obtain ⟨_, _, rfl⟩ := createAccount_frame committed
    exact holds
  | post =>
    refine commit_preserves _ (fun t => LinesHaveParent t ∧ DraftsVerify t) holds ?_
    intro st' _ committed
    refine postInTx_preserves (fun t => LinesHaveParent t ∧ DraftsVerify t) ?_ ?_ holds committed
    · intro canonical mid head entryHash metadata _ made drafted
      exact ⟨drafted.linesHaveParent holds.1,
        drafted.draftsVerify holds.1 (canonicalJson_idem made) counted holds.2⟩
    · exact fun _ _ _ _ middle effect =>
        ⟨effect.linesHaveParent middle.1, effect.draftsVerify middle.2⟩
  | finalize =>
    refine commit_preserves _ (fun t => LinesHaveParent t ∧ DraftsVerify t) holds ?_
    intro st' _ committed
    refine finalize_preserves (fun t => LinesHaveParent t ∧ DraftsVerify t) ?_ holds committed
    exact fun _ _ _ effect => ⟨effect.linesHaveParent holds.1, effect.draftsVerify holds.2⟩

/-- For every stored draft, HashEntry and the database hash the same bytes exactly
when the number of lines keeps its 32 bits in both. Where every posted request
meets that, no finalization in any run is refused by the hash check. -/
theorem rebuilt_bytes_equal_iff_same_count (E : Engine) :
    (∀ (st st' : Tables E) (request : PostRequest) (canonical : Bytes) (head : BookRow)
        (receipt : Receipt),
      LinesHaveParent st → request.validate = .ok () →
      canonicalJson request.metadata = some canonical →
      st.books.lookup request.bookId = some head →
      storeDraft { request with metadata := canonical } st = .ok (some st', receipt) →
      ∃ row bytes rebuilt,
        st'.transactions.lookup request.transactionId = some row ∧
        row.canonicalMetadata = some canonical ∧
        entryBytes head.lastEntryHash head.nextSequenceNo request = .ok bytes ∧
        row.entryHash = E.sha256 bytes ∧
        canonicalHashInput request.transactionId row canonical
          (linesOf st' request.transactionId) = some rebuilt ∧
        (bytes = rebuilt ↔ SameCount request.lines.length)) ∧
    ∀ (st : Tables E) (commands : List Command), st.transactions = ∅ → st.lines = ∅ →
      (∀ command ∈ commands, command.Counted) →
      ∀ id, finalizeLedgerTransaction id (run step st commands) ≠ .error .hashMismatch := by
  constructor
  · intro st st' request canonical head receipt parents valid made book stored
    rcases storeDraft_cases stored with ⟨absent, _⟩ | ⟨mid, head', entryHash, metadata, same, _, drafted⟩
    · cases absent
    cases same
    cases book.symm.trans drafted.book
    obtain ⟨bytes, rebuilt, written, digest, again, agree⟩ :=
      drafted.bytes_agree parents (canonicalJson_idem made)
    have row := congrArg (AList.lookup request.transactionId) drafted.transactions
    rw [AList.lookup_insert] at row
    refine ⟨_, bytes, rebuilt, row, rfl, ?_, digest, again, agree⟩
    rw [← written]
    exact (entryBytes_canonical valid made).symm
  · intro st commands noTransactions noLines counted
    have parents : LinesHaveParent st := by
      intro id n line found
      rw [noLines] at found
      cases found
    have verify : DraftsVerify st := by
      intro id row found
      rw [noTransactions] at found
      cases found
    exact (run_preserves_when step (fun t => LinesHaveParent t ∧ DraftsVerify t) Command.Counted
      step_draftsVerify commands counted ⟨parents, verify⟩).2.never_mismatch

/- A request whose number of lines does not fit 32 bits. -/

def debitLine : Line := ⟨ascii "cash", ascii "KZT", Side.debit.text, 1, []⟩

def creditLine : Line := ⟨ascii "alice", ascii "KZT", Side.credit.text, 1, []⟩

def alternating : Nat → List Line
  | 0 => []
  | k + 1 => debitLine :: creditLine :: alternating k

def wideRequest (k : Nat) : PostRequest :=
  { samplePosting "wide" 1 [] with metadata := ascii "\x7b\x7d", lines := alternating k }

def sampleLedger : Tables sampleEngine :=
  run step sampleTables (sampleCommands.take 2)

theorem wideRequest_canonical (k : Nat) :
    canonicalJson (wideRequest k).metadata = some (wideRequest k).metadata := by
  have empty : canonicalJson (ascii "\x7b\x7d") = some (ascii "\x7b\x7d") := by decide
  exact empty

theorem alternating_length (k : Nat) : (alternating k).length = 2 * k := by
  induction k with
  | zero => rfl
  | succ k ih =>
    simp only [alternating, List.length_cons, ih]
    omega

theorem alternating_mem (member : line ∈ alternating k) : line = debitLine ∨ line = creditLine := by
  induction k with
  | zero => cases member
  | succ k ih =>
    simp only [alternating, List.mem_cons] at member
    rcases member with rfl | rfl | later
    · exact .inl rfl
    · exact .inr rfl
    · exact ih later

theorem sumOf_alternating (side : Side) (asset : Bytes) (k : Nat) :
    sumOf side asset (alternating k) = if ascii "KZT" = asset then (k : Int) else 0 := by
  have apart : Side.debit.text ≠ Side.credit.text := by decide
  induction k with
  | zero => split <;> rfl
  | succ k ih =>
    rw [alternating, sumOf_cons, sumOf_cons, ih]
    cases side <;> by_cases known : ascii "KZT" = asset <;>
      simp [debitLine, creditLine, known, apart, apart.symm] <;> omega

theorem wideRequest_valid (positive : 0 < k) (small : k < 10 ^ 38) :
    (wideRequest k).validate = .ok () := by
  have lines : (wideRequest k).lines = alternating k := rfl
  have debit : debitLine.WellFormed := by constructor <;> decide
  have credit : creditLine.WellFormed := by constructor <;> decide
  refine PostRequest.WellFormed.validate ⟨?_, show 0 < (1 : Int64).toInt by decide, nofun, ?_, ?_,
    fun line member => ?_, fun asset => ?_, fun asset => ?_⟩
  · show validId (samplePosting "wide" 1 []).transactionId ∧ validId (ascii "book") ∧
      validId (ascii "operation") ∧ validId (ascii "wide") ∧ ascii "DEPOSIT" ≠ [] ∧
      ascii "v1" ≠ []
    decide
  · rw [lines, alternating_length]
    omega
  · rw [wideRequest_canonical]
    rfl
  · rcases alternating_mem member with rfl | rfl
    · exact debit
    · exact credit
  · rw [lines, sumOf_alternating, sumOf_alternating]
  · rw [lines, sumOf_alternating]
    split <;> omega

theorem alternating_short (k : Nat) : ∀ line ∈ alternating k, line.Short := by
  have debit : debitLine.Short := by constructor <;> decide
  have credit : creditLine.Short := by constructor <;> decide
  intro line member
  rcases alternating_mem member with rfl | rfl
  · exact debit
  · exact credit

structure LineAccepted (st : Tables E) (id : Bytes) (line : Line) : Prop where
  texts : acceptsAll E [line.accountId, line.assetId, line.side, line.memo] = .ok ()
  fits : fitsDecimal38 line.amountAtoms
  positive : 0 < line.amountAtoms
  draft : ∃ parent, st.transactions.lookup id = some parent ∧ parent.status = .draft ∧
    ∃ account, st.accounts.lookup line.accountId = some account ∧
      account.bookId = parent.bookId ∧ account.assetId = line.assetId
  known : ∃ side, Side.ofText line.side = some side
  asset : (st.assets.lookup line.assetId).isSome = true

theorem LineAccepted.of_lines (accepted : LineAccepted st id line)
    (lines : Table (Bytes × Int) LineRow) : LineAccepted { st with lines := lines } id line :=
  ⟨accepted.texts, accepted.fits, accepted.positive, accepted.draft, accepted.known,
    accepted.asset⟩

theorem insertLine_succeeds (accepted : LineAccepted st id line)
    (free : st.lines.lookup (id, (index : Int) + 1) = none) :
    ∃ row, insertLine id (index + 1) line st =
      .ok { st with lines := st.lines.insert (id, (index : Int) + 1) row } := by
  obtain ⟨parent, draft, status, account, found, book, asset⟩ := accepted.draft
  obtain ⟨side, known⟩ := accepted.known
  refine ⟨storedLine line side, ?_⟩
  simp only [insertLine, steps_ok]
  exact ⟨(), accepted.texts, (), accepted.fits, parent, draft, (), status, account, found, (), book,
    (), asset, side, known, (), ⟨by omega, accepted.positive⟩, (), free, (), accepted.asset, rfl⟩

theorem insertLines_succeeds (lines : List Line)
    (accepted : ∀ line ∈ lines, LineAccepted st id line)
    (free : ∀ n : Nat, index ≤ n → st.lines.lookup (id, (n : Int) + 1) = none) :
    ∃ st', insertLines id index lines st = .ok st' := by
  induction lines generalizing index st with
  | nil => exact ⟨st, rfl⟩
  | cons line rest ih =>
    obtain ⟨row, first⟩ := insertLine_succeeds (accepted line (by simp)) (free index le_rfl)
    have later : ∀ n : Nat, index + 1 ≤ n →
        (st.lines.insert (id, (index : Int) + 1) row).lookup (id, (n : Int) + 1) = none := by
      intro n above
      rw [AList.lookup_insert_ne (by simp; omega)]
      exact free n (by omega)
    obtain ⟨st', others⟩ := ih
      (fun l member => (accepted l (List.mem_cons_of_mem _ member)).of_lines _) later
    refine ⟨st', ?_⟩
    simp only [insertLines, bind_ok]
    exact ⟨_, first, others⟩

theorem sampleLedger_book : sampleLedger.books.lookup (ascii "book") =
      some ⟨ascii "entity", ascii "KZ", 1, genesisHash sampleEngine (ascii "book")⟩ := by
  decide +kernel

theorem sampleLedger_transactions : sampleLedger.transactions.rows = [] := by
  decide +kernel

theorem sampleLedger_lines : sampleLedger.lines.rows = [] := by
  decide +kernel

theorem lookup_of_no_rows {κ ρ : Type} [DecidableEq κ] {t : Table κ ρ} (empty : t.rows = [])
    (k : κ) : t.lookup k = none := by
  cases found : t.lookup k with
  | none => rfl
  | some row =>
    have member := (AList.mem_rows t k row).mpr found
    rw [empty] at member
    cases member

theorem sampleLedger_accepts (id : Bytes) (parent : TransactionRow sampleEngine)
    (draft : parent.status = .draft) (book : parent.bookId = ascii "book") (k : Nat) :
    ∀ line ∈ alternating k, LineAccepted
      { sampleLedger with transactions := sampleLedger.transactions.insert id parent } id line := by
  have asset : (sampleLedger.assets.lookup (ascii "KZT")).isSome = true := by decide +kernel
  have cash : (sampleLedger.accounts.lookup (ascii "cash")).map (fun a => (a.bookId, a.assetId)) =
      some (ascii "book", ascii "KZT") := by decide +kernel
  have alice : (sampleLedger.accounts.lookup (ascii "alice")).map (fun a => (a.bookId, a.assetId)) =
      some (ascii "book", ascii "KZT") := by decide +kernel
  have accepted : ∀ line : Line, line = debitLine ∨ line = creditLine →
      ∃ account, sampleLedger.accounts.lookup line.accountId = some account ∧
        account.bookId = parent.bookId ∧ account.assetId = line.assetId := by
    rintro line (rfl | rfl)
    · obtain ⟨account, found, pair⟩ := Option.map_eq_some_iff.mp cash
      exact ⟨account, found, (Prod.mk.inj pair).1.trans book.symm, (Prod.mk.inj pair).2⟩
    · obtain ⟨account, found, pair⟩ := Option.map_eq_some_iff.mp alice
      exact ⟨account, found, (Prod.mk.inj pair).1.trans book.symm, (Prod.mk.inj pair).2⟩
  intro line member
  have kind := alternating_mem member
  have parents : ∃ p, (sampleLedger.transactions.insert id parent).lookup id = some p ∧
      p.status = .draft ∧ ∃ account, sampleLedger.accounts.lookup line.accountId = some account ∧
        account.bookId = p.bookId ∧ account.assetId = line.assetId :=
    ⟨parent, AList.lookup_insert _, draft, accepted line kind⟩
  rcases kind with rfl | rfl
  · exact ⟨rfl, by decide, by decide, parents, ⟨.debit, rfl⟩, asset⟩
  · exact ⟨rfl, by decide, by decide, parents, ⟨.credit, rfl⟩, asset⟩

theorem wideRequest_hashed (positive : 0 < k) (small : k < 10 ^ 38) :
    ∃ bytes, entryBytes (genesisHash sampleEngine (ascii "book")) 1 (wideRequest k) =
      .ok bytes := by
  obtain ⟨wide, book, operation, kind, rule, metadata⟩ : Short (ascii "wide") ∧
      Short (ascii "book") ∧ Short (ascii "operation") ∧ Short (ascii "DEPOSIT") ∧
      Short (ascii "v1") ∧ Short (ascii "\x7b\x7d") := by decide
  have short : (wideRequest k).Short (wideRequest k).metadata :=
    ⟨wide, book, operation, wide, kind, rule, nofun, metadata, alternating_short k⟩
  exact ⟨_, entryBytes_ok.mpr
    ⟨Int.one_pos, wideRequest_valid positive small, _, wideRequest_canonical k, short, rfl⟩⟩

theorem wideRequest_inserted (k : Nat) (entryHash : Digest) :
    insertDraft (wideRequest k) 1 (genesisHash sampleEngine (ascii "book")) entryHash
        sampleLedger = .ok (some { sampleLedger with
        transactions := sampleLedger.transactions.insert (ascii "wide")
          (draftRow (wideRequest k) (ascii "\x7b\x7d") 1
            (genesisHash sampleEngine (ascii "book")) entryHash) }) := by
  have absent := lookup_of_no_rows sampleLedger_transactions (ascii "wide")
  have texts : ∀ text ∈ [ascii "wide", ascii "book", ascii "operation", ascii "wide",
      ascii "DEPOSIT", ascii "v1"], sampleEngine.acceptsText text = true := by decide +kernel
  have schema : (0 : Int) < 1 ∧ 0 < (1 : Int64).toInt := by decide
  have book : (sampleLedger.books.lookup (ascii "book")).isSome = true := by
    rw [sampleLedger_book]
    rfl
  simp only [insertDraft, sampleLedger_transactions, List.any_nil, Bool.false_eq_true, if_false,
    steps_ok, acceptsAll]
  refine ⟨(), texts, _, rfl, (), schema, (), absent, (), book, (), ?_, rfl⟩
  intro reference member
  cases member

theorem wideRequest_stored (positive : 0 < k) (small : k < 10 ^ 38) :
    ∃ st' receipt, storeDraft (wideRequest k) sampleLedger = .ok (some st', receipt) := by
  obtain ⟨bytes, written⟩ := wideRequest_hashed positive small
  have hash : hashEntry sampleEngine (genesisHash sampleEngine (ascii "book")) 1 (wideRequest k) =
      .ok (sampleEngine.sha256 bytes) := hashEntry_ok.mpr ⟨bytes, written, rfl⟩
  have inserted := wideRequest_inserted k (sampleEngine.sha256 bytes)
  have accepted := sampleLedger_accepts (ascii "wide") (draftRow (wideRequest k)
    (ascii "\x7b\x7d") 1 (genesisHash sampleEngine (ascii "book")) (sampleEngine.sha256 bytes))
    rfl rfl k
  obtain ⟨st', lines⟩ := insertLines_succeeds (alternating k) accepted
    (fun n (_ : 0 ≤ n) => lookup_of_no_rows sampleLedger_lines _)
  refine ⟨st', receiptOf (wideRequest k) 1 (sampleEngine.sha256 bytes), ?_⟩
  simp only [storeDraft, bind_ok, expect_ok, mapped_ok]
  refine ⟨_, sampleLedger_book, _, hash, _, inserted, ?_⟩
  simp only [bind_ok, mapped_ok, pure_ok]
  exact ⟨st', lines, rfl⟩

theorem sampleLedger_linesHaveParent : LinesHaveParent sampleLedger := by
  intro id n line found
  rw [lookup_of_no_rows sampleLedger_lines] at found
  cases found

/-- With 2 ^ 32 lines HashEntry writes the count 0 and the database 16 ^ 7. -/
theorem wide_request_bytes_differ :
    ∃ st' receipt row bytes rebuilt,
      (wideRequest (2 ^ 31)).validate = .ok () ∧
      canonicalJson (wideRequest (2 ^ 31)).metadata = some (ascii "\x7b\x7d") ∧
      storeDraft (wideRequest (2 ^ 31)) sampleLedger = .ok (some st', receipt) ∧
      st'.transactions.lookup (ascii "wide") = some row ∧
      entryBytes (genesisHash sampleEngine (ascii "book")) 1 (wideRequest (2 ^ 31)) = .ok bytes ∧
      canonicalHashInput (ascii "wide") row (ascii "\x7b\x7d") (linesOf st' (ascii "wide")) =
        some rebuilt ∧
      bytes ≠ rebuilt := by
  obtain ⟨st', receipt, stored⟩ := wideRequest_stored (k := 2 ^ 31) (by norm_num) (by norm_num)
  rcases storeDraft_cases stored with ⟨absent, _⟩ | ⟨mid, head, entryHash, metadata, same, _, drafted⟩
  · cases absent
  cases same
  cases drafted.book.symm.trans sampleLedger_book
  obtain ⟨bytes, rebuilt, written, _, again, agree⟩ :=
    drafted.bytes_agree sampleLedger_linesHaveParent (wideRequest_canonical _)
  have row := congrArg (AList.lookup (ascii "wide")) drafted.transactions
  refine ⟨st', receipt, _, bytes, rebuilt, wideRequest_valid (by norm_num) (by norm_num),
    wideRequest_canonical _, stored, row.trans (AList.lookup_insert _), written, again, ?_⟩
  intro equal
  have count := agree.mp equal
  rw [show (wideRequest (2 ^ 31)).lines = alternating (2 ^ 31) from rfl, alternating_length] at count
  exact not_sameCount_two_pow count

/-- With two lines the bytes are the same, and no sample run is refused. -/
theorem narrow_request_bytes_equal :
    (∃ st' receipt row bytes,
      storeDraft (wideRequest 1) sampleLedger = .ok (some st', receipt) ∧
      st'.transactions.lookup (ascii "wide") = some row ∧
      entryBytes (genesisHash sampleEngine (ascii "book")) 1 (wideRequest 1) = .ok bytes ∧
      canonicalHashInput (ascii "wide") row (ascii "\x7b\x7d") (linesOf st' (ascii "wide")) =
        some bytes) ∧
    ∀ id, finalizeLedgerTransaction id (run step sampleTables sampleCommands) ≠
      .error .hashMismatch := by
  obtain ⟨agree, never⟩ := rebuilt_bytes_equal_iff_same_count sampleEngine
  constructor
  · obtain ⟨st', receipt, stored⟩ := wideRequest_stored (k := 1) (by norm_num) (by norm_num)
    obtain ⟨row, bytes, rebuilt, found, _, written, _, again, same⟩ := agree sampleLedger st'
      (wideRequest 1) _ _ receipt sampleLedger_linesHaveParent
      (wideRequest_valid (by norm_num) (by norm_num)) (wideRequest_canonical 1) sampleLedger_book
      stored
    refine ⟨st', receipt, row, bytes, stored, found, written, ?_⟩
    rw [same.mpr (sameCount_of_lt (by decide))]
    exact again
  · refine never sampleTables sampleCommands rfl rfl ?_
    have counts : ∀ command ∈ sampleCommands, ∀ request draft, command = .post request draft →
        request.lines.length = 2 := by
      intro command member request draft same
      subst same
      simp only [sampleCommands, List.mem_cons, Command.post.injEq, reduceCtorEq, false_or,
        List.not_mem_nil, or_false] at member
      rcases member with ⟨rfl, _⟩ | ⟨rfl, _⟩ | ⟨rfl, _⟩ <;> rfl
    intro command member
    cases command with
    | post request draft =>
      have two := counts _ member request draft rfl
      show SameCount request.lines.length
      rw [two]
      exact sameCount_of_lt (by decide)
    | createAccount => trivial
    | finalize => trivial

end PaymentPlatform.Ledger
