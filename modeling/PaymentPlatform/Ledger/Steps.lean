import PaymentPlatform.Ledger.Service

/-! What a committed statement of the journal does, said once for each function. -/

namespace PaymentPlatform.Ledger

open Framing Serial

variable {E : Engine}
variable {lines : List (Int × LineRow)} {sequenceNo : Int} {id : Bytes} {receipt : Receipt}
variable {paymentDraft : Bool} {accountId : Bytes} {index : Nat} {st st' : Tables E}

/-- The balance row of an account once its lines are added. -/
def newBalance (lines : List (Int × LineRow)) (sequenceNo : Int) (accountId : Bytes)
    (account : AccountRow) (stored : Option BalanceRow) : BalanceRow :=
  let debit := sideTotal .debit (fun l => l.accountId = accountId) lines
  let credit := sideTotal .credit (fun l => l.accountId = accountId) lines
  addBalance stored debit credit (oriented account.normalSide debit credit) sequenceNo

structure BalanceApplied (lines : List (Int × LineRow)) (sequenceNo : Int) (st st' : Tables E)
    (accountId : Bytes) (account : AccountRow) : Prop where
  found : st.accounts.lookup accountId = some account
  row : st' = { st with
    accountBalances := st.accountBalances.insert accountId
      (newBalance lines sequenceNo accountId account (st.accountBalances.lookup accountId)) }
  storable : ∀ balance ∈ st'.accountBalances.lookup accountId, balance.storable

theorem applyBalance_cases (applied : applyBalance lines sequenceNo st accountId = .ok st') :
    (st.accounts.lookup accountId = none ∧ st' = st) ∨
      ∃ account, BalanceApplied lines sequenceNo st st' accountId account := by
  unfold applyBalance at applied
  split at applied
  · rename_i absent
    cases applied
    exact .inl ⟨absent, rfl⟩
  · rename_i account found
    simp only [steps_ok] at applied
    obtain ⟨_, _, _, storable, _, _, rfl⟩ := applied
    refine .inr ⟨account, found, rfl, ?_⟩
    intro balance present
    rw [Option.mem_def, AList.lookup_insert] at present
    cases present
    exact storable

theorem applyBalance_frame (applied : applyBalance lines sequenceNo st accountId = .ok st') :
    st' = { st with accountBalances := st'.accountBalances } := by
  rcases applyBalance_cases applied with ⟨_, rfl⟩ | ⟨account, effect⟩
  · rfl
  · rw [effect.row]

theorem foldlM_frame (accountIds : List Bytes)
    (applied : accountIds.foldlM (applyBalance lines sequenceNo) st = .ok st') :
    st' = { st with accountBalances := st'.accountBalances } := by
  induction accountIds generalizing st with
  | nil =>
    cases applied
    rfl
  | cons accountId rest ih =>
    simp only [List.foldlM_cons, bind_ok] at applied
    obtain ⟨mid, first, others⟩ := applied
    rw [ih others, applyBalance_frame first]

theorem applyBalances_frame (applied : applyBalances st lines sequenceNo = .ok st') :
    st' = { st with accountBalances := st'.accountBalances } :=
  foldlM_frame _ applied

theorem projectReference_congr (id : Bytes) (row : TransactionRow E)
    (shadow : st'.referencesShadow = st.referencesShadow)
    (phase : st'.referencePhase = st.referencePhase) :
    (projectReference st' id row).referencesShadow =
      (projectReference st id row).referencesShadow := by
  unfold projectReference
  rw [phase]
  split
  · exact shadow
  · exact shadow
  · exact shadow
  · rw [shadow]
    split
    · exact shadow
    · rfl

theorem projectReference_frame (st : Tables E) (id : Bytes) (row : TransactionRow E) :
    projectReference st id row =
      { st with referencesShadow := (projectReference st id row).referencesShadow } := by
  unfold projectReference
  split
  · rfl
  · rfl
  · rfl
  · split <;> rfl

/-- A finalization that posted: the DRAFT it found, the book head it advanced and
the tables it left. -/
structure Finalized (st st' : Tables E) (id : Bytes) (row : TransactionRow E) (head : BookRow) :
    Prop where
  draft : st.transactions.lookup id = some row
  status : row.status = .draft
  checked : checkDraft st id row = .ok ()
  book : st.books.lookup row.bookId = some head
  sequence : head.nextSequenceNo = row.sequenceNo
  previous : head.lastEntryHash = row.prevHash
  books : st'.books = st.books.insert row.bookId
    { head with nextSequenceNo := head.nextSequenceNo + 1, lastEntryHash := row.entryHash }
  transactions : st'.transactions = st.transactions.insert id { row with status := .posted }
  lines : st'.lines = st.lines
  accounts : st'.accounts = st.accounts
  shadow : st'.referencesShadow = (projectReference st id row).referencesShadow
  phase : st'.referencePhase = st.referencePhase
  balances : applyBalances { st' with accountBalances := st.accountBalances } (linesOf st id)
    row.sequenceNo = .ok st'
  limits : withinLimits st' (linesOf st id)
  bounded : row.sequenceNo < maxInt8

theorem advanceBook_ok {row : TransactionRow E} (advanced : advanceBook st row = .ok st') :
    ∃ head, st.books.lookup row.bookId = some head ∧ head.nextSequenceNo = row.sequenceNo ∧
      head.lastEntryHash = row.prevHash ∧ head.nextSequenceNo < maxInt8 ∧ st' = { st with
        books := st.books.insert row.bookId
          { head with nextSequenceNo := head.nextSequenceNo + 1, lastEntryHash := row.entryHash } }
    := by
  simp only [advanceBook, steps_ok] at advanced
  obtain ⟨head, found, _, ⟨sequence, previous⟩, _, bounded, out⟩ := advanced
  exact ⟨head, found, sequence, previous, by omega, out.symm⟩

theorem postRow_ok {row : TransactionRow E} (posted : postRow st id row = .ok st') :
    st' = { st with transactions := st.transactions.insert id { row with status := .posted } } := by
  simp only [postRow, steps_ok] at posted
  obtain ⟨_, _, out⟩ := posted
  exact out.symm

theorem finalize_cases {answer : Option Bytes}
    (committed : finalizeLedgerTransaction id st = .ok (st', answer)) : (st' = st ∧ answer = none) ∨
      ∃ row head, Finalized st st' id row head ∧ answer = some id := by
  unfold finalizeLedgerTransaction at committed
  split at committed
  · cases committed
    exact .inl ⟨rfl, rfl⟩
  rename_i row found
  split at committed
  · cases committed
    exact .inl ⟨rfl, rfl⟩
  rename_i status
  simp only [bind_ok, pure_ok, require_ok] at committed
  obtain ⟨_, checked, st1, advanced, st2, posted, st4, applied, _, limits, out⟩ := committed
  cases out
  obtain ⟨head, book, sequence, previous, bounded, h1⟩ := advanceBook_ok advanced
  have h2 := postRow_ok posted
  have h3 := projectReference_frame st2 id row
  have projected : (projectReference st2 id row).referencesShadow =
      (projectReference st id row).referencesShadow :=
    projectReference_congr id row (by rw [h2, h1]) (by rw [h2, h1])
  generalize projectReference st2 id row = st3 at h3 projected applied limits
  have h4 := applyBalances_frame applied
  have lines3 : st3.lines = st.lines := by rw [h3, h2, h1]
  have lines4 : st'.lines = st.lines := by rw [h4, lines3]
  have before : { st' with accountBalances := st.accountBalances } = st3 := by
    rw [h4, h3, h2, h1]
  have same3 : linesOf st3 id = linesOf st id := by simp only [linesOf, lines3]
  have same4 : linesOf st' id = linesOf st id := by simp only [linesOf, lines4]
  refine .inr ⟨row, head, ⟨found, by simpa using status, checked, book, sequence, previous,
    by rw [h4, h3, h2, h1], by rw [h4, h3, h2, h1], lines4, by rw [h4, h3, h2, h1],
    by rw [h4, projected], by rw [h4, h3, h2, h1], ?_, same4 ▸ limits, sequence ▸ bounded⟩, rfl⟩
  rw [before, ← same3]
  exact applied

def storedLine (line : Line) (side : Side) : LineRow :=
  { accountId := line.accountId
    assetId := line.assetId
    side := side
    amountAtoms := line.amountAtoms
    memo := line.memo }

structure LineInserted (st st' : Tables E) (id : Bytes) (lineNo : Int) (line : Line)
    (parent : TransactionRow E) (account : AccountRow) (side : Side) : Prop where
  draft : st.transactions.lookup id = some parent
  status : parent.status = .draft
  found : st.accounts.lookup line.accountId = some account
  book : account.bookId = parent.bookId
  asset : account.assetId = line.assetId
  known : Side.ofText line.side = some side
  positive : 0 < line.amountAtoms
  fresh : st.lines.lookup (id, lineNo) = none
  row : st' = { st with lines := st.lines.insert (id, lineNo) (storedLine line side) }

theorem insertLine_ok {lineNo : Int} {line : Line}
    (inserted : insertLine id lineNo line st = .ok st') :
    ∃ parent account side, LineInserted st st' id lineNo line parent account side := by
  simp only [insertLine, acceptsAll, steps_ok] at inserted
  obtain ⟨_, _, _, _, parent, draft, _, status, account, found, _, book, _, asset, side, known, _,
    positive, _, fresh, _, _, out⟩ := inserted
  exact ⟨parent, account, side, draft, status, found, book, asset, known, positive.2, fresh,
    out.symm⟩

theorem insertLines_preserves (I : Tables E → Prop)
    (keeps : ∀ st st' n line parent account side, I st →
      LineInserted st st' id n line parent account side → I st') (lines : List Line)
    (holds : I st) (inserted : insertLines id index lines st = .ok st') : I st' := by
  induction lines generalizing index st with
  | nil =>
    cases inserted
    exact holds
  | cons line rest ih =>
    simp only [insertLines, bind_ok] at inserted
    obtain ⟨mid, first, others⟩ := inserted
    obtain ⟨parent, account, side, effect⟩ := insertLine_ok first
    exact ih (keeps _ _ _ _ _ _ _ holds effect) others

theorem insertLines_frame {lines : List Line} (inserted : insertLines id index lines st = .ok st') :
    st' = { st with lines := st'.lines } := by
  refine insertLines_preserves (fun t => t = { st with lines := t.lines }) ?_ lines rfl inserted
  intro t t' n line parent account side same effect
  rw [effect.row, same]

/-- A DRAFT stored with its lines, for a request with canonical metadata. -/
structure Drafted (st st' : Tables E) (request : PostRequest) (head : BookRow)
    (entryHash : Digest) (metadata : E.Jsonb) : Prop where
  book : st.books.lookup request.bookId = some head
  hash : hashEntry E head.lastEntryHash head.nextSequenceNo request = .ok entryHash
  parsed : E.parseJsonb request.metadata = some metadata
  fresh : st.transactions.lookup request.transactionId = none
  effect : ∀ id row, st.transactions.lookup id = some row → row.effectId ≠ request.effectId
  inserted : insertLines request.transactionId 0 request.lines
    { st with
      transactions := st.transactions.insert request.transactionId
        (draftRow request metadata head.nextSequenceNo head.lastEntryHash entryHash) } = .ok st'
  texts : ∀ text ∈ [request.transactionId, request.bookId, request.operationId, request.effectId],
    E.acceptsText text = true
  positive : 0 < head.nextSequenceNo

namespace Drafted

variable {st st' : Tables E} {request : PostRequest} {head : BookRow} {entryHash : Digest}
  {metadata : E.Jsonb}

section

variable (drafted : Drafted st st' request head entryHash metadata)
include drafted

theorem frame : st' = { st with
      lines := st'.lines
      transactions := st.transactions.insert request.transactionId
        (draftRow request metadata head.nextSequenceNo head.lastEntryHash entryHash) } :=
  insertLines_frame drafted.inserted

theorem books : st'.books = st.books := by
  rw [drafted.frame]

theorem accounts : st'.accounts = st.accounts := by
  rw [drafted.frame]

theorem transactions : st'.transactions = st.transactions.insert request.transactionId
      (draftRow request metadata head.nextSequenceNo head.lastEntryHash entryHash) := by
  rw [drafted.frame]

end

end Drafted

theorem insertDraft_cases {request : PostRequest} {prevHash entryHash : Digest}
    {stored : Option (Tables E)}
    (inserted : insertDraft request sequenceNo prevHash entryHash st = .ok stored) :
    (stored = none ∧ ∃ id row, st.transactions.lookup id = some row ∧
        row.effectId = request.effectId) ∨
      ∃ metadata, E.parseJsonb request.metadata = some metadata ∧
      st.transactions.lookup request.transactionId = none ∧
      (∀ id row, st.transactions.lookup id = some row → row.effectId ≠ request.effectId) ∧
      (∀ text ∈ [request.transactionId, request.bookId, request.operationId, request.effectId],
        E.acceptsText text = true) ∧ 0 < sequenceNo ∧ stored = some { st with
        transactions := st.transactions.insert request.transactionId
          (draftRow request metadata sequenceNo prevHash entryHash) } := by
  simp only [insertDraft, acceptsAll, steps_ok] at inserted
  obtain ⟨_, texts, metadata, parsed, inserted⟩ := inserted
  split at inserted
  · rename_i used
    cases inserted
    obtain ⟨id, row, found, same⟩ :=
      (AList.any_rows st.transactions fun _ r => decide (r.effectId = request.effectId)).mp used
    exact .inl ⟨rfl, id, row, found, by simpa using same⟩
  · rename_i unused
    simp only [steps_ok] at inserted
    obtain ⟨_, checked, _, fresh, _, _, _, _, out⟩ := inserted
    refine .inr ⟨metadata, parsed, fresh, ?_, ?_, checked.1, out.symm⟩
    case refine_2 =>
      intro text member
      apply texts
      simp only [List.mem_cons, List.not_mem_nil, or_false] at member
      simp only [List.cons_append, List.mem_cons]
      tauto
    intro id row found same
    exact unused ((AList.any_rows _ fun _ r => decide (r.effectId = request.effectId)).mpr
      ⟨id, row, found, by simpa using same⟩)

theorem storeDraft_cases {request : PostRequest} {stored : Option (Tables E)}
    (done : storeDraft request st = .ok (stored, receipt)) :
    (stored = none ∧ ∃ id row, st.transactions.lookup id = some row ∧
        row.effectId = request.effectId) ∨ ∃ st' head entryHash metadata, stored = some st' ∧
      receipt = receiptOf request head.nextSequenceNo entryHash ∧
      Drafted st st' request head entryHash metadata := by
  simp only [storeDraft, bind_ok, expect_ok, mapped_ok] at done
  obtain ⟨head, book, entryHash, hash, row, inserted, done⟩ := done
  have outcome := insertDraft_cases inserted
  split at done
  · cases done
    rcases outcome with ⟨_, used⟩ | ⟨_, _, _, _, _, _, same⟩
    · exact .inl ⟨rfl, used⟩
    · cases same
  · simp only [bind_ok, mapped_ok, pure_ok] at done
    obtain ⟨st', lines, out⟩ := done
    cases out
    rcases outcome with ⟨impossible, _⟩ | ⟨metadata, parsed, fresh, effect, texts, positive, same⟩
    · cases impossible
    · cases same
      exact .inr ⟨st', head, entryHash, metadata, rfl, rfl, book, hash, parsed, fresh, effect,
        lines, texts, positive⟩

structure TransactionRow.Records (row : TransactionRow E) (request : PostRequest) : Prop where
  book : row.bookId = request.bookId
  operation : row.operationId = request.operationId
  effect : row.effectId = request.effectId
  kind : row.transactionKind = request.kind
  hash : row.requestHash = request.requestHash
  reference : row.referenceTransactionId = request.referenceTransactionId
  posted : row.status = .posted

theorem receiptByEffect_some {request : PostRequest}
    (looked : receiptByEffect st request = .ok (some receipt)) :
    ∃ row, st.transactions.lookup receipt.transactionId = some row ∧ row.Records request := by
  unfold receiptByEffect at looked
  split at looked
  · cases looked
  · rename_i id row first
    simp only [steps_ok, Option.some.injEq] at looked
    obtain ⟨_, same, _, posted, rfl⟩ := looked
    have member := List.mem_of_find?_eq_some first
    have effect := List.find?_some first
    refine ⟨row, (AList.mem_rows _ _ _).mp member, ?_⟩
    exact ⟨same.2.1, same.2.2.1, by simpa using effect, same.2.2.2.1, same.1, same.2.2.2.2.2.2, posted⟩

/-- postInTx answers with the entry of a repeated effect, or it stores a DRAFT, which it
finalizes unless it is the draft of a payment. -/
theorem postInTx_ok {request : PostRequest}
    (committed : postInTx request paymentDraft st = .ok (st', receipt)) :
    request.validate = .ok () ∧ ∃ canonical, canonicalJson request.metadata = some canonical ∧
      ((st' = st ∧ receiptByEffect st { request with metadata := canonical } = .ok (some receipt)) ∨
        ∃ mid head entryHash metadata,
          Drafted st mid { request with metadata := canonical } head entryHash metadata ∧
          receipt = receiptOf { request with metadata := canonical } head.nextSequenceNo entryHash ∧
          ((paymentDraft = true ∧ st' = mid) ∨ (paymentDraft = false ∧
            ∃ row head', Finalized mid st' request.transactionId row head'))) := by
  simp only [postInTx, steps_ok] at committed
  obtain ⟨_, valid, canonical, made, existing, looked, committed⟩ := committed
  refine ⟨valid, canonical, made, ?_⟩
  split at committed
  · cases committed
    exact .inl ⟨rfl, looked⟩
  simp only [bind_ok] at committed
  obtain ⟨⟨stored, r⟩, done, committed⟩ := committed
  split at committed
  · -- ON CONFLICT DO NOTHING: the effect is looked up again
    simp only [steps_ok] at committed
    obtain ⟨_, again, _, rfl, rfl, rfl⟩ := committed
    exact .inl ⟨rfl, again⟩
  rename_i mid present
  rcases storeDraft_cases done with ⟨absent, _⟩ | ⟨mid', head, entryHash, metadata, same, shown, drafted⟩
  · rw [absent] at present
    cases present
  cases same.symm.trans present
  split at committed
  · rename_i payment
    cases committed
    exact .inr ⟨_, head, entryHash, metadata, drafted, shown, Or.inl ⟨payment, rfl⟩⟩
  · rename_i posting
    simp only [steps_ok, mapped_ok] at committed
    obtain ⟨⟨final, answer⟩, finalized, _, named, rfl, rfl⟩ := committed
    rcases finalize_cases finalized with ⟨_, impossible⟩ | ⟨row, head', effect, _⟩
    · cases named.symm.trans impossible
    · exact .inr ⟨mid, head, entryHash, metadata, drafted, shown,
        Or.inr ⟨by simpa using posting, row, head', effect⟩⟩

theorem postInTx_preserves (I : Tables E → Prop) {request : PostRequest}
    (drafted : ∀ canonical mid head entryHash metadata, request.validate = .ok () →
      canonicalJson request.metadata = some canonical →
      Drafted st mid { request with metadata := canonical } head entryHash metadata → I mid)
    (finalized : ∀ mid st' row head, I mid → Finalized mid st' request.transactionId row head → I st')
    (holds : I st) (committed : postInTx request paymentDraft st = .ok (st', receipt)) : I st' := by
  obtain ⟨valid, canonical, made, ⟨rfl, _⟩ | ⟨mid, head, entryHash, metadata, draft, _, last⟩⟩ :=
    postInTx_ok committed
  · exact holds
  have middle := drafted canonical mid head entryHash metadata valid made draft
  rcases last with ⟨_, rfl⟩ | ⟨_, row, head', effect⟩
  · exact middle
  · exact finalized mid st' row head' middle effect

theorem finalize_preserves (I : Tables E → Prop) {answer : Option Bytes}
    (finalized : ∀ st' row head, Finalized st st' id row head → I st') (holds : I st)
    (committed : finalizeLedgerTransaction id st = .ok (st', answer)) : I st' := by
  rcases finalize_cases committed with ⟨rfl, _⟩ | ⟨row, head, effect, _⟩
  · exact holds
  · exact finalized st' row head effect

theorem step_preserves (I : Tables E → Prop)
    (account : ∀ (st st' : Tables E) account, I st → createAccountInTx account st = .ok (st', ()) →
      I st') (drafted : ∀ (st st' : Tables E) request head entryHash metadata, I st →
      Drafted st st' request head entryHash metadata → I st')
    (finalized : ∀ (st st' : Tables E) id row head, I st → Finalized st st' id row head → I st')
    (st : Tables E) (command : Command) (holds : I st) : I (step st command) := by
  cases command with
  | createAccount =>
    exact commit_preserves _ I holds fun _ _ committed => account _ _ _ holds committed
  | post =>
    refine commit_preserves _ I holds fun _ _ committed => postInTx_preserves I ?_ ?_ holds committed
    · exact fun _ _ _ _ _ _ _ draft => drafted _ _ _ _ _ _ holds draft
    · exact fun _ _ _ _ middle effect => finalized _ _ _ _ _ middle effect
  | finalize =>
    refine commit_preserves _ I holds fun _ _ committed => finalize_preserves I ?_ holds committed
    exact fun _ _ _ effect => finalized _ _ _ _ _ holds effect

theorem postInTx_draft {request : PostRequest}
    (committed : postInTx request true st = .ok (st', receipt))
    (unused : ∀ id row, st.transactions.lookup id = some row → row.effectId ≠ request.effectId) :
    ∃ canonical head entryHash metadata,
      Drafted st st' { request with metadata := canonical } head entryHash metadata ∧
      receipt = receiptOf { request with metadata := canonical } head.nextSequenceNo entryHash := by
  obtain ⟨_, canonical, _, ⟨rfl, looked⟩ |
    ⟨mid, head, entryHash, metadata, drafted, shown, ⟨_, rfl⟩ | ⟨impossible, _⟩⟩⟩ :=
    postInTx_ok committed
  · obtain ⟨row, found, records⟩ := receiptByEffect_some looked
    exact absurd records.effect (unused _ row found)
  · exact ⟨canonical, head, entryHash, metadata, drafted, shown⟩
  · cases impossible

theorem openBalance_frame (accountId : Bytes) (st : Tables E) : openBalance accountId st =
      { st with accountBalances := (openBalance accountId st).accountBalances } := by
  unfold openBalance
  split <;> rfl

/-- An account is created with its constraints met, or it exists; then it has a
balance row. -/
theorem createAccount_cases {account : Account}
    (committed : createAccountInTx account st = .ok (st', ())) :
    (∃ stored, st.accounts.lookup account.accountId = some stored ∧
      st' = openBalance account.accountId st) ∨
    (st.accounts.lookup account.accountId = none ∧ ∃ row : AccountRow, 0 ≤ row.creditLimitAtoms ∧
      st' = openBalance account.accountId
        { st with accounts := st.accounts.insert account.accountId row }) := by
  simp only [createAccountInTx, bind_ok] at committed
  obtain ⟨_, _, committed⟩ := committed
  split at committed
  · rename_i absent
    simp only [steps_ok] at committed
    obtain ⟨mid, inserted, same, _⟩ := committed
    cases done : insertAccount account st with
    | error => simp [done] at inserted
    | ok =>
      simp only [done, Except.ok.injEq] at inserted
      subst inserted
      simp only [insertAccount, acceptsAll, steps_ok] at done
      obtain ⟨_, _, side, _, _, _, _, limit, _, _, out⟩ := done
      subst out
      exact .inr ⟨absent, _, limit, same.symm⟩
  · rename_i stored found
    simp only [steps_ok] at committed
    obtain ⟨_, _, same, _⟩ := committed
    exact .inl ⟨stored, found, same.symm⟩

theorem createAccount_frame {account : Account}
    (committed : createAccountInTx account st = .ok (st', ())) : ∃ accounts balances,
      st' = { st with accounts := accounts, accountBalances := balances } := by
  rcases createAccount_cases committed with ⟨_, _, rfl⟩ | ⟨_, _, _, rfl⟩ <;>
    exact ⟨_, _, openBalance_frame ..⟩

end PaymentPlatform.Ledger
