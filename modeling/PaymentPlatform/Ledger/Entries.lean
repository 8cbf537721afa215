import PaymentPlatform.Ledger.Journal

/-! What a posting adds to the journal, said once: the entry and its lines. -/

namespace PaymentPlatform.Ledger

open Framing Serial

variable {E : Engine}
variable {st st' : Tables E} {id : Bytes} {request : PostRequest} {receipt : Receipt}

theorem sideTotal_reverse (side : Side) (select : LineRow → Bool) (lines : List (Int × LineRow)) :
    sideTotal side select lines.reverse = sideTotal side select lines := by
  simp only [sideTotal, List.map_reverse, List.sum_reverse]

/-- A posting whose effect is new: one POSTED entry with the lines of the request. -/
structure Journaled (st st' : Tables E) (request : PostRequest) (row : TransactionRow E) : Prop where
  fresh : st.transactions.lookup request.transactionId = none
  unused : ∀ id old, st.transactions.lookup id = some old → old.effectId ≠ request.effectId
  records : row.Records request
  metadata : ∃ canonical, canonicalJson request.metadata = some canonical ∧
    E.parseJsonb canonical = some row.metadata
  transactions : st'.transactions = st.transactions.insert request.transactionId row
  lines : linesOf st' request.transactionId = (numberedLines 0 request.lines).reverse
  otherLines : ∀ id, id ≠ request.transactionId → linesOf st' id = linesOf st id
  accounts : st'.accounts = st.accounts
  parties : ∀ line ∈ request.lines, 0 < line.amountAtoms ∧
    ∃ account, st.accounts.lookup line.accountId = some account ∧
      account.assetId = line.assetId ∧ account.bookId = request.bookId
  projected : Projected st'

theorem Projected.parents (inv : Projected st) : LinesHaveParent st := by
  intro id n line found
  obtain ⟨row, _, parent, _⟩ := inv.lines id n line found
  rw [parent]
  rfl

theorem insertLines_parties (lines : List Line) {index : Nat}
    (inserted : insertLines id index lines st = .ok st') :
    ∀ line ∈ lines, 0 < line.amountAtoms ∧ ∃ parent account, st.transactions.lookup id = some parent ∧
      st.accounts.lookup line.accountId = some account ∧ account.assetId = line.assetId ∧
      account.bookId = parent.bookId := by
  induction lines generalizing index st with
  | nil => simp
  | cons line rest ih =>
    simp only [insertLines, bind_ok] at inserted
    obtain ⟨mid, first, others⟩ := inserted
    obtain ⟨parent, account, side, effect⟩ := insertLine_ok first
    intro l member
    rcases List.mem_cons.mp member with rfl | later
    · exact ⟨effect.positive, parent, account, effect.draft, effect.found, effect.asset, effect.book⟩
    · have rest := ih others l later
      rw [effect.row] at rest
      exact rest

theorem reannotate_postedTotal {old new : TransactionRow E}
    (found : st.transactions.lookup id = some old) (status : new.status = old.status) (side : Side)
    (accountId : Bytes) :
    postedTotal { st with transactions := st.transactions.insert id new } side accountId =
      postedTotal st side accountId := by
  have posted : ∀ other, isPosted { st with transactions := st.transactions.insert id new } other =
      isPosted st other := by
    intro other
    simp only [isPosted, AList.lookup_insert_if]
    by_cases same : other = id
    · subst same
      simp [found, status]
    · simp [same]
  simp only [postedTotal, posted]

theorem Projected.reannotate (inv : Projected st) {old new : TransactionRow E}
    (found : st.transactions.lookup id = some old) (status : new.status = old.status)
    (book : new.bookId = old.bookId) :
    Projected { st with transactions := st.transactions.insert id new } := by
  have totals := reannotate_postedTotal found status
  refine ⟨inv.owned, ?_, ?_, inv.pools⟩
  · intro a row present
    obtain ⟨balance, held, projects⟩ := inv.folded a row present
    exact ⟨balance, held, by rw [totals, projects.debit], by rw [totals, projects.credit],
      by rw [totals, totals, projects.current], projects.storable, projects.limited⟩
  · intro id' n line present
    obtain ⟨row, account, parent, owner, asset, same⟩ := inv.lines id' n line present
    by_cases here : id' = id
    · subst here
      rw [found] at parent
      cases parent
      exact ⟨new, account, AList.lookup_insert _, owner, asset, same.trans book.symm⟩
    · exact ⟨row, account, by rw [AList.lookup_insert_ne here, parent], owner, asset, same⟩

theorem journaled_of_draft {mid ready : Tables E} {canonical : Bytes} {head head' : BookRow}
    {entryHash : Digest} {metadata : E.Jsonb} {draft row : TransactionRow E} (verified : Bool)
    (inv : Projected st) (made : canonicalJson request.metadata = some canonical)
    (drafted : Drafted st mid { request with metadata := canonical } head entryHash metadata)
    (written : draft = { draftRow { request with metadata := canonical } metadata
      head.nextSequenceNo head.lastEntryHash entryHash with paymentTemplateVerified := verified })
    (annotated : ready = { mid with
      transactions := mid.transactions.insert request.transactionId draft })
    (effect : Finalized ready st' request.transactionId row head') :
    Journaled st st' request { row with status := .posted } := by
  have stored : mid.transactions.lookup request.transactionId =
      some (draftRow { request with metadata := canonical } metadata head.nextSequenceNo
        head.lastEntryHash entryHash) := by
    rw [drafted.transactions]
    exact AList.lookup_insert _
  have same : row = draft := by
    have found := effect.draft
    rw [annotated, AList.lookup_insert] at found
    exact (Option.some.inj found).symm
  have status : draft.status = .draft := by rw [written]; rfl
  have readyInv : Projected ready := by
    rw [annotated]
    exact (drafted.projected inv).reannotate stored status (by rw [written])
  have readyLines : ∀ id, linesOf ready id = linesOf mid id := by
    intro id
    rw [annotated]
    rfl
  have own : linesOf mid request.transactionId = (numberedLines 0 request.lines).reverse :=
    drafted.linesOf inv.parents
  refine
    { fresh := drafted.fresh
      unused := drafted.effect
      records := by rw [same, written]; exact ⟨rfl, rfl, rfl, rfl, rfl, rfl, rfl⟩
      metadata := ⟨canonical, made, by rw [same, written]; exact drafted.parsed⟩
      transactions := ?_
      lines := by rw [linesOf, effect.lines]; exact (readyLines _).trans own
      otherLines := ?_
      accounts := by rw [effect.accounts, annotated]; exact drafted.accounts
      parties := ?_
      projected := effect.projected readyInv }
  · rw [effect.transactions, annotated, drafted.transactions, AList.insert_insert,
      AList.insert_insert]
  · intro id other
    have same : linesOf st' id = linesOf ready id := by
      simp only [linesOf, effect.lines]
    rw [same, readyLines]
    exact (insertLines_linesOf request.lines drafted.inserted).2.1 id other
  · intro line member
    obtain ⟨positive, parent, account, found, owner, asset, book⟩ :=
      insertLines_parties request.lines drafted.inserted line member
    cases found.symm.trans (AList.lookup_insert _)
    exact ⟨positive, account, owner, asset, book⟩

theorem postInTx_finalizes (committed : postInTx request false st = .ok (st', receipt)) :
    (st' = st ∧ ∃ row, st.transactions.lookup receipt.transactionId = some row ∧
        row.Records request) ∨ ∃ canonical mid head entryHash metadata row head',
        canonicalJson request.metadata = some canonical ∧
        Drafted st mid { request with metadata := canonical } head entryHash metadata ∧
        Finalized mid st' request.transactionId row head' ∧
        receipt = receiptOf { request with metadata := canonical } head.nextSequenceNo entryHash := by
  obtain ⟨_, canonical, made, ⟨rfl, looked⟩ |
    ⟨mid, head, entryHash, metadata, drafted, shown, ⟨impossible, _⟩ | ⟨_, row, head', effect⟩⟩⟩ :=
    postInTx_ok committed
  · obtain ⟨row, found, records⟩ := receiptByEffect_some looked
    exact .inl ⟨rfl, row, found, ⟨records.1, records.2, records.3, records.4, records.5, records.6,
      records.7⟩⟩
  · cases impossible
  · exact .inr ⟨canonical, mid, head, entryHash, metadata, row, head', made, drafted, effect, shown⟩

theorem postInTx_posts (inv : Projected st)
    (committed : postInTx request false st = .ok (st', receipt)) :
    (st' = st ∧ ∃ row, st.transactions.lookup receipt.transactionId = some row ∧
        row.Records request) ∨
      (receipt.transactionId = request.transactionId ∧ ∃ row, Journaled st st' request row) := by
  rcases postInTx_finalizes committed with replayed |
    ⟨canonical, mid, head, entryHash, metadata, row, head', made, drafted, effect, shown⟩
  · exact .inl replayed
  have again : mid.transactions.insert request.transactionId
      (draftRow { request with metadata := canonical } metadata head.nextSequenceNo
        head.lastEntryHash entryHash) = mid.transactions := by
    rw [drafted.transactions]
    exact AList.insert_insert _
  have ready : mid = { mid with
      transactions := mid.transactions.insert request.transactionId
        (draftRow { request with metadata := canonical } metadata head.nextSequenceNo
          head.lastEntryHash entryHash) } := by
    rw [again]
  exact .inr ⟨by rw [shown]; rfl, _, journaled_of_draft false inv made drafted rfl ready effect⟩

structure Receipt.Storable (E : Engine) (r : Receipt) : Prop where
  texts : ∀ text ∈ [r.transactionId, r.bookId, r.operationId, r.effectId],
    E.acceptsText text = true
  sequence : 0 < r.sequenceNo ∧ r.sequenceNo ≤ maxInt8

theorem postInTx_storable (committed : postInTx request false st = .ok (st', receipt))
    (unused : ∀ id row, st.transactions.lookup id = some row → row.effectId ≠ request.effectId) :
    receipt.Storable E ∧ receipt.duplicate = false := by
  rcases postInTx_finalizes committed with ⟨_, row, found, records⟩ |
    ⟨canonical, mid, head, entryHash, metadata, row, head', made, drafted, effect, shown⟩
  · exact absurd records.effect (unused _ row found)
  have same : row.sequenceNo = head.nextSequenceNo := by
    have draft := effect.draft
    rw [drafted.transactions, AList.lookup_insert] at draft
    cases draft
    rfl
  have bounded := effect.bounded
  rw [same] at bounded
  rw [shown]
  exact ⟨⟨drafted.texts, drafted.positive, Int.le_of_lt bounded⟩, rfl⟩

theorem postInTx_shows (committed : postInTx request false st = .ok (st', receipt))
    (unused : ∀ id row, st.transactions.lookup id = some row → row.Records request → False) :
    ∃ row, st'.transactions.lookup request.transactionId = some row ∧ row.Records request ∧
      receipt = receiptOf request row.sequenceNo row.entryHash := by
  rcases postInTx_finalizes committed with ⟨_, row, found, records⟩ |
    ⟨canonical, mid, head, entryHash, metadata, row, head', made, drafted, effect, shown⟩
  · exact (unused _ row found records).elim
  have draft := effect.draft
  rw [drafted.transactions, AList.lookup_insert] at draft
  have stored : st'.transactions.lookup request.transactionId =
      some { row with status := .posted } := by
    rw [effect.transactions]
    exact AList.lookup_insert _
  refine ⟨_, stored, ?_⟩
  cases draft
  exact ⟨⟨rfl, rfl, rfl, rfl, rfl, rfl, rfl⟩, shown⟩

theorem Journaled.keepsPosted {row : TransactionRow E} (posted : Journaled st st' request row) :
    KeepsPosted st st' := by
  intro id old found _
  have other : id ≠ request.transactionId := by
    rintro rfl
    rw [posted.fresh] at found
    cases found
  exact ⟨by rw [posted.transactions, AList.lookup_insert_ne other, found], posted.otherLines id other⟩

structure OpensOnly (st st' : Tables E) : Prop where
  transactions : st'.transactions = st.transactions
  lines : st'.lines = st.lines
  accounts : ∀ id row, st.accounts.lookup id = some row → st'.accounts.lookup id = some row
  projected : Projected st → Projected st'

theorem OpensOnly.refl (st : Tables E) : OpensOnly st st :=
  ⟨rfl, rfl, fun _ _ found => found, fun inv => inv⟩

theorem OpensOnly.trans {first second third : Tables E} (before : OpensOnly first second)
    (after : OpensOnly second third) : OpensOnly first third :=
  ⟨after.transactions.trans before.transactions, after.lines.trans before.lines,
    fun id row found => after.accounts id row (before.accounts id row found),
    fun inv => after.projected (before.projected inv)⟩

theorem OpensOnly.keepsPosted (opened : OpensOnly st st') : KeepsPosted st st' :=
  .of_same opened.transactions opened.lines

theorem upsertBookInTx_opened {book : Book} {requireUnposted : Bool}
    (done : upsertBookInTx book requireUnposted st = .ok (st', ())) : OpensOnly st st' := by
  simp only [upsertBookInTx, bind_ok] at done
  obtain ⟨_, _, done⟩ := done
  split at done
  · simp only [steps_ok] at done
    obtain ⟨_, _, rfl, _⟩ := done
    refine ⟨rfl, rfl, fun _ _ found => found, ?_⟩
    intro inv
    refine ⟨inv.owned, ?_, inv.lines, inv.pools⟩
    intro id row found
    obtain ⟨balance, present, projects⟩ := inv.folded id row found
    exact ⟨balance, present, projects.debit, projects.credit, projects.current, projects.storable,
      projects.limited⟩
  · simp only [steps_ok] at done
    obtain ⟨_, _, _, _, _, _, rfl, _⟩ := done
    exact .refl _

structure AccountRow.Defines (row : AccountRow) (account : Account) : Prop where
  book : row.bookId = account.bookId
  asset : row.assetId = account.assetId
  type : row.accountType = account.accountType
  side : row.normalSide.text = account.normalSide
  limited : row.enforceSpendLimit = account.enforceSpendLimit
  limit : row.creditLimitAtoms = account.creditLimitAtoms

theorem openBalance_accounts (accountId : Bytes) (st : Tables E) :
    (openBalance accountId st).accounts = st.accounts := by
  rw [openBalance_frame]

theorem createAccountInTx_opened {account : Account}
    (committed : createAccountInTx account st = .ok (st', ())) : OpensOnly st st' ∧
      ∃ row, st'.accounts.lookup account.accountId = some row ∧ row.Defines account := by
  have projected : Projected st → Projected st' := by
    intro inv
    have kept := step_projected st (.createAccount account) inv
    simpa only [step, commit, committed] using kept
  simp only [createAccountInTx, bind_ok] at committed
  obtain ⟨_, _, committed⟩ := committed
  split at committed
  · rename_i absent
    simp only [insertAccount, acceptsAll, steps_ok] at committed
    obtain ⟨_, ⟨_, _, side, known, _, _, _, _, _, _, rfl⟩, rfl, _⟩ := committed
    refine ⟨⟨?_, ?_, ?_, projected⟩, ?_⟩
    · rw [openBalance_frame]
    · rw [openBalance_frame]
    · intro id row found
      rw [openBalance_accounts]
      exact AList.lookup_insert_fresh absent _ found
    · rw [openBalance_accounts]
      exact ⟨_, AList.lookup_insert _, rfl, rfl, rfl, (Side.text_of_ofText known).symm, rfl, rfl⟩
  · rename_i stored found
    simp only [steps_ok] at committed
    obtain ⟨_, ⟨book, asset, type, side, limited, limit⟩, rfl, _⟩ := committed
    refine ⟨⟨?_, ?_, ?_, projected⟩, stored, ?_, book, asset, type, side, limited, limit⟩
    · rw [openBalance_frame]
    · rw [openBalance_frame]
    · intro id row present
      rw [openBalance_accounts]
      exact present
    · rw [openBalance_accounts]
      exact found

end PaymentPlatform.Ledger
