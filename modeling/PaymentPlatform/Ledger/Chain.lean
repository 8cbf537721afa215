import PaymentPlatform.Ledger.Steps

/-! The hash chain of every book over all runs. The draft fixes its sequence and
previous hash when it is prepared; only the compare-and-swap at finalization
makes it part of the chain, so a stale draft cannot fork it. -/

namespace PaymentPlatform.Ledger

open Framing Serial

variable {E : Engine}
variable {st st' : Tables E} {bookId id : Bytes} {head : BookRow} {row : TransactionRow E}

structure PostedIn (st : Tables E) (bookId id : Bytes) (row : TransactionRow E) : Prop where
  found : st.transactions.lookup id = some row
  posted : row.status = .posted
  book : row.bookId = bookId

structure HashChain (st : Tables E) (bookId : Bytes) (head : BookRow) : Prop where
  started : 1 ≤ head.nextSequenceNo
  sequences : ∀ n : Int, (∃ id row, PostedIn st bookId id row ∧ row.sequenceNo = n) ↔
    1 ≤ n ∧ n < head.nextSequenceNo
  once : ∀ id row id' row', PostedIn st bookId id row → PostedIn st bookId id' row' →
    row.sequenceNo = row'.sequenceNo → id = id'
  genesis : ∀ id row, PostedIn st bookId id row → row.sequenceNo = 1 →
    row.prevHash = genesisHash E bookId
  linked : ∀ id row id' row', PostedIn st bookId id row → PostedIn st bookId id' row' →
    row'.sequenceNo = row.sequenceNo + 1 → row'.prevHash = row.entryHash
  newest : ∀ id row, PostedIn st bookId id row → row.sequenceNo + 1 = head.nextSequenceNo →
    head.lastEntryHash = row.entryHash
  unposted : head.nextSequenceNo = 1 → head.lastEntryHash = genesisHash E bookId

def Chained (st : Tables E) : Prop :=
  ∀ bookId head, st.books.lookup bookId = some head → HashChain st bookId head

theorem HashChain.of_same (chain : HashChain st bookId head)
    (same : ∀ id row, PostedIn st' bookId id row ↔ PostedIn st bookId id row) :
    HashChain st' bookId head where
  started := chain.started
  sequences := by simpa only [same] using chain.sequences
  once := by simpa only [same] using chain.once
  genesis := by simpa only [same] using chain.genesis
  linked := by simpa only [same] using chain.linked
  newest := by simpa only [same] using chain.newest
  unposted := chain.unposted

theorem Finalized.postedIn (effect : Finalized st st' id row head) (bookId id' : Bytes)
    (row' : TransactionRow E) : PostedIn st' bookId id' row' ↔ PostedIn st bookId id' row' ∨
        (id' = id ∧ row' = { row with status := .posted } ∧ row.bookId = bookId) := by
  have lookup : st'.transactions.lookup id' =
      if id' = id then some { row with status := .posted } else st.transactions.lookup id' := by
    rw [effect.transactions, AList.lookup_insert_if]
  constructor
  · rintro ⟨found, posted, book⟩
    rw [lookup] at found
    split at found
    · rename_i same
      cases found
      exact .inr ⟨same, rfl, book⟩
    · exact .inl ⟨found, posted, book⟩
  · rintro (⟨found, posted, book⟩ | ⟨rfl, rfl, book⟩)
    · have other : id' ≠ id := by
        rintro rfl
        rw [effect.draft] at found
        cases found
        rw [effect.status] at posted
        contradiction
      exact ⟨by rw [lookup, if_neg other, found], posted, book⟩
    · exact ⟨by rw [lookup, if_pos rfl], rfl, book⟩

theorem Drafted.postedIn {request : PostRequest} {entryHash : Digest} {metadata : E.Jsonb}
    (drafted : Drafted st st' request head entryHash metadata) (bookId id : Bytes)
    (row : TransactionRow E) : PostedIn st' bookId id row ↔ PostedIn st bookId id row := by
  have lookup := congrArg (AList.lookup id) drafted.transactions
  rw [AList.lookup_insert_if] at lookup
  constructor
  · rintro ⟨found, posted, book⟩
    rw [lookup] at found
    split at found
    · cases found
      cases posted
    · exact ⟨found, posted, book⟩
  · rintro ⟨found, posted, book⟩
    have other : id ≠ request.transactionId := by
      rintro rfl
      rw [drafted.fresh] at found
      cases found
    exact ⟨by rw [lookup, if_neg other, found], posted, book⟩

theorem HashChain.extend (effect : Finalized st st' id row head)
    (chain : HashChain st row.bookId head) : HashChain st' row.bookId
      { head with nextSequenceNo := head.nextSequenceNo + 1, lastEntryHash := row.entryHash } := by
  have old : ∀ id' row', PostedIn st row.bookId id' row' →
      1 ≤ row'.sequenceNo ∧ row'.sequenceNo < row.sequenceNo := by
    intro id' row' posted
    rw [← effect.sequence]
    exact (chain.sequences row'.sequenceNo).mp ⟨id', row', posted, rfl⟩
  have first : 1 ≤ row.sequenceNo := effect.sequence ▸ chain.started
  refine ⟨?_, ?_, ?_, ?_, ?_, ?_, ?_⟩
  · exact Int.le_trans chain.started (Int.le_of_lt (Int.lt_succ _))
  · intro n
    simp only [effect.sequence]
    constructor
    · rintro ⟨id', row', posted, rfl⟩
      rcases (effect.postedIn _ _ _).mp posted with before | ⟨_, rfl, _⟩
      · have range := old id' row' before
        omega
      · exact ⟨first, Int.lt_succ _⟩
    · rintro ⟨low, high⟩
      rcases Int.lt_or_eq_of_le (Int.le_of_lt_add_one high) with before | same
      · obtain ⟨id', row', posted, seq⟩ := (chain.sequences n).mpr ⟨low, effect.sequence ▸ before⟩
        exact ⟨id', row', (effect.postedIn _ _ _).mpr (Or.inl posted), seq⟩
      · exact ⟨id, _, (effect.postedIn _ _ _).mpr (Or.inr ⟨rfl, rfl, rfl⟩), same.symm⟩
  · intro a rowA b rowB postedA postedB same
    rcases (effect.postedIn _ _ _).mp postedA with oldA | ⟨rfl, rfl, _⟩ <;>
      rcases (effect.postedIn _ _ _).mp postedB with oldB | ⟨rfl, rfl, _⟩
    · exact chain.once a rowA b rowB oldA oldB same
    · have range := old a rowA oldA
      simp only at same
      omega
    · have range := old b rowB oldB
      simp only at same
      omega
    · rfl
  · intro a rowA postedA one
    rcases (effect.postedIn _ _ _).mp postedA with oldA | ⟨rfl, rfl, _⟩
    · exact chain.genesis a rowA oldA one
    · have next : head.nextSequenceNo = 1 := effect.sequence.trans one
      exact effect.previous.symm.trans (chain.unposted next)
  · intro a rowA b rowB postedA postedB next
    rcases (effect.postedIn _ _ _).mp postedA with oldA | ⟨rfl, rfl, _⟩ <;>
      rcases (effect.postedIn _ _ _).mp postedB with oldB | ⟨rfl, rfl, _⟩
    · exact chain.linked a rowA b rowB oldA oldB next
    · have newest := chain.newest a rowA oldA (effect.sequence ▸ next.symm)
      exact effect.previous.symm.trans newest
    · have range := old b rowB oldB
      simp only at next
      omega
    · simp only at next
      omega
  · intro a rowA postedA next
    simp only [effect.sequence, Int.add_left_inj] at next
    rcases (effect.postedIn _ _ _).mp postedA with oldA | ⟨rfl, rfl, _⟩
    · have range := old a rowA oldA
      omega
    · rfl
  · intro next
    simp only [effect.sequence] at next
    omega

theorem Finalized.chained (effect : Finalized st st' id row head) (chained : Chained st) :
    Chained st' := by
  intro bookId head' found
  rw [effect.books, AList.lookup_insert_if] at found
  split at found
  · rename_i same
    subst same
    cases found
    exact HashChain.extend effect (chained _ _ effect.book)
  · rename_i other
    refine (chained bookId head' found).of_same ?_
    intro id' row'
    rw [effect.postedIn]
    constructor
    · rintro (posted | ⟨_, _, book⟩)
      · exact posted
      · exact absurd book.symm other
    · exact .inl

theorem Drafted.chained {request : PostRequest} {entryHash : Digest} {metadata : E.Jsonb}
    (drafted : Drafted st st' request head entryHash metadata) (chained : Chained st) :
    Chained st' := by
  intro bookId head' found
  rw [drafted.books] at found
  exact (chained bookId head' found).of_same (drafted.postedIn bookId)

theorem step_chained (st : Tables E) (command : Command) (chained : Chained st) :
    Chained (step st command) := by
  refine step_preserves Chained ?_ (fun _ _ _ _ _ _ chained drafted => drafted.chained chained)
    (fun _ _ _ _ _ chained effect => effect.chained chained) st command chained
  intro st st' account chained committed
  obtain ⟨_, _, rfl⟩ := createAccount_frame committed
  intro bookId head found
  exact (chained bookId head found).of_same
    (fun id row => ⟨fun ⟨f, p, b⟩ => ⟨f, p, b⟩, fun ⟨f, p, b⟩ => ⟨f, p, b⟩⟩)

/-- Books at their genesis hash, and nothing posted. -/
structure Opened (st : Tables E) : Prop where
  heads : ∀ bookId head, st.books.lookup bookId = some head →
    head.nextSequenceNo = 1 ∧ head.lastEntryHash = genesisHash E bookId
  drafts : ∀ id row, st.transactions.lookup id = some row → row.status = .draft

theorem Opened.chained (opened : Opened st) : Chained st := by
  intro bookId head found
  obtain ⟨next, last⟩ := opened.heads bookId head found
  have none : ∀ id row, ¬ PostedIn st bookId id row := by
    intro id row posted
    have draft := opened.drafts id row posted.found
    rw [posted.posted] at draft
    contradiction
  refine ⟨by omega, ?_, ?_, ?_, ?_, ?_, fun _ => last⟩
  · intro n
    constructor
    · rintro ⟨id, row, posted, _⟩
      exact absurd posted (none id row)
    · rintro ⟨low, high⟩
      omega
  · exact fun id row _ _ posted => absurd posted (none id row)
  · exact fun id row posted => absurd posted (none id row)
  · exact fun id row _ _ posted => absurd posted (none id row)
  · exact fun id row posted => absurd posted (none id row)

/-- Over any serial order of drafts, finalizations and failed calls, every book's
posted entries are one chain from its genesis hash to its head. -/
theorem books_are_chained (st : Tables E) (opened : Opened st) (commands : List Command)
    (bookId : Bytes) (head : BookRow)
    (found : (run step st commands).books.lookup bookId = some head) :
    HashChain (run step st commands) bookId head :=
  run_preserves step Chained step_chained commands opened.chained bookId head found

theorem sampleTables_opened : Opened sampleTables := by
  constructor
  · intro bookId head found
    have entry := AList.lookup_insert_if (∅ : Table Bytes BookRow) (ascii "book") bookId
      ⟨ascii "entity", ascii "KZ", 1, genesisHash sampleEngine (ascii "book")⟩
    rw [sampleTables, entry] at found
    split at found
    · rename_i same
      cases found
      rw [same]
      exact ⟨rfl, rfl⟩
    · cases found
  · intro id row found
    cases found

theorem sample_books_are_chained :
    ∃ head, (run step sampleTables sampleCommands).books.lookup (ascii "book") = some head ∧
      head.nextSequenceNo = 3 ∧
      HashChain (run step sampleTables sampleCommands) (ascii "book") head := by
  have posted : ((run step sampleTables sampleCommands).books.lookup (ascii "book")).map
      (·.nextSequenceNo) = some 3 := by decide +kernel
  obtain ⟨head, found, next⟩ := Option.map_eq_some_iff.mp posted
  exact ⟨head, found, next,
    books_are_chained sampleTables sampleTables_opened sampleCommands _ head found⟩

end PaymentPlatform.Ledger
