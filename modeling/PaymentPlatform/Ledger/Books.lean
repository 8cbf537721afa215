import PaymentPlatform.Ledger.Chain
import PaymentPlatform.Ledger.Journal

/-! Books that are opened while others post, with the genesis hash their caller gives
them or with the derived one. Every write of a call to the journal is one of a few
changes of the tables. -/

namespace PaymentPlatform.Ledger

open Framing Serial

variable {E : Engine}
variable {st st' : Tables E} {bookId : Bytes}

/-- The UPDATE with which finalize_payment_ledger_transaction marks a DRAFT whose lines
fit their template, before it finalizes it. -/
def markTemplate (id : Bytes) (st : Tables E) : Tables E :=
  match st.transactions.lookup id with
  | none => st
  | some row =>
    if row.status = .draft then
      { st with
        transactions := st.transactions.insert id { row with paymentTemplateVerified := true } }
    else st

/-- The calls that write the tables of the journal; a transaction of another service is
a sequence of these. -/
inductive JournalCommand where
  | registerAsset (assetId displayCode : Bytes) (atomicScale : Int)
  | openBook (book : Book) (requireUnposted : Bool)
  | markTemplate (transactionId : Bytes)
  | entry (command : Command)

def journalStep (st : Tables E) : JournalCommand → Tables E
  | .registerAsset assetId displayCode atomicScale =>
    commit (registerAsset assetId displayCode atomicScale) st
  | .openBook book requireUnposted => commit (upsertBookInTx book requireUnposted) st
  | .markTemplate id => markTemplate id st
  | .entry command => step st command

def Book.genesis (E : Engine) (book : Book) : Digest :=
  if book.genesisHash = zeroDigest then Ledger.genesisHash E book.bookId else book.genesisHash

/-- What a committed call does to the journal, change by change. -/
inductive Wrote : Tables E → Tables E → Prop where
  /-- Assets, accounts and opened balances are written elsewhere. -/
  | kept {st st' : Tables E} (books : st'.books = st.books)
      (transactions : st'.transactions = st.transactions) (lines : st'.lines = st.lines)
      (shadow : st'.referencesShadow = st.referencesShadow)
      (phase : st'.referencePhase = st.referencePhase) : Wrote st st'
  | opened {st : Tables E} {bookId : Bytes} {head : BookRow}
      (fresh : st.books.lookup bookId = none) (unposted : head.nextSequenceNo = 1) :
      Wrote st { st with books := st.books.insert bookId head }
  | drafted {st st' : Tables E} {request : PostRequest} {head : BookRow} {entryHash : Digest}
      {metadata : E.Jsonb} (drafted : Drafted st st' request head entryHash metadata) : Wrote st st'
  | marked {st : Tables E} {id : Bytes} {row : TransactionRow E}
      (found : st.transactions.lookup id = some row) (status : row.status = .draft) :
      Wrote st { st with
        transactions := st.transactions.insert id { row with paymentTemplateVerified := true } }
  | finalized {st st' : Tables E} {id : Bytes} {row : TransactionRow E} {head : BookRow}
      (effect : Finalized st st' id row head) : Wrote st st'
  | both {first second third : Tables E} (before : Wrote first second)
      (after : Wrote second third) : Wrote first third

namespace Wrote

theorem refl (st : Tables E) : Wrote st st := .kept rfl rfl rfl rfl rfl

theorem keepsPosted (wrote : Wrote st st') : KeepsPosted st st' := by
  induction wrote with
  | kept _ transactions lines => exact .of_same transactions lines
  | opened => exact .of_same rfl rfl
  | drafted drafted => exact drafted.keepsPosted
  | marked found status =>
    intro id row stored posted
    refine ⟨?_, rfl⟩
    rw [AList.lookup_insert_ne, stored]
    rintro rfl
    cases found.symm.trans stored
    rw [status] at posted
    cases posted
  | finalized effect => exact effect.keepsPosted
  | both _ _ before after => exact before.trans after

end Wrote

theorem markTemplate_wrote (id : Bytes) (st : Tables E) : Wrote st (markTemplate id st) := by
  unfold markTemplate
  split
  · exact .refl st
  · rename_i row found
    split
    · rename_i status
      exact .marked found status
    · exact .refl st

theorem upsertBook_cases {book : Book} {requireUnposted : Bool}
    (done : upsertBookInTx book requireUnposted st = .ok (st', ())) :
    (st.books.lookup book.bookId = none ∧ st' = { st with
        books := st.books.insert book.bookId
          ⟨book.legalEntityId, book.jurisdiction, 1, book.genesis E⟩ }) ∨
      ((st.books.lookup book.bookId).isSome ∧ st' = st) := by
  simp only [upsertBookInTx, bind_ok] at done
  obtain ⟨_, _, done⟩ := done
  split at done
  · rename_i absent
    simp only [steps_ok] at done
    obtain ⟨_, _, rfl, _⟩ := done
    exact .inl ⟨absent, rfl⟩
  · rename_i stored found
    simp only [steps_ok] at done
    obtain ⟨_, _, _, _, _, _, rfl, _⟩ := done
    exact .inr ⟨by rw [found]; rfl, rfl⟩

theorem step_wrote (st : Tables E) (command : Command) : Wrote st (step st command) := by
  refine step_preserves (Wrote st) ?_ (fun _ _ _ _ _ _ wrote drafted => wrote.both (.drafted drafted))
    (fun _ _ _ _ _ wrote effect => wrote.both (.finalized effect)) st command (.refl st)
  intro st st' account wrote committed
  refine wrote.both ?_
  obtain ⟨_, _, rfl⟩ := createAccount_frame committed
  exact .kept rfl rfl rfl rfl rfl

theorem journalStep_wrote (st : Tables E) (command : JournalCommand) :
    Wrote st (journalStep st command) := by
  cases command with
  | registerAsset =>
    refine commit_preserves _ (Wrote st) (.refl st) ?_
    intro st' _ done
    simp only [registerAsset, bind_ok] at done
    obtain ⟨_, _, done⟩ := done
    split at done
    · simp only [steps_ok] at done
      obtain ⟨_, _, rfl, _⟩ := done
      exact .refl _
    · simp only [steps_ok] at done
      obtain ⟨_, _, _, _, rfl, _⟩ := done
      exact .kept rfl rfl rfl rfl rfl
  | openBook =>
    refine commit_preserves _ (Wrote st) (.refl st) ?_
    intro st' _ done
    rcases upsertBook_cases done with ⟨fresh, rfl⟩ | ⟨_, rfl⟩
    · exact .opened fresh rfl
    · exact .refl _
  | markTemplate id => exact markTemplate_wrote id st
  | entry command => exact step_wrote st command

/-- The journal is append-only: whatever calls follow, failed ones included, every posted
entry and its lines stay as they are. -/
theorem posted_entries_stay (st : Tables E) (commands : List JournalCommand) :
    KeepsPosted st (run journalStep st commands) := by
  refine run_preserves journalStep (KeepsPosted st) ?_ commands (.refl st)
  intro st' command kept
  exact kept.trans (journalStep_wrote st' command).keepsPosted

end PaymentPlatform.Ledger
