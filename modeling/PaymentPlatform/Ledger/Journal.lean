import PaymentPlatform.Ledger.Balances
import PaymentPlatform.Ledger.HashAgreement

/-! The journal is append-only: a posted entry and its lines stay as they are. -/

namespace PaymentPlatform.Ledger

open Framing Serial

variable {E : Engine}
variable {st st' : Tables E}

/-- Every posted entry of the first journal is in the second one, with its lines. -/
def KeepsPosted (st st' : Tables E) : Prop :=
  ∀ id row, st.transactions.lookup id = some row → row.status = .posted →
    st'.transactions.lookup id = some row ∧ linesOf st' id = linesOf st id

instance (st st' : Tables E) : Decidable (KeepsPosted st st') :=
  decidable_of_iff (∀ e ∈ st.transactions.rows, e.2.status = .posted →
      st'.transactions.lookup e.1 = some e.2 ∧ linesOf st' e.1 = linesOf st e.1) (by
    simp only [Prod.forall, AList.mem_rows, KeepsPosted])

theorem KeepsPosted.refl (st : Tables E) : KeepsPosted st st :=
  fun _ _ found _ => ⟨found, rfl⟩

theorem KeepsPosted.trans {first second third : Tables E} (before : KeepsPosted first second)
    (after : KeepsPosted second third) : KeepsPosted first third := by
  intro id row found posted
  obtain ⟨kept, lines⟩ := before id row found posted
  obtain ⟨kept', lines'⟩ := after id row kept posted
  exact ⟨kept', lines'.trans lines⟩

theorem KeepsPosted.of_same (transactions : st'.transactions = st.transactions)
    (lines : st'.lines = st.lines) : KeepsPosted st st' :=
  fun _ _ found _ => ⟨by rw [transactions, found], by simp only [linesOf, lines]⟩

theorem Drafted.keepsPosted {request : PostRequest} {head : BookRow}
    {entryHash : Digest} {metadata : E.Jsonb}
    (drafted : Drafted st st' request head entryHash metadata) : KeepsPosted st st' := by
  intro id row found _
  have other : id ≠ request.transactionId := by
    rintro rfl
    rw [drafted.fresh] at found
    cases found
  refine ⟨?_, (insertLines_linesOf request.lines drafted.inserted).2.1 id other⟩
  rw [drafted.transactions, AList.lookup_insert_ne other, found]

theorem Finalized.keepsPosted {id : Bytes} {row : TransactionRow E}
    {head : BookRow} (effect : Finalized st st' id row head) : KeepsPosted st st' := by
  intro id' row' found posted
  have other : id' ≠ id := by
    rintro rfl
    rw [effect.draft] at found
    cases found
    rw [effect.status] at posted
    cases posted
  refine ⟨?_, by simp only [Ledger.linesOf, effect.lines]⟩
  rw [effect.transactions, AList.lookup_insert_ne other, found]

theorem postInTx_keepsPosted {request : PostRequest} {paymentDraft : Bool}
    {receipt : Receipt} (committed : postInTx request paymentDraft st = .ok (st', receipt)) :
    KeepsPosted st st' := by
  refine postInTx_preserves (KeepsPosted st) ?_ ?_ (.refl st) committed
  · exact fun _ _ _ _ _ _ _ drafted => drafted.keepsPosted
  · exact fun _ _ _ _ kept effect => kept.trans effect.keepsPosted

theorem createAccountInTx_keepsPosted {account : Account}
    (committed : createAccountInTx account st = .ok (st', ())) : KeepsPosted st st' := by
  obtain ⟨_, _, rfl⟩ := createAccount_frame committed
  exact .of_same rfl rfl

theorem step_keepsPosted (st : Tables E) (command : Command) : KeepsPosted st (step st command) :=
  step_preserves (KeepsPosted st)
    (fun _ _ _ kept committed => kept.trans (createAccountInTx_keepsPosted committed))
    (fun _ _ _ _ _ _ kept drafted => kept.trans drafted.keepsPosted)
    (fun _ _ _ _ _ kept effect => kept.trans effect.keepsPosted) st command (.refl st)

end PaymentPlatform.Ledger
