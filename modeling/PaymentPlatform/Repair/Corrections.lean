import PaymentPlatform.Ledger.Entries
import PaymentPlatform.Payment.Steps
import PaymentPlatform.Repair.Cashback

/-! What Plan and Execute leave when they commit, and what a reversal does to the
cashback of a capture. -/

namespace PaymentPlatform.Repair

open Framing Ledger Serial

variable {E : Engine}
variable {row grant : Payment.EffectRow} {id g repairId : Bytes} {incident : CashbackIncident}
  {m : CashbackManifest}

variable {captureId paymentId : Bytes} {st st' : Store E}

section Capture

variable (paymentId captureId : Bytes) {st st' : Payment.Tables}

/-- Every CASHBACK effect of the payment has an entry of its own, as
record_payment_effect demands. -/
def OwnEntries (st : Payment.Tables) : Prop :=
  ∀ id id' e e', st.effects.lookup id = some e → st.effects.lookup id' = some e' →
    e.paymentId = paymentId → e'.paymentId = paymentId →
    e.effectKind = .cashback → e'.effectKind = .cashback →
    e.ledgerTransactionId = e'.ledgerTransactionId → id = id'

def ReversedOnce (st : Payment.Tables) : Prop :=
  ∀ id grant, st.effects.lookup id = some grant → isGrant paymentId captureId grant = true →
    ∀ r r' row row', st.effects.lookup r = some row → st.effects.lookup r' = some row' →
      reverses paymentId grant.ledgerTransactionId row = true →
      reverses paymentId grant.ledgerTransactionId row' = true → r = r'

/-- A change of the tables that neither grants cashback on the capture nor reverses any
of it, and that keeps its counter. -/
structure Sidesteps (st st' : Payment.Tables) : Prop where
  kept : ∀ id e, st.effects.lookup id = some e → st'.effects.lookup id = some e
  grants : ∀ id e, st.effects.lookup id = none → st'.effects.lookup id = some e →
    isGrant paymentId captureId e = false
  reversals : ∀ id e, st.effects.lookup id = none → st'.effects.lookup id = some e →
    ∀ g grant, st.effects.lookup g = some grant → isGrant paymentId captureId grant = true →
      reverses paymentId grant.ledgerTransactionId e = false
  own : OwnEntries paymentId st → OwnEntries paymentId st'
  counter : ∀ row, st.captureFinancials.lookup captureId = some row →
    ∃ row', st'.captureFinancials.lookup captureId = some row' ∧ row'.paymentId = row.paymentId ∧
      row'.expectedCashbackAtoms = row.expectedCashbackAtoms ∧
      row'.cashbackReversedAtoms = row.cashbackReversedAtoms

variable {paymentId captureId}

theorem isGrant_iff : isGrant paymentId captureId row = true ↔
    row.paymentId = paymentId ∧ row.effectKind = .cashback ∧
      row.originalTransactionId = some captureId := by
  simp only [isGrant, Bool.and_eq_true, decide_eq_true_eq, and_assoc]

theorem reverses_iff {transactionId : Bytes} :
    reverses paymentId transactionId row = true ↔ row.paymentId = paymentId ∧
      row.effectKind = .reversal ∧ row.originalTransactionId = some transactionId := by
  simp only [reverses, Bool.and_eq_true, decide_eq_true_eq, and_assoc]

section

variable (aside : Sidesteps paymentId captureId st st')
include aside

theorem Sidesteps.old_grant (found : st'.effects.lookup id = some grant)
    (granted : isGrant paymentId captureId grant = true) : st.effects.lookup id = some grant := by
  cases before : st.effects.lookup id with
  | none =>
    rw [aside.grants id grant before found] at granted
    cases granted
  | some e => rw [← found, aside.kept id e before]

theorem Sidesteps.old_reversal {r : Bytes}
    (held : st.effects.lookup g = some grant) (granted : isGrant paymentId captureId grant = true)
    (found : st'.effects.lookup r = some row)
    (reversed : reverses paymentId grant.ledgerTransactionId row = true) :
    st.effects.lookup r = some row := by
  cases before : st.effects.lookup r with
  | none =>
    rw [aside.reversals r row before found g grant held granted] at reversed
    cases reversed
  | some e => rw [← found, aside.kept r e before]

theorem Sidesteps.granted :
    grantedCashback st' paymentId captureId = grantedCashback st paymentId captureId := by
  apply AList.total_extend _ aside.kept
  intro id e absent found
  rw [aside.grants id e absent found]
  rfl

theorem Sidesteps.reversalsOf
    (held : st.effects.lookup g = some grant) (granted : isGrant paymentId captureId grant = true) :
    reversalsOf st' paymentId grant.ledgerTransactionId =
      reversalsOf st paymentId grant.ledgerTransactionId := by
  apply AList.total_extend _ aside.kept
  intro id e absent found
  rw [aside.reversals id e absent found g grant held granted]
  rfl

theorem Sidesteps.reversed :
    reversedCashback st' paymentId captureId = reversedCashback st paymentId captureId := by
  have same : st'.effects.total (fun _ grant => if isGrant paymentId captureId grant then
      Repair.reversalsOf st paymentId grant.ledgerTransactionId else 0) =
      reversedCashback st paymentId captureId := by
    apply AList.total_extend _ aside.kept
    intro id e absent found
    rw [aside.grants id e absent found]
    rfl
  rw [← same]
  apply AList.total_congr
  intro id grant found
  split
  · rename_i granted
    exact aside.reversalsOf (aside.old_grant found granted) granted
  · rfl

theorem Sidesteps.net :
    netCashback st' paymentId captureId = netCashback st paymentId captureId := by
  rw [netCashback, netCashback, aside.granted, aside.reversed]

theorem Sidesteps.once
    (once : ReversedOnce paymentId captureId st) : ReversedOnce paymentId captureId st' := by
  intro g grant found granted r r' row row' first second reversed reversed'
  have held := aside.old_grant found granted
  exact once g grant held granted r r' row row' (aside.old_reversal held granted first reversed)
    (aside.old_reversal held granted second reversed') reversed reversed'

end

theorem granted_insert (fresh : st.effects.lookup id = none)
    (effects : st'.effects = st.effects.insert id row) (reversal : row.effectKind = .reversal) :
    grantedCashback st' paymentId captureId = grantedCashback st paymentId captureId := by
  have other : isGrant paymentId captureId row = false := by simp [isGrant, reversal]
  rw [grantedCashback, effects, AList.total_insert_fresh _ fresh, other]
  exact zero_add _

theorem reversalsOf_insert (fresh : st.effects.lookup id = none)
    (effects : st'.effects = st.effects.insert id row) (transactionId : Bytes) :
    reversalsOf st' paymentId transactionId =
      (if reverses paymentId transactionId row then row.amountAtoms else 0) +
        reversalsOf st paymentId transactionId := by
  rw [reversalsOf, effects, AList.total_insert_fresh _ fresh]
  rfl

theorem reversed_insert (own : OwnEntries paymentId st) (fresh : st.effects.lookup id = none)
    (effects : st'.effects = st.effects.insert id row) (held : st.effects.lookup g = some grant)
    (granted : isGrant paymentId captureId grant = true)
    (reversal : reverses paymentId grant.ledgerTransactionId row = true) :
    reversedCashback st' paymentId captureId =
      reversedCashback st paymentId captureId + row.amountAtoms := by
  have kind := (reverses_iff.mp reversal).2.1
  have other : isGrant paymentId captureId row = false := by simp [isGrant, kind]
  have each : ∀ k e, st.effects.lookup k = some e →
      (if isGrant paymentId captureId e then
        Repair.reversalsOf st' paymentId e.ledgerTransactionId else 0) =
      (if isGrant paymentId captureId e then
        Repair.reversalsOf st paymentId e.ledgerTransactionId else 0) +
        if k = g then row.amountAtoms else 0 := by
    intro k e found
    by_cases here : k = g
    · subst here
      cases held.symm.trans found
      rw [if_pos granted, if_pos granted, if_pos rfl, reversalsOf_insert fresh effects,
        if_pos reversal, add_comm]
    · rw [if_neg here, add_zero]
      split
      · rename_i also
        have apart : reverses paymentId e.ledgerTransactionId row = false := by
          rw [Bool.eq_false_iff]
          intro both
          have same := (reverses_iff.mp both).2.2.symm.trans (reverses_iff.mp reversal).2.2
          have first := isGrant_iff.mp also
          have second := isGrant_iff.mp granted
          exact here (own k g e grant found held first.1 second.1 first.2.1 second.2.1
            (Option.some.inj same))
        rw [reversalsOf_insert fresh effects, apart]
        exact zero_add _
      · rfl
  calc reversedCashback st' paymentId captureId
      = st.effects.total (fun _ e => if isGrant paymentId captureId e then
          Repair.reversalsOf st' paymentId e.ledgerTransactionId else 0) := by
        rw [reversedCashback, effects, AList.total_insert_fresh _ fresh, other]
        exact zero_add _
    _ = st.effects.total (fun k e => (if isGrant paymentId captureId e then
          Repair.reversalsOf st paymentId e.ledgerTransactionId else 0) +
          if k = g then row.amountAtoms else 0) := AList.total_congr _ each
    _ = _ := by
        rw [AList.total_add, AList.total_indicator _ held]
        rfl

end Capture

theorem candidateGrant_open {db : Database E} {grant : Grant}
    (picked : candidateGrant incident paymentId captureId db = some grant) :
    (∃ id row, db.payment.effects.lookup id = some row ∧ isGrant paymentId captureId row = true ∧
      row.ledgerTransactionId = grant.transactionId) ∧
    ∀ id row, db.payment.effects.lookup id = some row →
      reverses paymentId grant.transactionId row = false := by
  have sorted := List.mem_of_mem_head? (Option.mem_def.mpr picked)
  have member := (List.perm_insertionSort _ _).mem_iff.mp sorted
  obtain ⟨⟨id, row⟩, stored, selected⟩ := List.mem_filterMap.mp member
  obtain ⟨journal, _, selected⟩ := Option.bind_eq_some_iff.mp selected
  split at selected
  · rename_i conditions
    cases selected
    refine ⟨⟨id, row, (AList.mem_rows _ _ _).mp stored, conditions.1, rfl⟩, ?_⟩
    intro r reversal found
    have none := List.all_eq_true.mp conditions.2.2 (r, reversal) ((AList.mem_rows _ _ _).mpr found)
    simpa using none
  · cases selected

structure Planned (st : Store E) (m : CashbackManifest) : Prop where
  capture : ∃ row, st.db.payment.captureFinancials.lookup m.captureTransactionId = some row ∧
    row.paymentId = m.paymentId ∧ m.expected = row.expectedCashbackAtoms
  actual : m.actual = netCashback st.db.payment m.paymentId m.captureTransactionId
  more : m.expected < m.actual
  excess : m.excess = m.actual - m.expected
  grant : ∃ id row, st.db.payment.effects.lookup id = some row ∧
    isGrant m.paymentId m.captureTransactionId row = true ∧
    row.ledgerTransactionId = m.originalTransactionId
  unreversed : ∀ id row, st.db.payment.effects.lookup id = some row →
    reverses m.paymentId m.originalTransactionId row = false
  status : m.status = .planned
  unique : ∀ id other, st.manifests.lookup id = some other →
    other.correctionEffectId ≠ m.correctionEffectId

theorem planCapture_cases {planned : Option (Bytes × CashbackManifest)}
    (done : planCapture incident paymentId captureId st = .ok (st', planned)) :
    st' = st ∨ ∃ repairId m, st.manifests.lookup repairId = none ∧ Planned st m ∧
      st' = { st with manifests := st.manifests.insert repairId m } := by
  simp only [planCapture, netCashbackForCapture, steps_ok] at done
  obtain ⟨payment, _, capture, found, _, owner, _, ⟨_, _, rfl⟩, done⟩ := done
  split at done
  · simp only [pure_ok, Prod.mk.injEq] at done
    exact .inl done.1.symm
  rename_i more
  simp only [steps_ok] at done
  obtain ⟨_, _, grant, picked, _, amount, done⟩ := done
  split at done
  · simp only [steps_ok] at done
    obtain ⟨_, _, rfl, _⟩ := done
    exact .inl rfl
  rename_i absent
  simp only [insertManifest, steps_ok] at done
  obtain ⟨_, ⟨_, _, _, _, _, unique, _, _, rfl⟩, rfl, _⟩ := done
  obtain ⟨granted, unreversed⟩ := candidateGrant_open picked
  simp only [List.all_eq_true, Prod.forall, AList.mem_rows, decide_eq_true_eq] at unique
  refine .inr ⟨_, _, absent, ?_, rfl⟩
  exact
    { capture := ⟨capture, found, owner, rfl⟩
      actual := rfl
      more := not_le.mp more
      excess := rfl
      grant := granted
      unreversed := unreversed
      status := rfl
      unique := fun id other stored => (unique id other stored).1 }

theorem planCaptures_preserves (I : Store E → Prop)
    (keeps : ∀ st repairId m, I st → st.manifests.lookup repairId = none → Planned st m →
      I { st with manifests := st.manifests.insert repairId m }) (pairs : List (Bytes × Bytes))
    {st st' : Store E} {planned : List (Bytes × CashbackManifest)} (holds : I st)
    (done : planCaptures incident pairs st = .ok (st', planned)) : I st' := by
  induction pairs generalizing st planned with
  | nil =>
    cases done
    exact holds
  | cons pair rest ih =>
    simp only [planCaptures, steps_ok, Prod.exists] at done
    obtain ⟨mid, _, first, last, _, others, rfl, _⟩ := done
    rcases planCapture_cases first with rfl | ⟨repairId, m, absent, fresh, rfl⟩
    · exact ih holds others
    · exact ih (keeps st repairId m holds absent fresh) others

theorem plan_preserves (I : Store E → Prop)
    (keeps : ∀ st repairId m, I st → st.manifests.lookup repairId = none → Planned st m →
      I { st with manifests := st.manifests.insert repairId m }) {st st' : Store E}
    {planned : List (Bytes × CashbackManifest)} (holds : I st)
    (done : plan incident st = .ok (st', planned)) : I st' := by
  simp only [plan, bind_ok] at done
  obtain ⟨_, _, _, _, done⟩ := done
  exact planCaptures_preserves I keeps _ holds done

structure Counted (m : CashbackManifest) (old new : Payment.CaptureRow) : Prop where
  owner : old.paymentId = m.paymentId
  expected : old.expectedCashbackAtoms = m.expected
  sameOwner : new.paymentId = old.paymentId
  sameExpected : new.expectedCashbackAtoms = old.expectedCashbackAtoms
  reversed : new.cashbackReversedAtoms = old.cashbackReversedAtoms + m.excess

theorem countReversal_ok {tables tables' : Payment.Tables}
    (done : countReversal m tables = .ok tables') : tables'.effects = tables.effects ∧
      ∃ old new, tables.captureFinancials.lookup m.captureTransactionId = some old ∧
        Counted m old new ∧
        tables'.captureFinancials = tables.captureFinancials.insert m.captureTransactionId new := by
  simp only [countReversal, steps_ok] at done
  obtain ⟨first, counted, mid, rfl, second, paid, rfl⟩ := done
  rcases Payment.updateCapture_cases counted with none | ⟨old, new, found, holds, changed, _, _, same⟩
  · cases none
  rcases Payment.updatePayment_cases paid with ⟨none, _⟩ | ⟨_, _, _, _, _, _, _, _, _, same'⟩
  · cases none
  cases same
  cases same'
  simp only [Bool.and_eq_true, decide_eq_true_eq] at holds
  refine ⟨rfl, old, new, found, ⟨holds.1, holds.2, ?_, ?_, ?_⟩, rfl⟩ <;> rw [changed]

theorem spendRights_frame {payment : Payment.PaymentRow} {db' : Database E}
    (done : spendRights repairId m payment st = .ok db') :
    db' = { st.db with escrow := db'.escrow } := by
  simp only [spendRights] at done
  split at done
  · cases done
    rfl
  · simp only [cashbackRepairSpendInTx, steps_ok, Prod.exists] at done
    obtain ⟨_, _, ⟨_, _, _, _, _, _, _, _, applied, rfl, _⟩, rfl⟩ := done
    exact Payment.applyPaymentEscrowEffect_frame applied

theorem sourceBook_grant {db : Database E} {bookId : Bytes} (done : sourceBook m db = .ok bookId) :
    ∃ id row, db.payment.effects.lookup id = some row ∧
      isGrant m.paymentId m.captureTransactionId row = true ∧
      row.ledgerTransactionId = m.originalTransactionId := by
  simp only [sourceBook, steps_ok] at done
  obtain ⟨_, _, _, _, ⟨id, row⟩, first, linked, named, _, ⟨_, rfl⟩, _⟩ := done
  have stored := (AList.mem_rows _ _ _).mp (List.mem_of_find?_eq_some first)
  have matched := List.find?_some first
  simp only [Bool.and_eq_true, decide_eq_true_eq] at matched
  exact ⟨id, row, stored, isGrant_iff.mpr ⟨matched.1.1, matched.2, named⟩, matched.1.2⟩

structure Corrected (repairId : Bytes) (m : CashbackManifest) (st st' : Store E)
    (receipt : Receipt) : Prop where
  planned : m.status = .planned
  grant : ∃ id row, st.db.payment.effects.lookup id = some row ∧
    isGrant m.paymentId m.captureTransactionId row = true ∧
    row.ledgerTransactionId = m.originalTransactionId
  net : netCashback st.db.payment m.paymentId m.captureTransactionId = m.actual
  posting : ∃ bookId lines, postInTx (correctionRequest E repairId m bookId lines) false
    st.db.ledger = .ok (st'.db.ledger, receipt)
  fresh : st.db.payment.effects.lookup m.correctionEffectId = none
  effects : st'.db.payment.effects =
    st.db.payment.effects.insert m.correctionEffectId (correctionEffect E repairId m).row
  capture : ∃ old new, st.db.payment.captureFinancials.lookup m.captureTransactionId = some old ∧
    Counted m old new ∧ st'.db.payment.captureFinancials =
      st.db.payment.captureFinancials.insert m.captureTransactionId new
  manifests : st'.manifests = st.manifests.insert repairId { m with status := .posted }

theorem correct_ok {receipt : Receipt}
    (done : correct repairId m st = .ok (st', receipt)) : Corrected repairId m st st' receipt := by
  simp only [correct, netCashbackForCapture, Payment.insertEffect, steps_ok, Prod.exists] at done
  obtain ⟨bookId, source, payment, _, _, _, _, ⟨_, _, rfl⟩, _, net, lines, _, ledger, _, posted,
    _, ⟨_, _, _, fresh, _, _, rfl⟩, db, spent, tables, counted, _, planned, rfl, rfl⟩ := done
  have frame := spendRights_frame spent
  obtain ⟨effects, old, new, found, counts, captures⟩ := countReversal_ok counted
  rw [frame] at effects found captures
  refine
    { planned := planned
      grant := sourceBook_grant source
      net := net
      posting := ⟨bookId, lines, ?_⟩
      fresh := fresh
      effects := effects
      capture := ⟨old, new, found, counts, captures⟩
      manifests := rfl }
  rw [posted, frame]

theorem execute_cases {receipt : Receipt} (done : execute repairId st = .ok (st', receipt)) :
    ∃ m, st.manifests.lookup repairId = some m ∧
      ((m.status = .posted ∧ postedReceipt m st.db = .ok receipt ∧ st' = st) ∨
        Corrected repairId m st st' receipt) := by
  simp only [execute, steps_ok] at done
  obtain ⟨_, _, _, _, m, found, done⟩ := done
  refine ⟨m, found, ?_⟩
  split at done
  · rename_i posted
    simp only [steps_ok] at done
    obtain ⟨_, shown, rfl, rfl⟩ := done
    exact .inl ⟨posted, shown, rfl⟩
  · exact .inr (correct_ok done)

end PaymentPlatform.Repair
