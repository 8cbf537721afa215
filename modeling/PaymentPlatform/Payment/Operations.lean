import PaymentPlatform.Ledger.Steps
import PaymentPlatform.Payment.Steps

/-! What each of the six operations leaves in the payment tables when it commits. -/

namespace PaymentPlatform.Payment

open Framing Ledger Serial

variable {E : Engine} {db db' : Database E}
variable {root : Bool} {id paymentId captureId : Bytes} {hash : Digest} {ids : ExecutionIds}
  {receipt : Receipt} {current : Snapshot} {kind : EffectKind} {request : CaptureRequest}
  {amount : Int} {journal : Option Ledger.Receipt}
variable {holdId : Bytes} {affected reversal : Bool} {change : PaymentRow → PaymentRow}
  {suffix : String} {payment : PaymentRow} {newState : State} {newCaptured newCashback : Int}

theorem insertPayment_ok {row : PaymentRow}
    (inserted : insertPayment root paymentId row db = .ok db') :
    db.payment.paymentOperations.lookup paymentId = none ∧ row.Checked ∧
      db' = { db with payment := { db.payment with
        paymentOperations := db.payment.paymentOperations.insert paymentId row } } := by
  simp only [insertPayment, steps_ok] at inserted
  obtain ⟨_, _, _, _, _, _, _, checked, _, absent, _, _, _, _, out⟩ := inserted
  exact ⟨absent, checked, out.symm⟩

theorem insertHold_ok {row : HoldRow} (inserted : insertHold paymentId row db = .ok db') :
    db.payment.holds.lookup paymentId = none ∧ db' = { db with payment := { db.payment with
        holds := db.payment.holds.insert paymentId row } } := by
  simp only [insertHold, steps_ok] at inserted
  obtain ⟨_, _, _, _, _, _, _, _, _, absent, _, _, out⟩ := inserted
  exact ⟨absent.1, out.symm⟩

theorem holdInTx_payment {request : HoldRequest}
    (done : holdInTx root request paymentId holdId hash ids db = .ok (db', receipt)) :
    db.payment.paymentOperations.lookup paymentId = none ∧ (newPayment request).Checked ∧
      ∃ authorization, CountersKept { db.payment with
          paymentOperations := db.payment.paymentOperations.insert paymentId (newPayment request)
          holds := db.payment.holds.insert paymentId (newHold request holdId authorization) }
          db'.payment := by
  simp only [holdInTx, steps_ok, Prod.exists] at done
  obtain ⟨_, inserted, _, journal, prepared, _, held, noted, recorded, _, spent, rfl, _⟩ := done
  obtain ⟨absent, checked, rfl⟩ := insertPayment_ok inserted
  rw [(preparePaymentInTx_frame prepared).2] at held
  obtain ⟨_, rfl⟩ := insertHold_ok held
  have kept := record_kept recorded (by simp)
  rw [spendEscrow_frame spent]
  exact ⟨absent, checked, journal.transactionId, kept⟩

theorem loadSnapshot_ok {scope : Bytes} (loaded : loadSnapshot scope paymentId db = .ok current) :
    db.payment.paymentOperations.lookup paymentId = some current.payment ∧
      db.payment.holds.lookup paymentId = some current.hold := by
  simp only [loadSnapshot, steps_ok] at loaded
  obtain ⟨payment, found, _, _, hold, held, rfl⟩ := loaded
  exact ⟨found, held⟩

theorem loadReturnable_ok (loaded : loadReturnable paymentId db = .ok current) :
    db.payment.paymentOperations.lookup paymentId = some current.payment ∧
      db.payment.holds.lookup paymentId = some current.hold := by
  simp only [loadReturnable, steps_ok] at loaded
  obtain ⟨_, _, loaded⟩ := loaded
  exact loadSnapshot_ok loaded

theorem addAmounts_ok {a b c : Int} (added : addAmounts a b = .ok c) : c = a + b := by
  simp only [addAmounts, steps_ok] at added
  obtain ⟨_, _, out⟩ := added
  exact out.symm

theorem runUpdate_payment {old : PaymentRow}
    (done : runUpdate (updatePayment paymentId (fun _ => true) change) db = .ok (db', affected))
    (found : db.payment.paymentOperations.lookup paymentId = some old) :
    ∃ new, new = { change old with version := old.version + 1 } ∧ new.Checked ∧ new.Storable ∧
      db' = { db with payment := { db.payment with
        paymentOperations := db.payment.paymentOperations.insert paymentId new } } := by
  rcases runUpdate_cases done with ⟨updated, _, _⟩ | ⟨st, updated, rfl, _⟩
  · rcases updatePayment_cases updated with ⟨_, fails⟩ | ⟨_, _, _, _, _, _, _, _, _, out⟩
    · exact absurd (fails old found) (by simp)
    · cases out
  · rcases updatePayment_cases updated with ⟨out, _⟩ |
      ⟨row, new, same, _, eq, _, _, checked, storable, out⟩
    · cases out
    · rw [found] at same
      cases same
      cases out
      exact ⟨new, eq, checked, storable, rfl⟩

theorem runUpdate_hold {old : HoldRow} {change : HoldRow → HoldRow}
    (done : runUpdate (updateHold paymentId change) db = .ok (db', affected))
    (found : db.payment.holds.lookup paymentId = some old) :
    ∃ new, new = { change old with version := old.version + 1 } ∧
      db' = { db with payment := { db.payment with
        holds := db.payment.holds.insert paymentId new } } := by
  rcases runUpdate_cases done with ⟨updated, _, _⟩ | ⟨st, updated, rfl, _⟩
  · rcases updateHold_cases updated with ⟨_, absent⟩ | ⟨_, _, _, _, _, _, out⟩
    · rw [absent] at found
      contradiction
    · cases out
  · rcases updateHold_cases updated with ⟨out, _⟩ | ⟨row, new, same, eq, _, _, out⟩
    · cases out
    · rw [found] at same
      cases same
      cases out
      exact ⟨new, eq, rfl⟩

structure Advanced (paymentId : Bytes) (st st' : Tables) (old new : PaymentRow)
    (hold hold' : HoldRow) : Prop where
  payment : st.paymentOperations.lookup paymentId = some old
  held : st.holds.lookup paymentId = some hold
  checked : new.Checked
  payments : st'.paymentOperations = st.paymentOperations.insert paymentId new
  holds : st'.holds = st.holds.insert paymentId hold'

theorem recordCharge_kept
    (done : recordCharge root kind suffix request amount captureId hash ids db = .ok db')
    (other : kind ≠ .capture) : CountersKept db.payment db'.payment := by
  unfold recordCharge at done
  split at done
  · exact record_kept done other
  · cases done
    exact CountersKept.refl _

theorem recordCashback_kept
    (done : recordCashback root request current captureId journal hash ids db = .ok db') :
    CountersKept db.payment db'.payment := by
  unfold recordCashback at done
  split at done
  · cases done
    exact CountersKept.refl _
  · simp only [bind_ok] at done
    obtain ⟨_, recorded, returned⟩ := done
    have kept := record_kept recorded (by simp)
    rw [returnEscrow_frame returned]
    exact kept

theorem prepareCashback_frame
    (done : prepareCashback request payment captureId hash ids db = .ok (db', journal)) :
    db' = { db with ledger := db'.ledger } := by
  unfold prepareCashback at done
  split at done
  · simp only [steps_ok, Prod.exists] at done
    obtain ⟨_, _, prepared, rfl, _⟩ := done
    exact (preparePaymentInTx_frame prepared).2
  · cases done
    rfl

theorem storeCapture_ok
    (stored : storeCapture request current newState newCaptured newCashback db = .ok db')
    (payment : db.payment.paymentOperations.lookup request.paymentId = some current.payment)
    (held : db.payment.holds.lookup request.paymentId = some current.hold) :
    ∃ new hold', Advanced request.paymentId db.payment db'.payment current.payment new
        current.hold hold' ∧ new = { current.payment with
        capturedAtoms := newCaptured
        feeAtoms := current.payment.feeAtoms + request.fee
        taxAtoms := current.payment.taxAtoms + request.tax
        cashbackAtoms := newCashback
        state := newState
        version := current.payment.version + 1 } ∧
      hold'.capturedAtoms = newCaptured ∧ hold'.releasedAtoms = current.hold.releasedAtoms ∧
      db' = { db with payment := { db.payment with
        paymentOperations := db'.payment.paymentOperations, holds := db'.payment.holds } } := by
  simp only [storeCapture, steps_ok, Prod.exists] at stored
  obtain ⟨_, _, first, fee, hf, tax, ht, _, _, second, rfl⟩ := stored
  obtain ⟨hold', heq, rfl⟩ := runUpdate_hold first held
  cases addAmounts_ok hf
  cases addAmounts_ok ht
  obtain ⟨new, eq, checked, _, rfl⟩ := runUpdate_payment second payment
  exact ⟨new, hold', ⟨payment, held, checked, rfl, rfl⟩, eq, by rw [heq], by rw [heq], rfl⟩

structure CaptureStored (request : CaptureRequest) (st st' : Tables) (old new : PaymentRow)
    (hold hold' : HoldRow) (captureId : Bytes) (capture : CaptureRow) : Prop where
  advanced : Advanced request.paymentId st st' old new hold hold'
  open_ : old.state = .held ∨ old.state = .partiallyCaptured
  state : captureState old.authorizedAtoms new.capturedAtoms old.releasedAtoms = .ok new.state
  captured : new.capturedAtoms = old.capturedAtoms + request.amount
  authorized : new.authorizedAtoms = old.authorizedAtoms
  released : new.releasedAtoms = old.releasedAtoms
  refunded : new.refundedAtoms = old.refundedAtoms
  chargedBack : new.chargedBackAtoms = old.chargedBackAtoms
  holdCaptured : hold'.capturedAtoms = new.capturedAtoms
  holdReleased : hold'.releasedAtoms = hold.releasedAtoms
  fresh : st.captureFinancials.lookup captureId = none
  captures : st'.captureFinancials = st.captureFinancials.insert captureId capture
  owner : capture.paymentId = request.paymentId
  amount : capture.capturedAtoms = request.amount
  untouched : capture.refundedAtoms = 0 ∧ capture.chargedBackAtoms = 0
  checked : capture.Checked

theorem captureInTx_payment (done : captureInTx root request hash ids db = .ok (db', receipt))
    (unused : db.payment.effects.lookup ids.effectId = none) :
    ∃ old new hold hold' captureId capture,
      CaptureStored request db.payment db'.payment old new hold hold' captureId capture := by
  simp only [captureInTx, steps_ok, Prod.exists] at done
  obtain ⟨current, loaded, _, _, _, opened, newCaptured, added, newState, derived, _, _, mid,
    journal, prepared, kept, stored, noted, recorded, _, cashback, preparedCashback, _, fee, _, tax,
    last, cash, rfl, _⟩ := done
  obtain ⟨payment, held⟩ := loadSnapshot_ok loaded
  have same : mid.payment = db.payment := by rw [(preparePaymentInTx_frame prepared).2]
  obtain ⟨new, hold', advanced, row, captured, released, frame⟩ :=
    storeCapture_ok stored (same ▸ payment) (same ▸ held)
  rw [same] at advanced
  have effects : kept.payment.effects = db.payment.effects := by rw [frame, same]
  have captures : kept.payment.captureFinancials = db.payment.captureFinancials := by
    rw [frame, same]
  have kepts : CountersKept noted.payment last.payment := by
    have f := recordCharge_kept fee (by simp)
    have t := recordCharge_kept tax (by simp)
    rw [prepareCashback_frame preparedCashback] at f
    exact f.trans (t.trans (recordCashback_kept cash))
  rcases record_cases recorded with ⟨_, present, _⟩ | effect
  · rw [effects, unused] at present
    contradiction
  obtain ⟨checked, absent⟩ := effect.capture _ rfl rfl
  cases addAmounts_ok added
  refine ⟨current.payment, new, current.hold, hold', journal.transactionId,
    newCapture ⟨ids.effectId, request.paymentId, .capture, request.amount, journal.transactionId,
      some current.hold.authorizationTransactionId, some request.cashback, hash⟩ request.cashback,
    { advanced := ⟨payment, held, advanced.checked, ?_, ?_⟩
      open_ := opened
      holdReleased := released
      fresh := captures ▸ absent
      owner := rfl
      amount := rfl
      untouched := ⟨rfl, rfl⟩
      checked := checked
      captures := by rw [kepts.captures, effect.payment, Payment.recorded, captures]
      holdCaptured := by rw [captured, row]
      state := by rw [row]; exact derived
      captured := by rw [row]
      authorized := by rw [row]
      released := by rw [row]
      refunded := by rw [row]
      chargedBack := by rw [row] }⟩
  · rw [kepts.payments, effect.payment]
    exact advanced.payments
  · rw [kepts.holds, effect.payment]
    exact advanced.holds

structure ReleaseStored (request : ReleaseRequest) (st st' : Tables) (old new : PaymentRow)
    (hold hold' : HoldRow) : Prop where
  advanced : Advanced request.paymentId st st' old new hold hold'
  open_ : old.state = .held ∨ old.state = .partiallyCaptured
  state : new.state = (releaseState old.authorizedAtoms old.capturedAtoms new.releasedAtoms).1
  row : new = { old with releasedAtoms := new.releasedAtoms, state := new.state
                         version := new.version }
  bounded : fitsDecimal38 (old.capturedAtoms + new.releasedAtoms)
  holdCaptured : hold'.capturedAtoms = hold.capturedAtoms
  holdReleased : hold'.releasedAtoms = new.releasedAtoms
  captures : st'.captureFinancials = st.captureFinancials

theorem releaseInTx_payment {request : ReleaseRequest}
    (done : releaseInTx root request reversal hash ids db = .ok (db', receipt)) :
    ∃ old new hold hold', ReleaseStored request db.payment db'.payment old new hold hold' := by
  simp only [releaseInTx, steps_ok, Prod.exists] at done
  obtain ⟨current, loaded, _, _, _, opened, _, _, newReleased, added, _, used, mid, journal,
    prepared, _, _, first, _, _, second, noted, recorded, last, returned, rfl, _⟩ := done
  obtain ⟨payment, held⟩ := loadSnapshot_ok loaded
  have same : mid.payment = db.payment := by rw [(preparePaymentInTx_frame prepared).2]
  obtain ⟨hold', heq, rfl⟩ := runUpdate_hold first (same ▸ held)
  obtain ⟨new, row, checked, _, rfl⟩ := runUpdate_payment second (same ▸ payment)
  have kept := record_kept recorded (by unfold releaseKind; split <;> simp)
  simp only [same] at kept
  rw [returnEscrow_frame returned]
  refine ⟨current.payment, new, current.hold, hold', ?_⟩
  exact
    { advanced := ⟨payment, held, checked, kept.payments, kept.holds⟩
      open_ := opened
      state := by rw [row]
      row := by rw [row]
      bounded := by rw [row]; exact used.1
      holdCaptured := by rw [heq]
      holdReleased := by rw [heq, row]
      captures := kept.captures }

theorem addReturn_fields (returns : kind = .refund ∨ kind = .chargeback) (amount : Int)
    (row : CaptureRow) :
    (row.addReturn kind amount).refundedAtoms + (row.addReturn kind amount).chargedBackAtoms =
      row.refundedAtoms + row.chargedBackAtoms + amount := by
  rcases returns with rfl | rfl
  · simp only [CaptureRow.addReturn]
    omega
  · simp only [CaptureRow.addReturn]
    omega

structure ReturnStored (paymentId : Bytes) (st st' : Tables) (old new : PaymentRow)
    (captureId : Bytes) (capture capture' : CaptureRow) : Prop where
  payment : st.paymentOperations.lookup paymentId = some old
  checked : new.Checked
  payments : st'.paymentOperations = st.paymentOperations.insert paymentId new
  holds : st'.holds = st.holds
  state : refundState old.capturedAtoms new.refundedAtoms new.chargedBackAtoms = .ok new.state
  row : new = { old with refundedAtoms := new.refundedAtoms, chargedBackAtoms := new.chargedBackAtoms
                         state := new.state, version := new.version }
  found : st.captureFinancials.lookup captureId = some capture
  captures : st'.captureFinancials = st.captureFinancials.insert captureId capture'
  owner : capture.paymentId = paymentId
  continues : capture.Continues capture'
  captureChecked : capture'.Checked
  refunded : new.refundedAtoms = captureTotal st' paymentId CaptureRow.refundedAtoms
  chargedBack : new.chargedBackAtoms = captureTotal st' paymentId CaptureRow.chargedBackAtoms
  moved : capture.refundedAtoms + capture.chargedBackAtoms <
    capture'.refundedAtoms + capture'.chargedBackAtoms

theorem advanceCaptureReturn_ok {refunded chargedBack : Int}
    (done : advanceCaptureReturn kind paymentId captureId amount db =
      .ok (db', refunded, chargedBack)) :
    ∃ old new, db.payment.captureFinancials.lookup captureId = some old ∧
      old.paymentId = paymentId ∧ old.Continues new ∧ new.Checked ∧
      old.refundedAtoms + old.chargedBackAtoms < new.refundedAtoms + new.chargedBackAtoms ∧
      db' = { db with payment := { db.payment with
        captureFinancials := db.payment.captureFinancials.insert captureId new } } ∧
      refunded = captureTotal db'.payment paymentId CaptureRow.refundedAtoms ∧
      chargedBack = captureTotal db'.payment paymentId CaptureRow.chargedBackAtoms := by
  simp only [advanceCaptureReturn, steps_ok, Prod.exists] at done
  obtain ⟨_, ⟨_, _, positive, returns⟩, mid, affected, updated, rest⟩ := done
  rcases runUpdate_cases updated with ⟨_, _, rfl⟩ | ⟨st, changed, rfl, rfl⟩
  · simp only [Bool.false_eq_true, if_false] at rest
    split at rest <;> contradiction
  · simp only [if_true, steps_ok] at rest
    obtain ⟨_, _, rfl, rfl, rfl⟩ := rest
    rcases updateCapture_cases changed with out | ⟨old, new, found, holds, eq, continues, checked, out⟩
    · cases out
    · cases out
      simp only [Bool.and_eq_true, decide_eq_true_eq] at holds
      have sum := addReturn_fields returns amount old
      refine ⟨old, new, found, holds.1, continues, checked, ?_, rfl, rfl, rfl⟩
      rw [eq]
      simp only [sum]
      omega

theorem returnCaptureInTx_payment {request : CaptureReturn}
    (done : returnCaptureInTx root request hash ids db = .ok (db', receipt))
    (returns : request.kind ≠ .capture) :
    ∃ old new capture capture', ReturnStored request.paymentId db.payment db'.payment old new
      request.originalCaptureTransactionId capture capture' := by
  simp only [returnCaptureInTx, steps_ok, Prod.exists] at done
  obtain ⟨current, loaded, _, _, _, _, _, _, mid, refunded, chargedBack, advanced, newState, derived,
    _, journal, prepared, _, affected, updated, _, rfl, noted, recorded, last, returned, rfl, _⟩ :=
    done
  obtain ⟨payment, _⟩ := loadReturnable_ok loaded
  obtain ⟨capture, capture', found, owner, continues, checked, moved, rfl, hr, hc⟩ :=
    advanceCaptureReturn_ok advanced
  rw [(preparePaymentInTx_frame prepared).2] at updated
  rcases runUpdate_cases updated with ⟨_, _, flag⟩ | ⟨st, changed, rfl, _⟩
  · cases flag
  rcases updatePayment_cases changed with ⟨out, _⟩ | ⟨old, new, same, _, row, _, _, valid, _, out⟩
  · cases out
  cases out
  rw [payment] at same
  cases same
  have kept := record_kept recorded returns
  rw [returnEscrow_frame returned]
  refine ⟨current.payment, new, capture, capture', ?_⟩
  exact
    { payment := payment
      checked := valid
      payments := kept.payments
      holds := kept.holds
      state := by rw [row]; exact derived
      row := by rw [row]
      found := found
      captures := kept.captures
      owner := owner
      continues := continues
      captureChecked := checked
      refunded := by rw [row, captureTotal, kept.captures]; exact hr
      chargedBack := by rw [row, captureTotal, kept.captures]; exact hc
      moved := moved }

def JournalsFrom (ids : ExecutionIds) (st st' : Ledger.Tables E) : Prop :=
  ∀ id new, st'.transactions.lookup id = some new →
    (∃ old, st.transactions.lookup id = some old ∧ old.effectId = new.effectId) ∨
      (id = ids.transactionId ∧ new.effectId = ids.effectId) ∨
      (id = ids.transactionId ++ cashbackSuffix ∧ new.effectId = ids.effectId ++ cashbackSuffix)

namespace JournalsFrom

variable {a b c : Ledger.Tables E}

theorem refl (ids : ExecutionIds) (st : Ledger.Tables E) : JournalsFrom ids st st :=
  fun _ new found => Or.inl ⟨new, found, rfl⟩

theorem of_eq (same : b.transactions = a.transactions) : JournalsFrom ids a b := by
  intro id new found
  rw [same] at found
  exact .inl ⟨new, found, rfl⟩

theorem trans (first : JournalsFrom ids a b) (second : JournalsFrom ids b c) :
    JournalsFrom ids a c := by
  intro id new found
  rcases second id new found with ⟨mid, earlier, same⟩ | named
  · rcases first id mid earlier with ⟨old, present, same'⟩ | named
    · exact .inl ⟨old, present, same'.trans same⟩
    · rw [same] at named
      exact .inr named
  · exact .inr named

theorem update {old new : TransactionRow E} (found : a.transactions.lookup id = some old)
    (same : b.transactions = a.transactions.insert id new) (effect : new.effectId = old.effectId) :
    JournalsFrom ids a b := by
  intro other row present
  rw [same, AList.lookup_insert_if] at present
  split at present
  · rename_i here
    cases present
    exact .inl ⟨old, here ▸ found, effect.symm⟩
  · exact .inl ⟨row, present, rfl⟩

end JournalsFrom

theorem finalized_journals {st st' : Ledger.Tables E} {row : TransactionRow E}
    {head : BookRow} (effect : Finalized st st' id row head) : JournalsFrom ids st st' :=
  JournalsFrom.update effect.draft effect.transactions rfl

theorem finalizePayment_journals {answer : Option Bytes}
    (done : finalizePaymentLedgerTransaction root id db = .ok (db', answer)) :
    JournalsFrom ids db.ledger db'.ledger := by
  simp only [finalizePaymentLedgerTransaction, steps_ok, Prod.exists] at done
  obtain ⟨row, draft, _, _, _, _, _, _, _, _, _, _, _, _, ledger, _, finalized, rfl, _⟩ := done
  have found : db.ledger.transactions.lookup id = some row := (Option.filter_eq_some_iff.mp draft).1
  have verified : JournalsFrom ids db.ledger { db.ledger with
      transactions := db.ledger.transactions.insert id
        { row with paymentTemplateVerified := true } } :=
    JournalsFrom.update found rfl rfl
  rcases finalize_cases finalized with ⟨same, _⟩ | ⟨_, _, effect, _⟩
  · rw [same]
    exact verified
  · exact verified.trans (finalized_journals effect)

theorem record_journals (ids : ExecutionIds) {a : EffectArguments}
    (done : record root a db = .ok db') : JournalsFrom ids db.ledger db'.ledger := by
  rcases record_cases done with ⟨_, _, rfl⟩ | new
  · exact JournalsFrom.refl _ _
  · have posted := new.posted
    unfold postJournal at posted
    split at posted
    · have same := congrArg Database.ledger (Except.ok.inj posted)
      exact JournalsFrom.of_eq (congrArg Tables.transactions same.symm)
    · simp only [steps_ok, Prod.exists] at posted
      obtain ⟨mid, _, finalized, _, _, same⟩ := posted
      have ledger := congrArg Database.ledger same
      simp only at ledger
      rw [← ledger]
      exact finalizePayment_journals finalized

def NamedBy (ids : ExecutionIds) (request : PostRequest) : Prop :=
  (request.transactionId = ids.transactionId ∧ request.effectId = ids.effectId) ∨
    (request.transactionId = ids.transactionId ++ cashbackSuffix ∧
      request.effectId = ids.effectId ++ cashbackSuffix)

theorem preparePaymentInTx_journals {request : PostRequest}
    {journal : Ledger.Receipt} (prepared : preparePaymentInTx request db = .ok (db', journal))
    (named : NamedBy ids request) : JournalsFrom ids db.ledger db'.ledger := by
  refine postInTx_preserves _ ?_ ?_ (JournalsFrom.refl _ _) (preparePaymentInTx_frame prepared).1
  · intro canonical mid head hash metadata _ _ drafted id new found
    rw [drafted.transactions, AList.lookup_insert_if] at found
    split at found
    · rename_i here
      cases found
      rcases named with ⟨transaction, effect⟩ | ⟨transaction, effect⟩
      · exact .inr (.inl ⟨here.trans transaction, effect⟩)
      · exact .inr (.inr ⟨here.trans transaction, effect⟩)
    · exact .inl ⟨new, found, rfl⟩
  · exact fun _ _ _ _ stored effect => stored.trans (finalized_journals effect)

/-- A step of the execution with these identifiers: outside the journal, the payment
tables and the escrow nothing changes, and the entries and effects it adds are named
after the execution. -/
structure Worked (ids : ExecutionIds) (db db' : Database E) : Prop where
  framed : Framed db db'
  journals : JournalsFrom ids db.ledger db'.ledger
  effects : AddsEffects ids.effectId db.payment db'.payment

theorem Worked.trans {db'' : Database E} (first : Worked ids db db') (second : Worked ids db' db'') :
    Worked ids db db'' :=
  ⟨first.framed.trans second.framed, first.journals.trans second.journals,
    first.effects.trans second.effects⟩

theorem Worked.of_payment {st : Tables} (same : db' = { db with payment := st })
    (effects : st.effects = db.payment.effects) : Worked ids db db' :=
  ⟨.of_payment (by rw [same]), .of_eq (by rw [same]), .of_eq (by rw [same]; exact effects)⟩

theorem Worked.of_escrow (same : db' = { db with escrow := db'.escrow }) : Worked ids db db' :=
  ⟨.of_escrow same, .of_eq (by rw [same]), .of_eq (by rw [same])⟩

theorem Worked.refl (db : Database E) : Worked ids db db := .of_payment rfl rfl

theorem preparePaymentInTx_worked {request : PostRequest} {journal : Ledger.Receipt}
    (prepared : preparePaymentInTx request db = .ok (db', journal)) (named : NamedBy ids request) :
    Worked ids db db' := by
  have frame := (preparePaymentInTx_frame prepared).2
  exact ⟨.of_ledger frame, preparePaymentInTx_journals prepared named, .of_eq (by rw [frame])⟩

theorem record_worked {a : EffectArguments} (done : record root a db = .ok db') {suffix : Bytes}
    (named : a.effectId = ids.effectId ++ suffix) (known : suffix ∈ suffixes) : Worked ids db db' :=
  ⟨record_framed done, record_journals ids done, record_adds done named known⟩

theorem record_worked_root {a : EffectArguments} (done : record root a db = .ok db')
    (named : a.effectId = ids.effectId) : Worked ids db db' :=
  record_worked done (named.trans (List.append_nil _).symm) (by decide)

theorem updateHold_worked {change : HoldRow → HoldRow}
    (done : runUpdate (updateHold paymentId change) db = .ok (db', affected)) :
    Worked ids db db' := by
  rcases runUpdate_cases done with ⟨_, rfl, _⟩ | ⟨_, updated, rfl, _⟩
  · exact .refl _
  · rcases updateHold_cases updated with ⟨out, _⟩ | ⟨_, _, _, _, _, _, out⟩
    · cases out
    · cases out
      exact .of_payment rfl rfl

theorem updatePayment_worked {condition : PaymentRow → Bool}
    (done : runUpdate (updatePayment paymentId condition change) db = .ok (db', affected)) :
    Worked ids db db' := by
  rcases runUpdate_cases done with ⟨_, rfl, _⟩ | ⟨_, updated, rfl, _⟩
  · exact .refl _
  · rcases updatePayment_cases updated with ⟨out, _⟩ | ⟨_, _, _, _, _, _, _, _, _, out⟩
    · cases out
    · cases out
      exact .of_payment rfl rfl

theorem holdInTx_worked {request : HoldRequest}
    (done : holdInTx root request paymentId holdId hash ids db = .ok (db', receipt)) :
    Worked ids db db' := by
  simp only [holdInTx, steps_ok, Prod.exists] at done
  obtain ⟨_, inserted, _, _, prepared, _, held, _, recorded, _, spent, rfl, _⟩ := done
  have payment : Worked ids _ _ := .of_payment (insertPayment_ok inserted).2.2 rfl
  have hold : Worked ids _ _ := .of_payment (insertHold_ok held).2 rfl
  have journal := preparePaymentInTx_worked prepared (.inl ⟨rfl, rfl⟩)
  have effect := (record_worked_root recorded rfl).trans (.of_escrow (spendEscrow_frame spent))
  exact payment.trans (journal.trans (hold.trans effect))

theorem recordCharge_worked
    (done : recordCharge root kind suffix request amount captureId hash ids db = .ok db')
    (known : ascii suffix ∈ suffixes) : Worked ids db db' := by
  unfold recordCharge at done
  split at done
  · exact record_worked done rfl known
  · cases done
    exact .refl _

theorem recordCashback_worked
    (done : recordCashback root request current captureId journal hash ids db = .ok db') :
    Worked ids db db' := by
  unfold recordCashback at done
  split at done
  · cases done
    exact .refl _
  · simp only [bind_ok] at done
    obtain ⟨_, recorded, returned⟩ := done
    exact (record_worked recorded rfl (by decide)).trans (.of_escrow (returnEscrow_frame returned))

theorem prepareCashback_worked
    (done : prepareCashback request payment captureId hash ids db = .ok (db', journal)) :
    Worked ids db db' := by
  unfold prepareCashback at done
  split at done
  · simp only [steps_ok, Prod.exists] at done
    obtain ⟨_, _, prepared, rfl, _⟩ := done
    exact preparePaymentInTx_worked prepared (.inr ⟨rfl, rfl⟩)
  · cases done
    exact .refl _

theorem storeCapture_worked
    (stored : storeCapture request current newState newCaptured newCashback db = .ok db') :
    Worked ids db db' := by
  simp only [storeCapture, steps_ok, Prod.exists] at stored
  obtain ⟨_, _, first, _, _, _, _, _, _, second, rfl⟩ := stored
  exact (updateHold_worked first).trans (updatePayment_worked second)

theorem captureInTx_worked (done : captureInTx root request hash ids db = .ok (db', receipt)) :
    Worked ids db db' := by
  simp only [captureInTx, steps_ok, Prod.exists] at done
  obtain ⟨_, _, _, _, _, _, _, _, _, _, _, _, _, _, prepared, _, stored, _, recorded, _, _,
    preparedCashback, _, fee, _, tax, _, cash, rfl, _⟩ := done
  have journal := preparePaymentInTx_worked prepared (.inl ⟨rfl, rfl⟩)
  have capture := (storeCapture_worked stored).trans (record_worked_root recorded rfl)
  have charges := (recordCharge_worked fee (by decide)).trans (recordCharge_worked tax (by decide))
  exact journal.trans (capture.trans ((prepareCashback_worked preparedCashback).trans
    (charges.trans (recordCashback_worked cash))))

theorem releaseInTx_worked {request : ReleaseRequest}
    (done : releaseInTx root request reversal hash ids db = .ok (db', receipt)) :
    Worked ids db db' := by
  simp only [releaseInTx, steps_ok, Prod.exists] at done
  obtain ⟨_, _, _, _, _, _, _, _, _, _, _, _, _, _, prepared, _, _, first, _, _, second, _, recorded,
    _, returned, rfl, _⟩ := done
  have journal := preparePaymentInTx_worked prepared (.inl ⟨rfl, rfl⟩)
  have rows : Worked ids _ _ := (updateHold_worked first).trans (updatePayment_worked second)
  have effect := (record_worked_root recorded rfl).trans (.of_escrow (returnEscrow_frame returned))
  exact journal.trans (rows.trans effect)

theorem returnCaptureInTx_worked {request : CaptureReturn}
    (done : returnCaptureInTx root request hash ids db = .ok (db', receipt)) :
    Worked ids db db' := by
  simp only [returnCaptureInTx, steps_ok, Prod.exists] at done
  obtain ⟨_, _, _, _, _, _, _, _, _, _, _, advanced, _, _, _, _, prepared, _, _, updated, _, _, _,
    recorded, _, returned, rfl, _⟩ := done
  obtain ⟨_, _, _, _, _, _, _, same, _, _⟩ := advanceCaptureReturn_ok advanced
  have capture : Worked ids _ _ := .of_payment same rfl
  have journal := preparePaymentInTx_worked prepared (.inl ⟨rfl, rfl⟩)
  have effect := (record_worked_root recorded rfl).trans (.of_escrow (returnEscrow_frame returned))
  exact capture.trans (journal.trans ((updatePayment_worked updated).trans effect))

theorem operation_worked {r : Request} (done : r.operation root hash ids db = .ok (db', receipt)) :
    Worked ids db db' := by
  cases r with
  | hold => exact holdInTx_worked done
  | capture => exact captureInTx_worked done
  | release => exact releaseInTx_worked done
  | reversal => exact releaseInTx_worked done
  | refund => exact returnCaptureInTx_worked done
  | chargeback => exact returnCaptureInTx_worked done

end PaymentPlatform.Payment
