import PaymentPlatform.Payment.Execute

/-! What a committed statement of the payment service does, said once for each
function. -/

namespace PaymentPlatform.Payment

open Framing Ledger Serial Idgen

variable {E : Engine} {db db' : Database E}
variable {st : Tables} {result : Option Tables} {effectId : Bytes} {root : Bool}
  {a : EffectArguments}

theorem updatePayment_cases {paymentId : Bytes} {condition : PaymentRow → Bool}
    {change : PaymentRow → PaymentRow}
    (updated : updatePayment paymentId condition change st = .ok result) :
    (result = none ∧ ∀ old, st.paymentOperations.lookup paymentId = some old →
        condition old = false) ∨ ∃ old new, st.paymentOperations.lookup paymentId = some old ∧
        condition old = true ∧ new = { change old with version := old.version + 1 } ∧
        canTransition old.state new.state = true ∧ old.Continues new ∧ new.Checked ∧
        new.Storable ∧ result = some { st with paymentOperations := st.paymentOperations.insert paymentId new } := by
  unfold updatePayment at updated
  split at updated
  · rename_i absent
    cases updated
    refine .inl ⟨rfl, ?_⟩
    intro old found
    rw [absent] at found
    contradiction
  · rename_i old found
    split at updated
    · rename_i holds
      simp only [steps_ok] at updated
      obtain ⟨_, storable, _, allowed, _, continues, _, checked, out⟩ := updated
      exact .inr ⟨old, _, found, holds, rfl, allowed, continues, checked, storable, out.symm⟩
    · rename_i fails
      cases updated
      refine .inl ⟨rfl, ?_⟩
      intro other same
      rw [found] at same
      cases same
      exact Bool.eq_false_iff.mpr fails

theorem updateHold_cases {paymentId : Bytes} {change : HoldRow → HoldRow}
    (updated : updateHold paymentId change st = .ok result) :
    (result = none ∧ st.holds.lookup paymentId = none) ∨
      ∃ old new, st.holds.lookup paymentId = some old ∧
        new = { change old with version := old.version + 1 } ∧ old.Continues new ∧ new.Checked ∧
        result = some { st with holds := st.holds.insert paymentId new } := by
  unfold updateHold at updated
  split at updated
  · rename_i absent
    cases updated
    exact .inl ⟨rfl, absent⟩
  · rename_i old found
    simp only [steps_ok] at updated
    obtain ⟨_, _, _, continues, _, _, _, checked, out⟩ := updated
    exact .inr ⟨old, _, found, rfl, continues, checked, out.symm⟩

theorem updateCapture_cases {captureId : Bytes} {condition : CaptureRow → Bool}
    {change : CaptureRow → CaptureRow}
    (updated : updateCapture captureId condition change st = .ok result) :
    result = none ∨ ∃ old new, st.captureFinancials.lookup captureId = some old ∧
      condition old = true ∧ new = { change old with version := old.version + 1 } ∧
      old.Continues new ∧ new.Checked ∧
      result = some { st with captureFinancials := st.captureFinancials.insert captureId new } := by
  unfold updateCapture at updated
  split at updated
  · cases updated
    exact .inl rfl
  · rename_i old found
    split at updated
    · rename_i holds
      simp only [steps_ok] at updated
      obtain ⟨_, _, _, continues, _, checked, out⟩ := updated
      exact .inr ⟨old, _, found, holds, rfl, continues, checked, out.symm⟩
    · cases updated
      exact .inl rfl

theorem runUpdate_cases {update : Tables → Except SqlError (Option Tables)} {affected : Bool}
    (done : runUpdate update db = .ok (db', affected)) :
    (update db.payment = .ok none ∧ db' = db ∧ affected = false) ∨
      ∃ st, update db.payment = .ok (some st) ∧ db' = { db with payment := st } ∧
        affected = true := by
  simp only [runUpdate, steps_ok] at done
  obtain ⟨result, updated, rest⟩ := done
  cases result with
  | none =>
    simp only [pure_ok, Prod.mk.injEq] at rest
    exact .inl ⟨updated, rest.1.symm, rest.2.symm⟩
  | some st =>
    simp only [pure_ok, Prod.mk.injEq] at rest
    exact .inr ⟨st, updated, rest.1.symm, rest.2.symm⟩

/-- Everything but the journal, the payment tables and the escrow is unchanged. -/
structure Framed (db db' : Database E) : Prop where
  capabilities : db'.capabilities = db.capabilities
  revocations : db'.revocations = db.revocations
  records : db'.idempotencyRecords = db.idempotencyRecords
  outbox : db'.outboxMessages = db.outboxMessages

theorem Framed.refl (db : Database E) : Framed db db := ⟨rfl, rfl, rfl, rfl⟩

theorem Framed.trans {a b c : Database E} (first : Framed a b) (second : Framed b c) : Framed a c :=
  ⟨second.capabilities.trans first.capabilities, second.revocations.trans first.revocations,
    second.records.trans first.records, second.outbox.trans first.outbox⟩

theorem Framed.of_ledger (same : db' = { db with ledger := db'.ledger }) : Framed db db' := by
  rw [same]
  exact ⟨rfl, rfl, rfl, rfl⟩

theorem Framed.of_escrow (same : db' = { db with escrow := db'.escrow }) : Framed db db' := by
  rw [same]
  exact ⟨rfl, rfl, rfl, rfl⟩

theorem Framed.of_payment (same : db' = { db with payment := db'.payment }) : Framed db db' := by
  rw [same]
  exact ⟨rfl, rfl, rfl, rfl⟩

theorem preparePaymentInTx_frame {request : PostRequest} {journal : Ledger.Receipt}
    (prepared : preparePaymentInTx request db = .ok (db', journal)) :
    postInTx request true db.ledger = .ok (db'.ledger, journal) ∧
      db' = { db with ledger := db'.ledger } := by
  simp only [preparePaymentInTx, steps_ok, Prod.exists]
    at prepared
  obtain ⟨ledger, receipt, posted, rfl, rfl⟩ := prepared
  exact ⟨posted, rfl⟩

theorem applyPaymentEscrowEffect_frame {kind : Escrow.EffectKind}
    {request : Escrow.EffectRequest} {hash : Digest} {applied : Bool}
    (done : applyPaymentEscrowEffect kind request hash db = .ok (db', applied)) :
    db' = { db with escrow := db'.escrow } := by
  obtain ⟨rfl, _⟩ | ⟨_, _, _, _, _, rfl⟩ := applyPaymentEscrowEffect_ok done <;> rfl

theorem applyPaymentEffect_frame {kind : Escrow.EffectKind} {request : Escrow.EffectRequest}
    {receipt : Escrow.EffectReceipt}
    (done : applyPaymentEffect kind request db = .ok (db', receipt)) :
    db' = { db with escrow := db'.escrow } := by
  simp only [applyPaymentEffect, steps_ok, Prod.exists] at done
  obtain ⟨_, _, _, _, applied, rfl, _⟩ := done
  exact applyPaymentEscrowEffect_frame applied

theorem returnEscrow_frame {current : Snapshot} {amount : Int}
    (done : returnEscrow effectId current amount db = .ok db') :
    db' = { db with escrow := db'.escrow } := by
  unfold returnEscrow at done
  split at done
  · cases done
    rfl
  · simp only [steps_ok, Prod.exists] at done
    obtain ⟨_, _, applied, rfl⟩ := done
    exact applyPaymentEffect_frame applied

theorem spendEscrow_frame {request : HoldRequest} (done : spendEscrow effectId request db = .ok db') :
    db' = { db with escrow := db'.escrow } := by
  unfold spendEscrow at done
  split at done
  · cases done
    rfl
  · simp only [steps_ok, Prod.exists] at done
    obtain ⟨_, _, applied, rfl⟩ := done
    exact applyPaymentEffect_frame applied

theorem finalizePayment_frame {id : Bytes} {answer : Option Bytes}
    (done : finalizePaymentLedgerTransaction root id db = .ok (db', answer)) :
    db' = { db with ledger := db'.ledger } := by
  simp only [finalizePaymentLedgerTransaction, steps_ok, Prod.exists] at done
  obtain ⟨_, _, _, _, _, _, _, _, _, _, _, _, _, _, _, _, _, rfl, _⟩ := done
  rfl

theorem postJournal_frame (done : postJournal root a db = .ok db') :
    db' = { db with ledger := db'.ledger } := by
  unfold postJournal at done
  split at done
  · cases done
    rfl
  · simp only [steps_ok, Prod.exists] at done
    obtain ⟨_, _, finalized, _, _, rfl⟩ := done
    exact finalizePayment_frame finalized

def recorded (a : EffectArguments) (st : Tables) : Tables :=
  { st with
    effects := st.effects.insert a.effectId a.row
    effectRequestReceipts := st.effectRequestReceipts.insert a.effectId a.requestHash
    captureFinancials :=
      match a.kind, a.expectedCashback with
      | .capture, some cashback =>
        st.captureFinancials.insert a.ledgerTransactionId (newCapture a cashback)
      | _, _ => st.captureFinancials }

/-- A new effect: the journal its posting left, and the rows it inserted. -/
structure Recorded (root : Bool) (a : EffectArguments) (db db' : Database E) : Prop where
  valid : a.Valid
  fresh : db.payment.effects.lookup a.effectId = none
  posted : postJournal root a db = .ok { db with ledger := db'.ledger }
  linked : journalLinked { db with ledger := db'.ledger } a = true
  projected : lifecycleProjected { db with ledger := db'.ledger } a = true
  payment : db'.payment = recorded a db.payment
  frame : db' = { db with ledger := db'.ledger, payment := db'.payment }
  payer : (db.payment.paymentOperations.lookup a.paymentId).isSome
  amount : fitsDecimal38 a.amount
  capture : ∀ cashback, a.kind = .capture → a.expectedCashback = some cashback →
    (newCapture a cashback).Checked ∧
      db.payment.captureFinancials.lookup a.ledgerTransactionId = none

theorem insertFacts_ok (inserted : insertFacts a db = .ok db') :
    db' = { db with payment := recorded a db.payment } ∧
      (db.payment.paymentOperations.lookup a.paymentId).isSome ∧ fitsDecimal38 a.amount ∧
      ∀ cashback, a.kind = .capture → a.expectedCashback = some cashback →
        (newCapture a cashback).Checked ∧
          db.payment.captureFinancials.lookup a.ledgerTransactionId = none := by
  simp only [insertFacts, insertEffect, insertEffectReceipt, steps_ok]
    at inserted
  obtain ⟨_, ⟨_, amount, _, _, _, ⟨payer, _⟩, rfl⟩, _, ⟨_, _, rfl⟩, rest⟩ := inserted
  split at rest
  · rename_i kind cashback hk hc
    simp only [insertCapture, steps_ok] at rest
    obtain ⟨_, _, _, checked, _, absent, _, _, rfl⟩ := rest
    refine ⟨?_, payer, amount, ?_⟩
    · simp only [recorded, hk, hc]
    · intro other _ same
      rw [hc] at same
      cases same
      exact ⟨checked, absent⟩
  · rename_i other
    simp only [pure_ok] at rest
    subst rest
    refine ⟨?_, payer, amount, ?_⟩
    · unfold recorded
      split
      · rename_i kind cashback hk hc
        exact absurd hc (other cashback hk)
      · rfl
    · intro cashback hk hc
      exact absurd hc (other cashback hk)

theorem recordPaymentEffect_cases {answer : Bool}
    (done : recordPaymentEffect root a db = .ok (db', answer)) :
    (∃ stored, db.payment.effects.lookup a.effectId = some stored ∧
        sameEffect db.payment stored a ∧ db' = db ∧ answer = false) ∨
      (Recorded root a db db' ∧ answer = true) := by
  simp only [recordPaymentEffect, steps_ok] at done
  obtain ⟨_, _, _, valid, rest⟩ := done
  split at rest
  · rename_i stored found
    simp only [steps_ok] at rest
    obtain ⟨_, same, rfl, rfl⟩ := rest
    exact .inl ⟨stored, found, same, rfl, rfl⟩
  · rename_i fresh
    simp only [steps_ok] at rest
    obtain ⟨mid, posted, _, linked, _, projected, last, inserted, rfl, rfl⟩ := rest
    obtain ⟨out, payer, amount, capture⟩ := insertFacts_ok inserted
    have frame := postJournal_frame posted
    have payments : mid.payment = db.payment := by rw [frame]
    have ledgers : last.ledger = mid.ledger := by rw [out]
    have journal : mid = { db with ledger := last.ledger } := by rw [ledgers, ← frame]
    rw [payments] at out payer capture
    refine .inr ⟨⟨valid, fresh, journal ▸ posted, journal ▸ linked, journal ▸ projected, ?_, ?_,
      payer, amount, capture⟩, rfl⟩
    · rw [out]
    · rw [out]
      rw [frame]

theorem record_cases (done : record root a db = .ok db') :
    (∃ stored, db.payment.effects.lookup a.effectId = some stored ∧ db' = db) ∨
      Recorded root a db db' := by
  simp only [record, steps_ok, Prod.exists] at done
  obtain ⟨_, answer, recorded, rfl⟩ := done
  rcases recordPaymentEffect_cases recorded with ⟨stored, found, _, same, _⟩ | ⟨new, _⟩
  · exact .inl ⟨stored, found, same⟩
  · exact .inr new

theorem record_framed (done : record root a db = .ok db') : Framed db db' := by
  rcases record_cases done with ⟨_, _, rfl⟩ | new
  · exact Framed.refl _
  · rw [new.frame]
    exact ⟨rfl, rfl, rfl, rfl⟩

structure CountersKept (st st' : Tables) : Prop where
  payments : st'.paymentOperations = st.paymentOperations
  holds : st'.holds = st.holds
  captures : st'.captureFinancials = st.captureFinancials

theorem CountersKept.refl (st : Tables) : CountersKept st st := ⟨rfl, rfl, rfl⟩

theorem CountersKept.trans {a b c : Tables} (first : CountersKept a b) (second : CountersKept b c) :
    CountersKept a c :=
  ⟨second.payments.trans first.payments, second.holds.trans first.holds,
    second.captures.trans first.captures⟩

theorem recorded_kept (other : a.kind ≠ .capture) (st : Tables) :
    CountersKept st (recorded a st) := by
  refine ⟨rfl, rfl, ?_⟩
  simp only [recorded]
  split
  · rename_i kind _
    exact absurd kind other
  · rfl

theorem record_kept (done : record root a db = .ok db') (other : a.kind ≠ .capture) :
    CountersKept db.payment db'.payment := by
  rcases record_cases done with ⟨_, _, rfl⟩ | new
  · exact CountersKept.refl _
  · rw [new.payment]
    exact recorded_kept other _

def suffixes : List Bytes := [[], ascii ":fee", ascii ":tax", ascii ":cashback"]

theorem suffixes_colon : ∀ suffix ∈ suffixes, suffix = [] ∨ 58 ∈ suffix ∧ suffix.length ≤ 16 := by
  decide

theorem suffixes_ends : ∀ s ∈ suffixes, ∀ s' ∈ suffixes, s <:+ s' → s = [] ∨ s = s' := by
  decide

theorem text_suffix_inj {a b : Identifier} {s s' : Bytes} (hs : s ∈ suffixes) (hs' : s' ∈ suffixes)
    (shorter : s.length ≤ s'.length) (same : a.text ++ s = b.text ++ s') : a = b := by
  have ending : s <:+ s' :=
    List.suffix_of_suffix_length_le (List.suffix_append a.text s)
      (same ▸ List.suffix_append b.text s') shorter
  rcases suffixes_ends s hs s' hs' ending with rfl | rfl
  · rw [List.append_nil] at same
    rcases suffixes_colon s' hs' with rfl | ⟨colon, short⟩
    · rw [List.append_nil] at same
      exact Identifier.text_injective same
    · exact absurd same (Identifier.text_ne_suffixed _ _ colon short)
  · exact Identifier.text_injective (List.append_cancel_right same)

theorem effect_name_inj {a b : Draw} {s s' : Bytes} (hs : s ∈ suffixes) (hs' : s' ∈ suffixes)
    (same : a.ids.effectId ++ s = b.ids.effectId ++ s') : a.effect = b.effect := by
  simp only [Draw.ids, List.append_assoc] at same
  have same := List.append_cancel_left same
  rcases Nat.le_total s.length s'.length with shorter | longer
  · exact text_suffix_inj hs hs' shorter same
  · exact (text_suffix_inj hs' hs longer same.symm).symm

def AddsEffects (effectId : Bytes) (st st' : Tables) : Prop :=
  ∀ key, (st'.effects.lookup key).isSome →
    (st.effects.lookup key).isSome ∨ ∃ suffix ∈ suffixes, key = effectId ++ suffix

theorem AddsEffects.refl (effectId : Bytes) (st : Tables) : AddsEffects effectId st st :=
  fun _ present => Or.inl present

theorem AddsEffects.of_eq {st' : Tables} (same : st'.effects = st.effects) :
    AddsEffects effectId st st' := by
  intro key present
  rw [same] at present
  exact .inl present

theorem AddsEffects.trans {a b c : Tables} (first : AddsEffects effectId a b)
    (second : AddsEffects effectId b c) : AddsEffects effectId a c := by
  intro key present
  rcases second key present with earlier | named
  · exact first key earlier
  · exact .inr named

theorem record_adds (done : record root a db = .ok db') {suffix : Bytes}
    (named : a.effectId = effectId ++ suffix) (known : suffix ∈ suffixes) :
    AddsEffects effectId db.payment db'.payment := by
  rcases record_cases done with ⟨_, _, rfl⟩ | new
  · exact AddsEffects.refl _ _
  · intro key present
    rw [new.payment] at present
    simp only [recorded, AList.lookup_insert_if] at present
    split at present
    · rename_i same
      exact .inr ⟨suffix, known, same.trans named⟩
    · exact .inl present

end PaymentPlatform.Payment
