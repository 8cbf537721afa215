import PaymentPlatform.Payment.Replay

/-! The receipt of an execution holds what its journal entries store. -/

namespace PaymentPlatform.Payment

open Framing Ledger Serial

variable {E : Engine} {db db' : Database E}
variable {id captureId : Bytes} {root : Bool} {hash : Digest} {receipt : Receipt}
  {request : CaptureRequest} {current : Snapshot}

theorem finalizePayment_bounded
    (done : finalizePaymentLedgerTransaction root id db = .ok (db', some id)) :
    ∃ row, db.ledger.transactions.lookup id = some row ∧ row.sequenceNo < maxInt8 := by
  simp only [finalizePaymentLedgerTransaction, steps_ok, Prod.exists] at done
  obtain ⟨row, draft, _, _, _, _, _, _, _, _, _, _, _, _, _, _, finalized, _, rfl⟩ := done
  refine ⟨row, (Option.filter_eq_some_iff.mp draft).1, ?_⟩
  rcases finalize_cases finalized with ⟨_, impossible⟩ | ⟨posted, _, effect, _⟩
  · cases impossible
  · have same := effect.draft
    rw [AList.lookup_insert] at same
    cases same
    exact effect.bounded

/-- The receipt of a new entry that was posted as a new effect. -/
structure Entered (E : Engine) (journal : Ledger.Receipt) (amount : Int) : Prop where
  texts : ∀ text ∈ [journal.bookId, journal.operationId, journal.effectId],
    E.acceptsText text = true
  sequence : 0 < journal.sequenceNo ∧ journal.sequenceNo ≤ maxInt8
  amount : fitsDecimal38 amount

theorem journal_entered {before mid kept noted : Database E} {request : PostRequest}
    {a : EffectArguments} {journal : Ledger.Receipt}
    (prepared : preparePaymentInTx request before = .ok (mid, journal))
    (recorded : record root a kept = .ok noted) (same : kept.ledger = mid.ledger)
    (unused : ∀ id row, before.ledger.transactions.lookup id = some row →
      row.effectId ≠ request.effectId) (fresh : kept.payment.effects.lookup a.effectId = none)
    (primary : a.kind.secondary = false) (entry : a.ledgerTransactionId = journal.transactionId) :
    Entered E journal a.amount := by
  obtain ⟨canonical, head, hash, metadata, drafted, shown⟩ :=
    postInTx_draft (preparePaymentInTx_frame prepared).1 unused
  rcases record_cases recorded with ⟨_, present, _⟩ | effect
  · rw [fresh] at present
    contradiction
  have posted := effect.posted
  simp only [postJournal, primary, Bool.false_eq_true, if_false, steps_ok, Prod.exists] at posted
  obtain ⟨_, _, finalized, _, rfl, _⟩ := posted
  obtain ⟨row, found, bounded⟩ := finalizePayment_bounded finalized
  have id : journal.transactionId = request.transactionId := by rw [shown]; rfl
  have sequence : journal.sequenceNo = head.nextSequenceNo := by rw [shown]; rfl
  rw [same, drafted.transactions, entry, id, AList.lookup_insert] at found
  cases found
  refine ⟨?_, ⟨sequence ▸ drafted.positive, ?_⟩, effect.amount⟩
  · intro text member
    rw [shown] at member
    exact drafted.texts text (List.mem_cons_of_mem _ member)
  · rw [sequence]
    exact Int.le_of_lt bounded

/-- The parts of a receipt that are not the text of a payment or an entry. -/
structure Measured (E : Engine) (r : Receipt) : Prop where
  entered : Entered E r.ledger r.amount
  version : 0 ≤ r.version ∧ r.version ≤ maxInt8

theorem Measured.readable {r : Receipt} (measured : Measured E r)
    (texts : E.acceptsText r.paymentId = true ∧ E.acceptsText r.ledger.transactionId = true) :
    Readable E r := by
  refine ⟨?_, measured.entered.amount, measured.version, measured.entered.sequence⟩
  intro text member
  rcases List.mem_cons.mp member with rfl | member
  · exact texts.1
  rcases List.mem_cons.mp member with rfl | member
  · exact texts.2
  · exact measured.entered.texts text member

structure NoEffect (effectId : Bytes) (db : Database E) : Prop where
  journal : ∀ id row, db.ledger.transactions.lookup id = some row → row.effectId ≠ effectId
  effect : db.payment.effects.lookup effectId = none

theorem holdInTx_measured {request : HoldRequest} {paymentId holdId : Bytes} {ids : ExecutionIds}
    (done : holdInTx root request paymentId holdId hash ids db = .ok (db', receipt))
    (unused : NoEffect ids.effectId db) : Measured E receipt := by
  simp only [holdInTx, steps_ok, Prod.exists] at done
  obtain ⟨_, inserted, _, _, prepared, _, held, _, recorded, _, _, _, rfl⟩ := done
  obtain ⟨_, _, rfl⟩ := insertPayment_ok inserted
  obtain ⟨_, rfl⟩ := insertHold_ok held
  have frame := (preparePaymentInTx_frame prepared).2
  have entered := journal_entered prepared recorded rfl unused.journal
    (by rw [frame]; exact unused.effect) rfl rfl
  exact ⟨entered, Int.le_refl 0, (by decide : (0 : Int) ≤ maxInt8)⟩

theorem version_bounds {row : PaymentRow} (checked : row.Checked) (storable : row.Storable) :
    0 ≤ row.version ∧ row.version ≤ maxInt8 := by
  obtain ⟨_, _, _, _, _, _, _, _, _, _, version, _⟩ := checked
  exact ⟨version, storable.2⟩

theorem storeCapture_ledger {newState : State} {newCaptured newCashback : Int}
    (stored : storeCapture request current newState newCaptured newCashback db = .ok db') :
    db'.ledger = db.ledger := by
  simp only [storeCapture, steps_ok, Prod.exists] at stored
  obtain ⟨_, _, first, _, _, _, _, _, _, second, rfl⟩ := stored
  rcases runUpdate_cases first with ⟨_, rfl, _⟩ | ⟨_, _, rfl, _⟩ <;>
    rcases runUpdate_cases second with ⟨_, rfl, _⟩ | ⟨_, _, rfl, _⟩ <;> rfl

theorem storeCapture_version {newState : State} {newCaptured newCashback : Int}
    (stored : storeCapture request current newState newCaptured newCashback db = .ok db')
    (payment : db.payment.paymentOperations.lookup request.paymentId = some current.payment) :
    db'.payment.effects = db.payment.effects ∧
      0 ≤ current.payment.version + 1 ∧ current.payment.version + 1 ≤ maxInt8 := by
  simp only [storeCapture, steps_ok, Prod.exists] at stored
  obtain ⟨mid, _, first, _, _, _, _, _, _, second, rfl⟩ := stored
  have found : mid.payment.paymentOperations.lookup request.paymentId = some current.payment ∧
      mid.payment.effects = db.payment.effects := by
    rcases runUpdate_cases first with ⟨_, rfl, _⟩ | ⟨_, updated, rfl, _⟩
    · exact ⟨payment, rfl⟩
    · rcases updateHold_cases updated with ⟨out, _⟩ | ⟨_, _, _, _, _, _, out⟩
      · cases out
      · cases out
        exact ⟨payment, rfl⟩
  obtain ⟨new, row, checked, storable, rfl⟩ := runUpdate_payment second found.1
  have version := version_bounds checked storable
  rw [row] at version
  exact ⟨found.2, version⟩

theorem captureInTx_measured {ids : ExecutionIds}
    (done : captureInTx root request hash ids db = .ok (db', receipt))
    (unused : NoEffect ids.effectId db) : Measured E receipt := by
  simp only [captureInTx, steps_ok, Prod.exists] at done
  obtain ⟨current, loaded, _, _, _, _, _, _, _, _, _, _, mid, _, prepared, _, stored, _, recorded, _,
    _, _, _, _, _, _, _, _, _, rfl⟩ := done
  have same : mid.payment = db.payment := by rw [(preparePaymentInTx_frame prepared).2]
  obtain ⟨effects, version⟩ := storeCapture_version stored (same ▸ (loadSnapshot_ok loaded).1)
  have entered := journal_entered prepared recorded (storeCapture_ledger stored) unused.journal
    (by rw [effects, same]; exact unused.effect) rfl rfl
  exact ⟨entered, version⟩

theorem releaseInTx_measured {reversal : Bool} {request : ReleaseRequest} {ids : ExecutionIds}
    (done : releaseInTx root request reversal hash ids db = .ok (db', receipt))
    (unused : NoEffect ids.effectId db) : Measured E receipt := by
  simp only [releaseInTx, steps_ok, Prod.exists] at done
  obtain ⟨current, loaded, _, _, _, _, _, _, _, _, _, _, mid, _, prepared, _, _, first, _, _, second,
    _, recorded, _, _, _, rfl⟩ := done
  obtain ⟨payment, held⟩ := loadSnapshot_ok loaded
  have same : mid.payment = db.payment := by rw [(preparePaymentInTx_frame prepared).2]
  obtain ⟨hold', _, rfl⟩ := runUpdate_hold first (same ▸ held)
  obtain ⟨new, row, checked, storable, rfl⟩ := runUpdate_payment second (same ▸ payment)
  have version := version_bounds checked storable
  rw [row] at version
  have entered := journal_entered prepared recorded rfl unused.journal
    (by simp only [same]; exact unused.effect) (by unfold releaseKind; split <;> rfl) rfl
  exact ⟨entered, version⟩

theorem returnCaptureInTx_measured {request : CaptureReturn} {ids : ExecutionIds}
    (done : returnCaptureInTx root request hash ids db = .ok (db', receipt))
    (returns : request.kind.secondary = false) (unused : NoEffect ids.effectId db) :
    Measured E receipt := by
  simp only [returnCaptureInTx, steps_ok, Prod.exists] at done
  obtain ⟨current, loaded, _, _, _, _, _, _, _, _, _, advanced, _, _, mid, _, prepared, _, _, updated,
    _, rfl, _, recorded, _, _, _, rfl⟩ := done
  obtain ⟨payment, _⟩ := loadReturnable_ok loaded
  obtain ⟨_, _, _, _, _, _, _, rfl, _, _⟩ := advanceCaptureReturn_ok advanced
  have frame := (preparePaymentInTx_frame prepared).2
  have same := congrArg Database.payment frame
  simp only at same
  rcases runUpdate_cases updated with ⟨_, _, flag⟩ | ⟨_, changed, rfl, _⟩
  · cases flag
  rcases updatePayment_cases changed with ⟨out, _⟩ |
    ⟨old, new, found, _, row, _, _, checked, storable, out⟩
  · cases out
  cases out
  rw [same, payment] at found
  cases found
  have version := version_bounds checked storable
  rw [row] at version
  have entered := journal_entered prepared recorded rfl unused.journal
    (by simp only [same]; exact unused.effect) returns rfl
  exact ⟨entered, version⟩

theorem operation_measured {r : Request} {ids : ExecutionIds}
    (done : r.operation root hash ids db = .ok (db', receipt)) (unused : NoEffect ids.effectId db) :
    Measured E receipt := by
  cases r with
  | hold => exact holdInTx_measured done unused
  | capture => exact captureInTx_measured done unused
  | release => exact releaseInTx_measured done unused
  | reversal => exact releaseInTx_measured done unused
  | refund => exact returnCaptureInTx_measured done rfl unused
  | chargeback => exact returnCaptureInTx_measured done rfl unused

end PaymentPlatform.Payment
