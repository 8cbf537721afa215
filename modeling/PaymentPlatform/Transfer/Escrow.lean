import PaymentPlatform.Database

/-! apply_transfer_escrow_effect of migration 027: spending rights move only with a
posted leg of the transfer. -/

namespace PaymentPlatform.Transfer

open Framing Ledger Serial

variable {E : Engine}

/-- effect_hash: the fields one after the other, without lengths. -/
def escrowEffectHash (E : Engine) (kind : Escrow.EffectKind) (transferId : Bytes)
    (request : Escrow.EffectRequest) : Digest :=
  E.sha256 (ascii "payment-platform/transfer-escrow-effect/v1" ++ (kind.text ++
    (request.effectId ++ (transferId ++ (request.accountId ++ (request.assetId ++
      (request.region ++ decimal request.amount)))))))

/-- The leg moves the account of its payer, or of its payee, by the amount, and only
in the direction of the effect. -/
def legLinked (db : Database E) (kind : Escrow.EffectKind) (transferId : Bytes)
    (request : Escrow.EffectRequest) (leg : LegRow) : Bool :=
  let lines := linesOf db.ledger leg.ledgerTransactionId
  let moved (side : Side) : Int :=
    sideTotal side (fun l => l.accountId = request.accountId && l.assetId = request.assetId) lines
  let untouched (side : Side) : Bool := lines.all fun e =>
    ¬ (e.2.accountId = request.accountId ∧ e.2.assetId = request.assetId ∧ e.2.side = side)
  (db.transfer.transferOperations.lookup leg.transferId).any fun transfer =>
    (db.ledger.transactions.lookup leg.ledgerTransactionId).any fun journal =>
      journal.status = .posted && leg.transferId = transferId &&
        transfer.assetId = request.assetId && transfer.authorityRegion = request.region &&
        leg.amountAtoms = request.amount &&
        match kind with
        | .effectSpend => transfer.payerAccountId = request.accountId &&
            moved .debit = request.amount && untouched .credit
        | .effectReturn => transfer.payeeAccountId = request.accountId &&
            moved .credit = request.amount && untouched .debit
        | .effectAllocate => false

/-- linked_effects. -/
def linkedLegs (db : Database E) (kind : Escrow.EffectKind) (transferId : Bytes)
    (request : Escrow.EffectRequest) : Nat :=
  (db.transfer.transferEffects.rows.filter fun e => legLinked db kind transferId request e.2).length

def moveEscrow : Escrow.EffectKind → Escrow.EffectRequest → Escrow.Tables →
    Except SqlError Escrow.Tables :=
  Escrow.moveRights ⟨.escrow, .escrowInsufficientRights, .escrowAuthorityInconsistent,
    .escrowRegionalMissing, .escrowAuthorityMissing⟩

/-- The stored receipt is for the same movement; its hash is not compared. -/
def sameMovement (stored : Escrow.EffectReceiptRow) (kind : Escrow.EffectKind)
    (request : Escrow.EffectRequest) : Prop :=
  stored.effectKind = kind ∧ stored.accountId = request.accountId ∧
    stored.assetId = request.assetId ∧ stored.region = request.region ∧
    stored.amount = request.amount

instance (stored : Escrow.EffectReceiptRow) (kind : Escrow.EffectKind)
    (request : Escrow.EffectRequest) : Decidable (sameMovement stored kind request) :=
  inferInstanceAs (Decidable (_ ∧ _ ∧ _ ∧ _ ∧ _))

def applyTransferEscrowEffect (kind : Escrow.EffectKind) (transferId : Bytes)
    (request : Escrow.EffectRequest) (db : Database E) : Except SqlError (Database E × Bool) := do
  require (kind ≠ .effectAllocate ∧ 1 ≤ charLength request.effectId ∧
    charLength request.effectId ≤ 512 ∧ 0 < charLength transferId ∧
    0 < charLength request.accountId ∧ 0 < charLength request.assetId ∧
    0 < charLength request.region ∧ 0 < request.amount) .invalidEscrowRequest
  match db.escrow.effectReceipts.lookup request.effectId with
  | some stored =>
    require (sameMovement stored kind request) .escrowEffectConflict
    return (db, false)
  | none =>
    require (linkedLegs db kind transferId request = 1) .escrowUnlinked
    let inserted ← (Escrow.insertReceipt E kind request
      (escrowEffectHash E kind transferId request) db.escrow).mapError SqlError.escrow
    match inserted with
    | none => return (db, false)
    | some escrow =>
      let escrow ← moveEscrow kind request escrow
      return ({ db with escrow := escrow }, true)

theorem applyTransferEscrowEffect_ok {kind : Escrow.EffectKind} {transferId : Bytes}
    {request : Escrow.EffectRequest} {db db' : Database E} {answer : Bool}
    (done : applyTransferEscrowEffect kind transferId request db = .ok (db', answer)) :
    ((db.escrow.effectReceipts.lookup request.effectId).isSome ∧ db' = db ∧ answer = false) ∨
      (linkedLegs db kind transferId request = 1 ∧ answer = true ∧ ∃ hash mid escrow,
        Escrow.insertReceipt E kind request hash db.escrow = .ok (some mid) ∧
        moveEscrow kind request mid = .ok escrow ∧ db' = { db with escrow := escrow }) := by
  simp only [applyTransferEscrowEffect, steps_ok] at done
  obtain ⟨_, _, done⟩ := done
  split at done
  · rename_i stored found
    simp only [steps_ok] at done
    obtain ⟨_, _, rfl, rfl⟩ := done
    exact .inl ⟨by rw [found]; rfl, rfl, rfl⟩
  · rename_i absent
    simp only [steps_ok] at done
    obtain ⟨_, linked, inserted, made, done⟩ := done
    cases inserted with
    | none => exact absurd absent (Escrow.insertReceipt_none made)
    | some mid =>
      simp only [steps_ok] at done
      obtain ⟨escrow, moved, rfl, rfl⟩ := done
      exact .inr ⟨linked, rfl, _, mid, escrow, made, moved, rfl⟩

end PaymentPlatform.Transfer
