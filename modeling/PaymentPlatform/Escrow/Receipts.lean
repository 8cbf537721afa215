import PaymentPlatform.Escrow.Holdings
import PaymentPlatform.Payment.Record
import PaymentPlatform.Transfer.Escrow

/-! Effects update authorities that exist, and every effect leaves one receipt. -/

namespace PaymentPlatform.Escrow

open Framing Ledger Serial

variable {E : Engine}
variable {st st' : Tables} {kind : EffectKind} {request : EffectRequest} {hash : Digest}

def NoNewAuthority (st st' : Tables) : Prop :=
  ∀ key, (st'.authorities.lookup key).isSome → (st.authorities.lookup key).isSome

theorem NoNewAuthority.refl (st : Tables) : NoNewAuthority st st := fun _ present => present

theorem NoNewAuthority.trans {first second third : Tables} (before : NoNewAuthority first second)
    (after : NoNewAuthority second third) : NoNewAuthority first third :=
  fun key present => before key (after key present)

/-- A statement that updates a row of rights: no authority and no receipt is added. -/
structure Updates (st st' : Tables) : Prop where
  authorities : NoNewAuthority st st'
  receipts : st'.effectReceipts = st.effectReceipts

theorem Updates.trans {first second third : Tables} (before : Updates first second)
    (after : Updates second third) : Updates first third :=
  ⟨before.authorities.trans after.authorities, after.receipts.trans before.receipts⟩

theorem updateAuthority_updates {key : Bytes × Bytes} {condition : AuthorityRow → Bool}
    {change : AuthorityRow → AuthorityRow}
    (updated : updateAuthority key condition change st = .ok (some st')) :
    Updates st st' ∧ (st.authorities.lookup key).isSome := by
  obtain ⟨row, found, _, written⟩ := updateAuthority_ok updated
  simp only [writeAuthority, steps_ok] at written
  obtain ⟨_, _, _, _, rfl⟩ := written
  refine ⟨⟨?_, rfl⟩, by rw [found]; rfl⟩
  intro other present
  rw [AList.lookup_insert_if] at present
  split at present
  · rename_i same
    rw [same, found]
    rfl
  · exact present

theorem updateRights_updates {key : Bytes × Bytes × Bytes} {condition : RightsRow → Bool}
    {change : RightsRow → RightsRow}
    (updated : updateRights key condition change st = .ok (some st')) : Updates st st' := by
  obtain ⟨row, _, _, written⟩ := updateRights_ok updated
  simp only [writeRights, steps_ok] at written
  obtain ⟨_, _, _, _, _, _, rfl⟩ := written
  exact ⟨.refl _, rfl⟩

theorem moveRights_updates {ε : Type} {errors : MoveErrors ε}
    (moved : moveRights errors kind request st = .ok st') : Updates st st' := by
  unfold moveRights at moved
  split at moved <;>
  · simp only [steps_ok] at moved
    obtain ⟨_, rights, mid, rfl, _, total, rfl⟩ := moved
    exact (updateRights_updates rights).trans (updateAuthority_updates total).1

structure Applied (request : EffectRequest) (st st' : Tables) : Prop where
  fresh : st.effectReceipts.lookup request.effectId = none
  owned : (st.authorities.lookup (request.accountId, request.assetId)).isSome
  authorities : NoNewAuthority st st'
  receipts : ∃ row, st'.effectReceipts = st.effectReceipts.insert request.effectId row

theorem insertReceipt_applied {ε : Type} {errors : MoveErrors ε} {mid : Tables}
    (inserted : insertReceipt E kind request hash st = .ok (some mid))
    (moved : moveRights errors kind request mid = .ok st') : Applied request st st' := by
  simp only [insertReceipt, steps_ok] at inserted
  obtain ⟨_, _, _, _, _, _, inserted⟩ := inserted
  split at inserted
  · simp only [pure_ok, reduceCtorEq] at inserted
  · rename_i absent
    simp only [steps_ok, Option.some.injEq] at inserted
    obtain ⟨_, owned, rfl⟩ := inserted
    have updates := moveRights_updates moved
    exact ⟨by simpa using absent, owned, updates.authorities, _, updates.receipts⟩

theorem applyTransferEscrowEffect_applied {transferId : Bytes} {db db' : Database E} {answer : Bool}
    (done : Transfer.applyTransferEscrowEffect kind transferId request db = .ok (db', answer)) :
    db' = { db with escrow := db'.escrow } ∧
      (((db.escrow.effectReceipts.lookup request.effectId).isSome ∧ db' = db ∧ answer = false) ∨
        (Transfer.linkedLegs db kind transferId request = 1 ∧ answer = true ∧
          Applied request db.escrow db'.escrow)) := by
  obtain ⟨present, rfl, rfl⟩ | ⟨linked, rfl, hash, mid, escrow, inserted, moved, rfl⟩ :=
    Transfer.applyTransferEscrowEffect_ok done
  · exact ⟨rfl, .inl ⟨present, rfl, rfl⟩⟩
  · exact ⟨rfl, .inr ⟨linked, rfl, insertReceipt_applied inserted moved⟩⟩

end PaymentPlatform.Escrow
