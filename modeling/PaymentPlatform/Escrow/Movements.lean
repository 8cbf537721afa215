import PaymentPlatform.Escrow.Holdings

/-! What each committed operation of internal/escrow does to the holdings: first
the operation's possible results, then its movement. -/

namespace PaymentPlatform.Escrow

open Framing Ledger Serial

variable {E : Engine}
variable {st st' : Tables} {accountId assetId region : Bytes} {amount : Int} {kind : EffectKind}
  {request : EffectRequest} {answer : EffectReceipt} {binding : KeyBinding} {c : Certificate}
  {v : Verifier}

theorem updateAuthority_shifted {key : Bytes × Bytes} {condition : AuthorityRow → Bool}
    {change : AuthorityRow → AuthorityRow} (total unallocated : Int)
    (updated : updateAuthority key condition change st = .ok (some st'))
    (totals : ∀ row, (change row).totalAuthority = row.totalAuthority + total)
    (rest : ∀ row, (change row).unallocated = row.unallocated + unallocated) :
    Shifted [(.total, total), (.unallocated, unallocated)] key st st' := by
  obtain ⟨row, found, _, written⟩ := updateAuthority_ok updated
  apply (writeAuthority_shifted written).congr
  intro bucket
  simp [authorityColumn, found, totals, rest]

theorem updateRights_shifted {key : Bytes × Bytes × Bytes} {condition : RightsRow → Bool}
    {change : RightsRow → RightsRow} (amount : Int)
    (updated : updateRights key condition change st = .ok (some st'))
    (available : ∀ row, (change row).available = row.available + amount) :
    Shifted [(.regional, amount)] (key.1, key.2.1) st st' := by
  obtain ⟨row, found, _, written⟩ := updateRights_ok updated
  apply (writeRights_shifted written).congr
  intro bucket
  simp [found, available]

theorem lowerTotal_shifted (lowered : lowerTotal accountId assetId amount st = .ok (some st')) :
    Shifted [(.total, -amount)] (accountId, assetId) st st' :=
  (updateAuthority_shifted (-amount) 0 lowered (fun _ => rfl) (by simp)).congr (by simp)

theorem raiseTotal_shifted (raised : raiseTotal accountId assetId amount st = .ok (some st')) :
    Shifted [(.total, amount)] (accountId, assetId) st st' :=
  (updateAuthority_shifted amount 0 raised (fun _ => rfl) (by simp)).congr (by simp)

theorem lowerUnallocated_shifted
    (lowered : lowerUnallocated accountId assetId amount st = .ok (some st')) :
    Shifted [(.unallocated, -amount)] (accountId, assetId) st st' :=
  (updateAuthority_shifted 0 (-amount) lowered (by simp) (fun _ => rfl)).congr (by simp)

theorem lowerRights_shifted
    (lowered : lowerRights accountId assetId region amount st = .ok (some st')) :
    Shifted [(.regional, -amount)] (accountId, assetId) st st' :=
  updateRights_shifted (-amount) lowered (fun _ => rfl)

theorem raiseRights_shifted
    (raised : raiseRights accountId assetId region amount st = .ok (some st')) :
    Shifted [(.regional, amount)] (accountId, assetId) st st' :=
  updateRights_shifted amount raised (fun _ => rfl)

theorem upsertRights_shifted
    (upserted : upsertRights E accountId assetId region amount st = .ok st') :
    Shifted [(.regional, amount)] (accountId, assetId) st st' := by
  simp only [upsertRights, bind_ok] at upserted
  obtain ⟨_, _, _, _, upserted⟩ := upserted
  split at upserted <;> rename_i found
  · apply (writeRights_shifted upserted).congr
    simp [found]
  · apply (writeRights_shifted upserted).congr
    simp [found]

theorem upsertAuthority_shifted (upserted : upsertAuthority E accountId assetId amount st = .ok st') :
    Shifted [(.total, amount)] (accountId, assetId) st st' := by
  simp only [upsertAuthority, bind_ok] at upserted
  obtain ⟨_, _, _, _, upserted⟩ := upserted
  split at upserted <;> rename_i found
  · apply (writeAuthority_shifted upserted).congr
    simp [authorityColumn, found]
  · apply (writeAuthority_shifted upserted).congr
    simp [authorityColumn, found]

def EffectKind.movement (amount : Int) : EffectKind → Movement
  | .effectSpend => [(.regional, -amount), (.total, -amount)]
  | _ => [(.regional, amount), (.total, amount)]

theorem moveRights_shifted {ε : Type} {errors : MoveErrors ε}
    (moved : moveRights errors kind request st = .ok st') :
    Shifted (kind.movement request.amount) (request.accountId, request.assetId) st st' := by
  cases kind <;>
    simp only [moveRights, steps_ok] at moved
  case effectSpend =>
    obtain ⟨_, lowered, mid, rfl, _, total, rfl⟩ := moved
    exact (lowerRights_shifted lowered).trans (lowerTotal_shifted total)
  all_goals
    obtain ⟨_, raised, mid, rfl, _, total, rfl⟩ := moved
    exact (raiseRights_shifted raised).trans (raiseTotal_shifted total)

theorem insertReceipt_shifted {hash : Digest}
    (inserted : insertReceipt E kind request hash st = .ok (some st')) (owner : Bytes × Bytes) :
    Shifted [] owner st st' := by
  simp only [insertReceipt, bind_ok] at inserted
  obtain ⟨_, _, _, _, _, _, inserted⟩ := inserted
  split at inserted
  · simp at inserted
  · simp only [steps_ok, Option.some.injEq] at inserted
    obtain ⟨_, _, rfl⟩ := inserted
    exact Shifted.of_same owner rfl rfl rfl

theorem applyEffect_ok {mutate : Tables → Except Failure Tables}
    (done : applyEffect (E := E) kind request mutate st = .ok (st', answer)) :
    st' = st ∨ ∃ mid, insertReceipt E kind request (hashEffect E kind request) st = .ok (some mid) ∧
      mutate mid = .ok st' := by
  simp only [applyEffect, bind_ok, executed_ok] at done
  obtain ⟨_, _, inserted, receipt, done⟩ := done
  split at done
  · simp only [steps_ok] at done
    obtain ⟨_, _, _, _, rfl, _⟩ := done
    exact .inl rfl
  · rename_i mid
    simp only [steps_ok] at done
    obtain ⟨_, mutated, rfl, _⟩ := done
    exact .inr ⟨mid, receipt, mutated⟩

theorem spendInTx_shifted (done : spendInTx (E := E) request st = .ok (st', answer)) :
    st' = st ∨ Shifted (EffectKind.effectSpend.movement request.amount)
      (request.accountId, request.assetId) st st' := by
  rcases applyEffect_ok done with same | ⟨mid, receipt, moved⟩
  · exact .inl same
  · exact .inr ((insertReceipt_shifted receipt _).trans (moveRights_shifted moved))

theorem returnInTx_shifted (done : returnInTx (E := E) request st = .ok (st', answer)) :
    st' = st ∨ Shifted (EffectKind.effectReturn.movement request.amount)
      (request.accountId, request.assetId) st st' := by
  rcases applyEffect_ok done with same | ⟨mid, receipt, moved⟩
  · exact .inl same
  · exact .inr ((insertReceipt_shifted receipt _).trans (moveRights_shifted moved))

theorem allocateInTx_shifted (done : allocateInTx (E := E) request st = .ok (st', answer)) :
    st' = st ∨ Shifted [(.unallocated, -request.amount), (.regional, request.amount)]
      (request.accountId, request.assetId) st st' := by
  rcases applyEffect_ok done with same | ⟨mid, receipt, mutated⟩
  · exact .inl same
  · simp only [steps_ok, executed_ok] at mutated
    obtain ⟨_, lowered, _, rfl, upserted⟩ := mutated
    exact .inr ((insertReceipt_shifted receipt _).trans
      ((lowerUnallocated_shifted lowered).trans (upsertRights_shifted upserted)))

theorem createAuthority_shifted {total : Int} {answer : Unit}
    (done : createAuthority E accountId assetId total st = .ok (st', answer)) :
    st' = st ∨ Shifted [(.total, total), (.unallocated, total)] (accountId, assetId) st st' := by
  simp only [createAuthority, bind_ok] at done
  obtain ⟨_, _, done⟩ := done
  split at done
  · rename_i absent
    simp only [steps_ok, executed_ok] at done
    obtain ⟨_, _, _, written, rfl, _⟩ := done
    right
    apply (writeAuthority_shifted written).congr
    simp [authorityColumn, absent]
  · simp only [steps_ok] at done
    obtain ⟨_, _, rfl, _⟩ := done
    exact .inl rfl

theorem loadTransferRecord_ok {transferId : Bytes} {record : Option TransferRow}
    (loaded : loadTransferRecord transferId st = .ok record) :
    record = st.transfers.lookup transferId := by
  unfold loadTransferRecord at loaded
  split at loaded
  · rename_i absent
    cases loaded
    exact absent.symm
  · rename_i row found
    simp only [steps_ok] at loaded
    obtain ⟨_, _, _, _, rfl⟩ := loaded
    exact found.symm

theorem insertTransfer_shifted {draft : Certificate} {payload : Bytes}
    (inserted : insertTransfer E draft payload st = .ok st') :
    Shifted [(.inTransit, draft.amount)] (draft.accountId, draft.assetId) st st' := by
  simp only [insertTransfer, steps_ok] at inserted
  obtain ⟨_, _, _, _, _, _, _, _, _, ⟨positive, _⟩, _, fresh, _, _, rfl⟩ := inserted
  refine ⟨?_, ?_, .of_same rfl rfl⟩
  · rintro ⟨authorities, rights, transfers⟩
    exact ⟨authorities, rights, AList.forall_insert positive transfers⟩
  · intro offline other bucket
    cases bucket <;>
      simp only [holdings, authorityColumn, regional, inTransit, AList.total_insert_diff, fresh,
        Movement.net_cons, Movement.net_nil, reduceCtorEq, if_true, if_false]
    case inTransit =>
      by_cases same : (draft.accountId, draft.assetId) = other
      · simp [same]
      · simp [same, Ne.symm same]
    all_goals split <;> simp

/-- An accepted update keeps the amount and its authority; settling takes the amount
out of transit. -/
theorem updateTransfer_shifted {transferId : Bytes} {old new : TransferRow}
    (updated : updateTransfer transferId old new st = .ok st')
    (found : st.transfers.lookup transferId = some old) :
    Shifted (if old.status = new.status then [] else [(.inTransit, -old.amount)])
      (old.accountId, old.assetId) st st' := by
  simp only [updateTransfer, steps_ok] at updated
  obtain ⟨_, ⟨frame, transition⟩, rfl⟩ := updated
  have amount : new.amount = old.amount := by rw [← frame]
  have account : new.accountId = old.accountId := by rw [← frame]
  have asset : new.assetId = old.assetId := by rw [← frame]
  refine ⟨?_, ?_, .of_same rfl rfl⟩
  · rintro ⟨authorities, rights, transfers⟩
    exact ⟨authorities, rights,
      AList.forall_insert (amount ▸ transfers transferId old found) transfers⟩
  · have statuses : old.status = new.status ∨
        (old.status = .inTransit ∧ new.status = .acknowledged) := by
      rcases transition with ⟨_, _, same, _⟩ | ⟨_, _, before, after, _⟩
      · exact .inl same
      · exact .inr ⟨before, after⟩
    intro offline other bucket
    cases bucket
    case inTransit =>
      simp only [holdings, inTransit, AList.total_insert_diff, found, amount, account, asset,
        Option.map_some, Option.getD_some]
      by_cases owned : (old.accountId, old.assetId) = other
      · rcases statuses with same | ⟨before, after⟩
        · simp [owned, same]
        · simp [owned, before, after]
      · simp [owned, Ne.symm owned]
    all_goals
      rcases statuses with same | ⟨before, after⟩
      · simp [holdings, authorityColumn, regional, same]
      · simp [holdings, authorityColumn, regional, before, after]

/-- InitiateTransfer finds its transfer, or takes the amount from the regional right
and stores it under a new certificate. -/
theorem initiateTransfer_ok {r : TransferRequest}
    (done : initiateTransfer E binding r st = .ok (st', c)) :
    (st' = st ∧ ∃ row, st.transfers.lookup r.transferId = some row ∧
      c = certificateOf r.transferId row) ∨
    ∃ epoch payload mid condition, c = draftCertificate binding r epoch ∧ c.payload = .ok payload ∧
      updateRights (r.accountId, r.assetId, r.sourceRegion) condition
        (fun row => { row with available := row.available - r.amount }) st = .ok (some mid) ∧
      insertTransfer E c payload mid = .ok st' := by
  simp only [initiateTransfer, bind_ok] at done
  obtain ⟨_, _, _, _, record, loaded, done⟩ := done
  have stored := loadTransferRecord_ok loaded
  split at done
  · rename_i row
    simp only [steps_ok] at done
    obtain ⟨_, _, rfl, rfl⟩ := done
    exact .inl ⟨rfl, row, stored.symm, rfl⟩
  · simp only [steps_ok, executed_ok] at done
    obtain ⟨rights, _, _, _, payload, made, _, updated, mid, rfl, _, inserted, rfl, rfl⟩ := done
    exact .inr ⟨rights.version + 1, payload, mid, _, rfl, made, updated, inserted⟩

theorem initiateTransfer_shifted {r : TransferRequest}
    (done : initiateTransfer E binding r st = .ok (st', c)) :
    st' = st ∨ Shifted [(.regional, -r.amount), (.inTransit, r.amount)]
      (r.accountId, r.assetId) st st' := by
  rcases initiateTransfer_ok done with ⟨same, _⟩ | ⟨epoch, payload, mid, _, rfl, _, updated, inserted⟩
  · exact .inl same
  · exact .inr ((updateRights_shifted (-r.amount) updated (fun _ => rfl)).trans
      (insertTransfer_shifted inserted))

theorem attachCertificateSignature_ok {signed answer : Certificate}
    (done : attachCertificateSignature v signed st = .ok (st', answer)) :
    ∃ row, st.transfers.lookup signed.transferId = some row ∧
      (certificateOf signed.transferId row).unsigned = signed.unsigned ∧
      (st' = st ∨ updateTransfer signed.transferId row
        { row with certificateSig := some signed.signature } st = .ok st') := by
  simp only [attachCertificateSignature, steps_ok] at done
  obtain ⟨_, _, payload, made, record, loaded, row, rfl, storedPayload, stored, _, same, done⟩ :=
    done
  rw [same] at stored
  refine ⟨row, (loadTransferRecord_ok loaded).symm, Certificate.payload_inj stored made, ?_⟩
  split at done
  · simp only [steps_ok, executed_ok] at done
    obtain ⟨_, _, _, updated, rfl, _⟩ := done
    exact .inr updated
  · simp only [pure_ok, Prod.mk.injEq] at done
    exact .inl done.1.symm

theorem attachCertificateSignature_shifted {signed answer : Certificate}
    (done : attachCertificateSignature v signed st = .ok (st', answer)) :
    Shifted [] (signed.accountId, signed.assetId) st st' := by
  obtain ⟨row, found, same, rfl | updated⟩ := attachCertificateSignature_ok done
  · exact Shifted.refl _ _
  · have shifted := updateTransfer_shifted updated found
    obtain ⟨account, asset, _⟩ := certificateOf_columns same
    simpa [account, asset] using shifted

/-- AcknowledgeTransfer finds the transfer of its certificate; the first time it
settles it and lowers the total. -/
theorem acknowledgeTransfer_ok {receipt : ConsumptionReceipt} {answer : Unit}
    (done : acknowledgeTransfer E v c receipt st = .ok (st', answer)) :
    verifyCertificate v c = .ok () ∧ verifyConsumptionReceipt E v receipt c = .ok () ∧
    ∃ row, st.transfers.lookup c.transferId = some row ∧
      (certificateOf c.transferId row).unsigned = c.unsigned ∧
      ((row.status = .acknowledged ∧ st' = st) ∨ (row.status = .inTransit ∧ ∃ mid stored,
          lowerTotal c.accountId c.assetId c.amount st = .ok (some mid) ∧
          updateTransfer c.transferId row
            { row with status := .acknowledged, receipt := some stored } mid = .ok st')) := by
  simp only [acknowledgeTransfer, steps_ok] at done
  obtain ⟨_, _, _, certified, _, proven, payload, made, _, _, record, loaded, row, rfl,
    storedPayload, stored, _, ⟨same, _⟩, done⟩ := done
  rw [same] at stored
  refine ⟨certified, proven, row, (loadTransferRecord_ok loaded).symm,
    Certificate.payload_inj stored made, ?_⟩
  split at done
  · rename_i status
    simp only [steps_ok] at done
    obtain ⟨_, _, rfl, _⟩ := done
    exact .inl ⟨status, rfl⟩
  · rename_i status
    simp only [steps_ok, executed_ok] at done
    obtain ⟨_, _, _, lowered, mid, rfl, receipt, _, _, updated, rfl, _⟩ := done
    exact .inr ⟨status, mid, receipt, lowered, updated⟩

theorem acknowledgeTransfer_shifted {receipt : ConsumptionReceipt} {answer : Unit}
    (done : acknowledgeTransfer E v c receipt st = .ok (st', answer)) :
    st' = st ∨ Shifted [(.total, -c.amount), (.inTransit, -c.amount)] (c.accountId, c.assetId)
      st st' := by
  obtain ⟨_, _, row, found, same, ⟨_, unchanged⟩ | ⟨status, mid, stored, lowered, updated⟩⟩ :=
    acknowledgeTransfer_ok done
  · exact .inl unchanged
  · right
    obtain ⟨_, _, _, written⟩ := updateAuthority_ok lowered
    simp only [writeAuthority, steps_ok] at written
    obtain ⟨_, _, _, _, rfl⟩ := written
    have shifted := updateTransfer_shifted updated found
    obtain ⟨account, asset, amount⟩ := certificateOf_columns same
    simp only [status, reduceCtorEq, if_false, account, asset, amount] at shifted
    exact (lowerTotal_shifted lowered).trans shifted

theorem insertConsumed_ok {draft : ConsumptionReceipt} {payload : Bytes}
    (inserted : insertConsumed E draft payload st = .ok st') : ∃ row, st' = { st with
        consumedCertificates := st.consumedCertificates.insert draft.transferId row } ∧
      st.consumedCertificates.lookup draft.transferId = none ∧ 0 < draft.amount ∧
      row.accountId = draft.accountId ∧ row.assetId = draft.assetId ∧
      row.amount = draft.amount := by
  simp only [insertConsumed, steps_ok] at inserted
  obtain ⟨_, _, _, _, _, _, _, _, _, _, _, _, _, positive, _, fresh, _, _, rfl⟩ := inserted
  exact ⟨_, rfl, fresh, positive, rfl, rfl, rfl⟩

structure Consumed (E : Engine) (binding : KeyBinding) (c : Certificate) (st : Tables)
    (draft : ConsumptionReceipt) (stored : Tables) : Prop where
  drafted : ∃ hash watermark, c.payloadHash E = .ok hash ∧ draft = draftReceipt binding c hash watermark
  row : ∃ row, stored.consumedCertificates = st.consumedCertificates.insert c.transferId row ∧
    row.accountId = c.accountId ∧ row.assetId = c.assetId ∧ row.amount = c.amount
  fresh : st.consumedCertificates.lookup c.transferId = none
  positive : 0 < c.amount
  authorities : stored.authorities = st.authorities
  rights : stored.regionalRights = st.regionalRights
  transfers : stored.transfers = st.transfers

/-- ConsumeCertificate answers with the stored receipt, or stores a new one and raises
the total and the destination's right. -/
theorem consumeCertificate_ok {answer : Consumption}
    (done : consumeCertificate E v binding c region st = .ok (st', answer)) :
    verifyCertificate v c = .ok () ∧ region = c.destinationRegion ∧
    ((st'.consumedCertificates = st.consumedCertificates ∧ st'.authorities = st.authorities ∧
        st'.regionalRights = st.regionalRights ∧ st'.transfers = st.transfers ∧
        ∃ row, st.consumedCertificates.lookup c.transferId = some row ∧
          answer.receipt = receiptOf c.transferId row ∧ answer.duplicate = true) ∨
      ∃ stored raised, Consumed E binding c st answer.receipt stored ∧
        upsertAuthority E c.accountId c.assetId c.amount stored = .ok raised ∧
        upsertRights E c.accountId c.assetId c.destinationRegion c.amount raised = .ok st' ∧
        answer.duplicate = false) := by
  simp only [consumeCertificate, steps_ok, executed_ok] at done
  obtain ⟨_, ⟨_, rfl⟩, _, certified, _, _, hash, hashed, locked, locks, found, loaded, done⟩ := done
  refine ⟨certified, rfl, ?_⟩
  simp only [lockConsumptionIdentity, steps_ok] at locks
  obtain ⟨_, _, issuance, _, rfl⟩ := locks
  split at done
  · rename_i receipt
    simp only [steps_ok] at done
    obtain ⟨_, _, rfl, rfl⟩ := done
    left
    refine ⟨rfl, rfl, rfl, rfl, ?_⟩
    cases stored : st.consumedCertificates.lookup c.transferId with
    | none => simp [loadConsumptionByTransfer, loadConsumption, stored] at loaded
    | some row =>
      simp only [loadConsumptionByTransfer, loadConsumption, stored, Option.map_some, steps_ok,
        Option.some.injEq] at loaded
      obtain ⟨_, _, _, _, rfl⟩ := loaded
      exact ⟨row, rfl, rfl, rfl⟩
  · simp only [steps_ok, executed_ok, Prod.exists, nextConsumptionWatermark] at done
    obtain ⟨_, _, _, _, _, watermark, ⟨_, _, _, _, rfl, rfl⟩, payload, _, stored, inserted, raised,
      raisedTotal, final, raisedRights, rfl, rfl⟩ := done
    obtain ⟨row, rfl, fresh, positive, account, asset, amount⟩ := insertConsumed_ok inserted
    refine .inr ⟨_, raised, ?_, raisedTotal, raisedRights, rfl⟩
    exact ⟨⟨hash, _, hashed, rfl⟩, ⟨row, rfl, account, asset, amount⟩, fresh, positive, rfl, rfl,
      rfl⟩

theorem consumeCertificate_shifted {answer : Consumption}
    (done : consumeCertificate E v binding c region st = .ok (st', answer)) :
    Shifted [] (c.accountId, c.assetId) st st' ∨
      Shifted [(.total, c.amount), (.regional, c.amount)] (c.accountId, c.assetId) st st' := by
  obtain ⟨_, _, ⟨_, authorities, rights, transfers, _⟩ | ⟨stored, raised, consumed, total, right, _⟩⟩ :=
    consumeCertificate_ok done
  · exact .inl (Shifted.of_same _ authorities rights transfers)
  · exact .inr ((Shifted.of_same _ consumed.authorities consumed.rights consumed.transfers).trans
      ((upsertAuthority_shifted total).trans (upsertRights_shifted right)))

theorem attachReceiptSignature_ok {signed answer : ConsumptionReceipt}
    (done : attachReceiptSignature E v c signed st = .ok (st', answer)) :
    ∃ row, st.consumedCertificates.lookup c.transferId = some row ∧
      (receiptOf c.transferId row).unsigned = signed.unsigned ∧ (st' = st ∨ st' = { st with
        consumedCertificates := st.consumedCertificates.insert c.transferId
          { row with receiptSig := some signed.signature } }) := by
  simp only [attachReceiptSignature, steps_ok] at done
  obtain ⟨_, _, payload, made, row, found, _, loaded, receipt, rfl, _, _, storedPayload, stored, _,
    same, done⟩ := done
  have loadedRow : receipt = receiptOf c.transferId row := by
    simp only [loadConsumptionByTransfer, loadConsumption, found, Option.map_some, steps_ok,
      Option.some.injEq] at loaded
    obtain ⟨_, _, _, _, rfl⟩ := loaded
    rfl
  subst loadedRow
  rw [same] at stored
  refine ⟨row, found, ConsumptionReceipt.payload_inj stored made, ?_⟩
  split at done
  · simp only [steps_ok] at done
    obtain ⟨_, _, rfl, _⟩ := done
    exact .inr rfl
  · simp only [pure_ok, Prod.mk.injEq] at done
    exact .inl done.1.symm

theorem attachReceiptSignature_shifted {signed answer : ConsumptionReceipt}
    (done : attachReceiptSignature E v c signed st = .ok (st', answer)) (owner : Bytes × Bytes) :
    Shifted [] owner st st' := by
  obtain ⟨_, _, _, rfl | rfl⟩ := attachReceiptSignature_ok done
  · exact Shifted.refl owner _
  · exact Shifted.of_same owner rfl rfl rfl

end PaymentPlatform.Escrow
