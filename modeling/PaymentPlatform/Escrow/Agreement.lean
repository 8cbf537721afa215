import PaymentPlatform.Escrow.Exchange

/-! Agreement of the two databases of an exchange, and the conservation of rights
between them. -/

namespace PaymentPlatform.Escrow

open Framing Ledger Serial

variable {E : Engine}
variable {st st' : Tables} {id : Bytes} {row : ConsumedRow} {c : Certificate} {w : Verifier}

def consumedAt (destination : Tables) (transferId : Bytes) : Prop :=
  (destination.consumedCertificates.lookup transferId).isSome

def Matches (source : Tables) (transferId : Bytes) (row : ConsumedRow) : Prop :=
  ∃ transfer, source.transfers.lookup transferId = some transfer ∧
    transfer.accountId = row.accountId ∧ transfer.assetId = row.assetId ∧
    transfer.amount = row.amount

structure Agreement (source destination : Tables) (x : Exchange) : Prop where
  drafts : ∀ c ∈ x.drafts, Issued x.source c
  certificates : ∀ c ∈ x.certificates, Issued x.source c
  receiptDrafts : ∀ r ∈ x.receiptDrafts, consumedAt x.destination r.transferId
  receipts : ∀ r ∈ x.receipts, consumedAt x.destination r.transferId
  consumed : ∀ id row, x.destination.consumedCertificates.lookup id = some row →
    Matches x.source id row
  acknowledged : ∀ id, acknowledgedAt x.source id = true → consumedAt x.destination id
  credits : ∀ id amount, (id, amount) ∈ x.credits ↔
    ∃ row, x.destination.consumedCertificates.lookup id = some row ∧ row.amount = amount
  distinct : (x.credits.map Prod.fst).Nodup
  settled : ∀ owner, totalAt x.source owner + settled x.source owner = totalAt source owner
  law : ∀ owner, totalAt x.source owner + totalAt x.destination owner - unacknowledged x owner =
    totalAt source owner + totalAt destination owner

theorem TransfersKept.matching (kept : TransfersKept st st') (stored : Matches st id row) :
    Matches st' id row := by
  obtain ⟨transfer, found, account, asset, amount⟩ := stored
  obtain ⟨transfer', found', same⟩ := kept id transfer found
  obtain ⟨account', asset', amount'⟩ := certificateOf_columns same
  exact ⟨transfer', found', account'.trans account, asset'.trans asset, amount'.trans amount⟩

section Steps

variable {source destination : Tables} {x : Exchange}

theorem start_agreement (source destination : Tables) :
    Agreement source destination (Exchange.start source destination) := by
  constructor <;>
    simp [Exchange.start, acknowledgedAt, Escrow.settled, unacknowledged, totalAt, authorityColumn]

theorem Agreement.unsettling (agreed : Agreement source destination x)
    (step : Unsettling x.source st) : Agreement source destination { x with source := st } where
  drafts c member := step.kept.issued (agreed.drafts c member)
  certificates c member := step.kept.issued (agreed.certificates c member)
  receiptDrafts := agreed.receiptDrafts
  receipts := agreed.receipts
  consumed id row found := step.kept.matching (agreed.consumed id row found)
  acknowledged id marked := agreed.acknowledged id (by rwa [step.acknowledged] at marked)
  credits := agreed.credits
  distinct := agreed.distinct
  settled owner := by
    rw [step.total, step.settled]
    exact agreed.settled owner
  law owner := by
    have same : unacknowledged { x with source := st } owner = unacknowledged x owner := by
      apply AList.total_congr
      intro id row _
      simp only [pending, step.acknowledged]
    rw [same, step.total]
    exact agreed.law owner

/-- Settling a transfer that the destination has consumed moves its amount out of the
unacknowledged ones. -/
theorem Agreement.settling (agreed : Agreement source destination x) {transfer : TransferRow}
    (step : Settles x.source st id transfer) (proven : consumedAt x.destination id) :
    Agreement source destination { x with source := st } where
  drafts c member := step.kept.issued (agreed.drafts c member)
  certificates c member := step.kept.issued (agreed.certificates c member)
  receiptDrafts := agreed.receiptDrafts
  receipts := agreed.receipts
  consumed id row found := step.kept.matching (agreed.consumed id row found)
  acknowledged other marked := by
    rw [step.acknowledged, Bool.or_eq_true, decide_eq_true_eq] at marked
    rcases marked with rfl | before
    · exact proven
    · exact agreed.acknowledged other before
  credits := agreed.credits
  distinct := agreed.distinct
  settled owner := by
    rw [step.total, step.settled]
    have before := agreed.settled owner
    omega
  law owner := by
    obtain ⟨row, found⟩ := Option.isSome_iff_exists.mp proven
    obtain ⟨stored, known, account, asset, amount⟩ := agreed.consumed id row found
    rw [step.found] at known
    cases known
    have elsewhere : ∀ other (consumed : ConsumedRow), other ≠ id →
        pending st owner other consumed = pending x.source owner other consumed := by
      intro other consumed different
      simp [pending, step.acknowledged, different]
    have moved := AList.total_reweigh x.destination.consumedCertificates found elsewhere
    have after : pending st owner id row = 0 := by simp [pending, step.acknowledged]
    have before : pending x.source owner id row =
        if (transfer.accountId, transfer.assetId) = owner then transfer.amount else 0 := by
      simp [pending, step.inTransit, account, asset, amount]
    have lawful := agreed.law owner
    simp only [unacknowledged] at lawful ⊢
    rw [step.total]
    omega

/-- A consumption stores a row that nothing else in the exchange can contradict: the
certificate was issued and no transfer is acknowledged before it is consumed. -/
theorem Agreement.crediting (agreed : Agreement source destination x)
    (step : Credits x.destination st c row) (issued : Issued x.source c.unsigned) :
    Agreement source destination { x with
      destination := st
      credits := credited c.transferId (c.accountId, c.assetId) x.destination st x.credits } := by
  have credits : credited c.transferId (c.accountId, c.assetId) x.destination st x.credits =
      (c.transferId, c.amount) :: x.credits := by
    have positive := step.positive
    simp only [credited, step.total, if_true, add_sub_cancel_left]
    rw [if_neg (by omega)]
  have unknown : ∀ amount, (c.transferId, amount) ∉ x.credits := by
    intro amount member
    obtain ⟨_, found, _⟩ := (agreed.credits _ _).mp member
    simp [step.fresh] at found
  have kept : ∀ id, consumedAt x.destination id → consumedAt st id := by
    intro id before
    rw [consumedAt, step.stored, AList.lookup_insert_if]
    split
    · rfl
    · exact before
  rw [credits]
  refine ⟨agreed.drafts, agreed.certificates, fun r member => kept _ (agreed.receiptDrafts r member),
    fun r member => kept _ (agreed.receipts r member), ?_,
    fun id marked => kept id (agreed.acknowledged id marked), ?_, ?_, agreed.settled, ?_⟩
  · dsimp only
    rw [step.stored]
    refine AList.forall_insert ?_ agreed.consumed
    obtain ⟨transfer, known, same⟩ := issued
    obtain ⟨account, asset, amount⟩ := certificateOf_columns same
    exact ⟨transfer, known, account.trans step.account.symm, asset.trans step.asset.symm,
      amount.trans step.amount.symm⟩
  · intro id amount
    dsimp only
    rw [step.stored, List.mem_cons, Prod.mk.injEq, AList.lookup_insert_if]
    by_cases here : id = c.transferId
    · subst here
      simp [unknown, step.amount, eq_comm]
    · simp [here, agreed.credits]
  · rw [List.map_cons, List.nodup_cons]
    refine ⟨?_, agreed.distinct⟩
    intro member
    obtain ⟨⟨id, amount⟩, inside, rfl⟩ := List.mem_map.mp member
    exact unknown amount inside
  · intro owner
    have lawful := agreed.law owner
    have waiting : acknowledgedAt x.source c.transferId = false := by
      by_contra marked
      have before := agreed.acknowledged c.transferId (by simpa using marked)
      simp [consumedAt, step.fresh] at before
    have weight : pending x.source owner c.transferId row =
        if owner = (c.accountId, c.assetId) then c.amount else 0 := by
      simp [pending, waiting, step.account, step.asset, step.amount, eq_comm]
    simp only [unacknowledged] at lawful ⊢
    rw [step.stored, AList.total_insert_fresh _ step.fresh, weight, step.total]
    omega

structure Uncrediting (st st' : Tables) : Prop where
  total : ∀ owner, totalAt st' owner = totalAt st owner
  consumed : st'.consumedCertificates = st.consumedCertificates ∨
    ∃ id row signature, st.consumedCertificates.lookup id = some row ∧
      st'.consumedCertificates =
        st.consumedCertificates.insert id { row with receiptSig := some signature }

theorem Agreement.uncrediting (agreed : Agreement source destination x)
    (step : Uncrediting x.destination st) :
    Agreement source destination { x with destination := st } := by
  have total := step.total
  rcases step.consumed with same | ⟨id, row, signature, found, stored⟩
  · refine ⟨agreed.drafts, agreed.certificates, ?_, ?_, ?_, ?_, ?_, agreed.distinct, agreed.settled,
      ?_⟩
    · simpa only [consumedAt, same] using agreed.receiptDrafts
    · simpa only [consumedAt, same] using agreed.receipts
    · simpa only [same] using agreed.consumed
    · simpa only [consumedAt, same] using agreed.acknowledged
    · simpa only [same] using agreed.credits
    · simpa only [unacknowledged, same, total] using agreed.law
  · have kept : ∀ other, consumedAt x.destination other → consumedAt st other := by
      intro other before
      rw [consumedAt, stored, AList.lookup_insert_if]
      split
      · rfl
      · exact before
    refine ⟨agreed.drafts, agreed.certificates, fun r member => kept _ (agreed.receiptDrafts r member),
      fun r member => kept _ (agreed.receipts r member), ?_,
      fun other marked => kept other (agreed.acknowledged other marked), ?_, agreed.distinct,
      agreed.settled, ?_⟩
    · dsimp only
      rw [stored]
      exact AList.forall_insert (agreed.consumed _ row found) agreed.consumed
    · intro other amount
      dsimp only
      rw [agreed.credits, stored, AList.lookup_insert_if]
      by_cases here : other = id
      · subst here
        simp [found]
      · simp [here]
    · intro owner
      have moved := AList.total_update x.destination.consumedCertificates found
        { row with receiptSig := some signature } (pending x.source owner)
      have lawful := agreed.law owner
      have weight : pending x.source owner id { row with receiptSig := some signature } =
          pending x.source owner id row := rfl
      simp only [unacknowledged] at lawful ⊢
      rw [stored, total]
      omega

theorem consume_agreement {binding : KeyBinding} {region : Bytes}
    (agreed : Agreement source destination x) (issued : Issued x.source c.unsigned) :
    Agreement source destination (exchangeConsume E w binding c region x) := by
  unfold exchangeConsume
  split
  · exact agreed
  · rename_i st answer done
    obtain ⟨receipt, ⟨consumed, before, total⟩ | ⟨row, step⟩⟩ := consumeCertificate_credits done
    · have same : credited c.transferId (c.accountId, c.assetId) x.destination st x.credits =
          x.credits := by
        simp [credited, total]
      have next := agreed.uncrediting ⟨total, .inl consumed⟩
      have drafted : consumedAt st answer.receipt.unsigned.transferId := by
        change consumedAt st answer.receipt.transferId
        rw [receipt, consumedAt, consumed]
        exact before
      rw [same]
      exact { next with receiptDrafts := List.forall_mem_cons.mpr ⟨drafted, next.receiptDrafts⟩ }
    · have next := agreed.crediting step issued
      have drafted : consumedAt st answer.receipt.unsigned.transferId := by
        change consumedAt st answer.receipt.transferId
        rw [receipt, consumedAt, step.stored]
        simp
      exact { next with receiptDrafts := List.forall_mem_cons.mpr ⟨drafted, next.receiptDrafts⟩ }

theorem attachReceiptSignature_uncrediting {signed answer : ConsumptionReceipt}
    (done : attachReceiptSignature E w c signed st = .ok (st', answer)) : Uncrediting st st' := by
  obtain ⟨row, found, _, rfl | rfl⟩ := attachReceiptSignature_ok done
  · exact ⟨fun _ => rfl, .inl rfl⟩
  · exact ⟨fun _ => rfl, .inr ⟨_, row, _, found, rfl⟩⟩

theorem verifyConsumptionReceipt_transfer {v : Verifier} {receipt : ConsumptionReceipt}
    (verified : verifyConsumptionReceipt E v receipt c = .ok ()) :
    receipt.transferId = c.transferId := by
  simp only [verifyConsumptionReceipt, steps_ok] at verified
  obtain ⟨_, _, _, _, _, ⟨_, same, _⟩, _⟩ := verified
  exact same

theorem exchangeStep_agreement (v w : Verifier) (command : ExchangeCommand)
    (agreed : Agreement source destination x) :
    Agreement source destination (exchangeStep E v w x command) := by
  cases command with
  | initiate binding request =>
    simp only [exchangeStep]
    split
    · exact agreed
    · rename_i st c done
      obtain ⟨step, issued⟩ := initiateTransfer_unsettling done
      have next := agreed.unsettling step
      exact { next with drafts := List.forall_mem_cons.mpr ⟨issued, next.drafts⟩ }
  | signCertificate c =>
    simp only [exchangeStep]
    split
    · rename_i drafted
      exact { agreed with
        certificates := List.forall_mem_cons.mpr ⟨agreed.drafts _ drafted, agreed.certificates⟩ }
    · exact agreed
  | attachCertificate =>
    exact agreed.unsettling (commit_preserves _ (Unsettling x.source) (Unsettling.refl _)
      fun _ _ done => attachCertificateSignature_unsettling done)
  | consume binding c region =>
    simp only [exchangeStep]
    split
    · rename_i genuine
      exact consume_agreement agreed (agreed.certificates _ genuine)
    · exact agreed
  | signReceipt receipt =>
    simp only [exchangeStep]
    split
    · rename_i drafted
      exact { agreed with
        receipts := List.forall_mem_cons.mpr ⟨agreed.receiptDrafts _ drafted, agreed.receipts⟩ }
    · exact agreed
  | attachReceipt =>
    exact agreed.uncrediting (commit_preserves _ (Uncrediting x.destination)
      ⟨fun _ => rfl, .inl rfl⟩ fun _ _ done => attachReceiptSignature_uncrediting done)
  | acknowledge c receipt =>
    simp only [exchangeStep]
    split
    · rename_i genuine
      apply commit_preserves _
        (fun st => Agreement source destination { x with source := st }) agreed
      intro st answer done
      rcases acknowledgeTransfer_settles done with rfl | ⟨row, step⟩
      · exact agreed
      · have proven : consumedAt x.destination receipt.transferId :=
          agreed.receipts receipt.unsigned genuine.2
        obtain ⟨_, verified, _⟩ := acknowledgeTransfer_ok done
        rw [verifyConsumptionReceipt_transfer verified] at proven
        exact agreed.settling step proven
    · exact agreed

end Steps

/-- In every state of the exchange: no transfer was credited twice at the destination,
and every credit is the amount of a transfer the source has issued; a transfer marked
acknowledged has been consumed at the destination; the source's total has lost exactly
the acknowledged amounts; and the two totals less what is consumed but not yet
acknowledged never change. -/
theorem exchange_conserves (E : Engine) (v w : Verifier) (source destination : Tables)
    (commands : List ExchangeCommand) :
    let x := run (exchangeStep E v w) (Exchange.start source destination) commands
    (x.credits.map Prod.fst).Nodup ∧
      (∀ id amount, (id, amount) ∈ x.credits → ∃ row,
        x.source.transfers.lookup id = some row ∧ row.amount = amount) ∧
      (∀ id row, x.source.transfers.lookup id = some row → row.status = .acknowledged →
        (id, row.amount) ∈ x.credits ∧
        (x.destination.consumedCertificates.lookup id).map ConsumedRow.amount = some row.amount) ∧
      (∀ owner, totalAt x.source owner = totalAt source owner - settled x.source owner) ∧
      (∀ owner, totalAt x.source owner + totalAt x.destination owner - unacknowledged x owner =
        totalAt source owner + totalAt destination owner) := by
  intro x
  have agreed : Agreement source destination x :=
    run_preserves (exchangeStep E v w) (Agreement source destination)
      (fun _ command agreed => exchangeStep_agreement v w command agreed) commands
      (start_agreement source destination)
  refine ⟨agreed.distinct, ?_, ?_, ?_, agreed.law⟩
  · intro id amount member
    obtain ⟨row, found, rfl⟩ := (agreed.credits id amount).mp member
    obtain ⟨transfer, stored, _, _, same⟩ := agreed.consumed id row found
    exact ⟨transfer, stored, same⟩
  · intro id transfer stored status
    have proven := agreed.acknowledged id (by simp [acknowledgedAt, stored, status])
    obtain ⟨row, found⟩ := Option.isSome_iff_exists.mp proven
    obtain ⟨known, same, _, _, amount⟩ := agreed.consumed id row found
    rw [stored] at same
    cases same
    exact ⟨(agreed.credits id _).mpr ⟨row, found, amount.symm⟩, by simp [found, amount]⟩
  · intro owner
    have balance := agreed.settled owner
    omega

end PaymentPlatform.Escrow
