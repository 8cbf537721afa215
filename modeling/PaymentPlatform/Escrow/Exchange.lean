import PaymentPlatform.Escrow.Movements

/-! Rights between two regions: a source and a destination database that exchange
only signed certificates and receipts. Whatever was ever signed may be delivered
at any time, again, late or never; a process that crashes between two transactions
just takes no further step. -/

namespace PaymentPlatform.Escrow

open Framing Ledger Serial

variable {E : Engine}
variable {st st' : Tables} {c : Certificate} {v : Verifier}
variable {accountId assetId transferId : Bytes} {binding : KeyBinding} {new old : TransferRow}

/-- The two databases and what their processes and signers have produced. The lists
only grow: certificates and receipts are kept without signature, which is what a
signature is made over. -/
structure Exchange where
  source : Tables
  destination : Tables
  /-- Certificates that committed calls of InitiateTransfer returned for signing. -/
  drafts : List Certificate
  /-- Certificates the source has signed. -/
  certificates : List Certificate
  /-- Receipts that committed calls of ConsumeCertificate returned for signing. -/
  receiptDrafts : List ConsumptionReceipt
  /-- Receipts the destination has signed. -/
  receipts : List ConsumptionReceipt
  /-- Every increase of a total at the destination, with the transfer it was made for. -/
  credits : List (Bytes × Int)

inductive ExchangeCommand where
  | initiate (binding : KeyBinding) (request : TransferRequest)
  | signCertificate (certificate : Certificate)
  | attachCertificate (signed : Certificate)
  | consume (binding : KeyBinding) (certificate : Certificate) (region : Bytes)
  | signReceipt (receipt : ConsumptionReceipt)
  | attachReceipt (certificate : Certificate) (signed : ConsumptionReceipt)
  | acknowledge (certificate : Certificate) (receipt : ConsumptionReceipt)

def totalAt (st : Tables) : Bytes × Bytes → Int := authorityColumn st AuthorityRow.totalAuthority

def credited (transferId : Bytes) (owner : Bytes × Bytes) (before after : Tables)
    (credits : List (Bytes × Int)) : List (Bytes × Int) :=
  let rise := totalAt after owner - totalAt before owner
  if rise = 0 then credits else (transferId, rise) :: credits

def exchangeConsume (E : Engine) (v : Verifier) (binding : KeyBinding) (c : Certificate)
    (region : Bytes) (x : Exchange) : Exchange :=
  match consumeCertificate E v binding c region x.destination with
  | .error _ => x
  | .ok (destination, answer) =>
    { x with
      destination := destination
      receiptDrafts := answer.receipt.unsigned :: x.receiptDrafts
      credits := credited c.transferId (c.accountId, c.assetId) x.destination destination x.credits }

/-- Signatures are unforgeable: a certificate or receipt that was never signed does
not verify, so delivering it changes nothing. The source verifies with `v`, the
destination with `w`. -/
def exchangeStep (E : Engine) (v w : Verifier) (x : Exchange) : ExchangeCommand → Exchange
  | .initiate binding request =>
    match initiateTransfer E binding request x.source with
    | .error _ => x
    | .ok (source, certificate) =>
      { x with source := source, drafts := certificate.unsigned :: x.drafts }
  | .signCertificate certificate =>
    if certificate.unsigned ∈ x.drafts then
      { x with certificates := certificate.unsigned :: x.certificates }
    else x
  | .attachCertificate signed =>
    { x with source := commit (attachCertificateSignature v signed) x.source }
  | .consume binding certificate region =>
    if certificate.unsigned ∈ x.certificates then
      exchangeConsume E w binding certificate region x
    else x
  | .signReceipt receipt =>
    if receipt.unsigned ∈ x.receiptDrafts then
      { x with receipts := receipt.unsigned :: x.receipts }
    else x
  | .attachReceipt certificate signed =>
    { x with destination := commit (attachReceiptSignature E w certificate signed) x.destination }
  | .acknowledge certificate receipt =>
    if certificate.unsigned ∈ x.certificates ∧ receipt.unsigned ∈ x.receipts then
      { x with source := commit (acknowledgeTransfer E v certificate receipt) x.source }
    else x

def Exchange.start (source destination : Tables) : Exchange where
  source := { source with transfers := ∅ }
  destination := { destination with consumedCertificates := ∅ }
  drafts := []
  certificates := []
  receiptDrafts := []
  receipts := []
  credits := []

def acknowledgedAt (source : Tables) (transferId : Bytes) : Bool :=
  (source.transfers.lookup transferId).any fun row => row.status = .acknowledged

def pending (source : Tables) (owner : Bytes × Bytes) (transferId : Bytes) (row : ConsumedRow) :
    Int :=
  if (row.accountId, row.assetId) = owner ∧ acknowledgedAt source transferId = false then row.amount
  else 0

def unacknowledged (x : Exchange) (owner : Bytes × Bytes) : Int :=
  x.destination.consumedCertificates.total (pending x.source owner)

def settled (source : Tables) (owner : Bytes × Bytes) : Int :=
  source.transfers.total fun _ row =>
    if (row.accountId, row.assetId) = owner ∧ row.status = .acknowledged then row.amount else 0

theorem uint64_int8 {value : UInt64} {stored : Int} (fits : int8 value = .ok stored) :
    uint64 stored = value := by
  simp only [int8, steps_ok] at fits
  obtain ⟨_, _, rfl⟩ := fits
  have bound := value.toNat_lt
  have value_mod : ((value.toNat : Int) % 2 ^ 64).toNat = value.toNat := by omega
  rw [uint64, value_mod, UInt64.ofNat_toNat]

theorem Shifted.total {movement : Movement} {owner : Bytes × Bytes}
    (shifted : Shifted movement owner st st') (other : Bytes × Bytes) :
    totalAt st' other = totalAt st other + if other = owner then movement.net .total else 0 :=
  shifted.moved ⟨∅, ∅, ∅, ∅, ∅, ∅, ∅, ∅, ∅, ∅⟩ other .total

def Issued (source : Tables) (c : Certificate) : Prop :=
  ∃ row, source.transfers.lookup c.transferId = some row ∧
    (certificateOf c.transferId row).unsigned = c

def TransfersKept (st st' : Tables) : Prop :=
  ∀ id row, st.transfers.lookup id = some row → ∃ row', st'.transfers.lookup id = some row' ∧
    (certificateOf id row').unsigned = (certificateOf id row).unsigned

theorem TransfersKept.issued (kept : TransfersKept st st') (issued : Issued st c) :
    Issued st' c := by
  obtain ⟨row, found, made⟩ := issued
  obtain ⟨row', found', same⟩ := kept _ row found
  exact ⟨row', found', same.trans made⟩

theorem TransfersKept.refl (st : Tables) : TransfersKept st st :=
  fun _ row found => ⟨row, found, rfl⟩

structure Unsettling (st st' : Tables) : Prop where
  kept : TransfersKept st st'
  acknowledged : ∀ id, acknowledgedAt st' id = acknowledgedAt st id
  settled : ∀ owner, settled st' owner = settled st owner
  total : ∀ owner, totalAt st' owner = totalAt st owner

theorem Unsettling.refl (st : Tables) : Unsettling st st :=
  ⟨TransfersKept.refl st, fun _ => rfl, fun _ => rfl, fun _ => rfl⟩

theorem insertTransfer_ok {draft : Certificate} {payload : Bytes}
    (inserted : insertTransfer E draft payload st = .ok st') :
    ∃ row, st' = { st with transfers := st.transfers.insert draft.transferId row } ∧
      st.transfers.lookup draft.transferId = none ∧ row.status = .inTransit ∧
      certificateOf draft.transferId row =
        { draft with version := certificateVersion, signature := [] } := by
  simp only [insertTransfer, steps_ok] at inserted
  obtain ⟨_, _, _, _, epoch, hepoch, keyEpoch, hkeyEpoch, _, _, _, fresh, _, _, rfl⟩ := inserted
  refine ⟨_, rfl, fresh, rfl, ?_⟩
  simp [certificateOf, uint64_int8 hepoch, uint64_int8 hkeyEpoch]

theorem initiateTransfer_unsettling {r : TransferRequest}
    (done : initiateTransfer E binding r st = .ok (st', c)) :
    Unsettling st st' ∧ Issued st' c.unsigned := by
  rcases initiateTransfer_ok done with ⟨rfl, row, found, rfl⟩ |
    ⟨epoch, payload, mid, _, rfl, _, updated, inserted⟩
  · exact ⟨Unsettling.refl _, row, found, rfl⟩
  · obtain ⟨_, _, _, written⟩ := updateRights_ok updated
    simp only [writeRights, steps_ok] at written
    obtain ⟨_, _, _, _, _, _, rfl⟩ := written
    obtain ⟨row, rfl, fresh, status, same⟩ := insertTransfer_ok inserted
    refine ⟨⟨?_, ?_, ?_, fun _ => rfl⟩, row, by simp [Certificate.unsigned], ?_⟩
    · intro id stored found
      refine ⟨stored, ?_, rfl⟩
      rw [AList.lookup_insert_ne]
      · exact found
      · rintro rfl
        simp [fresh] at found
    · intro id
      simp only [acknowledgedAt, AList.lookup_insert_if]
      split
      · rename_i here
        subst here
        simp [status, fresh]
      · rfl
    · intro owner
      simp only [settled]
      apply AList.total_insert_weightless
      · simp [status]
      · intro old found
        simp [fresh] at found
    · rw [show (draftCertificate binding r epoch).unsigned.transferId =
        (draftCertificate binding r epoch).transferId from rfl, same]
      rfl

theorem updateTransfer_ok (updated : updateTransfer transferId old new st = .ok st') :
    st' = { st with transfers := st.transfers.insert transferId new } ∧
      (certificateOf transferId new).unsigned = (certificateOf transferId old).unsigned ∧
      new.accountId = old.accountId ∧ new.assetId = old.assetId ∧ new.amount = old.amount := by
  simp only [updateTransfer, steps_ok] at updated
  obtain ⟨_, ⟨frame, _⟩, rfl⟩ := updated
  refine ⟨rfl, ?_, by rw [← frame], by rw [← frame], by rw [← frame]⟩
  rw [← frame]
  rfl

theorem transfersKept_insert (found : st.transfers.lookup transferId = some old)
    (same : (certificateOf transferId new).unsigned = (certificateOf transferId old).unsigned)
    (transfers : st'.transfers = st.transfers.insert transferId new) : TransfersKept st st' := by
  intro id row stored
  rw [transfers, AList.lookup_insert_if]
  by_cases here : id = transferId
  · subst here
    rw [found] at stored
    cases stored
    exact ⟨new, by simp, same⟩
  · exact ⟨row, by simp [here, stored], rfl⟩

theorem attachCertificateSignature_unsettling {signed answer : Certificate}
    (done : attachCertificateSignature v signed st = .ok (st', answer)) : Unsettling st st' := by
  obtain ⟨row, found, _, rfl | updated⟩ := attachCertificateSignature_ok done
  · exact Unsettling.refl _
  · obtain ⟨rfl, same, _⟩ := updateTransfer_ok updated
    refine ⟨transfersKept_insert found same rfl, ?_, ?_, fun _ => rfl⟩
    · intro id
      simp only [acknowledgedAt, AList.lookup_insert_if]
      split
      · rename_i here
        subst here
        simp [found]
      · rfl
    · intro owner
      have moved := AList.total_update st.transfers found
        { row with certificateSig := some signed.signature } fun _ row =>
          if (row.accountId, row.assetId) = owner ∧ row.status = .acknowledged then row.amount else 0
      dsimp only at moved
      simp only [settled]
      omega

structure Settles (st st' : Tables) (transferId : Bytes) (row : TransferRow) : Prop where
  found : st.transfers.lookup transferId = some row
  inTransit : acknowledgedAt st transferId = false
  kept : TransfersKept st st'
  acknowledged : ∀ id, acknowledgedAt st' id = (decide (id = transferId) || acknowledgedAt st id)
  settled : ∀ owner, settled st' owner = settled st owner +
    if (row.accountId, row.assetId) = owner then row.amount else 0
  total : ∀ owner, totalAt st' owner = totalAt st owner -
    if (row.accountId, row.assetId) = owner then row.amount else 0

theorem acknowledgeTransfer_settles {receipt : ConsumptionReceipt} {answer : Unit}
    (done : acknowledgeTransfer E v c receipt st = .ok (st', answer)) :
    st' = st ∨ ∃ row, Settles st st' c.transferId row := by
  obtain ⟨_, _, row, found, same, ⟨_, unchanged⟩ | ⟨status, mid, stored, lowered, updated⟩⟩ :=
    acknowledgeTransfer_ok done
  · exact .inl unchanged
  · right
    obtain ⟨account, asset, amount⟩ := certificateOf_columns same
    have transfers : mid.transfers = st.transfers := by
      obtain ⟨_, _, _, written⟩ := updateAuthority_ok lowered
      simp only [writeAuthority, steps_ok] at written
      obtain ⟨_, _, _, _, rfl⟩ := written
      rfl
    obtain ⟨rfl, certificate, _⟩ := updateTransfer_ok updated
    refine ⟨row, found, by simp [acknowledgedAt, found, status],
      transfersKept_insert found certificate (by rw [transfers]), ?_, ?_, ?_⟩
    · intro id
      simp only [acknowledgedAt, transfers, AList.lookup_insert_if]
      by_cases here : id = c.transferId <;> simp [here]
    · intro owner
      have moved := AList.total_update st.transfers found
        { row with status := .acknowledged, receipt := some stored } fun _ row =>
          if (row.accountId, row.assetId) = owner ∧ row.status = .acknowledged then row.amount else 0
      simp only [status, reduceCtorEq, and_false, and_true, if_false] at moved
      simp only [Escrow.settled, transfers]
      omega
    · intro owner
      have lower : totalAt mid owner = _ := (lowerTotal_shifted lowered).total owner
      change totalAt mid owner = _
      rw [lower, account, asset, amount]
      by_cases here : owner = (c.accountId, c.assetId)
      · simp [here]
        omega
      · simp [here, Ne.symm here]

theorem upsertAuthority_consumed {amount : Int}
    (done : upsertAuthority E accountId assetId amount st = .ok st') :
    st'.consumedCertificates = st.consumedCertificates := by
  simp only [upsertAuthority, bind_ok] at done
  obtain ⟨_, _, _, _, done⟩ := done
  split at done <;>
    (simp only [writeAuthority, steps_ok] at done; obtain ⟨_, _, _, _, rfl⟩ := done; rfl)

theorem upsertRights_consumed {region : Bytes} {amount : Int}
    (done : upsertRights E accountId assetId region amount st = .ok st') :
    st'.consumedCertificates = st.consumedCertificates := by
  simp only [upsertRights, bind_ok] at done
  obtain ⟨_, _, _, _, done⟩ := done
  split at done <;>
    (simp only [writeRights, steps_ok] at done; obtain ⟨_, _, _, _, _, _, rfl⟩ := done; rfl)

structure Credits (st st' : Tables) (c : Certificate) (row : ConsumedRow) : Prop where
  fresh : st.consumedCertificates.lookup c.transferId = none
  stored : st'.consumedCertificates = st.consumedCertificates.insert c.transferId row
  account : row.accountId = c.accountId
  asset : row.assetId = c.assetId
  amount : row.amount = c.amount
  positive : 0 < c.amount
  total : ∀ owner, totalAt st' owner = totalAt st owner +
    if owner = (c.accountId, c.assetId) then c.amount else 0

theorem consumeCertificate_credits {region : Bytes} {answer : Consumption}
    (done : consumeCertificate E v binding c region st = .ok (st', answer)) :
    answer.receipt.transferId = c.transferId ∧
    ((st'.consumedCertificates = st.consumedCertificates ∧
        (st.consumedCertificates.lookup c.transferId).isSome ∧
        ∀ owner, totalAt st' owner = totalAt st owner) ∨ ∃ row, Credits st st' c row) := by
  obtain ⟨_, _, ⟨consumed, authorities, _, _, row, found, receipt, _⟩ |
    ⟨stored, raised, first, total, right, _⟩⟩ := consumeCertificate_ok done
  · refine ⟨by rw [receipt]; rfl, .inl ⟨consumed, by simp [found], ?_⟩⟩
    intro owner
    simp [totalAt, authorityColumn, authorities]
  · obtain ⟨hash, watermark, _, drafted⟩ := first.drafted
    obtain ⟨row, table, account, asset, amount⟩ := first.row
    refine ⟨by rw [drafted]; rfl, .inr ⟨row, first.fresh, ?_, account, asset, amount,
      first.positive, ?_⟩⟩
    · rw [upsertRights_consumed right, upsertAuthority_consumed total, table]
    · intro owner
      have unchanged : totalAt stored owner = totalAt st owner := by
        simp [totalAt, authorityColumn, first.authorities]
      rw [(upsertRights_shifted right).total owner, (upsertAuthority_shifted total).total owner,
        unchanged]
      simp

end PaymentPlatform.Escrow
