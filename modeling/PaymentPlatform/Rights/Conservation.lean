import PaymentPlatform.Payment.Execute
import PaymentPlatform.Rights.Movements

/-! Conservation of spending rights in one region's database. Every committed call
is a balanced movement at one authority, so the buckets of every authority add up
to its total in every state a run reaches. -/

namespace PaymentPlatform

open Framing Ledger Serial Escrow

variable {E : Engine}
variable {owner : Bytes × Bytes} {α ε : Type}

/-- The calls that write the escrow or the offline tables; `elsewhere` is any
transaction that writes other tables only. -/
inductive RightsCommand (E : Engine) where
  | createAuthority (accountId assetId : Bytes) (total : Int)
  | allocate (request : EffectRequest)
  | spend (request : EffectRequest)
  | giveBack (request : EffectRequest)
  | paymentEffect (kind : EffectKind) (request : EffectRequest) (hash : Digest)
  | transferEffect (kind : EffectKind) (transferId : Bytes) (request : EffectRequest)
  | provision (config : Provisioning.Config) (request : Provisioning.CustomerAccountRequest)
      (draw : Provisioning.CustomerDraw)
  | deposit (config : Provisioning.Config) (request : Provisioning.DepositRequest)
      (draw : Provisioning.DepositDraw)
  | initiate (binding : KeyBinding) (request : TransferRequest)
  | attachCertificate (v : Verifier) (signed : Certificate)
  | consume (v : Verifier) (binding : KeyBinding) (certificate : Certificate) (region : Bytes)
  | attachReceipt (v : Verifier) (certificate : Certificate) (signed : ConsumptionReceipt)
  | acknowledge (v : Verifier) (certificate : Certificate) (receipt : ConsumptionReceipt)
  | configureDomain (domain keyId : Bytes) (first : Int) (last : Option Int)
  | rotateKey (domain expected new : Bytes) (epoch : Int) (reason : Offline.KeyTerminationReason)
  | terminateKey (domain expected : Bytes) (epoch : Int) (reason : Offline.KeyTerminationReason)
  | enroll (device : Offline.Device) (epoch : Int)
  | advanceEpoch (device : Offline.Device) (current next : Int)
  | prepare (preparation : Offline.Preparation)
  | activate (allowanceId : Bytes) (payloadHash : Digest) (signature : Bytes)
  | redeem (allowanceId : Bytes) (receipt : Offline.RedemptionRow)
  | recordClosure (allowanceId : Bytes) (hash : Digest) (evidence : Offline.EvidenceRow)
  | terminate (termination : Offline.Termination)
  | elsewhere (other : Database E)

def rightsStep (db : Database E) : RightsCommand E → Database E
  | .createAuthority accountId assetId total =>
    overEscrow (Escrow.createAuthority E accountId assetId total) db
  | .allocate request => overEscrow (allocateInTx (E := E) request) db
  | .spend request => overEscrow (spendInTx (E := E) request) db
  | .giveBack request => overEscrow (returnInTx (E := E) request) db
  | .paymentEffect kind request hash =>
    commit (Payment.applyPaymentEscrowEffect kind request hash) db
  | .transferEffect kind transferId request =>
    commit (Transfer.applyTransferEscrowEffect kind transferId request) db
  | .provision config request draw =>
    commit (Provisioning.provisionCustomerAccount config request draw) db
  | .deposit config request draw => commit (Provisioning.deposit config request draw) db
  | .initiate binding request => overEscrow (initiateTransfer E binding request) db
  | .attachCertificate v signed => overEscrow (attachCertificateSignature v signed) db
  | .consume v binding certificate region =>
    overEscrow (consumeCertificate E v binding certificate region) db
  | .attachReceipt v certificate signed =>
    overEscrow (attachReceiptSignature E v certificate signed) db
  | .acknowledge v certificate receipt =>
    overEscrow (acknowledgeTransfer E v certificate receipt) db
  | .configureDomain domain keyId first last =>
    overOffline (Offline.configureOfflineAcceptanceDomain E domain keyId first last) db
  | .rotateKey domain expected new epoch reason =>
    overOffline (Offline.rotateOfflineAcceptanceDomainKey E domain expected new epoch reason) db
  | .terminateKey domain expected epoch reason =>
    overOffline (Offline.terminateOfflineAcceptanceDomainKey E domain expected epoch reason) db
  | .enroll device epoch => commit (Offline.enrollOfflineDevice device epoch) db
  | .advanceEpoch device current next =>
    commit (Offline.advanceOfflineIssuerEpoch device current next) db
  | .prepare preparation => commit (Offline.prepareOfflineAllowance preparation) db
  | .activate allowanceId payloadHash signature =>
    commit (Offline.activateOfflineAllowance allowanceId payloadHash signature) db
  | .redeem allowanceId receipt => commit (Offline.redeemOfflinePresentation allowanceId receipt) db
  | .recordClosure allowanceId hash evidence =>
    commit (Offline.recordOfflineDomainClosure allowanceId hash evidence) db
  | .terminate termination => commit (Offline.terminateOfflineAllowance termination) db
  | .elsewhere other => { other with escrow := db.escrow, offline := db.offline }

def Steady (db db' : Database E) : Prop :=
  ∃ movement owner, Conserved (Movement.net movement) ∧ RightsMoved movement owner db db'

theorem conserved_nil : Conserved (Movement.net []) := ⟨rfl, rfl⟩

theorem conserved_effect (kind : EffectKind) (amount : Int) :
    Conserved (kind.movement amount).net := by
  cases kind <;> simp [Conserved, EffectKind.movement]

theorem steady_unmoved {db db' : Database E}
    (moved : RightsMoved [] owner db db') : Steady db db' :=
  ⟨[], owner, conserved_nil, moved⟩

theorem steady_refl (db : Database E) : Steady db db :=
  steady_unmoved (RightsMoved.of_same ([], []) rfl rfl rfl)

theorem steady_commit {body : Database E → Except ε (Database E × α)}
    {db : Database E} (committed : ∀ db' answer, body db = .ok (db', answer) → Steady db db') :
    Steady db (commit body db) :=
  commit_preserves body (Steady db) (steady_refl db) committed

/-- The same for a transaction on the escrow tables, which moves nothing or one
balanced movement. -/
theorem steady_overEscrow {body : Escrow.Tables → Except ε (Escrow.Tables × α)}
    (movement : Movement) (owner : Bytes × Bytes) (balanced : Conserved movement.net)
    {db : Database E} (committed : ∀ st' answer, body db.escrow = .ok (st', answer) →
      Shifted [] owner db.escrow st' ∨ Shifted movement owner db.escrow st') :
    Steady db (overEscrow body db) := by
  unfold overEscrow
  apply commit_preserves body (fun st' => Steady db { db with escrow := st' }) (steady_refl db)
  intro st' answer done
  rcases committed st' answer done with unmoved | shifted
  · exact steady_unmoved (.of_shifted unmoved)
  · exact ⟨movement, owner, balanced, .of_shifted shifted⟩

theorem steady_overOffline {body : Offline.Tables → Except ε (Offline.Tables × α)}
    {db : Database E} (committed : ∀ st' answer, body db.offline = .ok (st', answer) →
      Offline.OnlyKeys db.offline st') : Steady db (overOffline body db) := by
  unfold overOffline
  apply commit_preserves body (fun st' => Steady db { db with offline := st' }) (steady_refl db)
  intro st' answer done
  have keys : st' = _ := committed st' answer done
  exact steady_unmoved (RightsMoved.of_same ([], []) rfl (by rw [keys]) (by rw [keys]))

theorem shifted_cases {movement : Movement} {st st' : Escrow.Tables}
    (cases : st' = st ∨ Shifted movement owner st st') :
    Shifted [] owner st st' ∨ Shifted movement owner st st' := by
  rcases cases with rfl | shifted
  · exact .inl (Shifted.refl owner _)
  · exact .inr shifted

section Calls

variable {db db' : Database E}

theorem steady_moved {movement : Movement} (balanced : Conserved movement.net)
    (cases : db' = db ∨ RightsMoved movement owner db db') : Steady db db' := by
  rcases cases with rfl | moved
  · exact steady_refl _
  · exact ⟨movement, owner, balanced, moved⟩

/-- The same for a call that finds an allowance and moves its amount. -/
theorem steady_allowance {P : Offline.AllowanceRow → Prop} {movement : Offline.AllowanceRow → Movement}
    {owner : Offline.AllowanceRow → Bytes × Bytes} (balanced : ∀ row, Conserved (movement row).net)
    (cases : db' = db ∨ ∃ row, P row ∧ RightsMoved (movement row) (owner row) db db') :
    Steady db db' := by
  rcases cases with rfl | ⟨row, _, moved⟩
  · exact steady_refl _
  · exact ⟨_, _, balanced row, moved⟩

theorem enrollOfflineDevice_steady {device : Offline.Device} {epoch : Int} {answer : Bool}
    (done : Offline.enrollOfflineDevice device epoch db = .ok (db', answer)) : Steady db db' := by
  rcases Offline.enrollOfflineDevice_ok done with rfl | ⟨_, _, _, _, rfl⟩
  · exact steady_refl _
  · exact steady_unmoved (RightsMoved.of_same ([], []) rfl rfl rfl)

theorem advanceOfflineIssuerEpoch_steady {device : Offline.Device} {current next : Int}
    {answer : Bool}
    (done : Offline.advanceOfflineIssuerEpoch device current next db = .ok (db', answer)) :
    Steady db db' := by
  obtain ⟨_, row, _, ⟨_, rfl⟩ | ⟨_, updated⟩⟩ := Offline.advanceOfflineIssuerEpoch_ok done
  · exact steady_refl _
  · exact steady_unmoved (Offline.updateDevice_moved updated ([], []))

end Calls

theorem rightsStep_steady (db : Database E) (command : RightsCommand E) :
    Steady db (rightsStep db command) := by
  cases command with
  | createAuthority =>
    exact steady_overEscrow _ _ (by simp [Conserved]) fun _ _ done =>
      shifted_cases (createAuthority_shifted done)
  | allocate =>
    exact steady_overEscrow _ _ (by simp [Conserved]) fun _ _ done =>
      shifted_cases (allocateInTx_shifted done)
  | spend =>
    exact steady_overEscrow _ _ (conserved_effect _ _) fun _ _ done =>
      shifted_cases (spendInTx_shifted done)
  | giveBack =>
    exact steady_overEscrow _ _ (conserved_effect _ _) fun _ _ done =>
      shifted_cases (returnInTx_shifted done)
  | paymentEffect =>
    exact steady_commit fun _ _ done =>
      steady_moved (conserved_effect _ _) (applyPaymentEscrowEffect_moved done)
  | transferEffect =>
    exact steady_commit fun _ _ done =>
      steady_moved (conserved_effect _ _) (applyTransferEscrowEffect_moved done)
  | provision =>
    exact steady_commit fun _ _ done =>
      steady_unmoved (Provisioning.provisionCustomerAccount_moved done)
  | deposit =>
    exact steady_commit fun _ _ done =>
      steady_moved (by simp [Conserved]) (Provisioning.deposit_moved done)
  | initiate =>
    exact steady_overEscrow _ _ (by simp [Conserved]) fun _ _ done =>
      shifted_cases (initiateTransfer_shifted done)
  | attachCertificate =>
    exact steady_overEscrow _ _ conserved_nil fun _ _ done =>
      .inl (attachCertificateSignature_shifted done)
  | consume =>
    exact steady_overEscrow _ _ (by simp [Conserved]) fun _ _ done =>
      consumeCertificate_shifted done
  | attachReceipt =>
    exact steady_overEscrow _ ([], []) conserved_nil fun _ _ done =>
      .inl (attachReceiptSignature_shifted done _)
  | acknowledge =>
    exact steady_overEscrow _ _ (by simp [Conserved]) fun _ _ done =>
      shifted_cases (acknowledgeTransfer_shifted done)
  | configureDomain =>
    exact steady_overOffline fun _ _ => Offline.configureOfflineAcceptanceDomain_keys
  | rotateKey =>
    exact steady_overOffline fun _ _ => Offline.rotateOfflineAcceptanceDomainKey_keys
  | terminateKey =>
    exact steady_overOffline fun _ _ => Offline.terminateOfflineAcceptanceDomainKey_keys
  | enroll => exact steady_commit fun _ _ => enrollOfflineDevice_steady
  | advanceEpoch =>
    exact steady_commit fun _ _ => advanceOfflineIssuerEpoch_steady
  | prepare =>
    exact steady_commit fun _ _ done => steady_unmoved (Offline.prepareOfflineAllowance_moved done)
  | activate =>
    exact steady_commit fun _ _ done => steady_allowance (fun _ => by simp [Conserved])
      (Offline.activateOfflineAllowance_moved done)
  | redeem =>
    exact steady_commit fun _ _ done => steady_allowance (fun _ => by simp [Conserved])
      (Offline.redeemOfflinePresentation_moved done)
  | recordClosure =>
    exact steady_commit fun _ _ done =>
      steady_unmoved (Offline.recordOfflineDomainClosure_moved done ([], []))
  | terminate =>
    exact steady_commit fun _ _ done => steady_allowance (fun _ => by simp [Conserved])
      (Offline.terminateOfflineAllowance_moved done)
  | elsewhere => exact steady_unmoved (RightsMoved.of_same ([], []) rfl rfl rfl)

/-- The tables as the migrations create them. -/
def Database.withoutRights (db : Database E) : Database E :=
  { db with
    escrow := ⟨∅, ∅, ∅, ∅, ∅, ∅, ∅, ∅⟩
    offline := ⟨∅, ∅, ∅, ∅, ∅, ∅, ∅, ∅, ∅, ∅⟩ }

structure RightsLaw (db : Database E) : Prop where
  checked : RightsChecked db
  conserved : ∀ owner, Conserved (holdings db.escrow db.offline owner)

theorem withoutRights_law (db : Database E) : RightsLaw db.withoutRights := by
  refine ⟨⟨⟨?_, ?_, ?_⟩, ?_, ?_⟩, ?_⟩
  iterate 5
    intro key row found
    simp [Database.withoutRights] at found
  intro owner
  simp [Conserved, holdings, Database.withoutRights, authorityColumn, regional, inTransit,
    Escrow.offlineIssued, issuedAllowances]

theorem rightsStep_law (db : Database E) (command : RightsCommand E) (law : RightsLaw db) :
    RightsLaw (rightsStep db command) := by
  obtain ⟨movement, owner, balanced, moved⟩ := rightsStep_steady db command
  exact ⟨moved.checked law.checked,
    fun other => moved.moved.conserves balanced other (law.conserved other)⟩

theorem rightsRun_law (db : Database E) (commands : List (RightsCommand E)) :
    RightsLaw (run rightsStep db.withoutRights commands) :=
  run_preserves rightsStep RightsLaw rightsStep_law commands (withoutRights_law db)

theorem RightsChecked.nonneg {db : Database E} (checked : RightsChecked db) (owner : Bytes × Bytes)
    (bucket : Bucket) : 0 ≤ holdings db.escrow db.offline owner bucket := by
  cases bucket with
  | total =>
    simp only [holdings, authorityColumn]
    cases found : db.escrow.authorities.lookup owner with
    | none => simp
    | some row => exact (checked.escrow.authorities owner row found).1
  | unallocated =>
    simp only [holdings, authorityColumn]
    cases found : db.escrow.authorities.lookup owner with
    | none => simp
    | some row => exact (checked.escrow.authorities owner row found).2.1
  | regional =>
    simp only [holdings, regional]
    apply AList.total_nonneg
    intro key row found
    have := (checked.escrow.rights key row found).1
    split <;> omega
  | inTransit =>
    simp only [holdings, inTransit]
    apply AList.total_nonneg
    intro key row found
    have := checked.escrow.transfers key row found
    split <;> omega
  | offlineIssued =>
    simp only [holdings, Escrow.offlineIssued]
    apply AList.total_nonneg
    intro key row found
    have := (checked.issued key row found).1
    split <;> omega
  | allowances =>
    simp only [holdings, issuedAllowances]
    apply AList.total_nonneg
    intro key row found
    have := checked.allowances key row found
    split <;> omega

/-- In every state reached by any calls, for every authority: the buckets add up to
the total, none is negative, and the offline-issued authority is the sum of the
ISSUED allowances. -/
theorem rights_are_conserved (db : Database E) (commands : List (RightsCommand E))
    (owner : Bytes × Bytes) (authority : AuthorityRow)
    (found : (run rightsStep db.withoutRights commands).escrow.authorities.lookup owner =
      some authority) :
    let reached := run rightsStep db.withoutRights commands
    authority.unallocated + regional reached.escrow owner + inTransit reached.escrow owner +
        Escrow.offlineIssued reached.offline owner = authority.totalAuthority ∧
      0 ≤ authority.totalAuthority ∧ 0 ≤ authority.unallocated ∧
      0 ≤ regional reached.escrow owner ∧ 0 ≤ inTransit reached.escrow owner ∧
      0 ≤ Escrow.offlineIssued reached.offline owner ∧
      Escrow.offlineIssued reached.offline owner = issuedAllowances reached.offline owner := by
  intro reached
  have law := rightsRun_law db commands
  obtain ⟨sum, folded⟩ := law.conserved owner
  have nonneg := law.checked.nonneg owner
  have total := nonneg .total
  have unallocated := nonneg .unallocated
  have stored : ∀ column, authorityColumn reached.escrow column owner = column authority := by
    intro column
    simp only [reached, authorityColumn, found, Option.map_some, Option.getD_some]
  simp only [holdings, reached, stored] at sum total unallocated
  exact ⟨sum, total, unallocated, nonneg .regional, nonneg .inTransit, nonneg .offlineIssued, folded⟩

def sampleRights : List (RightsCommand sampleEngine) :=
  [.createAuthority (ascii "alice") (ascii "KZT") 10,
    .allocate ⟨ascii "e1", ascii "alice", ascii "KZT", ascii "north", 6⟩,
    .spend ⟨ascii "e2", ascii "alice", ascii "KZT", ascii "north", 2⟩,
    .spend ⟨ascii "e2", ascii "alice", ascii "KZT", ascii "north", 2⟩]

theorem sample_rights_conserved :
    let reached := run rightsStep Payment.sampleDatabase.withoutRights sampleRights
    let owner := (ascii "alice", ascii "KZT")
    reached.escrow.authorities.lookup owner = some ⟨8, 4, 2⟩ ∧ regional reached.escrow owner = 4 ∧
      (4 : Int) + regional reached.escrow owner + inTransit reached.escrow owner +
        Escrow.offlineIssued reached.offline owner = 8 := by
  refine ⟨by decide +kernel, by decide +kernel, ?_⟩
  exact (rights_are_conserved _ _ _ ⟨8, 4, 2⟩ (by decide +kernel)).1

end PaymentPlatform
