import PaymentPlatform.Offline.Redemption
import PaymentPlatform.Rights.Movements

/-! The life of an allowance: what one committed transaction can do to the allowances,
to their receipts and proofs and to the authority issued for them. -/

namespace PaymentPlatform.Offline

open Framing Ledger Serial

variable {E : Engine}
variable {db db' : Database E} {r : RedemptionRow} {key : Bytes × Bytes × Bytes} {answer : Bool}
  {id : Bytes}

/-- The authority issued in one region, as escrow_offline_issued has it. -/
def issuedAt (st : Tables) (key : Bytes × Bytes × Bytes) : Int :=
  ((st.offlineIssued.lookup key).map IssuedRow.amount).getD 0

/-- The same authority, as the sum of the ISSUED allowances of the region. -/
def outstanding (st : Tables) (key : Bytes × Bytes × Bytes) : Int :=
  st.allowances.total fun _ row => if row.rights = key then issuedAmount row else 0

/-- The allowances take one place of the numbering of their device. -/
def AllowanceRow.SameCounter (a b : AllowanceRow) : Prop :=
  a.device = b.device ∧ a.issuerEpoch = b.issuerEpoch ∧ a.deviceCounter = b.deviceCounter

/-- The receipt names a posted redemption that takes exactly the amount from the account
of the allowance and gives it to the merchant. -/
structure RedemptionPosted (st : Ledger.Tables E) (row : AllowanceRow) (r : RedemptionRow) :
    Prop where
  entry : ∃ journal, st.transactions.lookup r.ledgerTransactionId = some journal ∧
    journal.status = .posted ∧ journal.transactionKind = ascii "OFFLINE_REDEMPTION" ∧
    journal.effectId = r.effectId ∧ journal.requestHash = r.postingRequestHash
  debited : sideTotal .debit (fun l => l.accountId = row.accountId && l.assetId = row.assetId)
    (linesOf st r.ledgerTransactionId) = row.amount
  uncredited : sideTotal .credit (fun l => l.accountId = row.accountId && l.assetId = row.assetId)
    (linesOf st r.ledgerTransactionId) = 0
  received : sideTotal .credit
    (fun l => l.accountId = r.merchantAccountId && l.assetId = row.assetId)
    (linesOf st r.ledgerTransactionId) = row.amount
  unreturned : sideTotal .debit
    (fun l => l.accountId = r.merchantAccountId && l.assetId = row.assetId)
    (linesOf st r.ledgerTransactionId) = 0

theorem redemptionLinked_posted {row : AllowanceRow} (linked : redemptionLinked db row r = true) :
    RedemptionPosted db.ledger row r := by
  simp only [redemptionLinked, Bool.and_eq_true, decide_eq_true_eq, Option.any_eq_true] at linked
  obtain ⟨⟨⟨⟨⟨entry, debited⟩, received⟩, uncredited⟩, unreturned⟩, _⟩ := linked
  obtain ⟨journal, found, ⟨⟨effect, request⟩, posted⟩, kind⟩ := entry
  exact ⟨⟨journal, found, posted, kind, effect, request⟩, debited, uncredited, received,
    unreturned⟩

theorem RedemptionPosted.kept {st st' : Ledger.Tables E} {row : AllowanceRow}
    (posted : RedemptionPosted st row r) (keeps : KeepsPosted st st') :
    RedemptionPosted st' row r := by
  obtain ⟨⟨journal, found, status, facts⟩, debited, uncredited, received, unreturned⟩ := posted
  obtain ⟨kept, lines⟩ := keeps _ journal found status
  exact ⟨⟨journal, kept, status, facts⟩, lines ▸ debited, lines ▸ uncredited, lines ▸ received,
    lines ▸ unreturned⟩

/-- A row that moved on: the place it takes is the one it had. -/
def Continues (row next : AllowanceRow) : Prop :=
  { next with signature := row.signature, state := row.state } = row

/-- One allowance moved on, and the issued authority with it. -/
structure Moved (id : Bytes) (row next : AllowanceRow) (st st' : Tables) : Prop where
  found : st.allowances.lookup id = some row
  allowances : st'.allowances = st.allowances.insert id next
  continues : Continues row next
  issued : ∀ key, issuedAt st' key = issuedAt st key +
    if row.rights = key then issuedAmount next - issuedAmount row else 0

/-- The tables of the allowances' lives before and after a transaction that left the
given journal. -/
inductive Life (ledger : Ledger.Tables E) (st st' : Tables) : Prop where
  | same (allowances : st'.allowances = st.allowances)
      (receipts : st'.redemptionReceipts = st.redemptionReceipts)
      (proofs : st'.nonRedemptionProofs = st.nonRedemptionProofs)
      (issued : ∀ key, issuedAt st' key = issuedAt st key)
  | prepared (id : Bytes) (row : AllowanceRow) (fresh : st.allowances.lookup id = none)
      (state : row.state = .prepared)
      (unused : ∀ other stored, st.allowances.lookup other = some stored →
        ¬ stored.SameCounter row)
      (allowances : st'.allowances = st.allowances.insert id row)
      (receipts : st'.redemptionReceipts = st.redemptionReceipts)
      (proofs : st'.nonRedemptionProofs = st.nonRedemptionProofs)
      (issued : ∀ key, issuedAt st' key = issuedAt st key)
  | activated (id : Bytes) (row next : AllowanceRow) (moved : Moved id row next st st')
      (before : row.state = .prepared) (after : next.state = .issued)
      (receipts : st'.redemptionReceipts = st.redemptionReceipts)
      (proofs : st'.nonRedemptionProofs = st.nonRedemptionProofs)
  | redeemed (id : Bytes) (row next : AllowanceRow) (r : RedemptionRow)
      (moved : Moved id row next st st') (before : row.state = .issued)
      (after : next.state = .redeemed) (posted : RedemptionPosted ledger row r)
      (distinct : ∀ other stored, st.redemptionReceipts.lookup other = some stored →
        stored.Distinct r)
      (receipts : st'.redemptionReceipts = st.redemptionReceipts.insert id r)
      (proofs : st'.nonRedemptionProofs = st.nonRedemptionProofs)
  | terminated (id : Bytes) (row next : AllowanceRow) (proof : ProofRow)
      (moved : Moved id row next st st') (before : row.state = .issued)
      (after : next.state = .revoked ∨ next.state = .expired)
      (receipts : st'.redemptionReceipts = st.redemptionReceipts)
      (proofs : st'.nonRedemptionProofs = st.nonRedemptionProofs.insert id proof)

/-- A transaction keeps the posted journal and takes one step of at most one life. -/
def Lived (db db' : Database E) : Prop :=
  KeepsPosted db.ledger db'.ledger ∧ Life db'.ledger db.offline db'.offline

theorem Lived.refl (db : Database E) : Lived db db :=
  ⟨.refl _, .same rfl rfl rfl fun _ => rfl⟩

theorem issuedAt_insert {st : Tables} {row : IssuedRow} (other : Bytes × Bytes × Bytes) :
    issuedAt { st with offlineIssued := st.offlineIssued.insert key row } other =
      if key = other then row.amount else issuedAt st other := by
  simp only [issuedAt, AList.lookup_insert_if]
  by_cases same : key = other
  · simp [same]
  · simp [same, Ne.symm same]

theorem raiseIssued_issuedAt {amount : Int} (done : raiseIssued key amount db = .ok db')
    (other : Bytes × Bytes × Bytes) :
    issuedAt db'.offline other = issuedAt db.offline other + if key = other then amount else 0 := by
  unfold raiseIssued at done
  split at done <;> rename_i found
  all_goals
    obtain ⟨_, _, _, rfl⟩ := writeIssued_ok done
    rw [issuedAt_insert]
    by_cases same : key = other
    · subst same
      simp [issuedAt, found]
    · simp [same]

theorem lowerIssued_issuedAt {amount : Int} (done : lowerIssued key amount db = .ok db')
    (other : Bytes × Bytes × Bytes) :
    issuedAt db'.offline other = issuedAt db.offline other - if key = other then amount else 0 := by
  obtain ⟨row, found, _, written⟩ := lowerIssued_ok done
  obtain ⟨_, _, _, rfl⟩ := writeIssued_ok written
  rw [issuedAt_insert]
  by_cases same : key = other
  · subst same
    simp [issuedAt, found]
  · simp [same]

theorem issuedAmount_left {row next : AllowanceRow} (before : row.state = .issued)
    (after : next.state ≠ .issued) (x : Int) : x - (if row.rights = key then row.amount else 0) =
      x + if row.rights = key then issuedAmount next - issuedAmount row else 0 := by
  rw [issuedAmount, issuedAmount, if_pos before, if_neg after]
  split <;> omega

theorem prepareOfflineAllowance_lived {p : Preparation}
    (done : prepareOfflineAllowance p db = .ok (db', answer)) : Lived db db' := by
  rcases prepareOfflineAllowance_ok done with
    ⟨rfl, _⟩ | ⟨device, row, mid, _, _, updated, inserted, _, _, _, _, state, _⟩
  · exact .refl _
  · obtain ⟨_, _, _, rfl⟩ := updateDevice_ok updated
    obtain ⟨_, _, _, _, _, fresh, unused, rfl⟩ := insertAllowance_ok inserted
    exact ⟨.refl _, .prepared _ row fresh state unused rfl rfl rfl fun _ => rfl⟩

theorem activateOfflineAllowance_lived {payloadHash : Digest} {signature : Bytes}
    (done : activateOfflineAllowance id payloadHash signature db = .ok (db', answer)) :
    Lived db db' := by
  obtain ⟨row, found, ⟨_, rfl⟩ | ⟨state, _, lowered, raised, hlowered, hraised, updated⟩⟩ :=
    activateOfflineAllowance_ok done
  · exact .refl _
  · obtain ⟨escrow, _, rfl⟩ := onEscrow_ok hlowered
    have issued := raiseIssued_issuedAt hraised
    obtain ⟨_, _, rfl⟩ := raiseIssued_ok hraised
    obtain ⟨_, rfl⟩ := updateAllowance_ok updated
    refine ⟨.refl _, .activated id row _ ⟨found, rfl, rfl, fun key => ?_⟩ state rfl rfl rfl⟩
    exact (issued key).trans (by simp [issuedAmount, state])

theorem redeemOfflinePresentation_lived
    (done : redeemOfflinePresentation id r db = .ok (db', answer)) :
    Lived db db' ∧ db'.ledger = db.ledger := by
  obtain ⟨row, found, _, ⟨_, rfl⟩ | ⟨state, linked, stored, lowered, total, inserted, hlowered,
    htotal, updated⟩⟩ := redeemOfflinePresentation_ok done
  · exact ⟨.refl _, rfl⟩
  · obtain ⟨_, distinct, rfl⟩ := insertRedemption_ok inserted
    have issued := lowerIssued_issuedAt hlowered
    obtain ⟨_, _, _, written⟩ := lowerIssued_ok hlowered
    obtain ⟨_, _, _, rfl⟩ := writeIssued_ok written
    obtain ⟨escrow, _, rfl⟩ := onEscrow_ok htotal
    obtain ⟨_, rfl⟩ := updateAllowance_ok updated
    refine ⟨⟨.refl _, .redeemed id row _ r ⟨found, rfl, rfl, fun key => ?_⟩ state rfl
      (redemptionLinked_posted linked) distinct rfl rfl⟩, rfl⟩
    exact (issued key).trans (issuedAmount_left state (by simp) _)

theorem terminateOfflineAllowance_lived {t : Termination} {answer : Int}
    (done : terminateOfflineAllowance t db = .ok (db', answer)) : Lived db db' := by
  obtain ⟨row, found, ⟨rfl, _⟩ | ⟨state, _, device, fenced, lowered, raised, terminal, proofHash,
    hfenced, _, hlowered, hraised, hterminal, proven⟩⟩ := terminateOfflineAllowance_ok done
  · exact .refl _
  · obtain ⟨_, _, _, rfl⟩ := updateDevice_ok hfenced
    have issued := lowerIssued_issuedAt hlowered
    obtain ⟨_, _, _, written⟩ := lowerIssued_ok hlowered
    obtain ⟨_, _, _, rfl⟩ := writeIssued_ok written
    obtain ⟨escrow, _, rfl⟩ := onEscrow_ok hraised
    obtain ⟨_, rfl⟩ := updateAllowance_ok hterminal
    obtain ⟨_, rfl⟩ := insertProof_ok proven
    have ended : t.terminalKind.state = .revoked ∨ t.terminalKind.state = .expired := by
      cases t.terminalKind <;> simp [TerminalKind.state]
    refine ⟨.refl _, .terminated _ row _ _ ⟨found, rfl, rfl, fun key => ?_⟩ state ended rfl rfl⟩
    exact (issued key).trans (issuedAmount_left state (by rcases ended with is | is <;> simp [is]) _)

theorem redeemAndPost_lived {v : VerifiedPresentation} {posting : PostRequest}
    {answer : Redemption × Receipt} (done : redeemAndPost v posting db = .ok (db', answer)) :
    Lived db db' := by
  obtain ⟨_, _, ledger, receipt, redemption, posted, redeemed⟩ := redeemAndPost_ok done
  have keeps := postInTx_keepsPosted posted
  rcases redeemPresentationInTx_ok redeemed with rfl | ⟨_, _, called⟩
  · exact ⟨keeps, .same rfl rfl rfl fun _ => rfl⟩
  · obtain ⟨⟨_, life⟩, same⟩ := redeemOfflinePresentation_lived called
    exact ⟨by rw [same]; exact keeps, life⟩

theorem recordOfflineDomainClosure_lived {hash : Digest} {evidence : EvidenceRow}
    (done : recordOfflineDomainClosure id hash evidence db = .ok (db', answer)) : Lived db db' := by
  obtain ⟨_, mid, inserted, stored, last⟩ := recordOfflineDomainClosure_ok done
  obtain ⟨_, ⟨rfl, _⟩ | ⟨_, rfl⟩⟩ := insertEvidence_ok stored <;>
    rcases last with ⟨rfl, _⟩ | ⟨_, rfl⟩ <;>
    exact ⟨.refl _, .same rfl rfl rfl fun _ => rfl⟩

theorem advanceOfflineIssuerEpoch_lived {device : Device} {current next : Int}
    (done : advanceOfflineIssuerEpoch device current next db = .ok (db', answer)) :
    Lived db db' := by
  obtain ⟨_, row, _, ⟨_, rfl⟩ | ⟨_, updated⟩⟩ := advanceOfflineIssuerEpoch_ok done
  · exact .refl _
  · obtain ⟨_, _, _, rfl⟩ := updateDevice_ok updated
    exact ⟨.refl _, .same rfl rfl rfl fun _ => rfl⟩

theorem enrollOfflineDevice_lived {device : Device} {epoch : Int}
    (done : enrollOfflineDevice device epoch db = .ok (db', answer)) : Lived db db' := by
  rcases enrollOfflineDevice_ok done with rfl | ⟨_, _, _, _, rfl⟩
  · exact .refl _
  · exact ⟨.refl _, .same rfl rfl rfl fun _ => rfl⟩

end PaymentPlatform.Offline
