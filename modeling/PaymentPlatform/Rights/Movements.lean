import PaymentPlatform.Escrow.Movements
import PaymentPlatform.Offline.Steps
import PaymentPlatform.Provisioning.Openings

/-! Spending rights of one region's database: what every committed operation on the
escrow and offline tables moves, at which authority. -/

namespace PaymentPlatform

open Framing Ledger Serial Escrow

variable {E : Engine}
variable {owner : Bytes × Bytes} {db db' : Database E} {id assetId : Bytes}
  {key : Bytes × Bytes × Bytes} {amount : Int} {answer : Bool} {config : Config}
variable {first second movement : Movement} {row : AllowanceRow} {r : RedemptionRow}
  {t : Termination} {hash : Digest} {kind : EffectKind} {request : EffectRequest}
  {accountId region : Bytes} {st st' : Escrow.Tables}

structure RightsChecked (db : Database E) : Prop where
  escrow : RowsChecked db.escrow
  issued : ∀ key row, db.offline.offlineIssued.lookup key = some row → row.Checked
  allowances : ∀ id row, db.offline.allowances.lookup id = some row → 0 < row.amount

/-- A step of the database: the rights stay there and stay checked, and the authority of
`owner` changes by the movement. -/
structure RightsMoved (movement : Movement) (owner : Bytes × Bytes) (db db' : Database E) : Prop where
  checked : RightsChecked db → RightsChecked db'
  moved : Moved movement owner (holdings db.escrow db.offline) (holdings db'.escrow db'.offline)
  kept : RowsKept db.escrow db'.escrow

namespace RightsMoved

theorem trans {db'' : Database E} (left : RightsMoved first owner db db')
    (right : RightsMoved second owner db' db'') : RightsMoved (first ++ second) owner db db'' :=
  ⟨right.checked ∘ left.checked, left.moved.trans right.moved, left.kept.trans right.kept⟩

theorem of_same (owner : Bytes × Bytes) (escrow : db'.escrow = db.escrow)
    (issued : db'.offline.offlineIssued = db.offline.offlineIssued)
    (allowances : db'.offline.allowances = db.offline.allowances) :
    RightsMoved [] owner db db' := by
  refine ⟨?_, ?_, .of_same (by rw [escrow]) (by rw [escrow])⟩
  · rintro ⟨hescrow, hissued, hallowances⟩
    exact ⟨escrow ▸ hescrow, issued ▸ hissued, allowances ▸ hallowances⟩
  · intro other bucket
    cases bucket <;>
      simp [holdings, Escrow.offlineIssued, issuedAllowances, escrow, issued, allowances]

theorem of_frame (shifted : Shifted movement owner db.escrow db'.escrow)
    (offline : db'.offline = db.offline) : RightsMoved movement owner db db' := by
  refine ⟨?_, by rw [offline]; exact shifted.moved db.offline, shifted.kept⟩
  rintro ⟨escrow, issued, allowances⟩
  exact ⟨shifted.checked escrow, offline ▸ issued, offline ▸ allowances⟩

theorem of_shifted {escrow : Escrow.Tables} (shifted : Shifted movement owner db.escrow escrow) :
    RightsMoved movement owner db { db with escrow := escrow } :=
  of_frame shifted rfl

theorem congr (moved : RightsMoved first owner db db')
    (same : ∀ bucket, first.net bucket = second.net bucket) : RightsMoved second owner db db' := by
  refine ⟨moved.checked, fun other bucket => ?_, moved.kept⟩
  rw [← same bucket]
  exact moved.moved other bucket

end RightsMoved

namespace Offline

theorem updateDevice_moved {device : Device} {old new : DeviceRow}
    (done : updateDevice device old new db = .ok db') (owner : Bytes × Bytes) :
    RightsMoved [] owner db db' := by
  obtain ⟨_, _, _, rfl⟩ := updateDevice_ok done
  exact RightsMoved.of_same owner rfl rfl rfl

theorem insertRedemption_moved (done : insertRedemption id row r db = .ok db')
    (owner : Bytes × Bytes) : RightsMoved [] owner db db' := by
  obtain ⟨_, _, rfl⟩ := insertRedemption_ok done
  exact RightsMoved.of_same owner rfl rfl rfl

theorem insertProof_moved {fence : Int} {proofHash : Digest}
    (done : insertProof t fence proofHash db = .ok db') (owner : Bytes × Bytes) :
    RightsMoved [] owner db db' := by
  obtain ⟨_, rfl⟩ := insertProof_ok done
  exact RightsMoved.of_same owner rfl rfl rfl

theorem writeIssued_moved {row : IssuedRow} (done : writeIssued key row db = .ok db') :
    RightsMoved [(.offlineIssued, row.amount -
      ((db.offline.offlineIssued.lookup key).map IssuedRow.amount).getD 0)] (key.1, key.2.1)
      db db' := by
  obtain ⟨_, checked, _, rfl⟩ := writeIssued_ok done
  refine ⟨?_, ?_, .of_same rfl rfl⟩
  · rintro ⟨escrow, issued, allowances⟩
    exact ⟨escrow, AList.forall_insert checked issued, allowances⟩
  · intro other bucket
    cases bucket <;>
      simp only [holdings, Escrow.offlineIssued, issuedAllowances, AList.total_insert_diff,
        Movement.net_cons, Movement.net_nil, reduceCtorEq, if_true, if_false]
    case offlineIssued =>
      by_cases same : (key.1, key.2.1) = other
      · simp [same]
      · cases db.offline.offlineIssued.lookup key <;> simp [same, Ne.symm same]
    all_goals split <;> simp

theorem raiseIssued_moved (done : raiseIssued key amount db = .ok db') :
    RightsMoved [(.offlineIssued, amount)] (key.1, key.2.1) db db' := by
  unfold raiseIssued at done
  split at done <;> rename_i found
  · exact (writeIssued_moved done).congr (by simp [found])
  · exact (writeIssued_moved done).congr (by simp [found])

theorem lowerIssued_moved (done : lowerIssued key amount db = .ok db') :
    RightsMoved [(.offlineIssued, -amount)] (key.1, key.2.1) db db' := by
  obtain ⟨row, found, _, written⟩ := lowerIssued_ok done
  exact (writeIssued_moved written).congr (by simp [found])

def issuedAmount (row : AllowanceRow) : Int := if row.state = .issued then row.amount else 0

theorem insertAllowance_moved (done : insertAllowance id row db = .ok db')
    (prepared : row.state = .prepared) : RightsMoved [] (row.accountId, row.assetId) db db' := by
  obtain ⟨_, positive, _, _, _, fresh, _, rfl⟩ := insertAllowance_ok done
  refine ⟨?_, ?_, .of_same rfl rfl⟩
  · rintro ⟨escrow, issued, allowances⟩
    exact ⟨escrow, issued, AList.forall_insert positive allowances⟩
  · intro other bucket
    cases bucket <;>
      simp [holdings, Escrow.offlineIssued, issuedAllowances, AList.total_insert_diff, fresh,
        prepared]

theorem updateAllowance_moved {old new : AllowanceRow}
    (done : updateAllowance id old new db = .ok db')
    (found : db.offline.allowances.lookup id = some old) :
    RightsMoved [(.allowances, issuedAmount new - issuedAmount old)]
      (old.accountId, old.assetId) db db' := by
  obtain ⟨⟨frame, _⟩, rfl⟩ := updateAllowance_ok done
  have amount : new.amount = old.amount := by rw [← frame]
  have account : new.accountId = old.accountId := by rw [← frame]
  have asset : new.assetId = old.assetId := by rw [← frame]
  refine ⟨?_, ?_, .of_same rfl rfl⟩
  · rintro ⟨escrow, issued, allowances⟩
    exact ⟨escrow, issued, AList.forall_insert (amount ▸ allowances id old found) allowances⟩
  · intro other bucket
    cases bucket
    case allowances =>
      by_cases owned : (old.accountId, old.assetId) = other
      · simp [holdings, issuedAllowances, AList.total_insert_diff, found, amount, account, asset,
          owned, issuedAmount]
      · simp [holdings, issuedAllowances, AList.total_insert_diff, found, account, asset, owned,
          Ne.symm owned]
    all_goals simp [holdings, Escrow.offlineIssued]

theorem prepareOfflineAllowance_moved {p : Preparation}
    (done : prepareOfflineAllowance p db = .ok (db', answer)) :
    RightsMoved [] (p.device.accountId, p.device.assetId) db db' := by
  rcases prepareOfflineAllowance_ok done with ⟨rfl, _⟩ |
    ⟨device, row, mid, _, _, updated, inserted, namespaced, _, _, _, prepared, _⟩
  · exact RightsMoved.of_same _ rfl rfl rfl
  · have owner : (p.device.accountId, p.device.assetId) = (row.accountId, row.assetId) := by
      rw [← namespaced]
      rfl
    rw [owner]
    exact (updateDevice_moved updated _).trans (insertAllowance_moved inserted prepared)

theorem activateOfflineAllowance_moved {payloadHash : Digest} {signature : Bytes}
    (done : activateOfflineAllowance id payloadHash signature db = .ok (db', answer)) :
    db' = db ∨ ∃ row, db.offline.allowances.lookup id = some row ∧
      RightsMoved [(.regional, -row.amount), (.offlineIssued, row.amount),
        (.allowances, row.amount)] (row.accountId, row.assetId) db db' := by
  obtain ⟨row, found, ⟨_, same⟩ | ⟨prepared, _, lowered, raised, hlowered, hraised, updated⟩⟩ :=
    activateOfflineAllowance_ok done
  · exact .inl same
  · right
    refine ⟨row, found, ?_⟩
    obtain ⟨escrow, hescrow, rfl⟩ := onEscrow_ok hlowered
    have first := RightsMoved.of_shifted (Escrow.lowerRights_shifted hescrow)
    have second := raiseIssued_moved hraised
    obtain ⟨_, _, rfl⟩ := raiseIssued_ok hraised
    have third := updateAllowance_moved updated found
    exact ((first.trans second).trans third).congr (by simp [issuedAmount, prepared])

theorem redeemOfflinePresentation_moved
    (done : redeemOfflinePresentation id r db = .ok (db', answer)) :
    db' = db ∨ ∃ row, db.offline.allowances.lookup id = some row ∧
      RightsMoved [(.offlineIssued, -row.amount), (.total, -row.amount),
        (.allowances, -row.amount)] (row.accountId, row.assetId) db db' := by
  obtain ⟨row, found, _, ⟨_, same⟩ |
    ⟨issued, _, stored, lowered, total, hstored, hlowered, htotal, updated⟩⟩ :=
    redeemOfflinePresentation_ok done
  · exact .inl same
  · right
    refine ⟨row, found, ?_⟩
    have first := insertRedemption_moved hstored (row.accountId, row.assetId)
    obtain ⟨_, _, rfl⟩ := insertRedemption_ok hstored
    have second := lowerIssued_moved hlowered
    obtain ⟨_, _, _, written⟩ := lowerIssued_ok hlowered
    obtain ⟨_, _, _, rfl⟩ := writeIssued_ok written
    obtain ⟨escrow, hescrow, rfl⟩ := onEscrow_ok htotal
    have third := RightsMoved.of_shifted (Escrow.lowerTotal_shifted hescrow)
    have last := updateAllowance_moved updated found
    refine (((first.trans second).trans third).trans last).congr ?_
    intro bucket
    cases bucket <;> simp [issuedAmount, issued]

theorem recordOfflineDomainClosure_moved {evidence : EvidenceRow}
    (done : recordOfflineDomainClosure id hash evidence db = .ok (db', answer))
    (owner : Bytes × Bytes) : RightsMoved [] owner db db' := by
  obtain ⟨_, mid, _, inserted, linked⟩ := recordOfflineDomainClosure_ok done
  have first : RightsMoved [] owner db mid := by
    obtain ⟨_, ⟨rfl, _⟩ | ⟨_, rfl⟩⟩ := insertEvidence_ok inserted <;>
      exact RightsMoved.of_same owner rfl rfl rfl
  have second : RightsMoved [] owner mid db' := by
    obtain ⟨rfl, _⟩ | ⟨_, rfl⟩ := linked <;> exact RightsMoved.of_same owner rfl rfl rfl
  exact first.trans second

theorem terminateOfflineAllowance_moved {answer : Int}
    (done : terminateOfflineAllowance t db = .ok (db', answer)) :
    db' = db ∨ ∃ row, db.offline.allowances.lookup t.allowanceId = some row ∧
      RightsMoved [(.offlineIssued, -row.amount), (.regional, row.amount),
        (.allowances, -row.amount)] (row.accountId, row.assetId) db db' := by
  obtain ⟨row, found, ⟨same, _⟩ | ⟨issued, _, device, fenced, lowered, raised, terminal, proofHash,
    hfenced, _, hlowered, hraised, hterminal, proven⟩⟩ := terminateOfflineAllowance_ok done
  · exact .inl same
  · right
    refine ⟨row, found, ?_⟩
    have first := updateDevice_moved hfenced (row.accountId, row.assetId)
    obtain ⟨_, _, _, rfl⟩ := updateDevice_ok hfenced
    have second := lowerIssued_moved hlowered
    obtain ⟨_, _, _, written⟩ := lowerIssued_ok hlowered
    obtain ⟨_, _, _, rfl⟩ := writeIssued_ok written
    obtain ⟨escrow, hescrow, rfl⟩ := onEscrow_ok hraised
    have third := RightsMoved.of_shifted (Escrow.raiseRights_shifted hescrow)
    have fourth := updateAllowance_moved hterminal found
    have last := insertProof_moved proven (row.accountId, row.assetId)
    have state : t.terminalKind.state ≠ .issued := by cases t.terminalKind <;> decide
    refine ((((first.trans second).trans third).trans fourth).trans last).congr ?_
    intro bucket
    cases bucket <;> simp [issuedAmount, issued, state]

end Offline

theorem applyPaymentEscrowEffect_moved
    (done : Payment.applyPaymentEscrowEffect kind request hash db = .ok (db', answer)) : db' = db ∨
      RightsMoved (kind.movement request.amount) (request.accountId, request.assetId) db db' := by
  obtain ⟨same, _⟩ | ⟨_, _, _, receipt, moved, rfl⟩ := Payment.applyPaymentEscrowEffect_ok done
  · exact .inl same
  · exact .inr (.of_shifted ((insertReceipt_shifted receipt _).trans (moveRights_shifted moved)))

theorem applyTransferEscrowEffect_moved {transferId : Bytes}
    (done : Transfer.applyTransferEscrowEffect kind transferId request db = .ok (db', answer)) :
    db' = db ∨
      RightsMoved (kind.movement request.amount) (request.accountId, request.assetId) db db' := by
  obtain ⟨_, same, _⟩ | ⟨_, _, _, _, _, receipt, moved, rfl⟩ :=
    Transfer.applyTransferEscrowEffect_ok done
  · exact .inl same
  · exact .inr (.of_shifted ((insertReceipt_shifted receipt _).trans (moveRights_shifted moved)))

namespace Provisioning

theorem raiseEscrow_shifted {version : Int}
    (done : raiseEscrow accountId assetId region amount st = .ok (st', version)) :
    Shifted [(.total, amount), (.regional, amount)] (accountId, assetId) st st' := by
  simp only [raiseEscrow, steps_ok] at done
  obtain ⟨_, total, _, rfl, _, right, _, rfl, _, _, rfl, _⟩ := done
  exact (raiseTotal_shifted total).trans (raiseRights_shifted right)

theorem insertZeroEscrow_shifted {answer : Unit}
    (done : insertZeroEscrow E accountId assetId region st = .ok (st', answer)) :
    Shifted [] (accountId, assetId) st st' := by
  simp only [insertZeroEscrow, steps_ok] at done
  obtain ⟨_, _, mid, first, final, second, rfl, _⟩ := done
  have left : Shifted [] (accountId, assetId) st mid := by
    unfold openAuthority at first
    split at first
    · cases first
      exact Shifted.refl _ _
    · rename_i absent
      exact (writeAuthority_shifted first).congr (by simp [authorityColumn, absent])
  have right : Shifted [] (accountId, assetId) mid final := by
    unfold openRights at second
    split at second
    · cases second
      exact Shifted.refl _ _
    · rename_i absent
      exact (writeRights_shifted second).congr (by simp [absent])
  exact left.trans right

theorem deposit_moved {request : DepositRequest} {draw : DepositDraw} {answer : DepositResult}
    (done : deposit config request draw db = .ok (db', answer)) :
    db' = db ∨ RightsMoved [(.total, request.amount), (.regional, request.amount)]
      (request.accountId, request.assetId) db db' := by
  obtain same | ⟨_, _, _, deposited⟩ := deposit_cases done
  · exact .inl same
  · obtain ⟨_, raised⟩ := deposited.raised
    exact .inr (.of_frame (raiseEscrow_shifted raised) (by rw [deposited.frame]))

theorem provisionCustomerAccount_moved {request : CustomerAccountRequest} {draw : CustomerDraw}
    {answer : CustomerAccountResult}
    (done : provisionCustomerAccount config request draw db = .ok (db', answer)) :
    RightsMoved [] (draw.availableId, request.assetId) db db' := by
  obtain rfl | customer := provisionCustomerAccount_cases done
  · exact .of_same _ rfl rfl rfl
  · exact .of_frame (insertZeroEscrow_shifted customer.zero) (by rw [customer.frame])

end Provisioning

end PaymentPlatform
