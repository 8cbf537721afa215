import PaymentPlatform.Offline.Allowances

/-! What a committed call of each offline procedure did: the branch it took and the
statements it made, one lemma per procedure. -/

namespace PaymentPlatform.Offline

open Framing Ledger Serial

variable {E : Engine}
variable {db db' : Database E} {device : Device} {key : Bytes × Bytes × Bytes}
  {id domain keyId : Bytes} {epoch : Int} {st st' : Tables} {reason : KeyTerminationReason}
  {answer : Bool}
variable {amount first : Int} {row : AllowanceRow} {last : Option Int} {expected new : Bytes}
  {r : RedemptionRow} {hash : Digest} {evidence : EvidenceRow} {t : Termination}

theorem onEscrow_ok {statement : Escrow.Tables → Except Escrow.SqlError (Option Escrow.Tables)}
    {missing : SqlError} (done : onEscrow statement missing db = .ok db') :
    ∃ escrow, statement db.escrow = .ok (some escrow) ∧ db' = { db with escrow := escrow } := by
  simp only [onEscrow, steps_ok] at done
  obtain ⟨_, updated, escrow, rfl, rfl⟩ := done
  exact ⟨escrow, updated, rfl⟩

theorem updateDevice_ok {old new : DeviceRow} (done : updateDevice device old new db = .ok db') :
    new.Storable ∧ deviceTransition old new = .ok () ∧ new.Checked ∧
      db' = { db with offline.deviceCounters := db.offline.deviceCounters.insert device new } := by
  simp only [updateDevice, steps_ok] at done
  obtain ⟨_, storable, _, transition, _, checked, rfl⟩ := done
  exact ⟨storable, transition, checked, rfl⟩

theorem writeIssued_ok {row : IssuedRow} (done : writeIssued key row db = .ok db') :
    row.Storable ∧ row.Checked ∧ (db.escrow.regionalRights.lookup key).isSome ∧
      db' = { db with offline.offlineIssued := db.offline.offlineIssued.insert key row } := by
  simp only [writeIssued, steps_ok] at done
  obtain ⟨_, storable, _, checked, _, present, rfl⟩ := done
  exact ⟨storable, checked, present, rfl⟩

theorem lowerIssued_ok (done : lowerIssued key amount db = .ok db') :
    ∃ row, db.offline.offlineIssued.lookup key = some row ∧ amount ≤ row.amount ∧
      writeIssued key ⟨row.amount - amount, row.version + 1⟩ db = .ok db' := by
  simp only [lowerIssued, steps_ok] at done
  obtain ⟨row, found, _, enough, written⟩ := done
  exact ⟨row, found, enough, written⟩

theorem raiseIssued_ok (done : raiseIssued key amount db = .ok db') :
    ∃ row, (db.escrow.regionalRights.lookup key).isSome ∧
      db' = { db with offline.offlineIssued := db.offline.offlineIssued.insert key row } := by
  unfold raiseIssued at done
  split at done <;>
  · obtain ⟨_, _, present, rfl⟩ := writeIssued_ok done
    exact ⟨_, present, rfl⟩

theorem updateAllowance_ok {old new : AllowanceRow} (done : updateAllowance id old new db = .ok db') :
    allowanceTransition old new ∧
      db' = { db with offline.allowances := db.offline.allowances.insert id new } := by
  simp only [updateAllowance, steps_ok] at done
  obtain ⟨_, transition, rfl⟩ := done
  exact ⟨transition, rfl⟩

theorem insertAllowance_ok (done : insertAllowance id row db = .ok db') :
    0 < row.deviceCounter ∧ 0 < row.amount ∧ 0 < row.issuerEpoch ∧ fitsDecimal38 row.amount ∧
      E.acceptsText id = true ∧ db.offline.allowances.lookup id = none ∧
      (∀ other stored, db.offline.allowances.lookup other = some stored →
        ¬ (stored.device = row.device ∧ stored.issuerEpoch = row.issuerEpoch ∧
          stored.deviceCounter = row.deviceCounter)) ∧
      db' = { db with offline.allowances := db.offline.allowances.insert id row } := by
  simp only [insertAllowance, acceptsAll, steps_ok] at done
  obtain ⟨_, texts, _, ⟨fits, _⟩, _, ⟨counter, amount, epoch⟩, _, fresh, _, unique, _, _, rfl⟩ := done
  simp only [List.all_eq_true, Prod.forall, AList.mem_rows, decide_eq_true_eq] at unique
  exact ⟨counter, amount, epoch, fits, texts id (by simp), fresh, unique, rfl⟩

/-- A key is activated inside the domain's coverage, when no key of the domain is valid
and under a name no domain has used. -/
theorem insertActivation_ok (done : insertActivation domain keyId epoch st = .ok st') :
    (∃ row, st.acceptanceDomains.lookup domain = some row ∧ row.covers epoch = true) ∧
      (∀ key other, st.keyActivations.lookup key = some other → key.1 = domain →
        openAt st domain other epoch = false) ∧ st.keyActivations.lookup (domain, epoch) = none ∧
      (∀ key other, st.keyActivations.lookup key = some other → other ≠ keyId) ∧
      st' = { st with keyActivations := st.keyActivations.insert (domain, epoch) keyId } := by
  simp only [insertActivation, steps_ok] at done
  obtain ⟨_, covered, _, closed, _, _, _, fresh, _, unused, rfl⟩ := done
  simp only [List.all_eq_true, Prod.forall, AList.mem_rows, decide_eq_true_eq, not_and,
    Bool.not_eq_true] at closed unused
  refine ⟨?_, fun key other found same => closed key.1 key.2 other found same, fresh,
    fun key other found => unused key.1 key.2 other found, rfl⟩
  simpa [Option.any_eq_true] using covered

/-- A key is terminated after its activation, when it is the domain's last key and no
recorded evidence relies on it from then on. -/
theorem insertTermination_ok (done : insertTermination domain keyId epoch reason st = .ok st') :
    ∃ activated, activationOf st domain keyId = some activated ∧ activated < epoch ∧
      (∀ key other, st.keyActivations.lookup key = some other → key.1 = domain →
        key.2 ≤ activated) ∧ (∀ hash evidence, st.closureEvidence.lookup hash = some evidence →
        evidence.acceptanceDomain = domain → evidence.keyId = keyId →
        evidence.closedSettlementEpoch < epoch) ∧ st.keyTerminations.lookup (domain, keyId) = none ∧
      st' = { st with
        keyTerminations := st.keyTerminations.insert (domain, keyId) ⟨epoch, reason⟩ } := by
  simp only [insertTermination, steps_ok] at done
  obtain ⟨activated, found, _, ⟨later, _⟩, _, last, _, unused, _, _, _, fresh, _, _, rfl⟩ := done
  simp only [List.all_eq_true, Prod.forall, AList.mem_rows, decide_eq_true_eq, not_and,
    not_lt, not_le] at last unused
  exact ⟨activated, found, later, fun key other stored same => last key.1 key.2 other stored same,
    unused, fresh, rfl⟩

theorem configureOfflineAcceptanceDomain_ok
    (done : configureOfflineAcceptanceDomain E domain keyId first last st = .ok (st', answer)) :
    (st' = st ∧ answer = false) ∨ (st.acceptanceDomains.lookup domain = none ∧ answer = true ∧
      insertActivation domain keyId first { st with
        acceptanceDomains := st.acceptanceDomains.insert domain ⟨keyId, first, last⟩ } =
        .ok st') := by
  simp only [configureOfflineAcceptanceDomain, bind_ok] at done
  obtain ⟨_, _, _, _, done⟩ := done
  split at done
  · simp only [steps_ok] at done
    obtain ⟨_, _, rfl, rfl⟩ := done
    exact .inl ⟨rfl, rfl⟩
  · rename_i fresh
    simp only [steps_ok] at done
    obtain ⟨_, _, _, _, _, activated, rfl, rfl⟩ := done
    exact .inr ⟨fresh, rfl, activated⟩

/-- A rotation that was already made is answered as such; another one ends the current
key and activates the new one in its place. -/
theorem rotateOfflineAcceptanceDomainKey_ok
    (done : rotateOfflineAcceptanceDomainKey E domain expected new epoch reason st =
      .ok (st', answer)) : (st' = st ∧ answer = false) ∨ (answer = true ∧ ∃ mid,
      insertTermination domain expected epoch reason st = .ok mid ∧
      insertActivation domain new epoch mid = .ok st') := by
  simp only [rotateOfflineAcceptanceDomainKey, bind_ok] at done
  obtain ⟨_, _, _, _, _, _, done⟩ := done
  split at done
  · simp only [pure_ok, Prod.mk.injEq] at done
    exact .inl ⟨done.1.symm, done.2.symm⟩
  · simp only [steps_ok] at done
    obtain ⟨_, _, _, _, _, _, mid, terminated, _, activated, rfl, rfl⟩ := done
    exact .inr ⟨rfl, mid, terminated, activated⟩

theorem terminateOfflineAcceptanceDomainKey_ok
    (done : terminateOfflineAcceptanceDomainKey E domain expected epoch reason st =
      .ok (st', answer)) : (st' = st ∧ answer = false) ∨ (answer = true ∧
      insertTermination domain expected epoch reason st = .ok st') := by
  simp only [terminateOfflineAcceptanceDomainKey, bind_ok] at done
  obtain ⟨_, _, _, _, _, _, done⟩ := done
  split at done
  · simp only [steps_ok] at done
    obtain ⟨_, _, rfl, rfl⟩ := done
    exact .inl ⟨rfl, rfl⟩
  · simp only [steps_ok] at done
    obtain ⟨_, _, _, _, _, _, _, terminated, rfl, rfl⟩ := done
    exact .inr ⟨rfl, terminated⟩

def OnlyKeys (st st' : Tables) : Prop :=
  st' = { st with
    acceptanceDomains := st'.acceptanceDomains
    keyActivations := st'.keyActivations
    keyTerminations := st'.keyTerminations }

theorem configureOfflineAcceptanceDomain_keys
    (done : configureOfflineAcceptanceDomain E domain keyId first last st = .ok (st', answer)) :
    OnlyKeys st st' := by
  rcases configureOfflineAcceptanceDomain_ok done with ⟨rfl, _⟩ | ⟨_, _, activated⟩
  · rfl
  · obtain ⟨_, _, _, _, rfl⟩ := insertActivation_ok activated
    rfl

theorem rotateOfflineAcceptanceDomainKey_keys
    (done : rotateOfflineAcceptanceDomainKey E domain expected new epoch reason st =
      .ok (st', answer)) : OnlyKeys st st' := by
  rcases rotateOfflineAcceptanceDomainKey_ok done with ⟨rfl, _⟩ | ⟨_, mid, terminated, activated⟩
  · rfl
  · obtain ⟨_, _, _, _, _, _, rfl⟩ := insertTermination_ok terminated
    obtain ⟨_, _, _, _, rfl⟩ := insertActivation_ok activated
    rfl

theorem terminateOfflineAcceptanceDomainKey_keys
    (done : terminateOfflineAcceptanceDomainKey E domain expected epoch reason st =
      .ok (st', answer)) : OnlyKeys st st' := by
  rcases terminateOfflineAcceptanceDomainKey_ok done with ⟨rfl, _⟩ | ⟨_, terminated⟩
  · rfl
  · obtain ⟨_, _, _, _, _, _, rfl⟩ := insertTermination_ok terminated
    rfl

theorem enrollOfflineDevice_ok (done : enrollOfflineDevice device epoch db = .ok (db', answer)) :
    db' = db ∨ (db.offline.deviceCounters.lookup device = none ∧ 0 < epoch ∧ fitsInt8 epoch ∧
      (db.escrow.regionalRights.lookup
        (device.accountId, device.assetId, device.originRegion)).isSome ∧ db' = { db with
        offline.deviceCounters := db.offline.deviceCounters.insert device ⟨epoch, 0, 0⟩ }) := by
  simp only [enrollOfflineDevice, steps_ok] at done
  obtain ⟨_, _, _, positive, done⟩ := done
  split at done
  · simp only [steps_ok] at done
    obtain ⟨_, _, rfl, _⟩ := done
    exact .inl rfl
  · rename_i fresh
    simp only [steps_ok] at done
    obtain ⟨_, fits, _, present, rfl, _⟩ := done
    exact .inr ⟨fresh, positive, fits, present, rfl⟩

theorem advanceOfflineIssuerEpoch_ok {current next : Int}
    (done : advanceOfflineIssuerEpoch device current next db = .ok (db', answer)) :
    next = current + 1 ∧ ∃ row, db.offline.deviceCounters.lookup device = some row ∧
      ((row.issuerEpoch = next ∧ db' = db) ∨ (row.issuerEpoch = current ∧
        updateDevice device row ⟨next, 0, row.fenceVersion + 1⟩ db = .ok db')) := by
  simp only [advanceOfflineIssuerEpoch, steps_ok] at done
  obtain ⟨_, _, _, following, row, found, done⟩ := done
  refine ⟨following, row, found, ?_⟩
  split at done
  · rename_i same
    simp only [steps_ok] at done
    obtain ⟨_, updated, rfl, _⟩ := done
    exact .inr ⟨same, updated⟩
  · simp only [steps_ok] at done
    obtain ⟨_, repeated, rfl, _⟩ := done
    exact .inl ⟨repeated, rfl⟩

theorem prepareOfflineAllowance_ok {p : Preparation}
    (done : prepareOfflineAllowance p db = .ok (db', answer)) :
    (db' = db ∧ ∃ stored, db.offline.allowances.lookup p.allowanceId = some stored) ∨
    ∃ device row mid, db.offline.deviceCounters.lookup p.device = some device ∧
      keysCover db.offline device.issuerEpoch ∧
      updateDevice p.device device { device with lastCounter := device.lastCounter + 1 } db = .ok mid ∧
      insertAllowance p.allowanceId row mid = .ok db' ∧
      row.device = p.device ∧ row.amount = p.amount ∧ row.issuerEpoch = device.issuerEpoch ∧
      row.deviceCounter = device.lastCounter + 1 ∧ row.state = .prepared ∧ row.signature = none ∧
      allowancePayload p.allowanceId row = some row.canonicalPayload ∧
      row.payloadHash = E.sha256 row.canonicalPayload := by
  simp only [prepareOfflineAllowance, bind_ok] at done
  obtain ⟨_, _, done⟩ := done
  split at done
  · rename_i stored found
    simp only [steps_ok] at done
    obtain ⟨_, _, rfl, _⟩ := done
    exact .inl ⟨rfl, stored, found⟩
  · simp only [steps_ok] at done
    obtain ⟨device, found, _, _, _, cover, mid, updated, payload, made, _, inserted, rfl, _⟩ := done
    exact .inr ⟨device, _, mid, found, cover, updated, inserted, rfl, rfl, rfl, rfl, rfl, rfl, made, rfl⟩

theorem activateOfflineAllowance_ok {payloadHash : Digest} {signature : Bytes}
    (done : activateOfflineAllowance id payloadHash signature db = .ok (db', answer)) :
    ∃ row, db.offline.allowances.lookup id = some row ∧ ((row.state ≠ .prepared ∧ db' = db) ∨
      (row.state = .prepared ∧
        (db.offline.deviceCounters.lookup row.device).map DeviceRow.issuerEpoch =
          some row.issuerEpoch ∧ ∃ lowered raised,
          onEscrow (Escrow.lowerRights row.accountId row.assetId row.originRegion row.amount)
            .insufficientRegionalRights db = .ok lowered ∧
          raiseIssued row.rights row.amount lowered = .ok raised ∧
          updateAllowance id row { row with signature := some signature, state := .issued } raised =
            .ok db')) := by
  simp only [activateOfflineAllowance, steps_ok] at done
  obtain ⟨_, _, row, found, _, _, _, _, done⟩ := done
  refine ⟨row, found, ?_⟩
  split at done
  · rename_i later
    simp only [steps_ok] at done
    obtain ⟨_, _, rfl, _⟩ := done
    exact .inl ⟨later, rfl⟩
  · rename_i prepared
    simp only [steps_ok] at done
    obtain ⟨_, epoch, lowered, hlowered, raised, hraised, _, updated, rfl, _⟩ := done
    exact .inr ⟨not_not.mp prepared, epoch, lowered, raised, hlowered, hraised, updated⟩

/-- The unique indexes of the redemption receipts. -/
def RedemptionRow.Distinct (a b : RedemptionRow) : Prop :=
  a.ledgerTransactionId ≠ b.ledgerTransactionId ∧ a.effectId ≠ b.effectId ∧
    a.presentationHash ≠ b.presentationHash ∧
    ¬ (a.acceptanceDomain = b.acceptanceDomain ∧ a.merchantAccountId = b.merchantAccountId ∧
      a.challengeHash = b.challengeHash) ∧
    ¬ (a.deviceIdentityHash = b.deviceIdentityHash ∧ a.presentationCounter = b.presentationCounter)

theorem insertRedemption_ok (done : insertRedemption id row r db = .ok db') :
    db.offline.redemptionReceipts.lookup id = none ∧
      (∀ other stored, db.offline.redemptionReceipts.lookup other = some stored →
        stored.Distinct r) ∧ db' = { db with
        offline.redemptionReceipts := db.offline.redemptionReceipts.insert id r } := by
  simp only [insertRedemption, steps_ok] at done
  obtain ⟨_, _, _, _, _, _, _, fresh, _, unique, rfl⟩ := done
  simp only [List.all_eq_true, Prod.forall, AList.mem_rows, decide_eq_true_eq] at unique
  exact ⟨fresh, unique, rfl⟩

theorem redeemOfflinePresentation_ok (done : redeemOfflinePresentation id r db = .ok (db', answer)) :
    ∃ row, db.offline.allowances.lookup id = some row ∧ r.Binds row ∧
      ((db.offline.redemptionReceipts.lookup id = some r ∧ db' = db) ∨
      (row.state = .issued ∧ redemptionLinked db row r = true ∧ ∃ stored lowered total,
        insertRedemption id row r db = .ok stored ∧
        lowerIssued row.rights row.amount stored = .ok lowered ∧
        onEscrow (Escrow.lowerTotal row.accountId row.assetId row.amount) .totalInconsistent
          lowered = .ok total ∧
        updateAllowance id row { row with state := .redeemed } total = .ok db')) := by
  simp only [redeemOfflinePresentation, steps_ok] at done
  obtain ⟨_, _, _, _, row, found, _, binds, _, _, done⟩ := done
  refine ⟨row, found, binds, ?_⟩
  split at done
  · rename_i stored present
    simp only [steps_ok] at done
    obtain ⟨_, rfl, rfl, _⟩ := done
    exact .inl ⟨present, rfl⟩
  · simp only [steps_ok] at done
    obtain ⟨_, _, _, issued, _, linked, stored, inserted, lowered, hlowered, total, htotal, _,
      updated, rfl, _⟩ := done
    exact .inr ⟨issued, linked, stored, lowered, total, inserted, hlowered, htotal, updated⟩

theorem insertEvidence_ok {inserted : Bool}
    (done : insertEvidence hash evidence db = .ok (db', inserted)) :
    validKeys db.offline evidence.acceptanceDomain evidence.keyId
        evidence.closedSettlementEpoch = 1 ∧
      ((db' = db ∧ db.offline.closureEvidence.lookup hash = some evidence) ∨
        (db.offline.closureEvidence.lookup hash = none ∧ db' = { db with
          offline.closureEvidence := db.offline.closureEvidence.insert hash evidence })) := by
  simp only [insertEvidence, steps_ok] at done
  obtain ⟨_, _, _, _, _, ⟨_, valid⟩, _, _, done⟩ := done
  refine ⟨valid, ?_⟩
  split at done
  · rename_i stored found
    simp only [steps_ok] at done
    obtain ⟨_, rfl, rfl, _⟩ := done
    exact .inl ⟨rfl, found⟩
  · rename_i fresh
    simp only [steps_ok] at done
    obtain ⟨_, _, _, _, rfl, _⟩ := done
    exact .inr ⟨fresh, rfl⟩

theorem recordOfflineDomainClosure_ok
    (done : recordOfflineDomainClosure id hash evidence db = .ok (db', answer)) :
    (∃ row, db.offline.allowances.lookup id = some row ∧ row.device = evidence.device ∧
      evidence.coversAllowance row ∧
      ∃ coverage, db.offline.acceptanceDomains.lookup evidence.acceptanceDomain = some coverage ∧
        coverage.covers row.issuerEpoch = true) ∧
    ∃ mid inserted, insertEvidence hash evidence db = .ok (mid, inserted) ∧
      ((db' = mid ∧ mid.offline.closureLinks.lookup (id, evidence.acceptanceDomain) = some hash) ∨
        (mid.offline.closureLinks.lookup (id, evidence.acceptanceDomain) = none ∧ db' = { mid with
          offline.closureLinks :=
            mid.offline.closureLinks.insert (id, evidence.acceptanceDomain) hash })) := by
  simp only [recordOfflineDomainClosure, steps_ok, Option.any_eq_true, Prod.exists] at done
  obtain ⟨row, found, _, ⟨device, covers⟩, _, ⟨configured, _⟩, _, _, mid, inserted, stored, done⟩ :=
    done
  refine ⟨⟨row, found, device, covers, configured⟩, mid, inserted, stored, ?_⟩
  split at done
  · rename_i link found
    simp only [steps_ok] at done
    obtain ⟨_, rfl, rfl, _⟩ := done
    exact .inl ⟨rfl, found⟩
  · rename_i fresh
    simp only [steps_ok] at done
    obtain ⟨_, _, rfl, _⟩ := done
    exact .inr ⟨fresh, rfl⟩

theorem insertProof_ok {fence : Int} {proofHash : Digest}
    (done : insertProof t fence proofHash db = .ok db') :
    db.offline.redemptionReceipts.lookup t.allowanceId = none ∧ db' = { db with
        offline.nonRedemptionProofs := db.offline.nonRedemptionProofs.insert t.allowanceId
          (t.proofRow fence proofHash) } := by
  simp only [insertProof, steps_ok] at done
  obtain ⟨_, _, _, _, _, _, _, _, _, ⟨_, _, unredeemed⟩, _, _, _, _, rfl⟩ := done
  exact ⟨unredeemed, rfl⟩

theorem terminateOfflineAllowance_ok {answer : Int}
    (done : terminateOfflineAllowance t db = .ok (db', answer)) :
    ∃ row, db.offline.allowances.lookup t.allowanceId = some row ∧
      ((db' = db ∧ (db.offline.nonRedemptionProofs.lookup t.allowanceId).isSome) ∨
      (row.state = .issued ∧ db.offline.redemptionReceipts.lookup t.allowanceId = none ∧
        ∃ device fenced lowered raised terminal proofHash,
          updateDevice row.device device { device with fenceVersion := device.fenceVersion + 1 } db =
            .ok fenced ∧
          db.offline.deviceCounters.lookup row.device = some device ∧
          lowerIssued row.rights row.amount fenced = .ok lowered ∧
          onEscrow (Escrow.raiseRights row.accountId row.assetId row.originRegion row.amount)
            .regionalMissing lowered = .ok raised ∧
          updateAllowance t.allowanceId row { row with state := t.terminalKind.state } raised =
            .ok terminal ∧
          insertProof t (device.fenceVersion + 1) proofHash terminal = .ok db')) := by
  simp only [terminateOfflineAllowance, steps_ok] at done
  obtain ⟨_, _, row, found, _, _, done⟩ := done
  refine ⟨row, found, ?_⟩
  split at done
  · rename_i stored present
    simp only [steps_ok] at done
    obtain ⟨_, _, rfl, _⟩ := done
    exact .inl ⟨rfl, by simp [present]⟩
  · simp only [steps_ok] at done
    obtain ⟨_, _, _, issued, _, _, _, _, _, unredeemed, device, counters, _, _, fenced, hfenced,
      lowered, hlowered, raised, hraised, terminal, hterminal, proofHash, _, _, proven, rfl, _⟩ :=
      done
    exact .inr ⟨issued, unredeemed, device, fenced, lowered, raised, terminal, proofHash, hfenced,
      counters, hlowered, hraised, hterminal, proven⟩

end PaymentPlatform.Offline
