import PaymentPlatform.Offline.Exclusion
import PaymentPlatform.Offline.Windows
import PaymentPlatform.Rights.Rows

/-! What stays true of a stored allowance, of its device and of the closures linked to
it, whatever transactions follow. -/

namespace PaymentPlatform.Offline

open Framing Ledger Serial

variable {E : Engine}
variable {st st' : Tables} {db db' : Database E} {device : Device} {id domain : Bytes}
  {row next : AllowanceRow} {epoch : Int} {answer : Bool} {hash : Digest} {evidence : EvidenceRow}

structure Registered (E : Engine) (st : Tables) (id : Bytes) (row : AllowanceRow) : Prop where
  named : E.acceptsText id = true
  counter : 0 < row.deviceCounter
  epoch : 0 < row.issuerEpoch
  domain : ∃ domain covering, st.acceptanceDomains.lookup domain = some covering ∧
    covering.covers row.issuerEpoch = true
  device : ∃ device, st.deviceCounters.lookup row.device = some device ∧
    row.issuerEpoch ≤ device.issuerEpoch

/-- What the recording of a closure for an allowance found. -/
structure ClosureLinked (st : Tables) (id domain : Bytes) (hash : Digest) (row : AllowanceRow)
    (evidence : EvidenceRow) : Prop where
  allowance : st.allowances.lookup id = some row
  recorded : st.closureEvidence.lookup hash = some evidence
  here : evidence.acceptanceDomain = domain
  device : evidence.device = row.device
  covers : evidence.coversAllowance row
  covering : ∃ coverage, st.acceptanceDomains.lookup domain = some coverage ∧
    coverage.covers row.issuerEpoch = true

/-- One transaction: rows are added, and those that were there go on. -/
structure Extends (db db' : Database E) : Prop where
  advances : Advances db.offline db'.offline
  devices : ∀ device row, db.offline.deviceCounters.lookup device = some row →
    ∃ next, db'.offline.deviceCounters.lookup device = some next ∧
      row.issuerEpoch ≤ next.issuerEpoch
  checked : ∀ device row, db'.offline.deviceCounters.lookup device = some row →
    db.offline.deviceCounters.lookup device = some row ∨ (row.Storable ∧ row.Checked)
  continued : ∀ id row, db.offline.allowances.lookup id = some row →
    ∃ next, db'.offline.allowances.lookup id = some next ∧ Continues row next
  allowances : ∀ id next, db'.offline.allowances.lookup id = some next →
    (∃ row, db.offline.allowances.lookup id = some row ∧ Continues row next) ∨
      Registered E db'.offline id next
  links : ∀ id domain hash, db'.offline.closureLinks.lookup (id, domain) = some hash →
    db.offline.closureLinks.lookup (id, domain) = some hash ∨
      ∃ row evidence, ClosureLinked db'.offline id domain hash row evidence
  issued : ∀ key row, db'.offline.offlineIssued.lookup key = some row →
    (∃ old, db.offline.offlineIssued.lookup key = some old) ∨
      (db'.escrow.regionalRights.lookup key).isSome

theorem Continues.refl (row : AllowanceRow) : Continues row row := rfl

structure SameRegisters (st st' : Tables) : Prop where
  devices : st'.deviceCounters = st.deviceCounters
  allowances : st'.allowances = st.allowances
  links : st'.closureLinks = st.closureLinks
  issued : st'.offlineIssued = st.offlineIssued

theorem SameRegisters.refl (st : Tables) : SameRegisters st st := ⟨rfl, rfl, rfl, rfl⟩

theorem Extends.of_same (advances : Advances db.offline db'.offline)
    (same : SameRegisters db.offline db'.offline) : Extends db db' where
  advances := advances
  devices := fun _ row found => ⟨row, by rw [same.devices, found], Int.le_refl _⟩
  checked := fun _ _ found => .inl (same.devices ▸ found)
  continued := fun _ row found => ⟨row, by rw [same.allowances, found], .refl row⟩
  allowances := fun _ next found => .inl ⟨next, same.allowances ▸ found, .refl next⟩
  links := fun _ _ _ found => .inl (same.links ▸ found)
  issued := fun _ row found => .inl ⟨row, same.issued ▸ found⟩

theorem Extends.refl (db : Database E) : Extends db db := .of_same (.refl _) (.refl _)

theorem SameHistory.advances (same : SameHistory st st') : Advances st st' :=
  ⟨fun windows => windows.same same, fun _ _ h => same.domains ▸ h,
    fun _ _ h => same.activations ▸ h, fun _ _ h => same.terminations ▸ h,
    fun _ _ h => same.evidence ▸ h⟩

theorem device_written {new : DeviceRow} (fits : new.Storable ∧ new.Checked)
    (later : ∀ old, st.deviceCounters.lookup device = some old → old.issuerEpoch ≤ new.issuerEpoch)
    (devices : st'.deviceCounters = st.deviceCounters.insert device new) :
    (∀ other row, st.deviceCounters.lookup other = some row →
      ∃ next, st'.deviceCounters.lookup other = some next ∧ row.issuerEpoch ≤ next.issuerEpoch) ∧
    ∀ other row, st'.deviceCounters.lookup other = some row →
      st.deviceCounters.lookup other = some row ∨ (row.Storable ∧ row.Checked) := by
  constructor
  · intro other row found
    rw [devices, AList.lookup_insert_if]
    by_cases same : other = device
    · exact ⟨new, if_pos same, later row (same ▸ found)⟩
    · exact ⟨row, by rw [if_neg same, found], Int.le_refl _⟩
  · intro other row found
    rw [devices, AList.lookup_insert_if] at found
    split at found
    · cases found
      exact .inr fits
    · exact .inl found

theorem allowance_continued (found : st.allowances.lookup id = some row)
    (continues : Continues row next) (allowances : st'.allowances = st.allowances.insert id next) :
    (∀ other stored, st.allowances.lookup other = some stored →
      ∃ after, st'.allowances.lookup other = some after ∧ Continues stored after) ∧
    ∀ other after, st'.allowances.lookup other = some after →
      ∃ stored, st.allowances.lookup other = some stored ∧ Continues stored after := by
  constructor
  · intro other stored present
    rw [allowances, AList.lookup_insert_if]
    by_cases same : other = id
    · subst same
      cases found.symm.trans present
      exact ⟨next, if_pos rfl, continues⟩
    · exact ⟨stored, by rw [if_neg same, present], .refl stored⟩
  · intro other after present
    rw [allowances, AList.lookup_insert_if] at present
    split at present
    · rename_i same
      cases present
      exact ⟨row, same ▸ found, continues⟩
    · exact ⟨after, present, .refl after⟩

theorem issued_written {key : Bytes × Bytes × Bytes} {row : IssuedRow}
    (issued : db'.offline.offlineIssued = db.offline.offlineIssued.insert key row)
    (present : (db'.escrow.regionalRights.lookup key).isSome) :
    ∀ other stored, db'.offline.offlineIssued.lookup other = some stored →
      (∃ old, db.offline.offlineIssued.lookup other = some old) ∨
        (db'.escrow.regionalRights.lookup other).isSome := by
  intro other stored found
  rw [issued, AList.lookup_insert_if] at found
  split at found
  · rename_i same
    exact .inr (same ▸ present)
  · exact .inl ⟨stored, found⟩

theorem Extends.of_device (history : SameHistory db.offline db'.offline) {new : DeviceRow}
    (devices : db'.offline.deviceCounters = db.offline.deviceCounters.insert device new)
    (later : ∀ old, db.offline.deviceCounters.lookup device = some old →
      old.issuerEpoch ≤ new.issuerEpoch) (fits : new.Storable ∧ new.Checked)
    (allowances : db'.offline.allowances = db.offline.allowances)
    (links : db'.offline.closureLinks = db.offline.closureLinks)
    (issued : db'.offline.offlineIssued = db.offline.offlineIssued) : Extends db db' where
  advances := history.advances
  devices := (device_written fits later devices).1
  checked := (device_written fits later devices).2
  continued := fun _ row found => ⟨row, by rw [allowances, found], .refl row⟩
  allowances := fun _ next found => .inl ⟨next, allowances ▸ found, .refl next⟩
  links := fun _ _ _ found => .inl (links ▸ found)
  issued := fun _ row found => .inl ⟨row, issued ▸ found⟩

theorem enrollOfflineDevice_extends (done : enrollOfflineDevice device epoch db = .ok (db', answer)) :
    Extends db db' := by
  rcases enrollOfflineDevice_ok done with rfl | ⟨fresh, positive, fits, _, rfl⟩
  · exact .refl _
  · have zero : fitsInt8 0 := by decide
    exact .of_device ⟨rfl, rfl, rfl, rfl⟩ rfl (fun old found => by rw [fresh] at found; cases found)
      ⟨⟨fits, zero, zero⟩, positive, Int.le_refl 0, Int.le_refl 0⟩ rfl rfl rfl

theorem advanceOfflineIssuerEpoch_extends {current next : Int}
    (done : advanceOfflineIssuerEpoch device current next db = .ok (db', answer)) :
    Extends db db' := by
  obtain ⟨following, row, found, ⟨_, rfl⟩ | ⟨epoch, updated⟩⟩ := advanceOfflineIssuerEpoch_ok done
  · exact .refl _
  · obtain ⟨storable, _, checked, rfl⟩ := updateDevice_ok updated
    refine .of_device ⟨rfl, rfl, rfl, rfl⟩ rfl ?_ ⟨storable, checked⟩ rfl rfl rfl
    intro old present
    cases found.symm.trans present
    dsimp only
    omega

theorem keysCover_covering (cover : keysCover st epoch) :
    ∃ domain covering, st.acceptanceDomains.lookup domain = some covering ∧
      covering.covers epoch = true := by
  obtain ⟨⟨domain, covering⟩, member⟩ := List.exists_mem_of_ne_nil _ cover.1
  obtain ⟨stored, covers⟩ := List.mem_filter.mp member
  exact ⟨domain, covering, (AList.mem_rows _ _ _).mp stored, covers⟩

theorem prepareOfflineAllowance_extends {p : Preparation}
    (done : prepareOfflineAllowance p db = .ok (db', answer)) : Extends db db' := by
  rcases prepareOfflineAllowance_ok done with
    ⟨rfl, _⟩ | ⟨device, row, mid, found, cover, updated, inserted, owner, _, epoch, _⟩
  · exact .refl _
  obtain ⟨storable, _, checked, rfl⟩ := updateDevice_ok updated
  obtain ⟨counter, _, positive, _, named, fresh, _, rfl⟩ := insertAllowance_ok inserted
  have later : ∀ old, db.offline.deviceCounters.lookup p.device = some old →
      old.issuerEpoch ≤ device.issuerEpoch := by
    intro old stored
    cases found.symm.trans stored
    exact Int.le_refl _
  refine ⟨SameHistory.advances ⟨rfl, rfl, rfl, rfl⟩,
    (device_written ⟨storable, checked⟩ later rfl).1,
    (device_written ⟨storable, checked⟩ later rfl).2, ?_, ?_, ?_, ?_⟩
  · intro id stored before
    exact ⟨stored, AList.lookup_insert_fresh fresh row before, .refl stored⟩
  · intro id next after
    simp only [AList.lookup_insert_if] at after
    split at after
    · rename_i same
      subst same
      cases after
      refine .inr ⟨named, counter, positive, ?_, ?_⟩
      · rw [epoch]
        exact keysCover_covering cover
      · refine ⟨{ device with lastCounter := device.lastCounter + 1 }, ?_, Int.le_of_eq epoch⟩
        rw [owner]
        exact AList.lookup_insert _
    · exact .inl ⟨next, after, .refl next⟩
  · exact fun _ _ _ link => .inl link
  · exact fun _ old stored => .inl ⟨old, stored⟩

/-- A transaction that takes one allowance on and writes the issued authority of its
region. -/
theorem Extends.of_allowance (history : SameHistory db.offline db'.offline)
    (devices : ∀ device row, db.offline.deviceCounters.lookup device = some row →
      ∃ next, db'.offline.deviceCounters.lookup device = some next ∧
        row.issuerEpoch ≤ next.issuerEpoch)
    (checked : ∀ device row, db'.offline.deviceCounters.lookup device = some row →
      db.offline.deviceCounters.lookup device = some row ∨ (row.Storable ∧ row.Checked))
    (found : db.offline.allowances.lookup id = some row) (continues : Continues row next)
    (allowances : db'.offline.allowances = db.offline.allowances.insert id next)
    (links : db'.offline.closureLinks = db.offline.closureLinks) {issuedRow : IssuedRow}
    (issued : db'.offline.offlineIssued = db.offline.offlineIssued.insert row.rights issuedRow)
    (present : (db'.escrow.regionalRights.lookup row.rights).isSome) : Extends db db' where
  advances := history.advances
  devices := devices
  checked := checked
  continued := (allowance_continued found continues allowances).1
  allowances := fun other after stored =>
    .inl ((allowance_continued found continues allowances).2 other after stored)
  links := fun _ _ _ link => .inl (links ▸ link)
  issued := issued_written issued present

theorem activateOfflineAllowance_extends {payloadHash : Digest} {signature : Bytes}
    (done : activateOfflineAllowance id payloadHash signature db = .ok (db', answer)) :
    Extends db db' := by
  obtain ⟨row, found, ⟨_, rfl⟩ | ⟨state, _, lowered, raised, hlowered, hraised, updated⟩⟩ :=
    activateOfflineAllowance_ok done
  · exact .refl _
  · obtain ⟨escrow, statement, rfl⟩ := onEscrow_ok hlowered
    obtain ⟨issuedRow, present, rfl⟩ := raiseIssued_ok hraised
    obtain ⟨⟨frame, _⟩, rfl⟩ := updateAllowance_ok updated
    exact .of_allowance ⟨rfl, rfl, rfl, rfl⟩ (Extends.refl db).devices (Extends.refl db).checked found
      frame rfl rfl rfl present

theorem redeemOfflinePresentation_extends {r : RedemptionRow}
    (done : redeemOfflinePresentation id r db = .ok (db', answer)) : Extends db db' := by
  obtain ⟨row, found, _, ⟨_, rfl⟩ | ⟨state, linked, stored, lowered, total, inserted, hlowered,
    htotal, updated⟩⟩ := redeemOfflinePresentation_ok done
  · exact .refl _
  · obtain ⟨fresh, distinct, rfl⟩ := insertRedemption_ok inserted
    obtain ⟨_, _, _, written⟩ := lowerIssued_ok hlowered
    obtain ⟨_, _, present, rfl⟩ := writeIssued_ok written
    obtain ⟨escrow, statement, rfl⟩ := onEscrow_ok htotal
    obtain ⟨⟨frame, _⟩, rfl⟩ := updateAllowance_ok updated
    exact .of_allowance ⟨rfl, rfl, rfl, rfl⟩ (Extends.refl db).devices (Extends.refl db).checked found
      frame rfl rfl rfl ((Escrow.lowerTotal_shifted statement).kept.rights _ present)

theorem terminateOfflineAllowance_extends {t : Termination} {answer : Int}
    (done : terminateOfflineAllowance t db = .ok (db', answer)) : Extends db db' := by
  obtain ⟨row, found, ⟨rfl, _⟩ | ⟨state, _, device, fenced, lowered, raised, terminal, proofHash,
    hfenced, counters, hlowered, hraised, hterminal, proven⟩⟩ := terminateOfflineAllowance_ok done
  · exact .refl _
  · obtain ⟨storable, _, checked, rfl⟩ := updateDevice_ok hfenced
    obtain ⟨_, _, _, written⟩ := lowerIssued_ok hlowered
    obtain ⟨_, _, present, rfl⟩ := writeIssued_ok written
    obtain ⟨escrow, statement, rfl⟩ := onEscrow_ok hraised
    obtain ⟨⟨frame, _⟩, rfl⟩ := updateAllowance_ok hterminal
    obtain ⟨_, rfl⟩ := insertProof_ok proven
    have later : ∀ old, db.offline.deviceCounters.lookup row.device = some old →
        old.issuerEpoch ≤ device.issuerEpoch := by
      intro old stored
      cases counters.symm.trans stored
      exact Int.le_refl _
    exact .of_allowance ⟨rfl, rfl, rfl, rfl⟩ (device_written ⟨storable, checked⟩ later rfl).1
      (device_written ⟨storable, checked⟩ later rfl).2 found frame rfl rfl rfl
      ((Escrow.raiseRights_shifted statement).kept.rights _ present)

theorem recordOfflineDomainClosure_extends
    (done : recordOfflineDomainClosure id hash evidence db = .ok (db', answer)) :
    Extends db db' := by
  have advances := recordClosure_advances done
  obtain ⟨⟨row, found, device, covers, configured⟩, mid, inserted, stored, last⟩ :=
    recordOfflineDomainClosure_ok done
  have recorded : mid.offline.closureEvidence.lookup hash = some evidence ∧
      mid.offline.acceptanceDomains = db.offline.acceptanceDomains ∧
      SameRegisters db.offline mid.offline := by
    obtain ⟨_, ⟨rfl, present⟩ | ⟨_, rfl⟩⟩ := insertEvidence_ok stored
    · exact ⟨present, rfl, .refl _⟩
    · exact ⟨AList.lookup_insert _, rfl, rfl, rfl, rfl, rfl⟩
  obtain ⟨present, domains, same⟩ := recorded
  rcases last with ⟨rfl, _⟩ | ⟨_, rfl⟩
  · exact .of_same advances same
  · constructor
    case advances => exact advances
    case devices => exact fun _ row found => ⟨row, same.devices ▸ found, Int.le_refl _⟩
    case checked => exact fun _ _ found => .inl (same.devices ▸ found)
    case continued => exact fun _ row found => ⟨row, same.allowances ▸ found, .refl row⟩
    case allowances => exact fun _ next found => .inl ⟨next, same.allowances ▸ found, .refl next⟩
    case issued => exact fun _ row found => .inl ⟨row, same.issued ▸ found⟩
    case links =>
      intro other domain digest link
      simp only [AList.lookup_insert_if] at link
      split at link
      · rename_i own
        cases own
        cases link
        refine .inr ⟨row, evidence, ?_, present, rfl, device.symm, covers, ?_⟩
        · simpa only [same.allowances] using found
        · simpa only [domains] using configured
      · exact .inl (same.links ▸ link)

/-- A step of the rights run takes one step of at most one life and extends the
registers. -/
structure Registers (db db' : Database E) : Prop where
  life : Life db'.ledger db.offline db'.offline
  extension : Extends db db'

theorem Registers.of_offline (same : db'.offline = db.offline) : Registers db db' := by
  refine ⟨.same (by rw [same]) (by rw [same]) (by rw [same]) (by simp [same]), .of_same ?_ ?_⟩
  · rw [same]
    exact .refl _
  · rw [same]
    exact .refl _

theorem Registers.refl (db : Database E) : Registers db db := .of_offline rfl

theorem registers_commit {ε α : Type} {body : Database E → Except ε (Database E × α)}
    (committed : ∀ db' answer, body db = .ok (db', answer) → Registers db db') :
    Registers db (commit body db) :=
  commit_preserves body (Registers db) (.refl db) committed

theorem registers_overOffline {ε α : Type} {body : Tables → Except ε (Tables × α)}
    (committed : ∀ st' answer, body db.offline = .ok (st', answer) →
      Advances db.offline st' ∧ OnlyKeys db.offline st') : Registers db (overOffline body db) := by
  unfold overOffline
  refine commit_preserves body (fun st' => Registers db { db with offline := st' }) (.refl db) ?_
  intro st' answer done
  obtain ⟨advances, keys⟩ := committed st' answer done
  refine ⟨?_, .of_same advances ?_⟩ <;> rw [keys]
  · exact .same rfl rfl rfl fun _ => rfl
  · exact ⟨rfl, rfl, rfl, rfl⟩

theorem rightsStep_registers (db : Database E) (command : RightsCommand E) :
    Registers db (rightsStep db command) := by
  cases command with
  | paymentEffect =>
    refine registers_commit fun _ _ done => .of_offline ?_
    obtain ⟨rfl, _⟩ | ⟨_, _, _, _, _, rfl⟩ := Payment.applyPaymentEscrowEffect_ok done <;> rfl
  | transferEffect =>
    refine registers_commit fun _ _ done => .of_offline ?_
    rw [(Escrow.applyTransferEscrowEffect_applied done).1]
  | provision =>
    refine registers_commit fun _ _ done => .of_offline ?_
    obtain rfl | customer := Provisioning.provisionCustomerAccount_cases done
    · rfl
    · rw [customer.frame]
  | deposit =>
    refine registers_commit fun _ _ done => .of_offline ?_
    obtain rfl | ⟨_, _, _, deposited⟩ := Provisioning.deposit_cases done
    · rfl
    · rw [deposited.frame]
  | configureDomain =>
    exact registers_overOffline fun _ _ done =>
      ⟨configure_advances done, configureOfflineAcceptanceDomain_keys done⟩
  | rotateKey =>
    exact registers_overOffline fun _ _ done =>
      ⟨rotate_advances done, rotateOfflineAcceptanceDomainKey_keys done⟩
  | terminateKey =>
    exact registers_overOffline fun _ _ done =>
      ⟨terminate_advances done, terminateOfflineAcceptanceDomainKey_keys done⟩
  | enroll =>
    exact registers_commit fun _ _ done =>
      ⟨(enrollOfflineDevice_lived done).2, enrollOfflineDevice_extends done⟩
  | advanceEpoch =>
    exact registers_commit fun _ _ done =>
      ⟨(advanceOfflineIssuerEpoch_lived done).2, advanceOfflineIssuerEpoch_extends done⟩
  | prepare =>
    exact registers_commit fun _ _ done =>
      ⟨(prepareOfflineAllowance_lived done).2, prepareOfflineAllowance_extends done⟩
  | activate =>
    exact registers_commit fun _ _ done =>
      ⟨(activateOfflineAllowance_lived done).2, activateOfflineAllowance_extends done⟩
  | redeem =>
    exact registers_commit fun _ _ done =>
      ⟨(redeemOfflinePresentation_lived done).1.2, redeemOfflinePresentation_extends done⟩
  | recordClosure =>
    exact registers_commit fun _ _ done =>
      ⟨(recordOfflineDomainClosure_lived done).2, recordOfflineDomainClosure_extends done⟩
  | terminate =>
    exact registers_commit fun _ _ done =>
      ⟨(terminateOfflineAllowance_lived done).2, terminateOfflineAllowance_extends done⟩
  -- the other calls do not write the offline tables
  | createAuthority => exact .of_offline rfl
  | allocate => exact .of_offline rfl
  | spend => exact .of_offline rfl
  | giveBack => exact .of_offline rfl
  | initiate => exact .of_offline rfl
  | attachCertificate => exact .of_offline rfl
  | consume => exact .of_offline rfl
  | attachReceipt => exact .of_offline rfl
  | acknowledge => exact .of_offline rfl
  | elsewhere => exact .of_offline rfl

structure Recoverable (db : Database E) : Prop where
  windows : Windows db.offline
  devices : ∀ device row, db.offline.deviceCounters.lookup device = some row →
    row.Storable ∧ row.Checked
  allowances : ∀ id row, db.offline.allowances.lookup id = some row → Registered E db.offline id row
  links : ∀ id domain hash, db.offline.closureLinks.lookup (id, domain) = some hash →
    ∃ row evidence, ClosureLinked db.offline id domain hash row evidence
  rights : ∀ key row, db.offline.offlineIssued.lookup key = some row →
    (db.escrow.regionalRights.lookup key).isSome
  exclusive : Exclusive db.offline
  law : RightsLaw db
  storable : ∀ key row, db.escrow.authorities.lookup key = some row → row.Storable

theorem Continues.registered (continues : Continues row next) (registered : Registered E st id row)
    (domains : ∀ domain covering, st.acceptanceDomains.lookup domain = some covering →
      st'.acceptanceDomains.lookup domain = some covering)
    (devices : ∀ device row, st.deviceCounters.lookup device = some row →
      ∃ next, st'.deviceCounters.lookup device = some next ∧ row.issuerEpoch ≤ next.issuerEpoch) :
    Registered E st' id next := by
  rw [Continues] at continues
  rw [← continues] at registered
  obtain ⟨named, counter, epoch, ⟨domain, covering, configured, covers⟩, device, present, later⟩ :=
    registered
  obtain ⟨after, found, advanced⟩ := devices _ device present
  exact ⟨named, counter, epoch, ⟨domain, covering, domains domain covering configured, covers⟩,
    after, found, Int.le_trans later advanced⟩

theorem Continues.linked (continues : Continues row next)
    (linked : ClosureLinked st id domain hash row evidence)
    (found : st'.allowances.lookup id = some next) (appends : Appends st st') :
    ClosureLinked st' id domain hash next evidence := by
  rw [Continues] at continues
  rw [← continues] at linked
  obtain ⟨_, recorded, here, device, covers, coverage, configured, covering⟩ := linked
  exact ⟨found, appends.evidence hash evidence recorded, here, device, covers, coverage,
    appends.domains domain coverage configured, covering⟩

theorem Recoverable.step (inv : Recoverable db) (registers : Registers db db')
    (rows : Escrow.RowsKept db.escrow db'.escrow) (law : RightsLaw db') : Recoverable db' := by
  obtain ⟨life, extension⟩ := registers
  constructor
  case windows => exact extension.advances.windows inv.windows
  case devices =>
    intro device row found
    rcases extension.checked device row found with before | fits
    · exact inv.devices device row before
    · exact fits
  case allowances =>
    intro id next found
    rcases extension.allowances id next found with ⟨row, before, continues⟩ | registered
    · exact continues.registered (inv.allowances id row before) extension.advances.appends.domains
        extension.devices
    · exact registered
  case links =>
    intro id domain hash link
    rcases extension.links id domain hash link with before | linked
    · obtain ⟨row, evidence, linked⟩ := inv.links id domain hash before
      obtain ⟨next, found, continues⟩ := extension.continued id row linked.allowance
      exact ⟨next, evidence, continues.linked linked found extension.advances.appends⟩
    · exact linked
  case rights =>
    intro key row found
    rcases extension.issued key row found with ⟨old, before⟩ | present
    · exact rows.rights key (inv.rights key old before)
    · exact present
  case exclusive => exact inv.exclusive.step life
  case law => exact law
  case storable => exact rows.storable inv.storable

theorem withoutRights_recoverable (db : Database E) : Recoverable db.withoutRights := by
  constructor
  case windows => refine ⟨?_, ?_, ?_, ?_⟩ <;> simp [Database.withoutRights]
  case exclusive => exact empty_exclusive
  case law => exact withoutRights_law db
  all_goals simp [Database.withoutRights]

theorem rightsRun_recoverable (db : Database E) (commands : List (RightsCommand E)) :
    Recoverable (run rightsStep db.withoutRights commands) := by
  refine run_preserves rightsStep Recoverable ?_ commands (withoutRights_recoverable db)
  intro db command inv
  exact inv.step (rightsStep_registers db command) (rightsStep_kept db command)
    (rightsStep_law db command inv.law)

end PaymentPlatform.Offline
