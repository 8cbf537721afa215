import PaymentPlatform.Offline.Registers

/-! Recovering the authority of an unredeemed allowance. With every required domain
closed, terminate_offline_allowance compares the allowance's counter with the device's
current one; an epoch advance resets the latter, so it is this comparison, and not the
closure, that decides. -/

namespace PaymentPlatform.Offline

open Framing Ledger Serial Escrow

variable {E : Engine}
variable {st : Tables} {domain id : Bytes} {hash : Digest} {device : DeviceRow} {amount : Int}
  {issued : IssuedRow} {right : RightsRow}

def FullyClosed (st : Tables) (id : Bytes) (row : AllowanceRow) : Prop :=
  ∀ domain coverage, st.acceptanceDomains.lookup domain = some coverage →
    coverage.covers row.issuerEpoch = true → (st.closureLinks.lookup (id, domain)).isSome

instance (st : Tables) (id : Bytes) (row : AllowanceRow) : Decidable (FullyClosed st id row) :=
  decidable_of_iff (∀ e ∈ st.acceptanceDomains.rows, e.2.covers row.issuerEpoch = true →
      (st.closureLinks.lookup (id, e.1)).isSome) (by
    simp only [Prod.forall, AList.mem_rows, FullyClosed])

theorem length_eq_one_of_unique {α : Type} {l : List α} {a : α} (nodup : l.Nodup) (member : a ∈ l)
    (unique : ∀ b ∈ l, b = a) : l.length = 1 := by
  cases l with
  | nil => cases member
  | cons first rest =>
    have head := unique first List.mem_cons_self
    have tail : rest = [] := by
      rw [List.eq_nil_iff_forall_not_mem]
      intro b inside
      have same := unique b (List.mem_cons_of_mem _ inside)
      rw [same, ← head] at inside
      exact (List.nodup_cons.mp nodup).1 inside
    rw [tail]
    rfl

theorem Windows.validKeys (windows : Windows st) {keyId : Bytes} {activated epoch : Int}
    (valid : ValidAt st domain activated keyId epoch) : validKeys st domain keyId epoch = 1 := by
  unfold Offline.validKeys activationsAt
  apply length_eq_one_of_unique (a := ((domain, activated), keyId))
  · exact (AList.rows_nodup _).filter _ |>.filter _
  · simp [List.mem_filter, AList.mem_rows, valid.key, valid.active, valid.unterminated]
  · rintro ⟨⟨other, begun⟩, key⟩ member
    simp only [List.mem_filter, AList.mem_rows, Bool.and_eq_true, decide_eq_true_eq] at member
    obtain ⟨⟨stored, ⟨rfl, active⟩, unterminated⟩, rfl⟩ := member
    have same := windows.named _ _ key stored valid.key
    rw [same]

theorem linksOf_domains_nodup (st : Tables) (id : Bytes) :
    ((linksOf st id).map Prod.fst).Nodup := by
  rw [linksOf, List.map_map]
  refine List.Nodup.map_on ?_ ((AList.rows_nodup _).filter _)
  rintro ⟨⟨owner, domain⟩, hash⟩ member ⟨⟨owner', domain'⟩, hash'⟩ member' same
  simp only [List.mem_filter, AList.mem_rows, decide_eq_true_eq, Function.comp_apply] at member member' same
  obtain ⟨found, rfl⟩ := member
  obtain ⟨found', rfl⟩ := member'
  subst same
  rw [Option.some.inj (found.symm.trans found')]

theorem requiredDomains_nodup (st : Tables) (epoch : Int) :
    ((requiredDomains st epoch).map Prod.fst).Nodup := by
  refine List.Nodup.map_on ?_ ((AList.rows_nodup _).filter _)
  rintro ⟨domain, row⟩ member ⟨domain', row'⟩ member' same
  simp only [requiredDomains, List.mem_filter, AList.mem_rows] at member member' same
  subst same
  rw [Option.some.inj (member.1.symm.trans member'.1)]

theorem mem_linksOf :
    (domain, hash) ∈ linksOf st id ↔ st.closureLinks.lookup (id, domain) = some hash := by
  simp only [linksOf, List.mem_map, List.mem_filter, AList.mem_rows, decide_eq_true_eq,
    Prod.exists, Prod.mk.injEq]
  constructor
  · rintro ⟨owner, domain', hash', ⟨found, rfl⟩, rfl, rfl⟩
    exact found
  · exact fun found => ⟨id, domain, hash, ⟨found, rfl⟩, rfl, rfl⟩

theorem ClosureLinked.activations {row : AllowanceRow} {evidence : EvidenceRow}
    (linked : ClosureLinked st id domain hash row evidence) (windows : Windows st) :
    linkedActivations st row (domain, hash) = 1 := by
  obtain ⟨coverage, configured, covering⟩ := linked.covering
  obtain ⟨activated, valid⟩ := windows.evidence hash evidence linked.recorded
  simp only [linkedActivations, linked.recorded, configured]
  rw [if_pos ⟨linked.here, covering, linked.device, linked.covers⟩]
  exact windows.validKeys valid

theorem Recoverable.closureComplete {db : Database E} (inv : Recoverable db) {row : AllowanceRow}
    (found : db.offline.allowances.lookup id = some row) (closed : FullyClosed db.offline id row) :
    closureComplete db.offline id row := by
  -- the linked domains are exactly the required ones
  have members : ∀ domain, domain ∈ (linksOf db.offline id).map Prod.fst ↔
      domain ∈ (requiredDomains db.offline row.issuerEpoch).map Prod.fst := by
    intro domain
    simp only [List.mem_map, Prod.exists, exists_and_right, exists_eq_right, mem_linksOf,
      requiredDomains, List.mem_filter, AList.mem_rows]
    constructor
    · rintro ⟨hash, link⟩
      obtain ⟨row', evidence, linked⟩ := inv.links id domain hash link
      cases found.symm.trans linked.allowance
      exact linked.covering
    · rintro ⟨coverage, configured, covering⟩
      exact Option.isSome_iff_exists.mp (closed domain coverage configured covering)
  have count : (linksOf db.offline id).length =
      (requiredDomains db.offline row.issuerEpoch).length := by
    have perm := (List.perm_ext_iff_of_nodup (linksOf_domains_nodup _ _)
      (requiredDomains_nodup _ _)).mpr members
    simpa using perm.length_eq
  refine ⟨?_, count, ?_⟩
  · obtain ⟨domain, coverage, configured, covering⟩ := (inv.allowances id row found).domain
    apply List.length_eq_zero_iff.not.mpr
    intro none
    have member : (domain, coverage) ∈ requiredDomains db.offline row.issuerEpoch := by
      simp [requiredDomains, List.mem_filter, AList.mem_rows, configured, covering]
    rw [none] at member
    cases member
  · have ones : (linksOf db.offline id).map (linkedActivations db.offline row) =
        (linksOf db.offline id).map fun _ => 1 := by
      apply List.map_congr_left
      rintro ⟨domain, hash⟩ member
      obtain ⟨row', evidence, linked⟩ := inv.links id domain hash (mem_linksOf.mp member)
      cases found.symm.trans linked.allowance
      exact linked.activations inv.windows
    rw [ones, List.map_const', count]
    simp

def availableAt (st : Escrow.Tables) (key : Bytes × Bytes × Bytes) : Int :=
  ((st.regionalRights.lookup key).map RightsRow.available).getD 0

/-- The rows of an issued allowance: the region's issued authority covers its amount, and
the right of the region can take it back. -/
structure Backed (db : Database E) (row : AllowanceRow) (issued : IssuedRow) (right : RightsRow) :
    Prop where
  issuedRow : db.offline.offlineIssued.lookup row.rights = some issued
  rightRow : db.escrow.regionalRights.lookup row.rights = some right
  positive : 0 < row.amount
  enough : row.amount ≤ issued.amount
  versions : 0 ≤ issued.version ∧ 0 ≤ right.version
  available : 0 ≤ right.available
  lowered : fitsDecimal38 (issued.amount - row.amount)
  raised : fitsDecimal38 (right.available + row.amount)
  authority : (db.escrow.authorities.lookup (row.accountId, row.assetId)).isSome

theorem fitsDecimal38_of_between {value bound : Int} (fits : fitsDecimal38 bound)
    (low : 0 ≤ value) (high : value ≤ bound) : fitsDecimal38 value := by
  unfold fitsDecimal38 at *
  omega

theorem Recoverable.backed {db : Database E} (inv : Recoverable db) {row : AllowanceRow}
    (found : db.offline.allowances.lookup id = some row) (state : row.state = .issued) :
    ∃ issued right, Backed db row issued right := by
  have positive := inv.law.checked.allowances id row found
  -- the sum over the region's allowances has this one as a term
  have part : row.amount ≤ outstanding db.offline row.rights := by
    have weight := AList.weight_le_total db.offline.allowances
      (fun _ other => if other.rights = row.rights then issuedAmount other else 0)
      (fun other stored present => by
        have := inv.law.checked.allowances other stored present
        simp only [issuedAmount]
        split
        · split <;> omega
        · omega) found
    rw [if_pos rfl, issuedAmount, if_pos state] at weight
    exact weight
  have bucket : row.amount ≤ issuedAt db.offline row.rights := by
    rw [inv.exclusive.issued]
    exact part
  cases stored : db.offline.offlineIssued.lookup row.rights with
  | none =>
    simp only [issuedAt, stored, Option.map_none, Option.getD_none] at bucket
    omega
  | some issued =>
    obtain ⟨right, present⟩ := Option.isSome_iff_exists.mp (inv.rights row.rights issued stored)
    simp only [issuedAt, stored, Option.map_some, Option.getD_some] at bucket
    obtain ⟨issuedNonneg, issuedVersion⟩ := inv.law.checked.issued row.rights issued stored
    obtain ⟨rightNonneg, rightVersion⟩ := inv.law.checked.escrow.rights row.rights right present
    -- both rows are terms of the buckets of one authority
    have owner := inv.law.conserved (row.accountId, row.assetId)
    have nonneg := inv.law.checked.nonneg (row.accountId, row.assetId)
    have regionalTerm : right.available ≤ regional db.escrow (row.accountId, row.assetId) := by
      have weight := AList.weight_le_total db.escrow.regionalRights
        (fun key other => if (key.1, key.2.1) = (row.accountId, row.assetId) then other.available
          else 0)
        (fun key other at_ => by
          have := (inv.law.checked.escrow.rights key other at_).1
          split <;> omega) present
      rw [if_pos (show (row.rights.1, row.rights.2.1) = (row.accountId, row.assetId) from rfl)] at weight
      exact weight
    have issuedTerm : issued.amount ≤ Escrow.offlineIssued db.offline (row.accountId, row.assetId) := by
      have weight := AList.weight_le_total db.offline.offlineIssued
        (fun key other => if (key.1, key.2.1) = (row.accountId, row.assetId) then other.amount
          else 0)
        (fun key other at_ => by
          have := (inv.law.checked.issued key other at_).1
          split <;> omega) stored
      rw [if_pos (show (row.rights.1, row.rights.2.1) = (row.accountId, row.assetId) from rfl)] at weight
      exact weight
    have total : right.available + issued.amount ≤
        holdings db.escrow db.offline (row.accountId, row.assetId) .total := by
      have unallocated := nonneg .unallocated
      have inTransit := nonneg .inTransit
      have sum := owner.1
      simp only [holdings] at sum unallocated inTransit ⊢
      omega
    cases authority : db.escrow.authorities.lookup (row.accountId, row.assetId) with
    | none =>
      simp only [holdings, authorityColumn, authority, Option.map_none, Option.getD_none] at total
      omega
    | some whole =>
      simp only [holdings, authorityColumn, authority, Option.map_some, Option.getD_some] at total
      have fits := (inv.storable _ whole authority).1
      exact ⟨issued, right, stored, present, positive, bucket, ⟨issuedVersion, rightVersion⟩,
        rightNonneg, fitsDecimal38_of_between fits (by omega) (by omega),
        fitsDecimal38_of_between fits (by omega) (by omega), by simp [authority]⟩

theorem updateDevice_fences (key : Device) (db : Database E) (storable : device.Storable)
    (checked : device.Checked) (room : device.fenceVersion < maxInt8) :
    updateDevice key device { device with fenceVersion := device.fenceVersion + 1 } db =
      .ok { db with
        offline.deviceCounters := (db.offline.deviceCounters.insert key
          { device with fenceVersion := device.fenceVersion + 1 }) } := by
  obtain ⟨epoch, counter, fence⟩ := storable
  obtain ⟨positive, nonneg, fenced⟩ := checked
  have fits : fitsInt8 (device.fenceVersion + 1) := by
    unfold fitsInt8 at *
    omega
  simp only [updateDevice, deviceTransition, steps_ok, if_true]
  exact ⟨(), ⟨epoch, counter, fits⟩, (), ⟨(), by omega, by omega⟩, (),
    ⟨positive, nonneg, by dsimp only; omega⟩, trivial⟩

theorem lowerIssued_succeeds {key : Bytes × Bytes × Bytes} {db : Database E}
    (found : db.offline.offlineIssued.lookup key = some issued) (enough : amount ≤ issued.amount)
    (fits : fitsDecimal38 (issued.amount - amount)) (version : 0 ≤ issued.version)
    (room : issued.version < maxInt8) (right : (db.escrow.regionalRights.lookup key).isSome) :
    lowerIssued key amount db = .ok { db with
      offline.offlineIssued :=
        (db.offline.offlineIssued.insert key ⟨issued.amount - amount, issued.version + 1⟩) } := by
  simp only [lowerIssued, writeIssued, steps_ok]
  refine ⟨issued, found, (), enough, (), ⟨fits, ?_⟩, (), ⟨?_, ?_⟩, (), right, rfl⟩ <;>
    (dsimp only; omega)

theorem raiseRights_succeeds {accountId assetId region : Bytes} {st : Escrow.Tables}
    (found : st.regionalRights.lookup (accountId, assetId, region) = some right)
    (fits : fitsDecimal38 (right.available + amount)) (nonneg : 0 ≤ right.available + amount)
    (version : 0 ≤ right.version) (room : right.version < maxInt8)
    (authority : (st.authorities.lookup (accountId, assetId)).isSome) :
    raiseRights accountId assetId region amount st = .ok (some { st with
      regionalRights := (st.regionalRights.insert (accountId, assetId, region)
        { right with available := right.available + amount, version := right.version + 1 }) }) := by
  simp only [raiseRights, updateRights, found, if_true, writeRights, steps_ok, Option.some.injEq]
  refine ⟨_, ⟨(), ⟨fits, ?_⟩, (), ⟨nonneg, ?_⟩, (), authority, rfl⟩, rfl⟩ <;>
    (dsimp only; omega)

theorem ledgerHashLengthPrefixed_some (value : Bytes) :
    ∃ bytes, ledgerHashLengthPrefixed value = some bytes := by
  simp [ledgerHashLengthPrefixed, ledgerHashUint32_eq]

theorem Termination.proofHash_some (t : Termination) (fence : Int) :
    ∃ hash, t.proofHash E fence = some hash := by
  obtain ⟨id, hid⟩ := ledgerHashLengthPrefixed_some t.allowanceId
  obtain ⟨kind, hkind⟩ := ledgerHashLengthPrefixed_some t.terminalKind.text
  rw [proofHash, proofInput, joined_cons (by rfl :
    _ = some (ascii "payment-platform/offline-non-redemption-proof/v1" ++ [0]))]
  simp [joined, hid, hkind, ledgerHashInt64_eq]

/-- The device's current counter has reached the allowance's, and the versions of the
three rows can be raised. -/
def Fenceable (db : Database E) (row : AllowanceRow) : Prop :=
  ∃ device issued right, db.offline.deviceCounters.lookup row.device = some device ∧
    db.offline.offlineIssued.lookup row.rights = some issued ∧
    db.escrow.regionalRights.lookup row.rights = some right ∧
    row.deviceCounter ≤ device.lastCounter ∧ device.fenceVersion < maxInt8 ∧
    issued.version < maxInt8 ∧ right.version < maxInt8

/-- The request names the allowance and the closures recorded for it. -/
structure Termination.For (t : Termination) (db : Database E) (row : AllowanceRow) : Prop where
  allowance : db.offline.allowances.lookup t.allowanceId = some row
  payloadHash : t.payloadHash = row.payloadHash
  issuerEpoch : t.issuerEpoch = row.issuerEpoch
  deviceCounter : t.deviceCounter = row.deviceCounter
  closed : FullyClosed db.offline t.allowanceId row
  closureSet : Offline.closureSetHash E db.offline t.allowanceId row = some t.closureSetHash

instance (t : Termination) (db : Database E) (row : AllowanceRow) : Decidable (t.For db row) :=
  decidable_of_iff (db.offline.allowances.lookup t.allowanceId = some row ∧
      t.payloadHash = row.payloadHash ∧ t.issuerEpoch = row.issuerEpoch ∧
      t.deviceCounter = row.deviceCounter ∧ FullyClosed db.offline t.allowanceId row ∧
      Offline.closureSetHash E db.offline t.allowanceId row = some t.closureSetHash)
    ⟨fun ⟨a, b, c, d, e, f⟩ => ⟨a, b, c, d, e, f⟩, fun ⟨a, b, c, d, e, f⟩ => ⟨a, b, c, d, e, f⟩⟩

/-- The amount went from the issued authority of the region back to its right. -/
structure Returned (t : Termination) (row : AllowanceRow) (db db' : Database E) : Prop where
  issued : issuedAt db'.offline row.rights = issuedAt db.offline row.rights - row.amount
  available : availableAt db'.escrow row.rights = availableAt db.escrow row.rights + row.amount
  authorities : db'.escrow.authorities = db.escrow.authorities
  allowance : db'.offline.allowances.lookup t.allowanceId =
    some { row with state := t.terminalKind.state }

def afterTermination (t : Termination) (row : AllowanceRow) (device : DeviceRow)
    (issued : IssuedRow) (right : RightsRow) (proofHash : Digest) (db : Database E) : Database E :=
  let fence := device.fenceVersion + 1
  let deviceRow : DeviceRow := { device with fenceVersion := fence }
  let issuedRow : IssuedRow := ⟨issued.amount - row.amount, issued.version + 1⟩
  let rightRow : RightsRow :=
    { right with available := right.available + row.amount, version := right.version + 1 }
  { db with
    escrow.regionalRights := db.escrow.regionalRights.insert row.rights rightRow
    offline.deviceCounters := db.offline.deviceCounters.insert row.device deviceRow
    offline.offlineIssued := db.offline.offlineIssued.insert row.rights issuedRow
    offline.allowances :=
      db.offline.allowances.insert t.allowanceId { row with state := t.terminalKind.state }
    offline.nonRedemptionProofs :=
      db.offline.nonRedemptionProofs.insert t.allowanceId (t.proofRow fence proofHash) }

theorem afterTermination_returned {t : Termination} {row : AllowanceRow} {proofHash : Digest}
    {db : Database E} (issuedRow : db.offline.offlineIssued.lookup row.rights = some issued)
    (rightRow : db.escrow.regionalRights.lookup row.rights = some right) :
    Returned t row db (afterTermination t row device issued right proofHash db) := by
  refine ⟨?_, ?_, rfl, ?_⟩
  · simp [afterTermination, issuedAt, issuedRow]
  · simp [afterTermination, availableAt, rightRow]
  · simp [afterTermination]

section Condition

variable {db : Database E} {t : Termination} {row : AllowanceRow}

theorem Recoverable.unspent (inv : Recoverable db)
    (found : db.offline.allowances.lookup t.allowanceId = some row) (state : row.state = .issued) :
    db.offline.redemptionReceipts.lookup t.allowanceId = none ∧
      db.offline.nonRedemptionProofs.lookup t.allowanceId = none := by
  have redeemed := inv.exclusive.redeemed _ row found
  have terminated := inv.exclusive.terminated _ row found
  simp only [state, reduceCtorEq, or_self, false_iff, not_exists] at redeemed terminated
  exact ⟨Option.eq_none_iff_forall_ne_some.mpr redeemed,
    Option.eq_none_iff_forall_ne_some.mpr terminated⟩

theorem Recoverable.terminates (inv : Recoverable db) (request : t.For db row)
    (state : row.state = .issued) (fenceable : Fenceable db row) :
    ∃ db' fence, terminateOfflineAllowance t db = .ok (db', fence) ∧ Returned t row db db' := by
  obtain ⟨found, payload, epoch, counter, closed, closureSet⟩ := request
  obtain ⟨device, issued, right, counters, issuedRow, rightRow, reached, fenceRoom, issuedRoom,
    rightRoom⟩ := fenceable
  obtain ⟨issued', right', backed⟩ := inv.backed found state
  cases issuedRow.symm.trans backed.issuedRow
  cases rightRow.symm.trans backed.rightRow
  obtain ⟨named, counterPositive, epochPositive, _, device', present, current⟩ :=
    inv.allowances _ row found
  cases counters.symm.trans present
  obtain ⟨storable, checked⟩ := inv.devices _ device counters
  obtain ⟨unredeemed, unproven⟩ := inv.unspent found state
  have complete := inv.closureComplete found closed
  obtain ⟨proofHash, proof⟩ := t.proofHash_some (E := E) (device.fenceVersion + 1)
  have fencePositive : 0 < device.fenceVersion + 1 := by
    have := checked.2.2
    omega
  have returned : 0 ≤ right.available + row.amount := by
    have := backed.available
    have := backed.positive
    omega
  refine ⟨afterTermination t row device issued right proofHash db, device.fenceVersion + 1, ?_,
    afterTermination_returned issuedRow rightRow⟩
  simp only [terminateOfflineAllowance, unproven, steps_ok]
  refine ⟨(), ⟨epoch ▸ epochPositive, counter ▸ counterPositive⟩, row, found, (),
    ⟨payload.symm, epoch.symm, counter.symm⟩, (), by simp [state], (), state, (), complete, (),
    closureSet, (), unredeemed, device, counters, (),
    ⟨epoch ▸ current, counter ▸ reached, by omega⟩, _,
    updateDevice_fences row.device db storable checked fenceRoom, _,
    lowerIssued_succeeds issuedRow backed.enough backed.lowered backed.versions.1 issuedRoom
      (by simp [rightRow]), ?_⟩
  have raised := raiseRights_succeeds rightRow backed.raised returned backed.versions.2 rightRoom
    backed.authority
  simp only [onEscrow, steps_ok]
  refine ⟨_, ⟨_, raised, _, rfl, rfl⟩, ?_⟩
  have transition : allowanceTransition row { row with state := t.terminalKind.state } :=
    ⟨rfl, .inr ⟨state, rfl, by cases t.terminalKind <;> simp [TerminalKind.state]⟩⟩
  simp only [updateAllowance, steps_ok]
  refine ⟨_, ⟨(), transition, rfl⟩, proofHash, proof, _, ?_, rfl, trivial⟩
  simp only [insertProof, acceptsAll, steps_ok]
  refine ⟨(), by simpa using named, { row with state := t.terminalKind.state },
    AList.lookup_insert _, (), ⟨epoch.symm, counter.symm, rfl⟩, (), complete, (),
    ⟨closureSet, proof, unredeemed⟩, (),
    ⟨epoch ▸ epochPositive, counter ▸ counterPositive, fencePositive⟩, (), unproven, ?_⟩
  rfl

theorem Recoverable.fenceable (inv : Recoverable db) (request : t.For db row)
    (state : row.state = .issued) {db' : Database E} {fence : Int}
    (done : terminateOfflineAllowance t db = .ok (db', fence)) : Fenceable db row := by
  obtain ⟨_, unproven⟩ := inv.unspent request.allowance state
  simp only [terminateOfflineAllowance, unproven, steps_ok] at done
  obtain ⟨_, _, row', found, _, _, _, _, _, _, _, _, _, _, _, _, device, counters, _,
    ⟨_, reached, _⟩, fenced, hfenced, lowered, hlowered, raised, hraised, _⟩ := done
  cases request.allowance.symm.trans found
  obtain ⟨⟨_, _, _, fenceRoom⟩, _, _, rfl⟩ := updateDevice_ok hfenced
  obtain ⟨issued, issuedRow, _, written⟩ := lowerIssued_ok hlowered
  obtain ⟨⟨_, issuedRoom⟩, _, _, rfl⟩ := writeIssued_ok written
  obtain ⟨escrow, statement, rfl⟩ := onEscrow_ok hraised
  obtain ⟨right, rightRow, _, stored⟩ := updateRights_ok statement
  simp only [writeRights, steps_ok] at stored
  obtain ⟨_, ⟨_, rightRoom⟩, _⟩ := stored
  dsimp only at fenceRoom issuedRoom rightRoom
  exact ⟨device, issued, right, counters, issuedRow, rightRow, request.deviceCounter ▸ reached,
    by omega, by omega, by omega⟩

end Condition

/-- In every reachable state, for every ISSUED allowance and a request with its own payload
hash, epoch and counter and the closures recorded for all required domains: the
termination goes through and returns exactly the amount if and only if the device's
counter has reached the allowance's, and no version is exhausted. -/
theorem termination_returns_iff_counter_reached (db : Database E)
    (commands : List (RightsCommand E)) (t : Termination) (row : AllowanceRow)
    (request : t.For (run rightsStep db.withoutRights commands) row) (state : row.state = .issued) :
    let reached := run rightsStep db.withoutRights commands
    (∃ db' fence, terminateOfflineAllowance t reached = .ok (db', fence) ∧
      Returned t row reached db') ↔ Fenceable reached row := by
  have inv := rightsRun_recoverable db commands
  constructor
  · rintro ⟨db', fence, done, _⟩
    exact inv.fenceable request state done
  · exact inv.terminates request state

/- One allowance, issued at epoch 1, and its device. -/

def sampleDevice : Device :=
  ⟨ascii "alice", ascii "KZT", ascii "north", sampleEngine.sha256 (ascii "device")⟩

def sampleRow : AllowanceRow :=
  let row : AllowanceRow :=
    { accountId := ascii "alice"
      assetId := ascii "KZT"
      originRegion := ascii "north"
      deviceIdentityHash := sampleDevice.deviceIdentityHash
      deviceCounter := 1
      amount := 4
      issuerEpoch := 1
      keyId := ascii "issuer"
      canonicalPayload := []
      payloadHash := zeroDigest
      signature := some (ascii "signature")
      state := .issued }
  let payload := (allowancePayload (ascii "allowance") row).getD []
  { row with canonicalPayload := payload, payloadHash := sampleEngine.sha256 payload }

def sampleEvidence : EvidenceRow :=
  let row : EvidenceRow :=
    { acceptanceDomain := ascii "terminals"
      accountId := ascii "alice"
      assetId := ascii "KZT"
      originRegion := ascii "north"
      deviceIdentityHash := sampleDevice.deviceIdentityHash
      closedSettlementEpoch := 1
      closedUploadFence := 1
      keyId := ascii "closure"
      payloadHash := zeroDigest
      canonicalPayload := []
      signature := ascii "signed" }
  let payload := (closurePayload row).getD []
  { row with canonicalPayload := payload, payloadHash := sampleEngine.sha256 payload }

def sampleEvidenceHash : Digest :=
  (closureEvidenceHash sampleEngine sampleEvidence.canonicalPayload sampleEvidence.signature).getD
    zeroDigest

def sampleIssue : List (RightsCommand sampleEngine) :=
  [.createAuthority (ascii "alice") (ascii "KZT") 10,
    .allocate ⟨ascii "e1", ascii "alice", ascii "KZT", ascii "north", 6⟩,
    .configureDomain (ascii "terminals") (ascii "closure") 1 none,
    .enroll sampleDevice 1,
    .prepare ⟨ascii "allowance", sampleDevice, 4, ascii "issuer"⟩,
    .activate (ascii "allowance") sampleRow.payloadHash (ascii "signature")]

def sampleClosure : RightsCommand sampleEngine :=
  .recordClosure (ascii "allowance") sampleEvidenceHash sampleEvidence

def sampleTermination (db : Database sampleEngine) : Termination :=
  { allowanceId := ascii "allowance"
    terminalKind := .expired
    payloadHash := sampleRow.payloadHash
    issuerEpoch := 1
    deviceCounter := 1
    policyEvidenceHash := sampleEngine.sha256 (ascii "policy")
    closureSetHash := (closureSetHash sampleEngine db.offline (ascii "allowance") sampleRow).getD
      zeroDigest }

def sampleReached (commands : List (RightsCommand sampleEngine)) : Database sampleEngine :=
  run rightsStep Payment.sampleDatabase.withoutRights commands

/-- Issued, closed in its one domain and not redeemed, but its device moved on to the
next epoch: the termination is refused. -/
theorem epoch_advance_blocks_termination :
    let reached := sampleReached (sampleIssue ++ [.advanceEpoch sampleDevice 1 2, sampleClosure])
    (sampleTermination reached).For reached sampleRow ∧ sampleRow.state = .issued ∧
      ∀ db' fence, terminateOfflineAllowance (sampleTermination reached) reached ≠
        .ok (db', fence) := by
  have refused : let reached := sampleReached (sampleIssue ++
        [.advanceEpoch sampleDevice 1 2, sampleClosure])
      (sampleTermination reached).For reached sampleRow ∧
        (terminateOfflineAllowance (sampleTermination reached) reached).isOk = false := by
    decide +kernel
  refine ⟨refused.1, rfl, ?_⟩
  intro db' fence done
  have ended := refused.2
  rw [done] at ended
  cases ended

theorem sample_termination_returns :
    let reached := sampleReached (sampleIssue ++ [sampleClosure])
    Fenceable reached sampleRow ∧
      ∃ db' fence, terminateOfflineAllowance (sampleTermination reached) reached =
        .ok (db', fence) ∧ Returned (sampleTermination reached) sampleRow reached db' := by
  have ready : Fenceable (sampleReached (sampleIssue ++ [sampleClosure])) sampleRow := by
    refine ⟨⟨1, 1, 0⟩, ⟨4, 0⟩, ⟨2, 1⟩, ?_⟩
    decide +kernel
  refine ⟨ready, (termination_returns_iff_counter_reached Payment.sampleDatabase
    (sampleIssue ++ [sampleClosure]) _ sampleRow ?_ rfl).mpr ready⟩
  decide +kernel

end PaymentPlatform.Offline
