import PaymentPlatform.Offline.Redemption

/-! internal/offline: closure sets and Terminate, and the canonical bytes that Go and the
procedures each compute on their own. Only the number of closures can be written
differently: Go converts it to uint32, the database keeps its leading digits. -/

namespace PaymentPlatform.Offline

open Framing Ledger Serial

variable {E : Engine}
variable {a : Allowance} {id : Bytes} {k : Nat} {st : Tables}
variable {v : VerifiedPresentation}

def closureVersion : UInt16 := 1

structure DomainClosure where
  version : UInt16
  acceptanceDomain : Bytes
  accountId : Bytes
  assetId : Bytes
  originRegion : Bytes
  deviceIdentityHash : Digest
  closedSettlementEpoch : UInt64
  closedUploadFence : UInt64
  keyId : Bytes
  signature : Bytes
  deriving DecidableEq

variable {closures : List DomainClosure}

def DomainClosure.Valid (c : DomainClosure) : Prop :=
  c.version = closureVersion ∧ validText c.acceptanceDomain ∧ validText c.accountId ∧
    validText c.assetId ∧ validText c.originRegion ∧ c.deviceIdentityHash ≠ zeroDigest ∧
    validCounter c.closedSettlementEpoch ∧ c.closedUploadFence.toNat < 2 ^ 63 ∧ validText c.keyId
  deriving Decidable

def DomainClosure.canonicalPayload (c : DomainClosure) : Option Bytes :=
  if c.Valid then
    some (ascii "payment-platform/offline-acceptance-domain-closure/v1" ++ [0] ++
      bigEndian 2 c.version.toNat ++ prefixed c.acceptanceDomain ++ prefixed c.accountId ++
      prefixed c.assetId ++ prefixed c.originRegion ++ c.deviceIdentityHash.val ++
      appendUint64 c.closedSettlementEpoch ++ appendUint64 c.closedUploadFence ++
      prefixed c.keyId)
  else none

def closureEnvelopeHash (E : Engine) (payload signature : Bytes) : Digest :=
  E.sha256 (ascii "payment-platform/offline-closure-evidence/v1" ++ [0] ++ prefixed payload ++
    prefixed signature)

structure VerifiedClosure where
  closure : DomainClosure
  payload : Bytes
  payloadHash : Digest
  evidenceHash : Digest
  deriving DecidableEq

structure VerifiedClosureSet where
  byDomain : Table Bytes VerifiedClosure
  setHash : Digest

/-- validate leaves only the two kinds, so the kind is one of them. -/
structure FenceRequest where
  allowanceId : Bytes
  expectedPayloadHash : Digest
  expectedIssuerEpoch : UInt64
  expectedDeviceCounter : UInt64
  kind : TerminalKind
  policyEvidenceHash : Digest
  domainClosures : List DomainClosure
  deriving DecidableEq

def FenceRequest.Valid (r : FenceRequest) : Prop :=
  validText r.allowanceId ∧ r.expectedPayloadHash ≠ zeroDigest ∧
    validCounter r.expectedIssuerEpoch ∧ validCounter r.expectedDeviceCounter ∧
    r.policyEvidenceHash ≠ zeroDigest ∧ r.domainClosures ≠ []
  deriving Decidable

inductive TerminateFailure where
  | invalidArgument
  | invalidClosure
  | incompleteClosure
  | fenceConflict
  | allowanceNotFound
  | alreadyRedeemed
  | notIssued
  | conservationViolation
  | loading (error : Failure)
  | procedure (error : SqlError)
  deriving DecidableEq

def DomainClosure.covers (c : DomainClosure) (epoch counter : UInt64) : Prop :=
  ¬ (c.closedSettlementEpoch < epoch ∨
    (c.closedSettlementEpoch = epoch ∧ c.closedUploadFence < counter))
  deriving Decidable

def closureSetBytes (byDomain : Table Bytes VerifiedClosure) : Bytes :=
  ascii "payment-platform/offline-closure-set/v1" ++ [0] ++ writeUint32 byDomain.rows.length ++
    (byDomain.rows.insertionSort fun a b => a.1 ≤ b.1).flatMap fun e =>
      prefixed e.1 ++ e.2.evidenceHash.val

def verifiedClosure (E : Engine) (c : DomainClosure) (payload : Bytes) : VerifiedClosure :=
  ⟨c, payload, E.sha256 payload, closureEnvelopeHash E payload c.signature⟩

def addClosure (E : Engine) (r : FenceRequest) (values : Table Bytes VerifiedClosure)
    (c : DomainClosure) : Except TerminateFailure (Table Bytes VerifiedClosure) := do
  let payload ← expect c.canonicalPayload .invalidClosure
  require (c.signature ≠ []) .invalidClosure
  require (values.lookup c.acceptanceDomain = none) .incompleteClosure
  require (c.covers r.expectedIssuerEpoch r.expectedDeviceCounter) .incompleteClosure
  return values.insert c.acceptanceDomain (verifiedClosure E c payload)

def canonicalizeClosureSet (E : Engine) (r : FenceRequest) :
    Except TerminateFailure VerifiedClosureSet := do
  let values ← r.domainClosures.foldlM (addClosure E r) ∅
  return ⟨values, E.sha256 (closureSetBytes values)⟩

structure NonRedemptionProof where
  allowanceId : Bytes
  kind : TerminalKind
  payloadHash : Digest
  issuerEpoch : UInt64
  deviceCounter : UInt64
  fenceVersion : UInt64
  policyEvidenceHash : Digest
  closureSetHash : Digest
  proofHash : Digest
  duplicate : Bool
  deriving DecidableEq

def FenceRequest.proofBytes (r : FenceRequest) (fenceVersion : UInt64) (closureHash : Digest) :
    Bytes :=
  ascii "payment-platform/offline-non-redemption-proof/v1" ++ [0] ++ prefixed r.allowanceId ++
    r.expectedPayloadHash.val ++ appendUint64 r.expectedIssuerEpoch ++
    appendUint64 r.expectedDeviceCounter ++ prefixed r.kind.text ++ appendUint64 fenceVersion ++
    r.policyEvidenceHash.val ++ closureHash.val

def loadProof (allowanceId : Bytes) (db : Database E) :
    Except TerminateFailure (Option NonRedemptionProof) :=
  match db.offline.nonRedemptionProofs.lookup allowanceId with
  | none => .ok none
  | some row => do
    require (0 < row.issuerEpoch ∧ 0 < row.deviceCounter ∧ 0 < row.fenceVersion)
      .conservationViolation
    return some
      { allowanceId := allowanceId
        kind := row.terminalKind
        payloadHash := row.payloadHash
        issuerEpoch := .ofNat row.issuerEpoch.toNat
        deviceCounter := .ofNat row.deviceCounter.toNat
        fenceVersion := .ofNat row.fenceVersion.toNat
        policyEvidenceHash := row.policyEvidenceHash
        closureSetHash := row.closureSetHash
        proofHash := row.proofHash
        duplicate := false }

def matchesProof (E : Engine) (proof : NonRedemptionProof) (r : FenceRequest)
    (closureHash : Digest) : Prop :=
  proof.kind = r.kind ∧ proof.payloadHash = r.expectedPayloadHash ∧
    proof.issuerEpoch = r.expectedIssuerEpoch ∧ proof.deviceCounter = r.expectedDeviceCounter ∧
    proof.policyEvidenceHash = r.policyEvidenceHash ∧ proof.closureSetHash = closureHash ∧
    proof.proofHash = E.sha256 (r.proofBytes proof.fenceVersion closureHash)
  deriving Decidable

def VerifiedClosure.Canonical (E : Engine) (v : VerifiedClosure) : Prop :=
  v.closure.signature ≠ [] ∧ v.closure.canonicalPayload = some v.payload ∧
    E.sha256 v.payload = v.payloadHash ∧
    closureEnvelopeHash E v.payload v.closure.signature = v.evidenceHash
  deriving Decidable

def VerifiedClosureSet.Valid (E : Engine) (set : VerifiedClosureSet) : Prop :=
  set.byDomain.rows ≠ [] ∧ set.setHash ≠ zeroDigest ∧
    (∀ e ∈ set.byDomain.rows, e.1 = e.2.closure.acceptanceDomain ∧ e.2.Canonical E) ∧
    E.sha256 (closureSetBytes set.byDomain) = set.setHash
  deriving Decidable

/-- The closure verifier: acceptance domain, key id, payload and signature. -/
def verifyClosureSet (E : Engine) (verifier : Bytes → Bytes → Bytes → Bytes → Bool)
    (r : FenceRequest) : Except TerminateFailure VerifiedClosureSet := do
  let set ← canonicalizeClosureSet E r
  require (set.byDomain.rows.all (fun e => verifier e.2.closure.acceptanceDomain e.2.closure.keyId
    e.2.payload e.2.closure.signature) = true) .invalidClosure
  require (set.Valid E) .invalidClosure
  return set

/-- The arguments of record_offline_domain_closure after the evidence hash. The two
counters are below 2^63, so the conversions to int64 are exact. -/
def VerifiedClosure.evidenceRow (v : VerifiedClosure) (domain : Bytes) : EvidenceRow :=
  { acceptanceDomain := domain
    accountId := v.closure.accountId
    assetId := v.closure.assetId
    originRegion := v.closure.originRegion
    deviceIdentityHash := v.closure.deviceIdentityHash
    closedSettlementEpoch := v.closure.closedSettlementEpoch.toNat
    closedUploadFence := v.closure.closedUploadFence.toNat
    keyId := v.closure.keyId
    payloadHash := v.payloadHash
    canonicalPayload := v.payload
    signature := v.closure.signature }

def DomainClosure.closes (c : DomainClosure) (a : Allowance) : Prop :=
  c.accountId = a.accountId ∧ c.assetId = a.assetId ∧ c.originRegion = a.originRegion ∧
    c.deviceIdentityHash = a.deviceIdentityHash ∧ c.covers a.issuerEpoch a.counter
  deriving Decidable

def validateAndPersistClosures (a : Allowance) (set : VerifiedClosureSet) (db : Database E) :
    Except TerminateFailure (Database E) := do
  let required := requiredDomains db.offline a.issuerEpoch.toNat
  require (required.all (fun domain =>
    (set.byDomain.lookup domain.1).any fun v => v.closure.closes a) = true) .incompleteClosure
  require (required.length ≠ 0 ∧ required.length = set.byDomain.rows.length) .incompleteClosure
  set.byDomain.rows.foldlM (fun db e => do
    let (db, _) ← (recordOfflineDomainClosure a.allowanceId e.2.evidenceHash
      (e.2.evidenceRow e.1) db).mapError TerminateFailure.procedure
    return db) db

def FenceRequest.termination (r : FenceRequest) (setHash : Digest) : Termination :=
  { allowanceId := r.allowanceId
    terminalKind := r.kind
    payloadHash := r.expectedPayloadHash
    issuerEpoch := r.expectedIssuerEpoch.toNat
    deviceCounter := r.expectedDeviceCounter.toNat
    policyEvidenceHash := r.policyEvidenceHash
    closureSetHash := setHash }

def terminateVerifiedInTx (r : FenceRequest) (set : VerifiedClosureSet) (db : Database E) :
    Except TerminateFailure (Database E × NonRedemptionProof) := do
  require r.Valid .invalidArgument
  require (set.Valid E) .invalidClosure
  let loaded ← (loadAllowance r.allowanceId db).mapError TerminateFailure.loading
  let (stored, state) ← expect loaded .allowanceNotFound
  require (stored.issuerEpoch = r.expectedIssuerEpoch ∧ stored.counter = r.expectedDeviceCounter)
    .fenceConflict
  require (stored.canonicalPayload.map E.sha256 = some r.expectedPayloadHash) .fenceConflict
  let existing ← loadProof r.allowanceId db
  match existing with
  | some proof =>
    require (matchesProof E proof r set.setHash) .fenceConflict
    return (db, { proof with duplicate := true })
  | none =>
    require (state ≠ .redeemed) .alreadyRedeemed
    require (state ≠ .revoked ∧ state ≠ .expired) .conservationViolation
    require (state = .issued) .notIssued
    let db ← validateAndPersistClosures stored set db
    require ((db.offline.redemptionReceipts.lookup stored.allowanceId).all
      (fun receipt => receipt.Loadable) = true) .conservationViolation
    require (db.offline.redemptionReceipts.lookup stored.allowanceId = none) .alreadyRedeemed
    let (db, fenceVersion) ← (terminateOfflineAllowance (r.termination set.setHash) db).mapError
      TerminateFailure.procedure
    let written ← loadProof stored.allowanceId db
    let proof ← expect written .conservationViolation
    require (proof.fenceVersion = .ofNat fenceVersion.toNat ∧ matchesProof E proof r set.setHash)
      .conservationViolation
    return (db, proof)

/-- Terminate runs two transactions: the first reads in the state seen, the second, if it
is needed, runs in db. -/
def terminate (verifier : Bytes → Bytes → Bytes → Bytes → Bool) (r : FenceRequest)
    (seen db : Database E) : Except TerminateFailure (Database E × NonRedemptionProof) := do
  require r.Valid .invalidArgument
  let canonical ← canonicalizeClosureSet E r
  let existing ← loadProof r.allowanceId seen
  match existing with
  | some proof =>
    require (matchesProof E proof r canonical.setHash) .fenceConflict
    return (db, { proof with duplicate := true })
  | none =>
    let set ← verifyClosureSet E verifier r
    terminateVerifiedInTx r set db

variable {r r' : FenceRequest} {set : VerifiedClosureSet} {c : DomainClosure}

def DomainClosure.Accepted (r : FenceRequest) (c : DomainClosure) : Prop :=
  c.Valid ∧ c.signature ≠ [] ∧ c.covers r.expectedIssuerEpoch r.expectedDeviceCounter

def closureEntry (E : Engine) (c : DomainClosure) : Bytes × VerifiedClosure :=
  (c.acceptanceDomain, verifiedClosure E c (c.canonicalPayload.getD []))

theorem DomainClosure.canonicalPayload_valid {payload : Bytes}
    (encoded : c.canonicalPayload = some payload) : c.Valid :=
  (Option.ite_none_right_eq_some.mp encoded).1

theorem DomainClosure.Valid.encodes (valid : c.Valid) : ∃ payload, c.canonicalPayload = some payload :=
  ⟨_, if_pos valid⟩

theorem addClosure_ok_iff {values values' : Table Bytes VerifiedClosure} :
    addClosure E r values c = .ok values' ↔ c.Accepted r ∧ values.lookup c.acceptanceDomain = none ∧
        values' = values.insert c.acceptanceDomain (closureEntry E c).2 := by
  simp only [addClosure, steps_ok, DomainClosure.Accepted, closureEntry]
  constructor
  · rintro ⟨payload, encoded, _, signed, _, fresh, _, covered, rfl⟩
    rw [encoded]
    exact ⟨⟨DomainClosure.canonicalPayload_valid encoded, signed, covered⟩, fresh, rfl⟩
  · rintro ⟨⟨valid, signed, covered⟩, fresh, rfl⟩
    obtain ⟨payload, encoded⟩ := valid.encodes
    rw [encoded]
    exact ⟨payload, rfl, (), signed, (), fresh, (), covered, rfl⟩

theorem lookup_none_iff {values : Table Bytes VerifiedClosure} {domain : Bytes} :
    values.lookup domain = none ↔ domain ∉ values.rows.map Prod.fst := by
  simp [Option.eq_none_iff_forall_not_mem, ← AList.mem_rows]

/-- The loop succeeds on accepted closures of distinct new domains, and stores one entry
for each. -/
theorem addClosures_ok_iff (closures : List DomainClosure) {values : Table Bytes VerifiedClosure}
    (rows : List (Bytes × VerifiedClosure)) :
    (∃ values', closures.foldlM (addClosure E r) values = .ok values' ∧ values'.rows = rows) ↔
      (∀ c ∈ closures, c.Accepted r) ∧
        rows = (closures.map (closureEntry E)).reverse ++ values.rows ∧
        (rows.map Prod.fst).Nodup := by
  induction closures generalizing values with
  | nil =>
    simp only [List.foldlM_nil, pure_ok]
    constructor
    · rintro ⟨_, rfl, rfl⟩
      exact ⟨by simp, by simp, AList.rows_keys_nodup _⟩
    · rintro ⟨_, same, _⟩
      exact ⟨values, rfl, by simpa using same.symm⟩
  | cons c rest ih =>
    simp only [List.foldlM_cons, bind_ok, addClosure_ok_iff]
    constructor
    · rintro ⟨values', ⟨_, ⟨accepted, fresh, rfl⟩, run⟩, same⟩
      obtain ⟨others, stored, distinct⟩ := ih.mp ⟨values', run, same⟩
      rw [AList.rows_insert_fresh fresh] at stored
      exact ⟨by simpa using ⟨accepted, others⟩, by simpa [closureEntry] using stored, distinct⟩
    · rintro ⟨accepted, same, distinct⟩
      have fresh : values.lookup c.acceptanceDomain = none := by
        rw [lookup_none_iff]
        intro member
        rw [same, List.map_append, List.nodup_append] at distinct
        exact distinct.2.2 _ (by simp [closureEntry]) _ member rfl
      obtain ⟨values', run, stored⟩ := (@ih (values.insert c.acceptanceDomain
        (closureEntry E c).2)).mpr ⟨fun d member => accepted d (by simp [member]),
          by rw [AList.rows_insert_fresh fresh]; simpa [closureEntry] using same, distinct⟩
      exact ⟨values', ⟨_, ⟨accepted c (by simp), fresh, rfl⟩, run⟩, stored⟩

theorem canonicalizeClosureSet_ok (done : canonicalizeClosureSet E r = .ok set) :
    (∀ c ∈ r.domainClosures, c.Accepted r) ∧
      set.byDomain.rows = (r.domainClosures.map (closureEntry E)).reverse ∧
      set.setHash = E.sha256 (closureSetBytes set.byDomain) := by
  simp only [canonicalizeClosureSet, steps_ok] at done
  obtain ⟨values, run, rfl⟩ := done
  obtain ⟨accepted, rows, _⟩ := (addClosures_ok_iff r.domainClosures _).mp ⟨values, run, rfl⟩
  exact ⟨accepted, rows.trans (List.append_nil _), rfl⟩

theorem closureSetBytes_perm {t t' : Table Bytes VerifiedClosure} (same : t.rows.Perm t'.rows) :
    closureSetBytes t = closureSetBytes t' := by
  rw [closureSetBytes, closureSetBytes, same.length_eq,
    AList.sort_eq_of_perm same t.rows_keys_nodup]

theorem canonicalizeClosureSet_succeeds (accepted : ∀ c ∈ r.domainClosures, c.Accepted r)
    (distinct : (r.domainClosures.map DomainClosure.acceptanceDomain).Nodup) :
    ∃ set, canonicalizeClosureSet E r = .ok set := by
  have keys : (((r.domainClosures.map (closureEntry E)).reverse ++
      (∅ : Table Bytes VerifiedClosure).rows).map Prod.fst).Nodup := by
    have none_ : (∅ : Table Bytes VerifiedClosure).rows = [] := rfl
    rw [none_, List.append_nil, List.map_reverse, List.nodup_reverse, List.map_map]
    exact distinct
  obtain ⟨values, run, _⟩ := (addClosures_ok_iff _ _).mpr ⟨accepted, rfl, keys⟩
  exact ⟨⟨values, E.sha256 (closureSetBytes values)⟩, bind_ok.mpr ⟨values, run, rfl⟩⟩

theorem canonicalizeClosureSet_reordered
    (done : canonicalizeClosureSet E r = .ok set) (same : closures.Perm r.domainClosures) :
    ∃ set', canonicalizeClosureSet E { r with domainClosures := closures } = .ok set' ∧
      set'.setHash = set.setHash := by
  obtain ⟨accepted, rows, hash⟩ := canonicalizeClosureSet_ok done
  have distinct := set.byDomain.rows_keys_nodup
  rw [rows, List.map_reverse, List.nodup_reverse, List.map_map] at distinct
  obtain ⟨set', done'⟩ := @canonicalizeClosureSet_succeeds E { r with domainClosures := closures }
    (fun c member => accepted c (same.mem_iff.mp member)) ((same.map _).nodup_iff.mpr distinct)
  obtain ⟨_, rows', hash'⟩ := canonicalizeClosureSet_ok done'
  refine ⟨set', done', ?_⟩
  rw [hash, hash', closureSetBytes_perm]
  rw [rows, rows']
  exact (List.reverse_perm _).trans ((same.map _).trans (List.reverse_perm _).symm)

variable {verifier : Bytes → Bytes → Bytes → Bytes → Bool} {seen db db' : Database E}
  {proof : NonRedemptionProof}

def NonRedemptionProof.stored (proof : NonRedemptionProof) : NonRedemptionProof :=
  { proof with duplicate := false }

theorem loadProof_stored (loaded : loadProof id db = .ok (some proof)) : proof.stored = proof := by
  unfold loadProof at loaded
  split at loaded
  · cases loaded
  · simp only [steps_ok, Option.some.injEq] at loaded
    obtain ⟨_, _, rfl⟩ := loaded
    rfl

theorem verifyClosureSet_ok (done : verifyClosureSet E verifier r = .ok set) :
    canonicalizeClosureSet E r = .ok set := by
  simp only [verifyClosureSet, steps_ok] at done
  obtain ⟨_, canonical, _, _, _, _, rfl⟩ := done
  exact canonical

theorem loadAllowance_id {state : AllowanceState}
    (loaded : loadAllowance id db = .ok (some (a, state))) : a.allowanceId = id := by
  unfold loadAllowance at loaded
  split at loaded
  · cases loaded
  · simp only [steps_ok, Option.some.injEq] at loaded
    obtain ⟨_, _, _, _, rfl, _⟩ := loaded
    rfl

theorem terminateVerifiedInTx_ok (done : terminateVerifiedInTx r set db = .ok (db', proof)) :
    loadProof r.allowanceId db' = .ok (some proof.stored) ∧
      matchesProof E proof.stored r set.setHash := by
  simp only [terminateVerifiedInTx, steps_ok, Prod.exists] at done
  obtain ⟨_, _, _, _, loaded, found, a, state, rfl, _, _, _, _, existing, read, done⟩ := done
  cases existing with
  | some proof' =>
    simp only [steps_ok] at done
    obtain ⟨_, matched, rfl, rfl⟩ := done
    have same : NonRedemptionProof.stored { proof' with duplicate := true } = proof' :=
      loadProof_stored read
    rw [same]
    exact ⟨read, matched⟩
  | none =>
    simp only [steps_ok, Prod.exists] at done
    obtain ⟨_, _, _, _, _, _, _, _, _, _, _, _, db₂, fence, _, written, read', proof', rfl, _,
      ⟨_, matched⟩, rfl, rfl⟩ := done
    rw [loadAllowance_id found] at read'
    rw [loadProof_stored read']
    exact ⟨read', matched⟩

theorem terminate_ok (done : terminate verifier r seen db = .ok (db', proof)) :
    r.Valid ∧ (∃ set, canonicalizeClosureSet E r = .ok set ∧
      matchesProof E proof.stored r set.setHash) ∧
      (loadProof r.allowanceId seen = .ok (some proof.stored) ∨
        loadProof r.allowanceId db' = .ok (some proof.stored)) := by
  simp only [terminate, steps_ok] at done
  obtain ⟨_, valid, canonical, encoded, existing, read, done⟩ := done
  refine ⟨valid, ?_⟩
  cases existing with
  | some proof' =>
    simp only [steps_ok] at done
    obtain ⟨_, matched, rfl, rfl⟩ := done
    have same : NonRedemptionProof.stored { proof' with duplicate := true } = proof' :=
      loadProof_stored read
    rw [same]
    exact ⟨⟨canonical, encoded, matched⟩, .inl read⟩
  | none =>
    simp only [bind_ok] at done
    obtain ⟨set, verified, done⟩ := done
    obtain ⟨held, matched⟩ := terminateVerifiedInTx_ok done
    exact ⟨⟨set, verifyClosureSet_ok verified, matched⟩, .inr held⟩

theorem terminate_replays {later any : Database E}
    {verifier' : Bytes → Bytes → Bytes → Bytes → Bool} (same : closures.Perm r.domainClosures)
    (done : terminate verifier r seen db = .ok (db', proof))
    (held : loadProof r.allowanceId later = .ok (some proof.stored)) :
    terminate verifier' { r with domainClosures := closures } later any =
      .ok (any, { proof with duplicate := true }) := by
  obtain ⟨valid, ⟨set, canonical, matched⟩, _⟩ := terminate_ok done
  obtain ⟨set', canonical', hash⟩ := canonicalizeClosureSet_reordered canonical same
  have valid' : FenceRequest.Valid { r with domainClosures := closures } := by
    obtain ⟨h1, h2, h3, h4, h5, some_⟩ := valid
    exact ⟨h1, h2, h3, h4, h5, fun none_ => some_ (by
      rw [show closures = [] from none_] at same
      exact same.nil_eq.symm)⟩
  simp only [terminate, bind_ok, require_ok]
  refine ⟨(), valid', set', canonical', some proof.stored, held, ?_⟩
  simp only [bind_ok, require_ok, pure_ok]
  exact ⟨(), hash ▸ matched, rfl⟩

def RedemptionEffect.bytes (e : RedemptionEffect) : Bytes :=
  ascii "payment-platform/offline-redemption-effect/v1" ++ [0] ++ prefixed e.effectId ++
    prefixed e.ledgerTransactionId ++ e.postingRequestHash.val

structure Allowance.StoredAs (a : Allowance) (row : AllowanceRow) : Prop where
  accountId : row.accountId = a.accountId
  assetId : row.assetId = a.assetId
  originRegion : row.originRegion = a.originRegion
  deviceIdentityHash : row.deviceIdentityHash = a.deviceIdentityHash
  deviceCounter : row.deviceCounter = a.counter.toNat
  amount : row.amount = a.amount
  issuerEpoch : row.issuerEpoch = a.issuerEpoch.toNat
  keyId : row.keyId = a.keyId

/-- The links of the allowance are the entries of the set, one for each domain that covers
its epoch. -/
structure VerifiedClosureSet.StoredIn (set : VerifiedClosureSet) (st : Tables)
    (allowanceId : Bytes) (row : AllowanceRow) : Prop where
  links : (linksOf st allowanceId).Perm
    (set.byDomain.rows.map fun e => (e.1, e.2.evidenceHash))
  required : (requiredDomains st row.issuerEpoch).length = set.byDomain.rows.length

/-- A byte string that both sides compute, Go from a value and the database from the rows
that store it. -/
inductive Encoded where
  | allowance (a : Allowance) (row : AllowanceRow)
  | presentation (v : VerifiedPresentation) (effectHash : Digest) (effect : RedemptionEffect)
  | closure (v : VerifiedClosure)
  | effect (v : VerifiedPresentation) (effectHash : Digest) (effect : RedemptionEffect)
  | closureSet (r : FenceRequest) (set : VerifiedClosureSet) (st : Tables) (row : AllowanceRow)
  | proof (r : FenceRequest) (fence : UInt64) (closureSetHash : Digest)

def Encoded.Stored (E : Engine) : Encoded → Prop
  | .allowance a row => a.Valid ∧ fitsDecimal38 a.amount ∧ a.StoredAs row
  | .presentation v _ _ => v.Valid E
  | .closure v => v.Canonical E
  | .effect _ effectHash e => e.hash E = .ok effectHash
  | .closureSet r set st row =>
    r.Valid ∧ canonicalizeClosureSet E r = .ok set ∧ set.StoredIn st r.allowanceId row
  | .proof r _ _ => r.Valid

def Encoded.inGo (E : Engine) : Encoded → Option Bytes
  | .allowance a _ => a.canonicalPayload
  | .presentation v _ _ => v.presentation.canonicalPayload E
  | .closure v => v.closure.canonicalPayload
  | .effect _ _ e => some e.bytes
  | .closureSet _ set _ _ => some (closureSetBytes set.byDomain)
  | .proof r fence hash => some (r.proofBytes fence hash)

def Encoded.inSql : Encoded → Option Bytes
  | .allowance a row => allowancePayload a.allowanceId row
  | .presentation v effectHash e => presentationPayload (v.redemptionRow effectHash e)
  | .closure v => closurePayload (v.evidenceRow v.closure.acceptanceDomain)
  | .effect v effectHash e => redemptionEffectInput (v.redemptionRow effectHash e)
  | .closureSet r _ st row => closureSetInput st r.allowanceId row
  | .proof r fence hash => (r.termination hash).proofInput fence.toNat

def Encoded.Counted : Encoded → Prop
  | .closureSet r _ _ _ => SameCount r.domainClosures.length
  | _ => True

theorem ledgerHashText {value : Bytes} (valid : validText value) :
    ledgerHashLengthPrefixed value = some (prefixed value) :=
  ledgerHashLengthPrefixed_short (by have := valid.2; unfold Short; omega)

theorem ledgerHashUint64 (v : UInt64) : ledgerHashInt64 v.toNat = some (appendUint64 v) := by
  have fits := v.toNat_lt
  have same : ((v.toNat : Int) % 2 ^ 64).toNat = v.toNat := by omega
  rw [ledgerHashInt64_eq, writeInt64, appendUint64, same]

theorem decimal_text {v : Int} (fits : fitsDecimal38 v) : validText (decimal v) := by
  have digits : (Nat.digits 10 v.natAbs).length ≤ 38 :=
    (Nat.digits_length_le_iff (by decide) _).mpr fits
  unfold validText decimal numeral
  split <;> split <;> simp_all <;> omega

theorem version_bytes {version : UInt16} (first : version = 1) :
    hexBytes "0001" = some (bigEndian 2 version.toNat) := by
  rw [first]
  rfl

theorem Allowance.payload_agrees {row : AllowanceRow} (valid : a.Valid)
    (fits : fitsDecimal38 a.amount) (stored : a.StoredAs row) :
    allowancePayload a.allowanceId row = a.canonicalPayload := by
  rw [canonicalPayload, if_pos valid]
  obtain ⟨first, id, account, asset, region, _, _, _, _, key⟩ := valid
  refine (joined_cons (by rfl :
    _ = some (ascii "payment-platform/offline-allowance/v1" ++ [0])) _).trans ?_
  simp only [stored.accountId, stored.assetId, stored.originRegion, stored.deviceIdentityHash,
    stored.deviceCounter, stored.amount, stored.issuerEpoch, stored.keyId, ledgerHashUint64,
    ledgerHashText id, ledgerHashText account, ledgerHashText asset, ledgerHashText region,
    ledgerHashText key, version_bytes first, ledgerHashText (decimal_text fits)]
  simp [joined]

theorem VerifiedPresentation.payload_agrees (valid : v.Valid E)
    (effectHash : Digest) (effect : RedemptionEffect) :
    presentationPayload (v.redemptionRow effectHash effect) = v.presentation.canonicalPayload E := by
  obtain ⟨_, _, _, _, _, _, hash, _, encoded, _⟩ := valid
  have guard := (Option.ite_none_right_eq_some.mp encoded).1
  rw [Presentation.canonicalPayload, if_pos guard]
  obtain ⟨first, _, _, merchant, accepting, _, _, _, _, key⟩ := guard.1
  refine (joined_cons (by rfl :
    _ = some (ascii "payment-platform/offline-presentation/v1" ++ [0])) _).trans ?_
  simp only [redemptionRow, ledgerHashUint64, ledgerHashText merchant, ledgerHashText accepting,
    ledgerHashText key, version_bytes first, ← hash]
  simp [joined]

theorem VerifiedClosure.payload_agrees {v : VerifiedClosure} (canonical : v.Canonical E) :
    closurePayload (v.evidenceRow v.closure.acceptanceDomain) = v.closure.canonicalPayload := by
  have valid := DomainClosure.canonicalPayload_valid canonical.2.1
  rw [DomainClosure.canonicalPayload, if_pos valid]
  obtain ⟨first, accepting, account, asset, region, _, _, _, key⟩ := valid
  refine (joined_cons (by decide +kernel :
    _ = some (ascii "payment-platform/offline-acceptance-domain-closure/v1" ++ [0])) _).trans ?_
  simp only [evidenceRow, ledgerHashUint64, ledgerHashText accepting, ledgerHashText account,
    ledgerHashText asset, ledgerHashText region, ledgerHashText key, version_bytes first]
  simp [joined]

theorem RedemptionEffect.bytes_agree {effectHash : Digest}
    {e : RedemptionEffect} (hashed : e.hash E = .ok effectHash) :
    redemptionEffectInput (v.redemptionRow effectHash e) = some e.bytes := by
  simp only [RedemptionEffect.hash, steps_ok] at hashed
  obtain ⟨_, ⟨effect, transaction, _⟩, _⟩ := hashed
  refine (joined_cons (by rfl :
    _ = some (ascii "payment-platform/offline-redemption-effect/v1" ++ [0])) _).trans ?_
  simp only [VerifiedPresentation.redemptionRow, ledgerHashText effect, ledgerHashText transaction]
  simp [joined, RedemptionEffect.bytes]

theorem FenceRequest.proof_agrees (valid : r.Valid) (fence : UInt64) (hash : Digest) :
    (r.termination hash).proofInput fence.toNat = some (r.proofBytes fence hash) := by
  have kind : validText r.kind.text := by cases r.kind <;> decide
  refine (joined_cons (by rfl :
    _ = some (ascii "payment-platform/offline-non-redemption-proof/v1" ++ [0])) _).trans ?_
  simp only [termination, ledgerHashUint64, ledgerHashText valid.1, ledgerHashText kind]
  simp [joined, proofBytes]

theorem mapM_frames (links : List (Bytes × Digest))
    (short : ∀ link ∈ links, ledgerHashLengthPrefixed link.1 = some (prefixed link.1)) :
    (links.mapM fun link => (ledgerHashLengthPrefixed link.1).map fun domain => domain ++ link.2.val) =
      some (links.map fun link => prefixed link.1 ++ link.2.val) := by
  induction links with
  | nil => rfl
  | cons link rest ih =>
    rw [List.mapM_cons, short link (by simp), ih fun l member => short l (by simp [member])]
    rfl

theorem VerifiedClosureSet.StoredIn.linkBytes {row : AllowanceRow}
    (stored : set.StoredIn st id row) (some_ : set.byDomain.rows ≠ [])
    (texts : ∀ e ∈ set.byDomain.rows, validText e.1) : canonicalLinkBytes (linksOf st id) =
      some ((set.byDomain.rows.insertionSort fun a b => a.1 ≤ b.1).flatMap fun e =>
        prefixed e.1 ++ e.2.evidenceHash.val) := by
  let link : Bytes × VerifiedClosure → Bytes × Digest := fun e => (e.1, e.2.evidenceHash)
  have links : (linksOf st id).Perm (set.byDomain.rows.map link) := stored.links
  have nonempty : linksOf st id ≠ [] := by
    intro none_
    rw [none_] at links
    exact some_ (List.map_eq_nil_iff.mp links.nil_eq.symm)
  have distinct : ((set.byDomain.rows.map link).map Prod.fst).Nodup := by
    rw [List.map_map]
    exact set.byDomain.rows_keys_nodup
  have sorted : orderByDomain (linksOf st id) =
      (set.byDomain.rows.insertionSort fun a b => a.1 ≤ b.1).map link := by
    rw [orderByDomain, ← AList.sort_eq_of_perm links.symm distinct]
    exact (List.map_insertionSort (fun a b => a.1 ≤ b.1) (fun a b => a.1 ≤ b.1) link _
      fun _ _ _ _ => Iff.rfl).symm
  have short : ∀ l ∈ (set.byDomain.rows.insertionSort fun a b => a.1 ≤ b.1).map link,
      ledgerHashLengthPrefixed l.1 = some (prefixed l.1) := by
    intro l member
    obtain ⟨e, inside, rfl⟩ := List.mem_map.mp member
    exact ledgerHashText (texts e ((List.perm_insertionSort _ _).mem_iff.mp inside))
  rw [canonicalLinkBytes, if_neg nonempty, sorted, mapM_frames _ short, Option.bind_eq_bind,
    Option.bind_some, decodeHex_flatMap, List.map_map]
  rfl

theorem closureSet_agrees_iff {row : AllowanceRow} (valid : r.Valid)
    (canonical : canonicalizeClosureSet E r = .ok set) (stored : set.StoredIn st r.allowanceId row) :
    closureSetInput st r.allowanceId row = some (closureSetBytes set.byDomain) ↔
      SameCount r.domainClosures.length := by
  obtain ⟨accepted, rows, _⟩ := canonicalizeClosureSet_ok canonical
  have count : set.byDomain.rows.length = r.domainClosures.length := by simp [rows]
  have some_ : set.byDomain.rows ≠ [] := by
    intro none_
    rw [none_] at count
    exact valid.2.2.2.2.2 (List.length_eq_zero_iff.mp count.symm)
  have texts : ∀ e ∈ set.byDomain.rows, validText e.1 := by
    intro e member
    rw [rows, List.mem_reverse] at member
    obtain ⟨c, inside, rfl⟩ := List.mem_map.mp member
    exact (accepted c inside).1.2.1
  rw [← count_eq_iff, closureSetInput, stored.linkBytes some_ texts, stored.required, count,
    ledgerHashUint32_eq, closureSetBytes, count, joined_cons (by rfl :
      _ = some (ascii "payment-platform/offline-closure-set/v1" ++ [0]))]
  simp only [joined, List.mapM_cons, List.mapM_nil, id, Option.pure_def, Option.bind_eq_bind,
    Option.bind_some, Option.map_some, Option.some.injEq, List.flatten_cons, List.flatten_nil,
    List.append_nil, List.append_assoc, List.append_cancel_left_eq, List.append_cancel_right_eq]
  exact eq_comm

/-- The bytes are equal exactly when the number of closures is written alike; it is for
every other value. The closures may be given in any order: the set has one hash, and a
replay is answered with the first proof in every state that holds it. -/
theorem encodings_agree_iff (E : Engine) :
    (∀ x : Encoded, x.Stored E → (x.inSql = x.inGo E ↔ x.Counted)) ∧
      ∀ (r : FenceRequest) (closures : List DomainClosure), closures.Perm r.domainClosures →
        (∀ set, canonicalizeClosureSet E r = .ok set →
          ∃ set', canonicalizeClosureSet E { r with domainClosures := closures } = .ok set' ∧
            set'.setHash = set.setHash) ∧
        ∀ verifier (seen db db' : Database E) proof,
          terminate verifier r seen db = .ok (db', proof) →
          (loadProof r.allowanceId seen = .ok (some proof.stored) ∨
            loadProof r.allowanceId db' = .ok (some proof.stored)) ∧
          ∀ verifier' (later any : Database E),
            loadProof r.allowanceId later = .ok (some proof.stored) →
            terminate verifier' { r with domainClosures := closures } later any =
              .ok (any, { proof with duplicate := true }) := by
  refine ⟨?_, fun r closures same => ⟨fun set done => canonicalizeClosureSet_reordered done same,
    fun verifier seen db db' proof done => ⟨(terminate_ok done).2.2,
      fun verifier' later any held => terminate_replays same done held⟩⟩⟩
  intro x stored
  cases x with
  | allowance =>
    obtain ⟨valid, fits, stored⟩ := stored
    exact iff_of_true (Allowance.payload_agrees valid fits stored) trivial
  | presentation v effectHash effect =>
    exact iff_of_true (VerifiedPresentation.payload_agrees stored effectHash effect) trivial
  | closure => exact iff_of_true (VerifiedClosure.payload_agrees stored) trivial
  | effect => exact iff_of_true (RedemptionEffect.bytes_agree stored) trivial
  | closureSet =>
    obtain ⟨valid, canonical, stored⟩ := stored
    exact closureSet_agrees_iff valid canonical stored
  | proof r fence hash => exact iff_of_true (FenceRequest.proof_agrees stored fence hash) trivial

def numberedClosure (n : Nat) : DomainClosure :=
  { version := closureVersion
    acceptanceDomain := decimal n
    accountId := ascii "alice"
    assetId := ascii "KZT"
    originRegion := ascii "north"
    deviceIdentityHash := sampleEngine.sha256 (ascii "device")
    closedSettlementEpoch := 1
    closedUploadFence := 1
    keyId := ascii "closure"
    signature := ascii "signed" }

def numberedRequest (k : Nat) : FenceRequest :=
  { allowanceId := ascii "allowance"
    expectedPayloadHash := sampleEngine.sha256 (ascii "payload")
    expectedIssuerEpoch := 1
    expectedDeviceCounter := 1
    kind := .expired
    policyEvidenceHash := sampleEngine.sha256 (ascii "policy")
    domainClosures := (List.range k).map numberedClosure }

def numberedRow : AllowanceRow :=
  { accountId := ascii "alice"
    assetId := ascii "KZT"
    originRegion := ascii "north"
    deviceIdentityHash := sampleEngine.sha256 (ascii "device")
    deviceCounter := 1
    amount := 4
    issuerEpoch := 1
    keyId := ascii "issuer"
    canonicalPayload := ascii "payload"
    payloadHash := sampleEngine.sha256 (ascii "payload")
    signature := some (ascii "signature")
    state := .issued }

theorem numberedClosure_accepted {n : Nat} (small : n < 10 ^ 38) :
    (numberedClosure n).Accepted (numberedRequest k) := by
  have first : (numberedClosure 0).Valid ∧ (numberedClosure 0).signature ≠ [] ∧
      (numberedClosure 0).covers 1 1 := by decide +kernel
  exact ⟨⟨rfl, decimal_text small, first.1.2.2⟩, first.2⟩

theorem numbered_canonical (small : k ≤ 10 ^ 38) :
    ∃ set, canonicalizeClosureSet sampleEngine (numberedRequest k) = .ok set := by
  refine canonicalizeClosureSet_succeeds ?_ ?_
  · intro c member
    obtain ⟨n, inside, rfl⟩ := List.mem_map.mp member
    exact numberedClosure_accepted (Nat.lt_of_lt_of_le (List.mem_range.mp inside) small)
  · have domains : ((List.range k).map fun n : Nat => decimal n).Nodup :=
      List.nodup_range.map fun a b same =>
        Int.ofNat.inj (decimal_inj (Int.natCast_nonneg a) (Int.natCast_nonneg b) same)
    simpa [numberedRequest, Function.comp_def, numberedClosure] using domains

theorem VerifiedClosureSet.storable (set : VerifiedClosureSet) (id : Bytes) (row : AllowanceRow) :
    ∃ st, set.StoredIn st id row := by
  obtain ⟨links, hlinks⟩ := AList.exists_rows
    (set.byDomain.rows.map fun e => ((id, e.1), e.2.evidenceHash)) (by
      rw [List.map_map]
      exact (List.map_map (f := Prod.fst) ▸ set.byDomain.rows_keys_nodup.map
        (Prod.mk_right_injective id)))
  obtain ⟨domains, hdomains⟩ := AList.exists_rows
    (set.byDomain.rows.map fun e => (e.1, (⟨ascii "closure", row.issuerEpoch, none⟩ : DomainRow)))
    (by rw [List.map_map]; exact set.byDomain.rows_keys_nodup)
  refine ⟨⟨∅, ∅, ∅, ∅, ∅, domains, ∅, ∅, ∅, links⟩, ?_, ?_⟩
  · simp [linksOf, hlinks, List.filter_map, Function.comp_def]
  · simp [requiredDomains, hdomains, List.filter_map, Function.comp_def, DomainRow.covers]

theorem numbered_stored (positive : 0 < k) (small : k ≤ 10 ^ 38) :
    ∃ set st, (Encoded.closureSet (numberedRequest k) set st numberedRow).Stored sampleEngine := by
  obtain ⟨set, canonical⟩ := numbered_canonical small
  obtain ⟨st, stored⟩ := set.storable (numberedRequest k).allowanceId numberedRow
  obtain ⟨h1, h2, h3, h4, h5, _⟩ : (numberedRequest 1).Valid := by decide +kernel
  have some_ : (numberedRequest k).domainClosures ≠ [] := by simp [numberedRequest, positive.ne']
  exact ⟨set, st, ⟨h1, h2, h3, h4, h5, some_⟩, canonical, stored⟩

theorem numbered_differs (positive : 0 < k) (small : k ≤ 10 ^ 38) (wide : ¬ SameCount k) :
    ∃ set st, (Encoded.closureSet (numberedRequest k) set st numberedRow).Stored sampleEngine ∧
      closureSetInput st (numberedRequest k).allowanceId numberedRow ≠
        some (closureSetBytes set.byDomain) := by
  obtain ⟨set, st, stored⟩ := numbered_stored positive small
  refine ⟨set, st, stored, fun same => wide ?_⟩
  have count := (closureSet_agrees_iff stored.1 stored.2.1 stored.2.2).mp same
  rwa [numberedRequest, List.length_map, List.length_range] at count

/-- With 2^32 closures the database's closure-set bytes are not Go's. -/
theorem wide_closure_set_differs :
    ∃ set st, (Encoded.closureSet (numberedRequest (2 ^ 32)) set st numberedRow).Stored
        sampleEngine ∧
      closureSetInput st (numberedRequest (2 ^ 32)).allowanceId numberedRow ≠
        some (closureSetBytes set.byDomain) :=
  numbered_differs (by norm_num) (by norm_num) not_sameCount_two_pow

theorem sample_encodings_agree :
    ∃ set st, (Encoded.closureSet (numberedRequest 2) set st numberedRow).inSql =
        some (closureSetBytes set.byDomain) ∧
      ∃ set', canonicalizeClosureSet sampleEngine { numberedRequest 2 with
          domainClosures := (numberedRequest 2).domainClosures.reverse } = .ok set' ∧
        set'.setHash = set.setHash := by
  obtain ⟨set, st, stored⟩ := numbered_stored (k := 2) (by decide) (by norm_num)
  obtain ⟨bytes, orders⟩ := encodings_agree_iff sampleEngine
  exact ⟨set, st, (bytes _ stored).mpr (sameCount_of_lt (by decide)),
    (orders (numberedRequest 2) _ (List.reverse_perm _)).1 set stored.2.1⟩

end PaymentPlatform.Offline
