import PaymentPlatform.Audit.Verify
import PaymentPlatform.Escrow.Certificate
import PaymentPlatform.Offline.ClosureSets

/-! The six signed payloads: transfer certificates, consumption receipts, allowances,
presentations, domain closures and audit checkpoints. Each begins with a domain of its
own, and each is read in one way. A checkpoint writes the length of its book id as an
unchecked uint32, which holds the length of every id that the ledger admits. -/

namespace PaymentPlatform

open Framing Ledger Serial Escrow Offline

variable {E : Engine} {bytes : Bytes}

namespace Audit

/-- CreatedAt is not signed and left out. -/
structure Checkpoint where
  bookId : Bytes
  firstSequence : Int64
  lastSequence : Int64
  leafCount : Int64
  merkleRoot : Digest
  lastEntryHash : Digest
  previousCheckpointRoot : Option Digest
  signature : Bytes
  signingKeyId : Bytes
  deriving DecidableEq

def Checkpoint.Valid (c : Checkpoint) : Prop :=
  c.bookId ≠ [] ∧ 0 < c.firstSequence ∧ c.firstSequence ≤ c.lastSequence ∧
    c.leafCount = c.lastSequence - c.firstSequence + 1 ∧ c.signingKeyId ≠ []
  deriving Decidable

def writeSequence (v : Int64) : Bytes := bigEndian 8 v.toUInt64.toNat

/-- What stands between the two texts of a checkpoint's payload. -/
def Checkpoint.body (c : Checkpoint) : Bytes :=
  writeSequence c.firstSequence ++ (writeSequence c.lastSequence ++ (writeSequence c.leafCount ++
    (c.merkleRoot.val ++ (c.lastEntryHash.val ++
      flagged (fun d : Digest => d.val) c.previousCheckpointRoot))))

def Checkpoint.payload (c : Checkpoint) : Option Bytes :=
  if c.Valid then
    some (ascii "payment-platform/audit-checkpoint/v1" ++ ([0] ++ (prefixed c.bookId ++
      (c.body ++ prefixed c.signingKeyId))))
  else none

def Checkpoint.unsigned (c : Checkpoint) : Checkpoint := { c with signature := [] }

theorem writeSequence_selfDelimiting : SelfDelimiting (fun _ : Int64 => True) writeSequence :=
  comap_selfDelimiting Int64.toUInt64 (fun ⟨_⟩ ⟨_⟩ same => congrArg Int64.ofUInt64 same)
    (fun _ _ => trivial) writeUint64_selfDelimiting

theorem Checkpoint.payload_texts {a b : Checkpoint} (pa : a.payload = some bytes)
    (pb : b.payload = some bytes) : prefixed a.bookId ++ (a.body ++ prefixed a.signingKeyId) =
      prefixed b.bookId ++ (b.body ++ prefixed b.signingKeyId) := by
  obtain ⟨_, pa⟩ := Option.ite_none_right_eq_some.mp pa
  obtain ⟨_, pb⟩ := Option.ite_none_right_eq_some.mp pb
  exact List.append_cancel_left (List.append_cancel_left (Option.some.inj (pa.trans pb.symm)))

/-- Two book ids of one length: then all that follows is read in one way, the key id
because it ends the payload. -/
theorem Checkpoint.payload_inj {a b : Checkpoint} (pa : a.payload = some bytes)
    (pb : b.payload = some bytes) (length : a.bookId.length = b.bookId.length) :
    a.unsigned = b.unsigned := by
  have texts := payload_texts pa pb
  simp only [prefixed, body, length, List.append_assoc, List.append_cancel_left_eq] at texts
  obtain ⟨book, rest⟩ := List.append_inj texts length
  obtain ⟨first, rest⟩ := writeSequence_selfDelimiting trivial trivial rest
  obtain ⟨last, rest⟩ := writeSequence_selfDelimiting trivial trivial rest
  obtain ⟨count, rest⟩ := writeSequence_selfDelimiting trivial trivial rest
  obtain ⟨root, rest⟩ := digest_selfDelimiting trivial trivial rest
  obtain ⟨entry, rest⟩ := digest_selfDelimiting trivial trivial rest
  obtain ⟨previous, rest⟩ := flagged_selfDelimiting digest_selfDelimiting
    (fun _ _ => trivial) (fun _ _ => trivial) rest
  have key := (List.append_inj rest (by simp)).2
  simp only [unsigned, book, first, last, count, root, entry, previous, key]

theorem Checkpoint.payload_short {a b : Checkpoint} (pa : a.payload = some bytes)
    (pb : b.payload = some bytes) (short : a.bookId.length < 2 ^ 32 ∧ b.bookId.length < 2 ^ 32) :
    a.bookId.length = b.bookId.length :=
  congrArg List.length
    (prefixed_selfDelimiting short.1 short.2 (payload_texts pa pb)).1

end Audit

open Audit

namespace Offline

theorem validText.short {value : Bytes} (valid : validText value) : value.length < 2 ^ 32 :=
  lt_of_le_of_lt valid.2 (by decide)

def Allowance.unsigned (a : Allowance) : Allowance := { a with signature := [] }

/-- The allowance of a presentation is signed by its payload hash. -/
structure Presentation.SameSigned (p q : Presentation) : Prop where
  version : p.version = q.version
  allowancePayloadHash : p.allowancePayloadHash = q.allowancePayloadHash
  merchantAccountId : p.merchantAccountId = q.merchantAccountId
  acceptanceDomain : p.acceptanceDomain = q.acceptanceDomain
  merchantChallenge : p.merchantChallenge = q.merchantChallenge
  settlementEpoch : p.settlementEpoch = q.settlementEpoch
  uploadFence : p.uploadFence = q.uploadFence
  presentationCounter : p.presentationCounter = q.presentationCounter
  deviceKeyId : p.deviceKeyId = q.deviceKeyId

def DomainClosure.unsigned (c : DomainClosure) : DomainClosure := { c with signature := [] }

theorem appendUint64_selfDelimiting : SelfDelimiting (fun _ : UInt64 => True) appendUint64 :=
  writeUint64_selfDelimiting

theorem prefixed_last {a b : Bytes} (ha : validText a) (hb : validText b)
    (same : prefixed a = prefixed b) : a = b :=
  (prefixed_selfDelimiting (s := []) (t := []) ha.short hb.short (by rw [same])).1

theorem Allowance.payload_inj {a b : Allowance} (fa : fitsDecimal38 a.amount)
    (fb : fitsDecimal38 b.amount) (pa : a.canonicalPayload = some bytes)
    (pb : b.canonicalPayload = some bytes) : a.unsigned = b.unsigned := by
  obtain ⟨va, pa⟩ := Option.ite_none_right_eq_some.mp pa
  obtain ⟨vb, pb⟩ := Option.ite_none_right_eq_some.mp pb
  have same := Option.some.inj (pa.trans pb.symm)
  simp only [va.1, vb.1, List.append_assoc, List.append_cancel_left_eq] at same
  obtain ⟨version, ida, accounta, asseta, regiona, _, _, posa, _, keya⟩ := va
  obtain ⟨version', idb, accountb, assetb, regionb, _, _, posb, _, keyb⟩ := vb
  obtain ⟨account, same⟩ := prefixed_selfDelimiting accounta.short accountb.short same
  obtain ⟨asset, same⟩ := prefixed_selfDelimiting asseta.short assetb.short same
  obtain ⟨region, same⟩ := prefixed_selfDelimiting regiona.short regionb.short same
  obtain ⟨device, same⟩ := digest_selfDelimiting trivial trivial same
  obtain ⟨counter, same⟩ := appendUint64_selfDelimiting trivial trivial same
  obtain ⟨text, same⟩ := prefixed_selfDelimiting (decimal_text fa).short
    (decimal_text fb).short same
  obtain ⟨epoch, same⟩ := appendUint64_selfDelimiting trivial trivial same
  obtain ⟨id, same⟩ := prefixed_selfDelimiting ida.short idb.short same
  have amount := decimal_inj posa.le posb.le text
  simp only [unsigned, version, version', account, asset, region, device, counter, amount, epoch,
    id, prefixed_last keya keyb same]

theorem Presentation.payload_inj {p q : Presentation} (pp : p.canonicalPayload E = some bytes)
    (pq : q.canonicalPayload E = some bytes) : p.SameSigned q := by
  obtain ⟨⟨vp, _⟩, pp⟩ := Option.ite_none_right_eq_some.mp pp
  obtain ⟨⟨vq, _⟩, pq⟩ := Option.ite_none_right_eq_some.mp pq
  have same := Option.some.inj (pp.trans pq.symm)
  simp only [vp.1, vq.1, List.append_assoc, List.append_cancel_left_eq] at same
  obtain ⟨version, _, _, merchantp, domainp, _, _, _, _, keyp⟩ := vp
  obtain ⟨version', _, _, merchantq, domainq, _, _, _, _, keyq⟩ := vq
  obtain ⟨hash, same⟩ := digest_selfDelimiting trivial trivial same
  obtain ⟨merchant, same⟩ := prefixed_selfDelimiting merchantp.short merchantq.short same
  obtain ⟨domain, same⟩ := prefixed_selfDelimiting domainp.short domainq.short same
  obtain ⟨challenge, same⟩ := digest_selfDelimiting trivial trivial same
  obtain ⟨epoch, same⟩ := appendUint64_selfDelimiting trivial trivial same
  obtain ⟨fence, same⟩ := appendUint64_selfDelimiting trivial trivial same
  obtain ⟨counter, same⟩ := appendUint64_selfDelimiting trivial trivial same
  exact ⟨version.trans version'.symm, hash, merchant, domain, challenge, epoch, fence, counter,
    prefixed_last keyp keyq same⟩

theorem DomainClosure.payload_inj {c d : DomainClosure} (pc : c.canonicalPayload = some bytes)
    (pd : d.canonicalPayload = some bytes) : c.unsigned = d.unsigned := by
  obtain ⟨vc, pc⟩ := Option.ite_none_right_eq_some.mp pc
  obtain ⟨vd, pd⟩ := Option.ite_none_right_eq_some.mp pd
  have same := Option.some.inj (pc.trans pd.symm)
  simp only [vc.1, vd.1, List.append_assoc, List.append_cancel_left_eq] at same
  obtain ⟨version, domainc, accountc, assetc, regionc, _, _, _, keyc⟩ := vc
  obtain ⟨version', domaind, accountd, assetd, regiond, _, _, _, keyd⟩ := vd
  obtain ⟨domain, same⟩ := prefixed_selfDelimiting domainc.short domaind.short same
  obtain ⟨account, same⟩ := prefixed_selfDelimiting accountc.short accountd.short same
  obtain ⟨asset, same⟩ := prefixed_selfDelimiting assetc.short assetd.short same
  obtain ⟨region, same⟩ := prefixed_selfDelimiting regionc.short regiond.short same
  obtain ⟨device, same⟩ := digest_selfDelimiting trivial trivial same
  obtain ⟨epoch, same⟩ := appendUint64_selfDelimiting trivial trivial same
  obtain ⟨fence, same⟩ := appendUint64_selfDelimiting trivial trivial same
  simp only [unsigned, version, version', domain, account, asset, region, device, epoch, fence,
    prefixed_last keyc keyd same]

end Offline

inductive SignedKind where
  | certificate
  | consumptionReceipt
  | allowance
  | presentation
  | closure
  | checkpoint
  deriving DecidableEq

def SignedKind.domain : SignedKind → Bytes
  | .certificate => ascii "payment-platform/escrow-certificate/v2"
  | .consumptionReceipt => ascii "payment-platform/escrow-consumption-receipt/v1"
  | .allowance => ascii "payment-platform/offline-allowance/v1"
  | .presentation => ascii "payment-platform/offline-presentation/v1"
  | .closure => ascii "payment-platform/offline-acceptance-domain-closure/v1"
  | .checkpoint => ascii "payment-platform/audit-checkpoint/v1"

theorem SignedKind.domain_take_inj {a b : SignedKind} (same : a.domain.take 27 = b.domain.take 27) :
    a = b := by
  revert same
  cases a <;> cases b <;> decide +kernel

/-- A value that is signed. The amount of an allowance is an Amount, which holds at most
38 digits. -/
inductive SignedValue where
  | certificate (c : Certificate)
  | consumptionReceipt (r : ConsumptionReceipt)
  | allowance (a : Allowance) (fits : fitsDecimal38 a.amount)
  | presentation (p : Presentation)
  | closure (c : DomainClosure)
  | checkpoint (c : Checkpoint)

def SignedValue.kind : SignedValue → SignedKind
  | .certificate _ => .certificate
  | .consumptionReceipt _ => .consumptionReceipt
  | .allowance _ _ => .allowance
  | .presentation _ => .presentation
  | .closure _ => .closure
  | .checkpoint _ => .checkpoint

def SignedValue.payload (E : Engine) : SignedValue → Option Bytes
  | .certificate c => c.payload.toOption
  | .consumptionReceipt r => r.payload.toOption
  | .allowance a _ => a.canonicalPayload
  | .presentation p => p.canonicalPayload E
  | .closure c => c.canonicalPayload
  | .checkpoint c => c.payload

def SignedValue.Agree : SignedValue → SignedValue → Prop
  | .certificate c, .certificate d => c.unsigned = d.unsigned
  | .consumptionReceipt r, .consumptionReceipt s => r.unsigned = s.unsigned
  | .allowance a _, .allowance b _ => a.unsigned = b.unsigned
  | .presentation p, .presentation q => p.SameSigned q
  | .closure c, .closure d => c.unsigned = d.unsigned
  | .checkpoint c, .checkpoint d => c.unsigned = d.unsigned
  | _, _ => False

def SignedValue.SameBookLength : SignedValue → SignedValue → Prop
  | .checkpoint c, .checkpoint d => c.bookId.length = d.bookId.length
  | _, _ => True

/-- A checkpoint's book id has a length that uint32 holds. -/
def SignedValue.ShortBook : SignedValue → Prop
  | .checkpoint c => c.bookId.length < 2 ^ 32
  | _ => True

/-- The book of a checkpoint is one that the ledger admits. -/
def SignedValue.Admitted : SignedValue → Prop
  | .checkpoint c => validId c.bookId
  | _ => True

/-- Create signs a checkpoint of a range that VerifyRange has accepted, and HashEntry
validates the book id of every entry in it. -/
theorem Audit.Checkpoint.admitted {requested : Range} {transactions : List Transaction}
    {result : Verification} (accepted : verifyRange E requested transactions = .ok result)
    {c : Checkpoint} (book : c.bookId = result.bookId) : (SignedValue.checkpoint c).Admitted := by
  unfold verifyRange at accepted
  split at accepted
  · contradiction
  · simp only [verifyFrom, bind_ok, require_ok, pure_ok, Prod.exists] at accepted
    obtain ⟨_, _, _, _, ⟨_, own, _, _, _, hashed, _⟩, rfl⟩ := accepted
    obtain ⟨_, written, _⟩ := hashEntry_ok.mp (mapError_ok.mp hashed)
    simp only [entryBytes, PostRequest.validate, bind_ok, require_ok] at written
    obtain ⟨_, _, _, ⟨_, header, _⟩, _⟩ := written
    show validId c.bookId
    rw [book]
    exact own.1 ▸ header.2.1

theorem SignedValue.Admitted.short {x : SignedValue} (admitted : x.Admitted) : x.ShortBook := by
  cases x with
  | checkpoint => exact lt_of_le_of_lt admitted.2 (by norm_num)
  | _ => trivial

theorem SignedValue.payload_domain {x : SignedValue} (done : x.payload E = some bytes) :
    ∃ rest, bytes = x.kind.domain ++ rest := by
  cases x with
  | certificate => exact ⟨_, (Certificate.payload_ok (toOption_some done)).2.2⟩
  | consumptionReceipt => exact ⟨_, (ConsumptionReceipt.payload_ok (toOption_some done)).2.2⟩
  | allowance =>
    have encoded := (Option.ite_none_right_eq_some.mp done).2
    simp only [List.append_assoc, Option.some.injEq] at encoded
    exact ⟨_, encoded.symm⟩
  | presentation =>
    have encoded := (Option.ite_none_right_eq_some.mp done).2
    simp only [List.append_assoc, Option.some.injEq] at encoded
    exact ⟨_, encoded.symm⟩
  | closure =>
    have encoded := (Option.ite_none_right_eq_some.mp done).2
    simp only [List.append_assoc, Option.some.injEq] at encoded
    exact ⟨_, encoded.symm⟩
  | checkpoint => exact ⟨_, (Option.some.inj (Option.ite_none_right_eq_some.mp done).2).symm⟩

theorem SignedValue.payload_kind {x y : SignedValue} (px : x.payload E = some bytes)
    (py : y.payload E = some bytes) : x.kind = y.kind := by
  obtain ⟨restx, rfl⟩ := payload_domain px
  obtain ⟨resty, same⟩ := payload_domain py
  have long : ∀ kind : SignedKind, 27 ≤ kind.domain.length := by
    intro kind
    cases kind <;> decide +kernel
  by_contra apart
  exact append_ne_append 27 ⟨long _, long _⟩ (fun front => apart (SignedKind.domain_take_inj front))
    _ _ same

/-- Of two values with one payload, both are of one kind and agree in every signed field
exactly when the book ids of two checkpoints are of one length; they are if uint32 holds
their lengths. -/
theorem signatures_bind_iff (x y : SignedValue) (px : x.payload E = some bytes)
    (py : y.payload E = some bytes) :
    (x.Agree y ↔ x.SameBookLength y) ∧ (x.ShortBook → y.ShortBook → x.Agree y) := by
  have kind := SignedValue.payload_kind px py
  cases x with
  | certificate =>
    cases y <;> cases kind
    have agree := Certificate.payload_inj (toOption_some px) (toOption_some py)
    exact ⟨iff_of_true agree trivial, fun _ _ => agree⟩
  | consumptionReceipt =>
    cases y <;> cases kind
    have agree := ConsumptionReceipt.payload_inj (toOption_some px) (toOption_some py)
    exact ⟨iff_of_true agree trivial, fun _ _ => agree⟩
  | allowance a fits =>
    cases y <;> cases kind
    have agree := Allowance.payload_inj fits ‹_› px py
    exact ⟨iff_of_true agree trivial, fun _ _ => agree⟩
  | presentation =>
    cases y <;> cases kind
    have agree := Presentation.payload_inj px py
    exact ⟨iff_of_true agree trivial, fun _ _ => agree⟩
  | closure =>
    cases y <;> cases kind
    have agree := DomainClosure.payload_inj px py
    exact ⟨iff_of_true agree trivial, fun _ _ => agree⟩
  | checkpoint c =>
    cases y <;> cases kind
    rename_i d
    refine ⟨⟨fun agree => ?_, Checkpoint.payload_inj px py⟩, fun short short' =>
      Checkpoint.payload_inj px py (Checkpoint.payload_short px py ⟨short, short'⟩)⟩
    have book : c.unsigned.bookId = d.unsigned.bookId := by rw [agree]
    exact congrArg List.length book

/-- No signature transplants: two values with one payload are of one kind and agree in
every signed field. -/
theorem signatures_bind (x y : SignedValue) (first : x.Admitted) (second : y.Admitted)
    (px : x.payload E = some bytes) (py : y.payload E = some bytes) : x.Agree y :=
  (signatures_bind_iff x y px py).2 first.short second.short

def sampleCheckpoint (signature : Bytes) : Checkpoint :=
  { bookId := ascii "book"
    firstSequence := 1
    lastSequence := 2
    leafCount := 2
    merkleRoot := sampleVerification.merkle
    lastEntryHash := sampleVerification.lastHash
    previousCheckpointRoot := none
    signature := signature
    signingKeyId := ascii "k" }

/-- Two checkpoints of an accepted range, which differ in their signatures only. -/
theorem sample_signatures_bind :
    let x := sampleCheckpoint (ascii "signed")
    let y := sampleCheckpoint (ascii "signed again")
    x ≠ y ∧ (SignedValue.checkpoint x).Agree (.checkpoint y) ∧
      ∃ bytes, (SignedValue.checkpoint x).payload sampleEngine = some bytes := by
  have accepted := sampleEntries_accepted [] (by simp)
  have valid : (sampleCheckpoint []).Valid := by decide
  have payload : ∀ signature, (SignedValue.checkpoint (sampleCheckpoint signature)).payload
      sampleEngine = some _ := fun _ => if_pos valid
  refine ⟨fun same => ?_, signatures_bind _ _ (Checkpoint.admitted accepted rfl)
    (Checkpoint.admitted accepted rfl) (payload _) (payload _), _, payload _⟩
  have texts := congrArg Checkpoint.signature same
  simp [sampleCheckpoint, ascii] at texts

end PaymentPlatform
