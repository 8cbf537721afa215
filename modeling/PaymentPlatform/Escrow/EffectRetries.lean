import PaymentPlatform.Escrow.Receipts
import PaymentPlatform.Ledger.HashAgreement
import PaymentPlatform.Payment.Execute

/-! Retried escrow effects. The service in Go and apply_payment_escrow_effect keep their
receipts in one table and hash the same bytes, so each recognises what the other applied. -/

namespace PaymentPlatform.Escrow

open Framing Ledger Serial

variable {E : Engine}
variable {id : Bytes} {mutate : Tables → Except Failure Tables}

theorem hashField_eq (value : Bytes) : Payment.hashField value = some (writeEffectField value) := by
  have low : bigEndian 8 ((value.length : Int) % 2 ^ 64).toNat = bigEndian 8 value.length := by
    rw [← bigEndian_mod 8 value.length]
    congr 1
  rw [Payment.hashField, ledgerHashInt64_eq, writeInt64, low]
  rfl

theorem escrowHashInput_eq (kind : EffectKind) (request : EffectRequest) :
    Payment.escrowHashInput kind request = some (effectBytes kind request) := by
  simp [Payment.escrowHashInput, effectBytes, effectFields, hashField_eq]

/-- Allocate, Spend and Return of the service, and the two calls of the payment path. -/
inductive EffectCall where
  | allocate (request : EffectRequest)
  | spend (request : EffectRequest)
  | giveBack (request : EffectRequest)
  | paymentSpend (request : EffectRequest)
  | paymentReturn (request : EffectRequest)
  deriving DecidableEq

variable {call : EffectCall}

def EffectCall.request : EffectCall → EffectRequest
  | .allocate request => request
  | .spend request => request
  | .giveBack request => request
  | .paymentSpend request => request
  | .paymentReturn request => request

def EffectCall.kind : EffectCall → EffectKind
  | .allocate _ => .effectAllocate
  | .spend _ => .effectSpend
  | .giveBack _ => .effectReturn
  | .paymentSpend _ => .effectSpend
  | .paymentReturn _ => .effectReturn

def inService (body : Tables → Except Failure (Tables × EffectReceipt)) (db : Database E) :
    Except Payment.Failure (Database E × EffectReceipt) := do
  let (escrow, receipt) ← (body db.escrow).mapError fun failure =>
    .escrow (mapEffectDatabaseError failure)
  return ({ db with escrow := escrow }, receipt)

def EffectCall.run : EffectCall → Database E →
    Except Payment.Failure (Database E × EffectReceipt)
  | .allocate request => inService (allocateInTx (E := E) request)
  | .spend request => inService (spendInTx (E := E) request)
  | .giveBack request => inService (returnInTx (E := E) request)
  | .paymentSpend request => Payment.paymentSpendInTx request
  | .paymentReturn request => Payment.paymentReturnInTx request

def EffectCall.receipt (E : Engine) (call : EffectCall) : EffectReceiptRow :=
  receiptRow call.kind call.request (hashEffect E call.kind call.request)

/-- The request passes validate, its texts are texts of the database and its amount is an
Amount of at most 38 digits. -/
structure EffectRequest.Storable (E : Engine) (request : EffectRequest) : Prop where
  valid : request.validate = .ok ()
  texts : ∀ text ∈ [request.effectId, request.accountId, request.assetId, request.region],
    E.acceptsText text = true
  amount : fitsDecimal38 request.amount

/-- A STRING is UTF-8: what begins it is not the continuation of a character. -/
def CountsCharacters (E : Engine) : Prop :=
  ∀ text, E.acceptsText text = true → text ≠ [] → 0 < charLength text

inductive EffectCommand (E : Engine) where
  | apply (call : EffectCall)
  /-- Any transaction that leaves the receipts as they are. -/
  | elsewhere (other : Database E)

def effectStep (db : Database E) : EffectCommand E → Database E
  | .apply call => commit call.run db
  | .elsewhere other => { other with escrow.effectReceipts := db.escrow.effectReceipts }

def withoutReceipts (db : Database E) : Database E := { db with escrow.effectReceipts := ∅ }

variable {st st' : Tables} {kind : EffectKind} {request : EffectRequest} {hash : Digest}
  {db db' : Database E} {answer : EffectReceipt} {row : EffectReceiptRow}

theorem insertReceipt_ok {inserted : Option Tables}
    (done : insertReceipt E kind request hash st = .ok inserted) :
    (∀ text ∈ [request.effectId, request.accountId, request.assetId, request.region],
      E.acceptsText text = true) ∧ fitsDecimal38 request.amount ∧
      ((inserted = none ∧ (st.effectReceipts.lookup request.effectId).isSome) ∨
        (st.effectReceipts.lookup request.effectId = none ∧ inserted = some { st with
          effectReceipts :=
            (st.effectReceipts.insert request.effectId (receiptRow kind request hash)) })) := by
  simp only [insertReceipt, acceptsAll, steps_ok] at done
  obtain ⟨_, texts, _, fits, _, _, done⟩ := done
  refine ⟨texts, fits, ?_⟩
  split at done
  · rename_i present
    exact .inl ⟨(pure_ok.mp done).symm, present⟩
  · rename_i absent
    simp only [steps_ok] at done
    obtain ⟨_, _, rfl⟩ := done
    exact .inr ⟨by simpa using absent, rfl⟩

/-- A call that commits finds its receipt and changes nothing, or adds it. -/
def Leaves (E : Engine) (kind : EffectKind) (request : EffectRequest) (st st' : Tables) : Prop :=
  (st' = st ∧ st.effectReceipts.lookup request.effectId =
      some (receiptRow kind request (hashEffect E kind request))) ∨
    (request.Storable E ∧ st.effectReceipts.lookup request.effectId = none ∧
      st'.effectReceipts = st.effectReceipts.insert request.effectId
        (receiptRow kind request (hashEffect E kind request)))

theorem applyEffect_leaves
    (keeps : ∀ mid st', mutate mid = .ok st' → st'.effectReceipts = mid.effectReceipts)
    (done : applyEffect (E := E) kind request mutate st = .ok (st', answer)) :
    Leaves E kind request st st' := by
  simp only [applyEffect, bind_ok, executed_ok] at done
  obtain ⟨_, valid, inserted, made, done⟩ := done
  obtain ⟨texts, fits, ⟨rfl, _⟩ | ⟨fresh, rfl⟩⟩ := insertReceipt_ok made
  · simp only [steps_ok] at done
    obtain ⟨_, found, _, rfl, rfl, _⟩ := done
    exact .inl ⟨rfl, found⟩
  · simp only [steps_ok] at done
    obtain ⟨_, moved, rfl, _⟩ := done
    exact .inr ⟨⟨valid, texts, fits⟩, fresh, keeps _ _ moved⟩

theorem upsertRights_receipts {accountId assetId region : Bytes} {amount : Int}
    (done : upsertRights E accountId assetId region amount st = .ok st') :
    st'.effectReceipts = st.effectReceipts := by
  simp only [upsertRights, steps_ok] at done
  obtain ⟨_, _, _, _, done⟩ := done
  split at done <;>
  · simp only [writeRights, steps_ok] at done
    obtain ⟨_, _, _, _, _, _, rfl⟩ := done
    rfl

theorem allocateInTx_leaves (done : allocateInTx (E := E) request st = .ok (st', answer)) :
    Leaves E .effectAllocate request st st' := by
  refine applyEffect_leaves (fun mid st' moved => ?_) done
  simp only [steps_ok, executed_ok] at moved
  obtain ⟨_, lowered, _, rfl, raised⟩ := moved
  rw [upsertRights_receipts raised, (updateAuthority_updates lowered).1.receipts]

theorem applyPaymentEffect_leaves
    (done : Payment.applyPaymentEffect kind request db = .ok (db', answer)) :
    Leaves E kind request db.escrow db'.escrow ∧ db' = { db with escrow := db'.escrow } := by
  simp only [Payment.applyPaymentEffect, Payment.applyPaymentEscrowEffect, escrowHashInput_eq,
    steps_ok, Option.some.injEq, Prod.exists] at done
  obtain ⟨_, valid, mid, applied, ⟨_, _, _, rfl, _, _, done⟩, rfl, _⟩ := done
  split at done
  · rename_i stored found
    simp only [steps_ok] at done
    obtain ⟨_, rfl, rfl, _⟩ := done
    exact ⟨.inl ⟨rfl, found⟩, rfl⟩
  · rename_i absent
    simp only [steps_ok] at done
    obtain ⟨_, _, inserted, made, done⟩ := done
    obtain ⟨texts, fits, ⟨rfl, present⟩ | ⟨fresh, rfl⟩⟩ := insertReceipt_ok made
    · rw [absent] at present
      cases present
    · simp only [steps_ok] at done
      obtain ⟨_, moved, rfl, _⟩ := done
      exact ⟨.inr ⟨⟨valid, texts, fits⟩, fresh, (moveRights_updates moved).receipts⟩, rfl⟩

theorem EffectCall.run_leaves (done : call.run db = .ok (db', answer)) :
    Leaves E call.kind call.request db.escrow db'.escrow ∧
      db' = { db with escrow := db'.escrow } := by
  cases call with
  | allocate =>
    simp only [run, inService, steps_ok, Prod.exists] at done
    obtain ⟨_, _, done, rfl, _⟩ := done
    exact ⟨allocateInTx_leaves done, rfl⟩
  | spend =>
    simp only [run, inService, steps_ok, Prod.exists] at done
    obtain ⟨_, _, done, rfl, _⟩ := done
    exact ⟨applyEffect_leaves (fun _ _ moved => (moveRights_updates moved).receipts) done, rfl⟩
  | giveBack =>
    simp only [run, inService, steps_ok, Prod.exists] at done
    obtain ⟨_, _, done, rfl, _⟩ := done
    exact ⟨applyEffect_leaves (fun _ _ moved => (moveRights_updates moved).receipts) done, rfl⟩
  | paymentSpend => exact applyPaymentEffect_leaves done
  | paymentReturn => exact applyPaymentEffect_leaves done

theorem EffectRequest.Storable.checks (utf8 : CountsCharacters E) (storable : request.Storable E) :
    1 ≤ charLength request.effectId ∧ charLength request.effectId ≤ 512 ∧
      0 < charLength request.accountId ∧ 0 < charLength request.assetId ∧
      0 < charLength request.region ∧ 0 < request.amount := by
  obtain ⟨effect, short, account, asset, region, positive⟩ := require_ok.mp storable.valid
  have texts := storable.texts
  exact ⟨utf8 _ (texts _ (by simp)) effect, (charLength_le _).trans short,
    utf8 _ (texts _ (by simp)) account, utf8 _ (texts _ (by simp)) asset,
    utf8 _ (texts _ (by simp)) region, positive⟩

theorem applyEffect_found (utf8 : CountsCharacters E)
    (found : st.effectReceipts.lookup request.effectId = some row) (storable : request.Storable E) :
    applyEffect (E := E) kind request mutate st =
      if row = receiptRow kind request (hashEffect E kind request) then
        .ok (st, ⟨request.effectId, kind, hashEffect E kind request, true⟩)
      else .error .effectConflict := by
  obtain ⟨long, short, _, _, _, positive⟩ := storable.checks utf8
  have inserted : insertReceipt E kind request (hashEffect E kind request) st = .ok none := by
    simp only [insertReceipt, acceptsAll, steps_ok]
    exact ⟨(), storable.texts, (), storable.amount, (), ⟨long, short, positive⟩, by rw [found]; rfl⟩
  simp only [applyEffect, storable.valid, inserted, executed, found]
  split
  · rename_i same
    simp [same, bind, Except.bind, require, expect, pure, Except.pure]
  · rename_i differs
    simp [differs, bind, Except.bind, require, expect]

theorem applyPaymentEffect_found (utf8 : CountsCharacters E) (paid : kind ≠ .effectAllocate)
    (found : db.escrow.effectReceipts.lookup request.effectId = some row)
    (storable : request.Storable E) : Payment.applyPaymentEffect kind request db =
      if row = receiptRow kind request (hashEffect E kind request) then
        .ok (db, ⟨request.effectId, kind, hashEffect E kind request, true⟩)
      else .error (.escrow .effectConflict) := by
  have checks := storable.checks utf8
  simp only [Payment.applyPaymentEffect, Payment.applyPaymentEscrowEffect, escrowHashInput_eq,
    storable.valid, found, hashEffect]
  by_cases same : row = receiptRow kind request (E.sha256 (effectBytes kind request))
  · simp [same, paid, checks, bind, Except.bind, require, expect, pure, Except.pure]
  · simp [same, paid, checks, bind, Except.bind, require, expect, Payment.mapEscrowError]

theorem EffectCall.run_found (utf8 : CountsCharacters E)
    (found : db.escrow.effectReceipts.lookup call.request.effectId = some row)
    (storable : call.request.Storable E) : call.run db = if row = call.receipt E then
        .ok (db, ⟨call.request.effectId, call.kind, hashEffect E call.kind call.request, true⟩)
      else .error (.escrow .effectConflict) := by
  have service : ∀ (body : Tables → Except Failure (Tables × EffectReceipt)) (answer : EffectReceipt),
      body db.escrow = (if row = call.receipt E then .ok (db.escrow, answer)
        else .error .effectConflict) →
      inService body db = if row = call.receipt E then .ok (db, answer)
        else .error (.escrow .effectConflict) := by
    intro body answer same
    rw [inService, same]
    split <;> rfl
  cases call with
  | allocate => exact service _ _ (applyEffect_found utf8 found storable)
  | spend => exact service _ _ (applyEffect_found utf8 found storable)
  | giveBack => exact service _ _ (applyEffect_found utf8 found storable)
  | paymentSpend => exact applyPaymentEffect_found utf8 (by decide) found storable
  | paymentReturn => exact applyPaymentEffect_found utf8 (by decide) found storable

def ReceiptsWritten (db : Database E) : Prop :=
  ∀ id row, db.escrow.effectReceipts.lookup id = some row →
    ∃ kind request, request.effectId = id ∧ request.Storable E ∧
      row = receiptRow kind request (hashEffect E kind request)

theorem Leaves.written (leaves : Leaves E kind request db.escrow db'.escrow)
    (written : ReceiptsWritten db) : ReceiptsWritten db' := by
  obtain ⟨same, _⟩ | ⟨storable, _, inserted⟩ := leaves
  · exact fun id row found => written id row (same ▸ found)
  · rw [ReceiptsWritten, inserted]
    exact AList.forall_insert ⟨kind, request, rfl, storable, rfl⟩ written

theorem Leaves.kept (leaves : Leaves E kind request st st')
    (found : st.effectReceipts.lookup id = some row) : st'.effectReceipts.lookup id = some row := by
  obtain ⟨rfl, _⟩ | ⟨_, fresh, inserted⟩ := leaves
  · exact found
  · rw [inserted, AList.lookup_insert_if, if_neg, found]
    rintro rfl
    rw [fresh] at found
    cases found

theorem effectStep_written (db : Database E) (command : EffectCommand E)
    (written : ReceiptsWritten db) : ReceiptsWritten (effectStep db command) := by
  cases command with
  | apply =>
    exact commit_preserves _ ReceiptsWritten written fun db' answer done =>
      (EffectCall.run_leaves done).1.written written
  | elsewhere => exact written

theorem effectRun_kept (commands : List (EffectCommand E))
    (found : db.escrow.effectReceipts.lookup id = some row) :
    (run effectStep db commands).escrow.effectReceipts.lookup id = some row := by
  refine run_preserves effectStep (fun db => db.escrow.effectReceipts.lookup id = some row) ?_
    commands found
  intro db command found
  cases command with
  | apply =>
    exact commit_preserves _ (fun db => db.escrow.effectReceipts.lookup id = some row) found
      fun db' answer done => (EffectCall.run_leaves done).1.kept found
  | elsewhere => exact found

theorem receiptRow_inj {kind' : EffectKind} {request' : EffectRequest} {hash' : Digest}
    (same : receiptRow kind request hash = receiptRow kind' request' hash')
    (id : request.effectId = request'.effectId) : kind = kind' ∧ request = request' := by
  obtain ⟨effectId, accountId, assetId, region, amount⟩ := request
  obtain ⟨effectId', accountId', assetId', region', amount'⟩ := request'
  simp only [receiptRow, EffectReceiptRow.mk.injEq] at same
  simp_all

/-- Once an effect is applied, every call with its id is, in every later state, a duplicate
that changes nothing if kind and request are the same, and otherwise fails and changes
nothing; it fails with a conflict if its request could be stored. Both sides hash the same
bytes. -/
theorem effects_apply_once (utf8 : CountsCharacters E) (start : Database E)
    (before after : List (EffectCommand E)) (call : EffectCall) (applied : Database E)
    (answer : EffectReceipt)
    (done : call.run (run effectStep (withoutReceipts start) before) = .ok (applied, answer)) :
    (∀ again : EffectCall, again.kind = call.kind → again.request = call.request →
      again.run (run effectStep applied after) = .ok (run effectStep applied after,
        ⟨call.request.effectId, call.kind, hashEffect E call.kind call.request, true⟩)) ∧
    (∀ other : EffectCall, other.request.effectId = call.request.effectId →
      ¬ (other.kind = call.kind ∧ other.request = call.request) →
      commit other.run (run effectStep applied after) = run effectStep applied after ∧
      ∃ failure, other.run (run effectStep applied after) = .error failure ∧
        (other.request.Storable E → failure = .escrow .effectConflict)) ∧
    ∀ kind request, Payment.escrowHashInput kind request = some (effectBytes kind request) := by
  have start : ReceiptsWritten (withoutReceipts start) := by
    intro id row found
    cases found
  have written := run_preserves effectStep ReceiptsWritten effectStep_written before start
  obtain ⟨leaves, _⟩ := EffectCall.run_leaves done
  have receipt : applied.escrow.effectReceipts.lookup call.request.effectId =
      some (call.receipt E) := by
    obtain ⟨same, found⟩ | ⟨_, _, inserted⟩ := leaves
    · rw [same, found]
      rfl
    · rw [inserted, AList.lookup_insert]
      rfl
  obtain ⟨_, request, id, storable, row⟩ := leaves.written written _ _ receipt
  obtain ⟨_, rfl⟩ := receiptRow_inj row id.symm
  have later := effectRun_kept after receipt
  generalize run effectStep applied after = reached at later ⊢
  refine ⟨fun again kind same => ?_, fun other same differs => ?_, escrowHashInput_eq⟩
  · rw [EffectCall.run_found utf8 (same ▸ later) (same ▸ storable), if_pos, kind, same]
    rw [EffectCall.receipt, EffectCall.receipt, kind, same]
  · rw [← same] at later
    have other_row : call.receipt E ≠ other.receipt E := fun rows =>
      differs ⟨(receiptRow_inj rows same.symm).1.symm, (receiptRow_inj rows same.symm).2.symm⟩
    have fails : ∃ failure, other.run reached = .error failure := by
      cases result : other.run reached with
      | error failure => exact ⟨failure, rfl⟩
      | ok =>
        obtain ⟨_, found⟩ | ⟨_, fresh, _⟩ := (EffectCall.run_leaves result).1
        · exact absurd (Option.some.inj (later.symm.trans found)) other_row
        · rw [later] at fresh
          cases fresh
    obtain ⟨failure, failed⟩ := fails
    refine ⟨by rw [commit, failed], failure, failed, fun storable' => ?_⟩
    rw [EffectCall.run_found utf8 later storable', if_neg other_row] at failed
    exact (Except.error.inj failed).symm

/- One authority: six atoms are allocated, two of them are spent. -/

def sampleRights : Database sampleEngine :=
  { Payment.sampleDatabase with
    escrow.authorities := (∅ : Table (Bytes × Bytes) AuthorityRow).insert
      (ascii "alice", ascii "KZT") ⟨10, 10, 0⟩ }

def sampleAllocation : EffectCommand sampleEngine :=
  .apply (.allocate ⟨ascii "e1", ascii "alice", ascii "KZT", ascii "north", 6⟩)

def sampleSpend (region : String) : EffectRequest :=
  ⟨ascii "e2", ascii "alice", ascii "KZT", ascii region, 2⟩

theorem sampleSpend_applied : ∃ applied answer, (EffectCall.spend (sampleSpend "north")).run
      (run effectStep (withoutReceipts sampleRights) [sampleAllocation]) = .ok (applied, answer) := by
  have committed : ((EffectCall.spend (sampleSpend "north")).run
      (run effectStep (withoutReceipts sampleRights) [sampleAllocation])).isOk = true := by
    decide +kernel
  cases result : (EffectCall.spend (sampleSpend "north")).run
      (run effectStep (withoutReceipts sampleRights) [sampleAllocation]) with
  | error failure =>
    rw [result] at committed
    cases committed
  | ok pair => exact ⟨pair.1, pair.2, rfl⟩

/-- The id of an applied effect with an empty region: an invalid argument, not a conflict. -/
theorem invalid_reuse_is_no_conflict : ∃ applied answer,
    (EffectCall.spend (sampleSpend "north")).run
      (run effectStep (withoutReceipts sampleRights) [sampleAllocation]) = .ok (applied, answer) ∧
    (EffectCall.spend (sampleSpend "")).run applied = .error (.escrow .invalidArgument) := by
  obtain ⟨applied, answer, done⟩ := sampleSpend_applied
  exact ⟨applied, answer, done, rfl⟩

theorem sample_spend_is_recognised : ∃ applied answer receipt,
    (EffectCall.spend (sampleSpend "north")).run
      (run effectStep (withoutReceipts sampleRights) [sampleAllocation]) = .ok (applied, answer) ∧
    (EffectCall.paymentSpend (sampleSpend "north")).run applied = .ok (applied, receipt) ∧
    receipt.duplicate = true := by
  obtain ⟨applied, answer, done⟩ := sampleSpend_applied
  have utf8 : CountsCharacters sampleEngine := by
    intro text ascii_ some_
    obtain ⟨first, rest, rfl⟩ := List.exists_cons_of_ne_nil some_
    have small : first < 128 := by
      simpa using List.all_eq_true.mp ascii_ first (by simp)
    simp [charLength, small]
  exact ⟨applied, answer, _, done, (effects_apply_once utf8 sampleRights [sampleAllocation] []
    _ applied answer done).1 (.paymentSpend (sampleSpend "north")) rfl rfl, rfl⟩

end PaymentPlatform.Escrow
