import PaymentPlatform.Payment.Claims

/-! The counters of a payment, of its hold and of its captures, and the state
they determine, agree in every reachable database. -/

namespace PaymentPlatform.Payment

open Framing Ledger Serial Idgen

variable {E : Engine} {db db' : Database E} {st st' : Tables}
variable {paymentId captureId : Bytes} {row old new : PaymentRow}

/-- The state determined by the counters: refundState once principal was
returned, captureState once some was captured, the release rule before. -/
def lifecycleState (row : PaymentRow) : Except Failure State :=
  if 0 < row.refundedAtoms + row.chargedBackAtoms then
    refundState row.capturedAtoms row.refundedAtoms row.chargedBackAtoms
  else if 0 < row.capturedAtoms then
    captureState row.authorizedAtoms row.capturedAtoms row.releasedAtoms
  else .ok (releaseState row.authorizedAtoms row.capturedAtoms row.releasedAtoms).1

structure Agrees (st : Tables) (paymentId : Bytes) (row : PaymentRow) : Prop where
  captured : captureTotal st paymentId CaptureRow.capturedAtoms = row.capturedAtoms
  refunded : captureTotal st paymentId CaptureRow.refundedAtoms = row.refundedAtoms
  chargedBack : captureTotal st paymentId CaptureRow.chargedBackAtoms = row.chargedBackAtoms
  hold : ∃ hold, st.holds.lookup paymentId = some hold ∧
    hold.capturedAtoms = row.capturedAtoms ∧ hold.releasedAtoms = row.releasedAtoms
  state : lifecycleState row = .ok row.state

structure Consistent (st : Tables) (paymentId : Bytes) (row : PaymentRow) : Prop
    extends Agrees st paymentId row where
  used : row.capturedAtoms + row.releasedAtoms ≤ row.authorizedAtoms
  returned : row.refundedAtoms + row.chargedBackAtoms ≤ row.capturedAtoms
  perCapture : ∀ captureId capture, st.captureFinancials.lookup captureId = some capture →
    capture.paymentId = paymentId →
    capture.refundedAtoms + capture.chargedBackAtoms ≤ capture.capturedAtoms

structure Counters (st : Tables) : Prop where
  payments : ∀ paymentId row, st.paymentOperations.lookup paymentId = some row →
    row.Checked ∧ Agrees st paymentId row
  captures : ∀ captureId capture, st.captureFinancials.lookup captureId = some capture →
    capture.Checked ∧ (st.paymentOperations.lookup capture.paymentId).isSome

theorem Counters.consistent (inv : Counters st)
    (found : st.paymentOperations.lookup paymentId = some row) : Consistent st paymentId row := by
  obtain ⟨checked, agrees⟩ := inv.payments paymentId row found
  obtain ⟨_, _, _, _, _, _, _, _, _, _, _, used, returned, _, _⟩ := checked
  refine ⟨agrees, used, returned, ?_⟩
  intro captureId capture present _
  exact (inv.captures captureId capture present).1.2.2.2.2.2.2

theorem Counters.kept (inv : Counters st) (kept : CountersKept st st') : Counters st' := by
  obtain ⟨payments, holds, captures⟩ := kept
  constructor
  · intro paymentId row found
    rw [payments] at found
    obtain ⟨checked, agrees⟩ := inv.payments paymentId row found
    refine ⟨checked, ?_⟩
    exact
      { captured := by rw [captureTotal, captures]; exact agrees.captured
        refunded := by rw [captureTotal, captures]; exact agrees.refunded
        chargedBack := by rw [captureTotal, captures]; exact agrees.chargedBack
        hold := by rw [holds]; exact agrees.hold
        state := agrees.state }
  · intro captureId capture found
    rw [captures] at found
    rw [payments]
    exact inv.captures captureId capture found

theorem refundState_cases {captured refunded chargedBack : Int} {state : State}
    (derived : refundState captured refunded chargedBack = .ok state) :
    state = .refunded ∨ state = .chargedBack ∨ state = .partiallyRefunded := by
  simp only [refundState, steps_ok] at derived
  obtain ⟨_, _, derived⟩ := derived
  split at derived
  · simp only [pure_ok] at derived
    split at derived
    · exact .inr (.inl derived.symm)
    · exact .inl derived.symm
  · simp only [pure_ok] at derived
    exact .inr (.inr derived.symm)

theorem not_returned (state : lifecycleState row = .ok row.state) (checked : row.Checked)
    (open_ : row.state = .held ∨ row.state = .partiallyCaptured) :
    row.refundedAtoms = 0 ∧ row.chargedBackAtoms = 0 := by
  obtain ⟨_, _, _, refunded, chargedBack, _⟩ := checked
  unfold lifecycleState at state
  split at state
  · rcases refundState_cases state with same | same | same <;> simp [same] at open_
  · omega

theorem captureState_release {authorized captured released : Int} (some_ : 0 < captured)
    (fits : fitsDecimal38 (captured + released)) (bound : captured + released ≤ authorized) :
    captureState authorized captured released =
      .ok (releaseState authorized captured released).1 := by
  have nonzero : captured ≠ 0 := by omega
  simp only [captureState, steps_ok]
  refine ⟨(), ⟨fits, bound⟩, ?_⟩
  unfold releaseState
  split <;> split <;> simp_all

structure OnlyPayment (paymentId : Bytes) (st st' : Tables) : Prop where
  payments : ∀ other, other ≠ paymentId →
    st'.paymentOperations.lookup other = st.paymentOperations.lookup other
  holds : ∀ other, other ≠ paymentId → st'.holds.lookup other = st.holds.lookup other
  captures : ∀ other, other ≠ paymentId → ∀ column,
    captureTotal st' other column = captureTotal st other column

theorem Counters.only (inv : Counters st) (only : OnlyPayment paymentId st st')
    (payment : ∀ row, st'.paymentOperations.lookup paymentId = some row →
      row.Checked ∧ Agrees st' paymentId row)
    (captures : ∀ captureId capture, st'.captureFinancials.lookup captureId = some capture →
      capture.Checked ∧ (st'.paymentOperations.lookup capture.paymentId).isSome) :
    Counters st' := by
  refine ⟨?_, captures⟩
  intro other row found
  by_cases same : other = paymentId
  · subst same
    exact payment row found
  · rw [only.payments other same] at found
    obtain ⟨checked, agrees⟩ := inv.payments other row found
    refine ⟨checked, ?_⟩
    exact
      { captured := by rw [only.captures other same]; exact agrees.captured
        refunded := by rw [only.captures other same]; exact agrees.refunded
        chargedBack := by rw [only.captures other same]; exact agrees.chargedBack
        hold := by rw [only.holds other same]; exact agrees.hold
        state := agrees.state }

theorem captureTotal_insert {row : CaptureRow}
    (captures : st'.captureFinancials = st.captureFinancials.insert captureId row)
    (fresh : st.captureFinancials.lookup captureId = none) (paymentId : Bytes)
    (column : CaptureRow → Int) : captureTotal st' paymentId column =
      (if row.paymentId = paymentId then column row else 0) + captureTotal st paymentId column := by
  rw [captureTotal, captures]
  exact AList.total_insert_fresh _ fresh _ _

theorem captureTotal_update {old new : CaptureRow}
    (captures : st'.captureFinancials = st.captureFinancials.insert captureId new)
    (found : st.captureFinancials.lookup captureId = some old)
    (owner : new.paymentId = old.paymentId) (paymentId : Bytes) (column : CaptureRow → Int) :
    captureTotal st' paymentId column + (if old.paymentId = paymentId then column old else 0) =
      captureTotal st paymentId column + (if old.paymentId = paymentId then column new else 0) := by
  have moved := AList.total_update st.captureFinancials found new
    (fun _ row => if row.paymentId = paymentId then column row else 0)
  simp only [captureTotal, captures]
  simpa only [owner] using moved

theorem captureTotal_absent (inv : Counters st)
    (absent : st.paymentOperations.lookup paymentId = none) (column : CaptureRow → Int) :
    captureTotal st paymentId column = 0 := by
  calc captureTotal st paymentId column
      = st.captureFinancials.total (fun _ _ => 0) := by
        apply AList.total_congr
        intro captureId row found
        have parent := (inv.captures captureId row found).2
        split
        · rename_i same
          rw [same, absent] at parent
          contradiction
        · rfl
    _ = 0 := AList.total_zero _

theorem lookup_other {κ ρ : Type} [DecidableEq κ] {t t' : Table κ ρ} {key : κ} {row : ρ}
    (same : t' = t.insert key row) : ∀ other, other ≠ key → t'.lookup other = t.lookup other := by
  intro other ne
  rw [same]
  exact AList.lookup_insert_ne ne

theorem parent_kept {payments payments' : Table Bytes PaymentRow}
    (same : payments' = payments.insert paymentId row) {other : Bytes}
    (present : (payments.lookup other).isSome) : (payments'.lookup other).isSome := by
  rw [same, AList.lookup_insert_if]
  split
  · rfl
  · exact present

theorem Counters.hold {request : HoldRequest} {holdId authorization : Bytes} (inv : Counters st)
    (absent : st.paymentOperations.lookup paymentId = none) (checked : (newPayment request).Checked) :
    Counters { st with
      paymentOperations := st.paymentOperations.insert paymentId (newPayment request)
      holds := st.holds.insert paymentId (newHold request holdId authorization) } := by
  refine inv.only ⟨lookup_other rfl, lookup_other rfl, fun _ _ _ => rfl⟩ ?_ ?_
  · intro row found
    rw [AList.lookup_insert] at found
    cases found
    refine ⟨checked, captureTotal_absent inv absent _, captureTotal_absent inv absent _,
      captureTotal_absent inv absent _, ⟨_, AList.lookup_insert _, rfl, rfl⟩, ?_⟩
    have positive : (0 : Int) ≠ request.amount := Int.ne_of_lt checked.1
    simp [lifecycleState, newPayment, releaseState, positive]
  · intro captureId capture found
    obtain ⟨valid, parent⟩ := inv.captures captureId capture found
    exact ⟨valid, parent_kept rfl parent⟩

theorem Counters.capture {request : CaptureRequest} {hold hold' : HoldRow} {capture : CaptureRow}
    (inv : Counters st) (stored : CaptureStored request st st' old new hold hold' captureId capture) :
    Counters st' := by
  have advanced := stored.advanced
  have totals := captureTotal_insert stored.captures stored.fresh
  obtain ⟨valid, agrees⟩ := inv.payments _ _ advanced.payment
  obtain ⟨refunded, chargedBack⟩ := not_returned agrees.state valid stored.open_
  have positive : 0 < new.capturedAtoms := by
    have amount := stored.checked.1
    have before := valid.2.1
    rw [stored.amount] at amount
    rw [stored.captured]
    omega
  refine inv.only ⟨lookup_other advanced.payments, lookup_other advanced.holds, ?_⟩ ?_ ?_
  · intro other ne column
    have foreign : capture.paymentId ≠ other := by
      rw [stored.owner]
      exact ne.symm
    rw [totals, if_neg foreign, zero_add]
  · intro row found
    rw [advanced.payments, AList.lookup_insert] at found
    cases found
    refine ⟨advanced.checked, ?_, ?_, ?_, ⟨hold', ?_, stored.holdCaptured, ?_⟩, ?_⟩
    · rw [totals, if_pos stored.owner, stored.amount, agrees.captured, stored.captured]
      omega
    · rw [totals, if_pos stored.owner, stored.untouched.1, agrees.refunded, stored.refunded]
      omega
    · rw [totals, if_pos stored.owner, stored.untouched.2, agrees.chargedBack, stored.chargedBack]
      omega
    · rw [advanced.holds]
      exact AList.lookup_insert _
    · obtain ⟨_, found, _, released⟩ := agrees.hold
      rw [advanced.held] at found
      cases found
      rw [stored.holdReleased, released, stored.released]
    · have none_ : ¬ 0 < new.refundedAtoms + new.chargedBackAtoms := by
        rw [stored.refunded, stored.chargedBack]
        omega
      simp only [lifecycleState, if_neg none_, if_pos positive]
      rw [stored.authorized, stored.released]
      exact stored.state
  · intro id row found
    rw [stored.captures, AList.lookup_insert_if] at found
    split at found
    · cases found
      refine ⟨stored.checked, ?_⟩
      rw [stored.owner, advanced.payments, AList.lookup_insert]
      rfl
    · obtain ⟨checked, parent⟩ := inv.captures id row found
      exact ⟨checked, parent_kept advanced.payments parent⟩

theorem Counters.release {request : ReleaseRequest} {hold hold' : HoldRow} (inv : Counters st)
    (stored : ReleaseStored request st st' old new hold hold') : Counters st' := by
  have advanced := stored.advanced
  have totals : ∀ paymentId column,
      captureTotal st' paymentId column = captureTotal st paymentId column := by
    intro paymentId column
    simp only [captureTotal, stored.captures]
  obtain ⟨valid, agrees⟩ := inv.payments _ _ advanced.payment
  obtain ⟨refunded, chargedBack⟩ := not_returned agrees.state valid stored.open_
  have row := stored.row
  refine inv.only ⟨lookup_other advanced.payments, lookup_other advanced.holds,
    fun other _ column => totals other column⟩ ?_ ?_
  · intro found_ found
    rw [advanced.payments, AList.lookup_insert] at found
    cases found
    refine ⟨advanced.checked, ?_, ?_, ?_, ⟨hold', ?_, ?_, stored.holdReleased⟩, ?_⟩
    · rw [totals, agrees.captured, row]
    · rw [totals, agrees.refunded, row]
    · rw [totals, agrees.chargedBack, row]
    · rw [advanced.holds]
      exact AList.lookup_insert _
    · obtain ⟨_, found, captured, _⟩ := agrees.hold
      rw [advanced.held] at found
      cases found
      rw [stored.holdCaptured, captured, row]
    · have same : new.capturedAtoms = old.capturedAtoms ∧
          new.authorizedAtoms = old.authorizedAtoms ∧
          new.refundedAtoms = 0 ∧ new.chargedBackAtoms = 0 := by
        rw [row]
        exact ⟨rfl, rfl, refunded, chargedBack⟩
      obtain ⟨captured, authorized, none_, none'⟩ := same
      obtain ⟨_, _, _, _, _, _, _, _, _, _, _, used, _, _, _⟩ := advanced.checked
      rw [stored.state, ← authorized, ← captured]
      simp only [lifecycleState, none_, none', add_zero, lt_irrefl, if_false]
      split
      · rename_i some_
        exact captureState_release some_ (captured ▸ stored.bounded) used
      · rfl
  · intro id capture found
    rw [stored.captures] at found
    obtain ⟨checked, parent⟩ := inv.captures id capture found
    exact ⟨checked, parent_kept advanced.payments parent⟩

theorem Counters.return {capture capture' : CaptureRow} (inv : Counters st)
    (stored : ReturnStored paymentId st st' old new captureId capture capture') : Counters st' := by
  obtain ⟨owner, _, principal, _⟩ := stored.continues
  have totals := captureTotal_update stored.captures stored.found owner.symm
  obtain ⟨valid, agrees⟩ := inv.payments _ _ stored.payment
  have row := stored.row
  refine inv.only ⟨lookup_other stored.payments, fun _ _ => by rw [stored.holds], ?_⟩ ?_ ?_
  · intro other ne column
    have foreign : capture.paymentId ≠ other := by
      rw [stored.owner]
      exact ne.symm
    simpa only [if_neg foreign, add_zero] using totals other column
  · intro found_ found
    rw [stored.payments, AList.lookup_insert] at found
    cases found
    refine ⟨stored.checked, ?_, stored.refunded.symm, stored.chargedBack.symm, ?_, ?_⟩
    · have captured := totals paymentId CaptureRow.capturedAtoms
      rw [if_pos stored.owner, if_pos stored.owner, principal, agrees.captured] at captured
      rw [row]
      exact add_right_cancel captured
    · rw [stored.holds, row]
      exact agrees.hold
    · have refunded := totals paymentId CaptureRow.refundedAtoms
      have chargedBack := totals paymentId CaptureRow.chargedBackAtoms
      rw [if_pos stored.owner, if_pos stored.owner, agrees.refunded, ← stored.refunded] at refunded
      rw [if_pos stored.owner, if_pos stored.owner, agrees.chargedBack, ← stored.chargedBack]
        at chargedBack
      obtain ⟨_, _, _, _, _, _⟩ := valid
      have some_ : 0 < new.refundedAtoms + new.chargedBackAtoms := by
        have moved := stored.moved
        omega
      have same : new.capturedAtoms = old.capturedAtoms := by rw [row]
      simp only [lifecycleState, if_pos some_, same]
      exact stored.state
  · intro id other found
    rw [stored.captures, AList.lookup_insert_if] at found
    split at found
    · cases found
      refine ⟨stored.captureChecked, ?_⟩
      rw [← owner, stored.owner, stored.payments, AList.lookup_insert]
      rfl
    · obtain ⟨checked, parent⟩ := inv.captures id other found
      exact ⟨checked, parent_kept stored.payments parent⟩

/-- A call of the service, or any transaction that does not write the payment
tables. -/
inductive Command (E : Engine) where
  | call (root : Bool) (request : Request) (draw : Draw) (now : Int)
  | elsewhere (other : Database E)

def step (db : Database E) : Command E → Database E
  | .call root request draw now => commit (attempt root request draw now) db
  | .elsewhere other => { other with payment := db.payment }

def effectNames : Command E → List Identifier
  | .call _ _ draw _ => [draw.effect]
  | .elsewhere _ => []

def NamedEffects (used : List Identifier) (st : Tables) : Prop :=
  ∀ key, (st.effects.lookup key).isSome →
    ∃ id ∈ used, ∃ suffix ∈ suffixes, key = ascii "effect_" ++ id.text ++ suffix

theorem NamedEffects.fresh {used : List Identifier} (named : NamedEffects used st)
    {draw : Draw} (new : draw.effect ∉ used) : st.effects.lookup draw.ids.effectId = none := by
  cases found : st.effects.lookup draw.ids.effectId with
  | none => rfl
  | some =>
    obtain ⟨id, member, suffix, known, same⟩ := named draw.ids.effectId (by rw [found]; rfl)
    rw [← List.append_nil draw.ids.effectId, Draw.ids, List.append_assoc, List.append_assoc] at same
    have same := List.append_cancel_left same
    exact absurd (text_suffix_inj (by decide) known (Nat.zero_le _) same ▸ member) new

theorem NamedEffects.adds {used : List Identifier} (named : NamedEffects used st) {draw : Draw}
    (adds : AddsEffects draw.ids.effectId st st') : NamedEffects (used ++ [draw.effect]) st' := by
  intro key present
  rcases adds key present with earlier | ⟨suffix, known, same⟩
  · obtain ⟨id, member, rest⟩ := named key earlier
    exact ⟨id, List.mem_append_left _ member, rest⟩
  · exact ⟨draw.effect, by simp, suffix, known, same⟩

theorem operation_counters {root : Bool} {r : Request} {hash : Digest} {ids : ExecutionIds}
    {receipt : Receipt} (done : r.operation root hash ids db = .ok (db', receipt))
    (unused : db.payment.effects.lookup ids.effectId = none) (inv : Counters db.payment) :
    Counters db'.payment := by
  cases r with
  | hold =>
    obtain ⟨absent, checked, _, kept⟩ := holdInTx_payment done
    exact (inv.hold absent checked).kept kept
  | capture =>
    obtain ⟨_, _, _, _, _, _, stored⟩ := captureInTx_payment done unused
    exact inv.capture stored
  | release =>
    obtain ⟨_, _, _, _, stored⟩ := releaseInTx_payment done
    exact inv.release stored
  | reversal =>
    obtain ⟨_, _, _, _, stored⟩ := releaseInTx_payment done
    exact inv.release stored
  | refund =>
    obtain ⟨_, _, _, _, stored⟩ :=
      returnCaptureInTx_payment done (by simp [RefundRequest.captureReturn])
    exact inv.return stored
  | chargeback =>
    obtain ⟨_, _, _, _, stored⟩ :=
      returnCaptureInTx_payment done (by simp [ChargebackRequest.captureReturn])
    exact inv.return stored

theorem step_counters (used : List Identifier) (db : Database E) (c : Command E)
    (inv : Counters db.payment ∧ NamedEffects used db.payment)
    (new : ∀ id ∈ effectNames c, id ∉ used) :
    Counters (step db c).payment ∧ NamedEffects (used ++ effectNames c) (step db c).payment := by
  cases c with
  | elsewhere => simpa [step, effectNames] using inv
  | call root request draw now =>
    have weaker : NamedEffects (used ++ [draw.effect]) db.payment :=
      inv.2.adds (AddsEffects.refl _ _)
    apply commit_preserves (attempt root request draw now)
      (fun db => Counters db.payment ∧ NamedEffects (used ++ [draw.effect]) db.payment)
      ⟨inv.1, weaker⟩
    intro db' receipt done
    obtain ⟨hash, _, cases⟩ := attempt_cases done
    rcases cases with ⟨_, stored⟩ | ⟨before, after, _, _, performed⟩
    · rw [stored.unchanged]
      exact ⟨inv.1, weaker⟩
    · have same : before.payment = db.payment := by rw [performed.claimed.frame]
      have last : db'.payment = after.payment := by rw [performed.frame]
      have unused := inv.2.fresh (new draw.effect (by simp [effectNames]))
      have counters := operation_counters performed.operated (same ▸ unused) (same ▸ inv.1)
      have adds := (operation_worked performed.operated).effects
      rw [last]
      exact ⟨counters, inv.2.adds (same ▸ adds)⟩

/-- From a database without payments, in every state that any calls with effect
identifiers of their own reach. -/
theorem counters_stay_consistent (start : Database E) (empty : start.payment = noPayments)
    (commands : List (Command E)) (distinct : (commands.flatMap effectNames).Nodup)
    (paymentId : Bytes) (row : PaymentRow)
    (found : (run step start commands).payment.paymentOperations.lookup paymentId = some row) :
    Consistent (run step start commands).payment paymentId row := by
  have initial : Counters start.payment ∧ NamedEffects [] start.payment := by
    rw [empty]
    refine ⟨⟨?_, ?_⟩, ?_⟩
    · intro id other present
      cases present
    · intro id other present
      cases present
    · intro key present
      cases present
  have inv := run_preserves_fresh step effectNames
    (fun used db => Counters db.payment ∧ NamedEffects used db.payment) step_counters commands
    (by simpa using distinct) initial
  exact inv.1.consistent found

def sampleCalls : List (Command sampleEngine) :=
  [.call true (sampleHold 10) (sampleDraw 1) 0,
    .call true (sampleCapture "k2" 6) (sampleDraw 2) 0]

theorem sample_counters_consistent :
    ∃ row, (run step sampleDatabase sampleCalls).payment.paymentOperations.lookup samplePayment =
        some row ∧ row.capturedAtoms = 6 ∧ row.state = .partiallyCaptured ∧
      Consistent (run step sampleDatabase sampleCalls).payment samplePayment row := by
  have value : ((run step sampleDatabase sampleCalls).payment.paymentOperations.lookup
      samplePayment).map (fun row => (row.capturedAtoms, row.state)) =
        some (6, .partiallyCaptured) := by decide +kernel
  obtain ⟨row, found, shown⟩ := Option.map_eq_some_iff.mp value
  obtain ⟨captured, state⟩ := Prod.mk.inj shown
  exact ⟨row, found, captured, state,
    counters_stay_consistent sampleDatabase rfl sampleCalls (by decide +kernel) samplePayment row
      found⟩

end PaymentPlatform.Payment
