import PaymentPlatform.Repair.Corrections

/-! Runs of the cashback repair among the other services. A capture is corrected at most
once: from its net cashback at the start to its expected cashback. -/

namespace PaymentPlatform.Repair

open Framing Ledger Serial

variable {E : Engine}
variable {repairId : Bytes} {m : CashbackManifest} {st st' : Store E}

section Capture

variable (paymentId captureId : Bytes)

/-- What a transaction of another service leaves alone: posted entries, the kind
CASHBACK_REVERSAL, and the cashback of the capture. -/
structure Spares (db other : Database E) : Prop where
  posted : KeepsPosted db.ledger other.ledger
  projected : Projected db.ledger → Projected other.ledger
  kind : ∀ id row, other.ledger.transactions.lookup id = some row →
    row.transactionKind = reversalKind → db.ledger.transactions.lookup id = some row
  aside : Sidesteps paymentId captureId db.payment other.payment

def Spared (st : Store E) : Command E → Prop
  | .elsewhere other => Spares paymentId captureId st.db other
  | _ => True

structure Legacy (db : Database E) (capture : Payment.CaptureRow) : Prop where
  projected : Projected db.ledger
  unrepaired : ∀ id row, db.ledger.transactions.lookup id = some row →
    row.transactionKind ≠ reversalKind
  own : OwnEntries paymentId db.payment
  once : ReversedOnce paymentId captureId db.payment
  found : db.payment.captureFinancials.lookup captureId = some capture
  owner : capture.paymentId = paymentId
  counter : capture.cashbackReversedAtoms = reversedCashback db.payment paymentId captureId

/-- A manifest of the capture, against the net cashback that the run began with. -/
structure Manifested (expected begun : Int) (tables : Payment.Tables) (m : CashbackManifest) :
    Prop where
  target : m.expected = expected
  actual : m.actual = begun
  excess : m.excess = begun - expected
  more : expected < begun
  grant : ∃ id row, tables.effects.lookup id = some row ∧ isGrant paymentId captureId row = true ∧
    row.ledgerTransactionId = m.originalTransactionId
  unreversed : m.status = .planned → netCashback tables paymentId captureId = begun →
    ∀ id row, tables.effects.lookup id = some row →
      reverses paymentId m.originalTransactionId row = false
  corrected : m.status = .posted → netCashback tables paymentId captureId = expected

structure Sound (expected begun : Int) (st : Store E) : Prop where
  projected : Projected st.db.ledger
  own : OwnEntries paymentId st.db.payment
  once : ReversedOnce paymentId captureId st.db.payment
  counter : ∃ row, st.db.payment.captureFinancials.lookup captureId = some row ∧
    row.paymentId = paymentId ∧ row.expectedCashbackAtoms = expected ∧
    row.cashbackReversedAtoms = reversedCashback st.db.payment paymentId captureId
  net : netCashback st.db.payment paymentId captureId = begun ∨
    (netCashback st.db.payment paymentId captureId = expected ∧ expected < begun)
  manifests : ∀ id m, st.manifests.lookup id = some m → m.paymentId = paymentId →
    m.captureTransactionId = captureId →
    Manifested paymentId captureId expected begun st.db.payment m
  unique : ∀ id id' m m', st.manifests.lookup id = some m → st.manifests.lookup id' = some m' →
    m.correctionEffectId = m'.correctionEffectId → id = id'
  entries : ∀ id row, st.db.ledger.transactions.lookup id = some row →
    row.transactionKind = reversalKind → ∃ repairId m, st.manifests.lookup repairId = some m ∧
      m.status = .posted ∧ m.correctionEffectId = row.effectId

variable {paymentId captureId}

theorem Legacy.sound {db : Database E} {capture : Payment.CaptureRow}
    (legacy : Legacy paymentId captureId db capture) :
    Sound paymentId captureId capture.expectedCashbackAtoms
      (netCashback db.payment paymentId captureId) ⟨db, ∅⟩ where
  projected := legacy.projected
  own := legacy.own
  once := legacy.once
  counter := ⟨capture, legacy.found, legacy.owner, rfl, legacy.counter⟩
  net := Or.inl rfl
  manifests := by simp
  unique := by simp
  entries id row found kind := absurd kind (legacy.unrepaired id row found)

variable {expected begun : Int}

theorem Manifested.aside {tables tables' : Payment.Tables}
    (manifested : Manifested paymentId captureId expected begun tables m)
    (aside : Sidesteps paymentId captureId tables tables') :
    Manifested paymentId captureId expected begun tables' m where
  target := manifested.target
  actual := manifested.actual
  excess := manifested.excess
  more := manifested.more
  grant := by
    obtain ⟨id, row, found, granted, entry⟩ := manifested.grant
    exact ⟨id, row, aside.kept id row found, granted, entry⟩
  unreversed planned same id row found := by
    rw [aside.net] at same
    obtain ⟨g, grant, held, granted, entry⟩ := manifested.grant
    cases before : tables.effects.lookup id with
    | none =>
      rw [← entry]
      exact aside.reversals id row before found g grant held granted
    | some e =>
      cases (aside.kept id e before).symm.trans found
      exact manifested.unreversed planned same id row before
  corrected posted := by
    rw [aside.net]
    exact manifested.corrected posted

section

variable (inv : Sound paymentId captureId expected begun st)
include inv

theorem Sound.counted
    {tables : Payment.Tables} (aside : Sidesteps paymentId captureId st.db.payment tables) :
    ∃ row, tables.captureFinancials.lookup captureId = some row ∧ row.paymentId = paymentId ∧
      row.expectedCashbackAtoms = expected ∧
      row.cashbackReversedAtoms = reversedCashback tables paymentId captureId := by
  obtain ⟨row, found, owner, same, counter⟩ := inv.counter
  obtain ⟨row', found', owner', same', counter'⟩ := aside.counter row found
  exact ⟨row', found', owner'.trans owner, same'.trans same, by rw [counter', counter, aside.reversed]⟩

theorem Sound.elsewhere {other : Database E} (spares : Spares paymentId captureId st.db other) :
    Sound paymentId captureId expected begun { st with db := other } where
  projected := spares.projected inv.projected
  own := spares.aside.own inv.own
  once := spares.aside.once inv.once
  counter := inv.counted spares.aside
  net := by
    rw [spares.aside.net]
    exact inv.net
  manifests id m found same same' := (inv.manifests id m found same same').aside spares.aside
  unique := inv.unique
  entries id row found kind := inv.entries id row (spares.kind id row found kind) kind

theorem Sound.manifested (planned : Planned st m) (same : m.paymentId = paymentId)
    (same' : m.captureTransactionId = captureId) :
    Manifested paymentId captureId expected begun st.db.payment m := by
  subst same same'
  obtain ⟨row, found, _, expects⟩ := planned.capture
  obtain ⟨row', found', _, expects', _⟩ := inv.counter
  cases found.symm.trans found'
  have target : m.expected = expected := expects.trans expects'
  have actual := planned.actual
  have more := planned.more
  have excess := planned.excess
  have uncorrected : m.actual = begun := by
    rcases inv.net with first | ⟨second, _⟩ <;> omega
  exact
    { target := target
      actual := uncorrected
      excess := by omega
      more := by omega
      grant := planned.grant
      unreversed := fun _ _ => planned.unreversed
      corrected := fun posted => by rw [planned.status] at posted; cases posted }

theorem Sound.planned (absent : st.manifests.lookup repairId = none)
    (planned : Planned st m) : Sound paymentId captureId expected begun
      { st with manifests := st.manifests.insert repairId m } where
  projected := inv.projected
  own := inv.own
  once := inv.once
  counter := inv.counter
  net := inv.net
  manifests := AList.forall_insert (inv.manifested planned) inv.manifests
  unique id id' m₁ m₂ found found' same := by
    rw [AList.lookup_insert_if] at found found'
    split at found
    · rename_i here
      split at found'
      · rename_i here'
        rw [here, here']
      · cases found
        exact absurd same.symm (planned.unique id' m₂ found')
    · split at found'
      · cases found'
        exact absurd same (planned.unique id m₁ found)
      · exact inv.unique id id' m₁ m₂ found found' same
  entries id row found kind := by
    obtain ⟨other, m', held, posted, effect⟩ := inv.entries id row found kind
    exact ⟨other, m', AList.lookup_insert_fresh absent _ held, posted, effect⟩

end

section Correction

variable {repairId : Bytes} {m : CashbackManifest} {st st' : Store E} {receipt : Receipt}

variable (inv : Sound paymentId captureId expected begun st)
  (found : st.manifests.lookup repairId = some m) (corrected : Corrected repairId m st st' receipt)

section

include corrected

theorem Corrected.own
    (own : OwnEntries paymentId st.db.payment) : OwnEntries paymentId st'.db.payment := by
  intro id id' e e' found found' payer payer' kind kind' entry
  rw [corrected.effects, AList.lookup_insert_if] at found found'
  split at found
  · cases found
    cases kind
  · split at found'
    · cases found'
      cases kind'
    · exact own id id' e e' found found' payer payer' kind kind' entry

theorem Corrected.aside (own : OwnEntries paymentId st.db.payment)
    (owner : ∃ row, st.db.payment.captureFinancials.lookup captureId = some row ∧
      row.paymentId = paymentId)
    (other : ¬ (m.paymentId = paymentId ∧ m.captureTransactionId = captureId)) :
    Sidesteps paymentId captureId st.db.payment st'.db.payment := by
  have added : ∀ id e, st.db.payment.effects.lookup id = none →
      st'.db.payment.effects.lookup id = some e → e = (correctionEffect E repairId m).row := by
    intro id e absent found
    rw [corrected.effects, AList.lookup_insert_if, absent] at found
    split at found
    · exact (Option.some.inj found).symm
    · cases found
  have apart : m.captureTransactionId ≠ captureId := by
    intro here
    obtain ⟨row, found, same⟩ := owner
    obtain ⟨old, _, found', counted, _⟩ := corrected.capture
    rw [here, found] at found'
    cases found'
    exact other ⟨counted.owner.symm.trans same, here⟩
  refine ⟨?_, ?_, ?_, ?_, ?_⟩
  · intro id e found
    rw [corrected.effects]
    exact AList.lookup_insert_fresh corrected.fresh _ found
  · intro id e absent found
    rw [added id e absent found]
    simp [isGrant, Payment.EffectArguments.row, correctionEffect]
  · intro id e absent found g grant held granted
    rw [added id e absent found, Bool.eq_false_iff]
    intro reversal
    obtain ⟨payer, _, entry⟩ := reverses_iff.mp reversal
    have payer : m.paymentId = paymentId := payer
    have entry : m.originalTransactionId = grant.ledgerTransactionId := Option.some.inj entry
    obtain ⟨g', grant', held', granted', entry'⟩ := corrected.grant
    have first := isGrant_iff.mp granted
    have second := isGrant_iff.mp granted'
    have same : g = g' := own g g' grant grant' held held' first.1 (second.1.trans payer) first.2.1
      second.2.1 (entry.symm.trans entry'.symm)
    subst same
    cases held.symm.trans held'
    exact apart (Option.some.inj (second.2.2.symm.trans first.2.2))
  · exact corrected.own
  · intro row found
    obtain ⟨_, new, _, _, captures⟩ := corrected.capture
    refine ⟨row, ?_, rfl, rfl, rfl⟩
    rw [captures, AList.lookup_insert_ne apart.symm]
    exact found

theorem Corrected.net_after (own : OwnEntries m.paymentId st.db.payment) :
    reversedCashback st'.db.payment m.paymentId m.captureTransactionId =
        reversedCashback st.db.payment m.paymentId m.captureTransactionId + m.excess ∧
      netCashback st'.db.payment m.paymentId m.captureTransactionId = m.actual - m.excess := by
  obtain ⟨g, grant, held, granted, entry⟩ := corrected.grant
  have reversal : reverses m.paymentId grant.ledgerTransactionId
      (correctionEffect E repairId m).row = true :=
    reverses_iff.mpr ⟨rfl, rfl, congrArg some entry.symm⟩
  have reversed : reversedCashback st'.db.payment m.paymentId m.captureTransactionId =
      reversedCashback st.db.payment m.paymentId m.captureTransactionId + m.excess :=
    reversed_insert own corrected.fresh corrected.effects held granted reversal
  have granted' : grantedCashback st'.db.payment m.paymentId m.captureTransactionId =
      grantedCashback st.db.payment m.paymentId m.captureTransactionId :=
    granted_insert corrected.fresh corrected.effects rfl
  have before := corrected.net
  refine ⟨reversed, ?_⟩
  rw [netCashback] at before ⊢
  omega

theorem Corrected.once (once : ReversedOnce m.paymentId m.captureTransactionId st.db.payment)
    (unreversed : ∀ id row, st.db.payment.effects.lookup id = some row →
      reverses m.paymentId m.originalTransactionId row = false) :
    ReversedOnce m.paymentId m.captureTransactionId st'.db.payment := by
  intro g grant found granted r r' row row' first second reversed reversed'
  rw [corrected.effects, AList.lookup_insert_if] at found first second
  split at found
  · cases found
    cases (isGrant_iff.mp granted).2.1
  split at first
  · rename_i here
    split at second
    · rename_i here'
      rw [here, here']
    · cases first
      have entry : m.originalTransactionId = grant.ledgerTransactionId :=
        Option.some.inj (reverses_iff.mp reversed).2.2
      rw [← entry, unreversed r' row' second] at reversed'
      cases reversed'
  · split at second
    · cases second
      have entry : m.originalTransactionId = grant.ledgerTransactionId :=
        Option.some.inj (reverses_iff.mp reversed').2.2
      rw [← entry, unreversed r row first] at reversed
      cases reversed
    · exact once g grant found granted r r' row row' first second reversed reversed'

end

include inv found

theorem Sound.posted_unique : ∀ id id' m₁ m₂,
      (st.manifests.insert repairId { m with status := .posted }).lookup id = some m₁ →
      (st.manifests.insert repairId { m with status := .posted }).lookup id' = some m₂ →
      m₁.correctionEffectId = m₂.correctionEffectId → id = id' := by
  have before : ∀ id m₁,
      (st.manifests.insert repairId { m with status := .posted }).lookup id = some m₁ →
      ∃ old, st.manifests.lookup id = some old ∧
        old.correctionEffectId = m₁.correctionEffectId := by
    intro id m₁ stored
    rw [AList.lookup_insert_if] at stored
    split at stored
    · rename_i here
      cases stored
      exact ⟨m, by rw [here, found], rfl⟩
    · exact ⟨m₁, stored, rfl⟩
  intro id id' m₁ m₂ first second same
  obtain ⟨old, held, effect⟩ := before id m₁ first
  obtain ⟨old', held', effect'⟩ := before id' m₂ second
  exact inv.unique id id' old old' held held' (effect.trans (same.trans effect'.symm))

include corrected

theorem Sound.unposted {bookId : Bytes} {lines : List Line} :
    ∀ id row, st.db.ledger.transactions.lookup id = some row →
      row.Records (correctionRequest E repairId m bookId lines) → False := by
  intro id row stored records
  obtain ⟨other, m', held, posted, effect⟩ := inv.entries id row stored records.kind
  have same : other = repairId := inv.unique other repairId m' m held found
    (effect.trans records.effect)
  rw [same, found] at held
  cases held
  rw [corrected.planned] at posted
  cases posted

theorem Sound.journaled : ∃ bookId lines row, Journaled st.db.ledger st'.db.ledger
      (correctionRequest E repairId m bookId lines) row := by
  obtain ⟨bookId, lines, posting⟩ := corrected.posting
  rcases postInTx_posts inv.projected posting with ⟨_, row, stored, records⟩ | ⟨_, row, posted⟩
  · exact (inv.unposted found corrected _ row stored records).elim
  · exact ⟨bookId, lines, row, posted⟩

theorem Sound.posted_entries :
    ∀ id row, st'.db.ledger.transactions.lookup id = some row → row.transactionKind = reversalKind →
      ∃ repairId m, st'.manifests.lookup repairId = some m ∧ m.status = .posted ∧
        m.correctionEffectId = row.effectId := by
  obtain ⟨bookId, lines, entry, journaled⟩ := inv.journaled found corrected
  intro id row stored kind
  rw [corrected.manifests]
  rw [journaled.transactions, AList.lookup_insert_if] at stored
  split at stored
  · cases stored
    exact ⟨repairId, _, AList.lookup_insert _, rfl, journaled.records.effect.symm⟩
  · obtain ⟨other, m', held, posted, effect⟩ := inv.entries id row stored kind
    by_cases here : other = repairId
    · rw [here, found] at held
      cases held
      exact ⟨repairId, _, AList.lookup_insert _, rfl, effect⟩
    · exact ⟨other, m', by rw [AList.lookup_insert_ne here, held], posted, effect⟩

theorem Sound.corrects_aside
    (other : ¬ (m.paymentId = paymentId ∧ m.captureTransactionId = captureId)) :
    Sound paymentId captureId expected begun st' := by
  obtain ⟨_, _, _, journaled⟩ := inv.journaled found corrected
  obtain ⟨row, held, owner, _⟩ := inv.counter
  have aside := corrected.aside inv.own ⟨row, held, owner⟩ other
  exact
    { projected := journaled.projected
      own := aside.own inv.own
      once := aside.once inv.once
      counter := inv.counted aside
      net := by rw [aside.net]; exact inv.net
      manifests := by
        intro id m' stored same same'
        rw [corrected.manifests, AList.lookup_insert_if] at stored
        split at stored
        · cases stored
          exact absurd ⟨same, same'⟩ other
        · exact (inv.manifests id m' stored same same').aside aside
      unique := by rw [corrected.manifests]; exact inv.posted_unique found
      entries := inv.posted_entries found corrected }

theorem Sound.corrects (payer : m.paymentId = paymentId)
    (capture : m.captureTransactionId = captureId) :
    Sound paymentId captureId expected begun st' := by
  subst payer capture
  obtain ⟨_, _, _, journaled⟩ := inv.journaled found corrected
  have manifested := inv.manifests repairId m found rfl rfl
  have uncorrected : netCashback st.db.payment m.paymentId m.captureTransactionId = begun :=
    corrected.net.trans manifested.actual
  obtain ⟨reversed, net⟩ := corrected.net_after inv.own
  have exact_ : netCashback st'.db.payment m.paymentId m.captureTransactionId = expected := by
    rw [net, manifested.actual, manifested.excess]
    omega
  obtain ⟨row, held, owner, expects, counter⟩ := inv.counter
  obtain ⟨old, new, held', counted, captures⟩ := corrected.capture
  cases held.symm.trans held'
  have kept : ∀ id e, st.db.payment.effects.lookup id = some e →
      st'.db.payment.effects.lookup id = some e := by
    intro id e stored
    rw [corrected.effects]
    exact AList.lookup_insert_fresh corrected.fresh _ stored
  -- Every other manifest of the capture was planned for the net that is gone.
  have others : ∀ m', Manifested m.paymentId m.captureTransactionId expected begun st.db.payment m' →
      Manifested m.paymentId m.captureTransactionId expected begun st'.db.payment m' := by
    intro m' before
    obtain ⟨g, grant, stored, granted, entry⟩ := before.grant
    have more := before.more
    exact ⟨before.target, before.actual, before.excess, more,
      ⟨g, grant, kept g grant stored, granted, entry⟩, fun _ same => by omega, fun _ => exact_⟩
  exact
    { projected := journaled.projected
      own := corrected.own inv.own
      once := corrected.once inv.once (manifested.unreversed corrected.planned uncorrected)
      counter := ⟨new, by rw [captures]; exact AList.lookup_insert _,
        counted.sameOwner.trans owner, counted.sameExpected.trans expects,
        by rw [counted.reversed, counter, reversed]⟩
      net := Or.inr ⟨exact_, manifested.more⟩
      manifests := by
        intro id m' stored same same'
        rw [corrected.manifests, AList.lookup_insert_if] at stored
        split at stored
        · cases stored
          have before := others m manifested
          exact ⟨before.target, before.actual, before.excess, before.more, before.grant,
            (fun planned => by cases planned), fun _ => exact_⟩
        · exact others m' (inv.manifests id m' stored same same')
      unique := by rw [corrected.manifests]; exact inv.posted_unique found
      entries := inv.posted_entries found corrected }

end Correction

section

variable (inv : Sound paymentId captureId expected begun st)
include inv

theorem Sound.executed {receipt : Receipt} (done : execute repairId st = .ok (st', receipt)) :
    Sound paymentId captureId expected begun st' := by
  obtain ⟨m, found, ⟨_, _, rfl⟩ | corrected⟩ := execute_cases done
  · exact inv
  · by_cases here : m.paymentId = paymentId ∧ m.captureTransactionId = captureId
    · exact inv.corrects found corrected here.1 here.2
    · exact inv.corrects_aside found corrected here

theorem Sound.step (command : Command E) (spared : Spared paymentId captureId st command) :
    Sound paymentId captureId expected begun (step st command) := by
  cases command with
  | plan incident ending =>
    refine attempt_preserves _ (Sound paymentId captureId expected begun) ending inv ?_
    intro st' planned done
    exact plan_preserves _ (fun _ _ _ holds absent planned => holds.planned absent planned) inv done
  | execute repairId ending =>
    exact attempt_preserves _ (Sound paymentId captureId expected begun) ending inv
      fun st' receipt done => inv.executed done
  | elsewhere => exact inv.elsewhere spared

theorem run_sound
    (commands : List (Command E)) (spared : Along step (Spared paymentId captureId) st commands) :
    Sound paymentId captureId expected begun (run step st commands) :=
  run_preserves_along step (Spared paymentId captureId)
    (Sound paymentId captureId expected begun) (fun _ command legal holds => holds.step command legal)
    commands spared inv

end

def Answers (repairId : Bytes) (receipt : Receipt) (st : Store E) : Prop :=
  ∃ m, st.manifests.lookup repairId = some m ∧ m.status = .posted ∧
    postedReceipt m st.db = .ok { receipt with duplicate := true }

theorem postedReceipt_kept {db db' : Database E} {receipt : Receipt}
    (kept : KeepsPosted db.ledger db'.ledger) (shown : postedReceipt m db = .ok receipt) :
    postedReceipt m db' = .ok receipt := by
  simp only [postedReceipt, steps_ok] at shown ⊢
  obtain ⟨row, found, _, posted, shown⟩ := shown
  exact ⟨row, (kept _ row found posted).1, (), posted, shown⟩

section

variable (inv : Sound paymentId captureId expected begun st)
include inv

theorem Sound.answers_kept {other : Bytes} {receipt receipt' : Receipt}
    (answers : Answers repairId receipt st)
    (done : execute other st = .ok (st', receipt')) : Answers repairId receipt st' := by
  obtain ⟨m, found, posted, shown⟩ := answers
  obtain ⟨m', found', ⟨_, _, rfl⟩ | corrected⟩ := execute_cases done
  · exact ⟨m, found, posted, shown⟩
  obtain ⟨_, _, _, journaled⟩ := inv.journaled found' corrected
  have apart : repairId ≠ other := by
    rintro rfl
    cases found.symm.trans found'
    rw [corrected.planned] at posted
    cases posted
  refine ⟨m, ?_, posted, postedReceipt_kept journaled.keepsPosted shown⟩
  rw [corrected.manifests, AList.lookup_insert_ne apart, found]

theorem Sound.answers_step {receipt : Receipt} (answers : Answers repairId receipt st)
    (command : Command E) (spared : Spared paymentId captureId st command) :
    Answers repairId receipt (Repair.step st command) := by
  cases command with
  | plan incident ending =>
    refine attempt_preserves _ (Answers repairId receipt) ending answers ?_
    intro st' planned done
    refine plan_preserves _ ?_ answers done
    rintro st other m ⟨m', found, posted, shown⟩ absent _
    exact ⟨m', AList.lookup_insert_fresh absent _ found, posted, shown⟩
  | execute other ending =>
    exact attempt_preserves _ (Answers repairId receipt) ending answers
      fun st' _ done => inv.answers_kept answers done
  | elsewhere =>
    obtain ⟨m, found, posted, shown⟩ := answers
    exact ⟨m, found, posted, postedReceipt_kept spared.posted shown⟩

theorem Sound.answers {receipt : Receipt}
    (done : execute repairId st = .ok (st', receipt)) : Answers repairId receipt st' := by
  obtain ⟨m, found, ⟨posted, shown, rfl⟩ | corrected⟩ := execute_cases done
  · refine ⟨m, found, posted, ?_⟩
    have again : receipt.duplicate = true := by
      simp only [postedReceipt, steps_ok] at shown
      obtain ⟨_, _, _, _, rfl⟩ := shown
      rfl
    rw [shown, ← again]
  · obtain ⟨bookId, lines, posting⟩ := corrected.posting
    obtain ⟨row, stored, records, shown⟩ :=
      postInTx_shows posting (inv.unposted found corrected)
    refine ⟨_, by rw [corrected.manifests]; exact AList.lookup_insert _, rfl, ?_⟩
    simp only [postedReceipt, steps_ok]
    refine ⟨row, stored, (), records.posted, ?_⟩
    rw [shown, records.book, records.operation, records.effect]
    rfl

end

theorem Answers.execute {receipt : Receipt}
    (answers : Answers repairId receipt st) (named : repairId ≠ [])
    (text : ∀ t ∈ [repairId], E.acceptsText t = true) :
    execute repairId st = .ok (st, { receipt with duplicate := true }) := by
  obtain ⟨m, found, posted, shown⟩ := answers
  simp only [Repair.execute, acceptsAll, steps_ok]
  refine ⟨(), named, (), text, m, found, ?_⟩
  rw [if_pos posted, shown]
  rfl

theorem answers_run {receipt : Receipt}
    (inv : Sound paymentId captureId expected begun st) (answers : Answers repairId receipt st)
    (commands : List (Command E)) (spared : Along step (Spared paymentId captureId) st commands) :
    Answers repairId receipt (run step st commands) := by
  have both := run_preserves_along step (Spared paymentId captureId)
    (fun st => Sound paymentId captureId expected begun st ∧ Answers repairId receipt st)
    (fun _ command legal holds =>
      ⟨holds.1.step command legal, holds.1.answers_step holds.2 command legal⟩)
    commands spared ⟨inv, answers⟩
  exact both.2

end Capture

/-- In every run of plans and executions, among services that leave the cashback of the
capture alone: its net cashback does not fall below what is expected (or below where it
began), no grant is reversed twice, a posted manifest means that the net is the expected
one, the counter is the sum of the reversals, and a repeated Execute is answered with
the first receipt. -/
theorem repairs_restore_expected_cashback (db : Database E) (paymentId captureId : Bytes)
    (capture : Payment.CaptureRow) (legacy : Legacy paymentId captureId db capture)
    (commands : List (Command E))
    (spared : Along step (Spared paymentId captureId) ⟨db, ∅⟩ commands) :
    let st := run step ⟨db, ∅⟩ commands
    let expected := capture.expectedCashbackAtoms
    min expected (netCashback db.payment paymentId captureId) ≤
      netCashback st.db.payment paymentId captureId ∧
    ReversedOnce paymentId captureId st.db.payment ∧
    (∀ id m, st.manifests.lookup id = some m → m.paymentId = paymentId →
      m.captureTransactionId = captureId → m.status = .posted →
      netCashback st.db.payment paymentId captureId = expected) ∧
    (∃ row, st.db.payment.captureFinancials.lookup captureId = some row ∧
      row.cashbackReversedAtoms = reversedCashback st.db.payment paymentId captureId) ∧
    ∀ repairId st' receipt, execute repairId st = .ok (st', receipt) →
      ∀ later, Along step (Spared paymentId captureId) st' later →
        execute repairId (run step st' later) =
          .ok (run step st' later, { receipt with duplicate := true }) := by
  intro st expected
  have inv := run_sound legacy.sound commands spared
  refine ⟨?_, inv.once, ?_, ?_, ?_⟩
  · rcases inv.net with same | ⟨same, _⟩ <;> rw [same]
    · exact min_le_right _ _
    · exact min_le_left _ _
  · intro id m found payer named posted
    exact (inv.manifests id m found payer named).corrected posted
  · obtain ⟨row, found, _, _, counter⟩ := inv.counter
    exact ⟨row, found, counter⟩
  · intro repairId st' receipt done later legal
    have answers := answers_run (inv.executed done) (inv.answers done) later legal
    simp only [execute, acceptsAll, steps_ok] at done
    obtain ⟨_, named, _, text, _⟩ := done
    exact answers.execute named text

/- A cashback of 5 that was granted twice. -/

def sampleGrant (transactionId : String) : Payment.EffectRow :=
  ⟨ascii "payment", .cashback, 5, ascii transactionId, some (ascii "capture")⟩

def sampleCapture : Payment.CaptureRow :=
  ⟨ascii "payment", ascii "capture effect", 100, 5, 0, 0, 0, 0⟩

def samplePaymentRow : Payment.PaymentRow :=
  { idempotencyScope := ascii "scope"
    idempotencyKey := ascii "key"
    assetId := ascii "KZT"
    customerAvailableAccountId := ascii "alice"
    customerHeldAccountId := ascii "held"
    merchantAccountId := ascii "merchant"
    authorityRegion := none
    state := .captured
    authorizedAtoms := 100
    capturedAtoms := 100
    releasedAtoms := 0
    refundedAtoms := 0
    chargedBackAtoms := 0
    feeAtoms := 0
    taxAtoms := 0
    cashbackAtoms := 5
    cashbackRuleAtoms := 5
    cashbackReversedAtoms := 0
    version := 1 }

def sampleJournal : Ledger.Tables sampleEngine :=
  run Ledger.step sampleTables
    [.createAccount (sampleAccount "cash" .debit false),
      .createAccount (sampleAccount "alice" .credit true),
      .post (samplePosting "t1" 5 []) false,
      .post (samplePosting "t2" 5 []) false]

def sampleGranted : Database sampleEngine :=
  { Payment.sampleDatabase with
    ledger := sampleJournal
    payment :=
      { paymentOperations := (∅ : Table _ _).insert (ascii "payment") samplePaymentRow
        holds := ∅
        captureFinancials := (∅ : Table _ _).insert (ascii "capture") sampleCapture
        effects := ((∅ : Table _ _).insert (ascii "t1") (sampleGrant "t1")).insert (ascii "t2")
          (sampleGrant "t2")
        effectRequestReceipts := ∅ } }

theorem sampleGranted_effects {id : Bytes} {row : Payment.EffectRow}
    (found : sampleGranted.payment.effects.lookup id = some row) :
    row = sampleGrant "t1" ∧ id = ascii "t1" ∨ row = sampleGrant "t2" ∧ id = ascii "t2" := by
  simp only [sampleGranted, AList.lookup_insert_if] at found
  split at found
  · rename_i here
    exact .inr ⟨(Option.some.inj found).symm, here⟩
  · split at found
    · rename_i here
      exact .inl ⟨(Option.some.inj found).symm, here⟩
    · cases found

theorem sampleJournal_projected : Projected sampleJournal :=
  run_preserves Ledger.step Projected (fun st c inv => step_projected st c inv) _
    (Unused.projected ⟨rfl, rfl, rfl, rfl⟩)

theorem sampleGranted_own : OwnEntries (ascii "payment") sampleGranted.payment := by
  intro id id' e e' found found' _ _ _ _ entry
  have apart : (sampleGrant "t1").ledgerTransactionId ≠ (sampleGrant "t2").ledgerTransactionId := by
    decide
  rcases sampleGranted_effects found with ⟨rfl, rfl⟩ | ⟨rfl, rfl⟩ <;>
    rcases sampleGranted_effects found' with ⟨rfl, rfl⟩ | ⟨rfl, rfl⟩
  · rfl
  · exact absurd entry apart
  · exact absurd entry.symm apart
  · rfl

theorem sampleGranted_once :
    ReversedOnce (ascii "payment") (ascii "capture") sampleGranted.payment := by
  intro g grant _ _ r r' row row' found _ reversed _
  have kind := (reverses_iff.mp reversed).2.1
  rcases sampleGranted_effects found with ⟨rfl, _⟩ | ⟨rfl, _⟩ <;> cases kind

theorem sampleGranted_legacy :
    Legacy (ascii "payment") (ascii "capture") sampleGranted sampleCapture := by
  have kinds : sampleJournal.transactions.rows.all
      (fun e => e.2.transactionKind ≠ reversalKind) = true := by decide +kernel
  simp only [List.all_eq_true, Prod.forall, AList.mem_rows, decide_eq_true_eq] at kinds
  have counter : sampleCapture.cashbackReversedAtoms =
      reversedCashback sampleGranted.payment (ascii "payment") (ascii "capture") := by
    decide +kernel
  have journal : sampleGranted.ledger = sampleJournal := by simp only [sampleGranted]
  have found : sampleGranted.payment.captureFinancials.lookup (ascii "capture") =
      some sampleCapture := by
    simp only [sampleGranted]
    exact AList.lookup_insert _
  refine ⟨?_, ?_, sampleGranted_own, sampleGranted_once, found, rfl, counter⟩ <;> rw [journal]
  · exact sampleJournal_projected
  · exact kinds

def sampleIncident : CashbackIncident :=
  ⟨ascii "incident", ascii "book", 1, 9, ascii "v1"⟩

def sampleRepair : Bytes :=
  repairIdOf sampleEngine (ascii "incident") (ascii "payment") (ascii "capture") (ascii "t2") 5 10

/-- A plan that is aborted and repeated, and an execution that commits without its caller
hearing of it and is repeated. -/
def sampleRepairs : List (Command sampleEngine) :=
  [.plan sampleIncident .aborted, .plan sampleIncident .acknowledged,
    .execute sampleRepair .unacknowledged, .execute sampleRepair .acknowledged]

theorem sample_repair_restores_cashback : let st := run step ⟨sampleGranted, ∅⟩ sampleRepairs
    netCashback sampleGranted.payment (ascii "payment") (ascii "capture") = 10 ∧
    netCashback st.db.payment (ascii "payment") (ascii "capture") = 5 ∧
    ReversedOnce (ascii "payment") (ascii "capture") st.db.payment := by
  refine ⟨by decide +kernel, by decide +kernel, ?_⟩
  exact (repairs_restore_expected_cashback sampleGranted (ascii "payment") (ascii "capture")
    sampleCapture sampleGranted_legacy sampleRepairs
    ⟨trivial, trivial, trivial, trivial, trivial⟩).2.1

end PaymentPlatform.Repair
