import PaymentPlatform.Offline.Lives

/-! An allowance is spent or returned, never both: over any interleaving of the offline
calls every allowance leaves the issued authority at most once, by one redemption with
its own posted entry or by one proof of non-redemption. -/

namespace PaymentPlatform.Offline

open Framing Ledger Serial

variable {E : Engine}
variable {ledger : Ledger.Tables E} {db db' : Database E} {ε α : Type}
variable {id : Bytes} {r : RedemptionRow} {st st' : Tables}

structure Exclusive (st : Tables) : Prop where
  redeemed : ∀ id row, st.allowances.lookup id = some row →
    (row.state = .redeemed ↔ ∃ receipt, st.redemptionReceipts.lookup id = some receipt)
  terminated : ∀ id row, st.allowances.lookup id = some row →
    (row.state = .revoked ∨ row.state = .expired ↔
      ∃ proof, st.nonRedemptionProofs.lookup id = some proof)
  receipts : ∀ id r, st.redemptionReceipts.lookup id = some r →
    ∃ row, st.allowances.lookup id = some row
  proofs : ∀ id proof, st.nonRedemptionProofs.lookup id = some proof →
    ∃ row, st.allowances.lookup id = some row
  distinct : ∀ id other r r', st.redemptionReceipts.lookup id = some r →
    st.redemptionReceipts.lookup other = some r' → id ≠ other → r.Distinct r'
  counters : ∀ id other row row', st.allowances.lookup id = some row →
    st.allowances.lookup other = some row' → row.SameCounter row' → id = other
  issued : ∀ key, issuedAt st key = outstanding st key

def Posted (db : Database E) : Prop :=
  ∀ id row r, db.offline.allowances.lookup id = some row →
    db.offline.redemptionReceipts.lookup id = some r → RedemptionPosted db.ledger row r

theorem RedemptionRow.Distinct.symm {a b : RedemptionRow} (distinct : a.Distinct b) :
    b.Distinct a := by
  obtain ⟨transaction, effect, presentation, challenge, counter⟩ := distinct
  refine ⟨transaction.symm, effect.symm, presentation.symm, ?_, ?_⟩
  · rintro ⟨domain, merchant, hash⟩
    exact challenge ⟨domain.symm, merchant.symm, hash.symm⟩
  · rintro ⟨device, presented⟩
    exact counter ⟨device.symm, presented.symm⟩

theorem AllowanceRow.SameCounter.symm {a b : AllowanceRow} (same : a.SameCounter b) :
    b.SameCounter a :=
  ⟨same.1.symm, same.2.1.symm, same.2.2.symm⟩

theorem Continues.sameCounter {row next other : AllowanceRow} (continues : Continues row next)
    (same : next.SameCounter other) : row.SameCounter other := by
  rw [Continues] at continues
  rw [← continues]
  exact same

theorem Continues.posted {row next : AllowanceRow} (continues : Continues row next)
    {st : Ledger.Tables E} (posted : RedemptionPosted st row r) : RedemptionPosted st next r := by
  rw [Continues] at continues
  rw [← continues] at posted
  exact ⟨posted.entry, posted.debited, posted.uncredited, posted.received, posted.unreturned⟩

section Steps

variable {st st' : Tables} {id : Bytes} {row next : AllowanceRow}

theorem Exclusive.issued_moved (inv : Exclusive st) (moved : Moved id row next st st')
    (key : Bytes × Bytes × Bytes) : issuedAt st' key = outstanding st' key := by
  have rights : next.rights = row.rights := by
    rw [← moved.continues]
    rfl
  rw [moved.issued, inv.issued, outstanding, outstanding, moved.allowances,
    AList.total_insert_diff, moved.found]
  by_cases own : row.rights = key <;> simp [rights, own]

theorem Exclusive.counters_moved (inv : Exclusive st) (moved : Moved id row next st st') :
    ∀ a b rowA rowB, st'.allowances.lookup a = some rowA →
      st'.allowances.lookup b = some rowB → rowA.SameCounter rowB → a = b := by
  -- every row after the step stands for a row before it with the same place
  have before : ∀ a rowA, st'.allowances.lookup a = some rowA →
      ∃ rowA', st.allowances.lookup a = some rowA' ∧
        ∀ other, rowA.SameCounter other → rowA'.SameCounter other := by
    intro a rowA present
    rw [moved.allowances, AList.lookup_insert_if] at present
    split at present
    · rename_i same
      cases present
      exact ⟨row, same ▸ moved.found, fun _ => moved.continues.sameCounter⟩
    · exact ⟨rowA, present, fun _ same => same⟩
  intro a b rowA rowB presentA presentB same
  obtain ⟨rowA', foundA, placeA⟩ := before a rowA presentA
  obtain ⟨rowB', foundB, placeB⟩ := before b rowB presentB
  exact inv.counters a b rowA' rowB' foundA foundB (placeB _ (placeA _ same).symm).symm

theorem Exclusive.write (inv : Exclusive st)
    (allowances : st'.allowances = st.allowances.insert id next) (receipts : ∀ other, other ≠ id →
      st'.redemptionReceipts.lookup other = st.redemptionReceipts.lookup other)
    (proofs : ∀ other, other ≠ id →
      st'.nonRedemptionProofs.lookup other = st.nonRedemptionProofs.lookup other)
    (redeemed : next.state = .redeemed ↔ ∃ r, st'.redemptionReceipts.lookup id = some r)
    (terminated : next.state = .revoked ∨ next.state = .expired ↔
      ∃ proof, st'.nonRedemptionProofs.lookup id = some proof)
    (distinct : ∀ a b r r', st'.redemptionReceipts.lookup a = some r →
      st'.redemptionReceipts.lookup b = some r' → a ≠ b → r.Distinct r')
    (counters : ∀ a b rowA rowB, st'.allowances.lookup a = some rowA →
      st'.allowances.lookup b = some rowB → rowA.SameCounter rowB → a = b)
    (issued : ∀ key, issuedAt st' key = outstanding st' key) : Exclusive st' := by
  have own : st'.allowances.lookup id = some next := by rw [allowances, AList.lookup_insert]
  have others : ∀ other, other ≠ id → st'.allowances.lookup other = st.allowances.lookup other :=
    fun other different => by rw [allowances, AList.lookup_insert_ne different]
  refine ⟨?_, ?_, ?_, ?_, distinct, counters, issued⟩
  · intro other row found
    by_cases same : other = id
    · subst same
      cases own.symm.trans found
      exact redeemed
    · rw [receipts other same]
      exact inv.redeemed other row (others other same ▸ found)
  · intro other row found
    by_cases same : other = id
    · subst same
      cases own.symm.trans found
      exact terminated
    · rw [proofs other same]
      exact inv.terminated other row (others other same ▸ found)
  · intro other r found
    by_cases same : other = id
    · exact ⟨next, same ▸ own⟩
    · rw [others other same]
      exact inv.receipts other r (receipts other same ▸ found)
  · intro other proof found
    by_cases same : other = id
    · exact ⟨next, same ▸ own⟩
    · rw [others other same]
      exact inv.proofs other proof (proofs other same ▸ found)

section Kept

variable (inv : Exclusive st) (receipts : st'.redemptionReceipts = st.redemptionReceipts)
  (proofs : st'.nonRedemptionProofs = st.nonRedemptionProofs)
include inv receipts proofs

theorem Exclusive.same (allowances : st'.allowances = st.allowances)
    (issued : ∀ key, issuedAt st' key = issuedAt st key) : Exclusive st' where
  redeemed := by
    rw [allowances, receipts]
    exact inv.redeemed
  terminated := by
    rw [allowances, proofs]
    exact inv.terminated
  receipts := by
    rw [allowances, receipts]
    exact inv.receipts
  proofs := by
    rw [allowances, proofs]
    exact inv.proofs
  distinct := by
    rw [receipts]
    exact inv.distinct
  counters := by
    rw [allowances]
    exact inv.counters
  issued key := by
    rw [issued, inv.issued, outstanding, outstanding, allowances]

theorem Exclusive.prepared (fresh : st.allowances.lookup id = none) (state : row.state = .prepared)
    (unused : ∀ other stored, st.allowances.lookup other = some stored → ¬ stored.SameCounter row)
    (allowances : st'.allowances = st.allowances.insert id row)
    (issued : ∀ key, issuedAt st' key = issuedAt st key) : Exclusive st' := by
  have unspent : ∀ r, st.redemptionReceipts.lookup id ≠ some r := by
    intro r present
    obtain ⟨row', owner⟩ := inv.receipts id r present
    cases fresh.symm.trans owner
  have unproven : ∀ proof, st.nonRedemptionProofs.lookup id ≠ some proof := by
    intro proof present
    obtain ⟨row', owner⟩ := inv.proofs id proof present
    cases fresh.symm.trans owner
  refine inv.write allowances (fun _ _ => by rw [receipts]) (fun _ _ => by rw [proofs])
    (by simp [state, receipts, unspent]) (by simp [state, proofs, unproven])
    (by rw [receipts]; exact inv.distinct) ?_ ?_
  · intro a b rowA rowB foundA foundB same
    rw [allowances, AList.lookup_insert_if] at foundA foundB
    split at foundA <;> split at foundB
    · rename_i left right
      exact left.trans right.symm
    · cases foundA
      exact absurd same.symm (unused b rowB foundB)
    · cases foundB
      exact absurd same (unused a rowA foundA)
    · exact inv.counters a b rowA rowB foundA foundB same
  · intro key
    rw [issued, inv.issued, outstanding, outstanding, allowances, AList.total_insert_fresh _ fresh]
    simp [issuedAmount, state]

theorem Exclusive.activated (moved : Moved id row next st st') (before : row.state = .prepared)
    (after : next.state = .issued) : Exclusive st' := by
  refine inv.write moved.allowances (fun _ _ => by rw [receipts]) (fun _ _ => by rw [proofs]) ?_ ?_
    (by rw [receipts]; exact inv.distinct) (inv.counters_moved moved) (inv.issued_moved moved)
  · rw [receipts, ← inv.redeemed id row moved.found]
    simp [before, after]
  · rw [proofs, ← inv.terminated id row moved.found]
    simp [before, after]

end Kept

theorem Exclusive.redeemed_once (inv : Exclusive st) (moved : Moved id row next st st')
    (before : row.state = .issued) (after : next.state = .redeemed)
    (distinct : ∀ other stored, st.redemptionReceipts.lookup other = some stored →
      stored.Distinct r) (receipts : st'.redemptionReceipts = st.redemptionReceipts.insert id r)
    (proofs : st'.nonRedemptionProofs = st.nonRedemptionProofs) : Exclusive st' := by
  refine inv.write moved.allowances
    (fun _ different => by rw [receipts, AList.lookup_insert_ne different])
    (fun _ _ => by rw [proofs]) (by simp [receipts, after]) ?_ ?_
    (inv.counters_moved moved) (inv.issued_moved moved)
  · rw [proofs, ← inv.terminated id row moved.found]
    simp [before, after]
  · intro a b rA rB foundA foundB different
    rw [receipts, AList.lookup_insert_if] at foundA foundB
    split at foundA <;> split at foundB
    · rename_i left right
      exact absurd (left.trans right.symm) different
    · cases foundA
      exact (distinct b rB foundB).symm
    · cases foundB
      exact distinct a rA foundA
    · exact inv.distinct a b rA rB foundA foundB different

theorem Exclusive.terminated_once (inv : Exclusive st) (moved : Moved id row next st st')
    {proof : ProofRow} (before : row.state = .issued)
    (after : next.state = .revoked ∨ next.state = .expired)
    (receipts : st'.redemptionReceipts = st.redemptionReceipts)
    (proofs : st'.nonRedemptionProofs = st.nonRedemptionProofs.insert id proof) :
    Exclusive st' := by
  refine inv.write moved.allowances (fun _ _ => by rw [receipts])
    (fun _ different => by rw [proofs, AList.lookup_insert_ne different]) ?_
    (by simp [proofs, after]) (by rw [receipts]; exact inv.distinct)
    (inv.counters_moved moved) (inv.issued_moved moved)
  rw [receipts, ← inv.redeemed id row moved.found]
  rcases after with is | is <;> simp [before, is]

theorem Exclusive.step (inv : Exclusive st) (life : Life ledger st st') : Exclusive st' := by
  cases life with
  | same allowances receipts proofs issued => exact inv.same receipts proofs allowances issued
  | prepared id row fresh state unused allowances receipts proofs issued =>
    exact inv.prepared receipts proofs fresh state unused allowances issued
  | activated id row next moved before after receipts proofs =>
    exact inv.activated receipts proofs moved before after
  | redeemed id row next r moved before after posted distinct receipts proofs =>
    exact inv.redeemed_once moved before after distinct receipts proofs
  | terminated id row next proof moved before after receipts proofs =>
    exact inv.terminated_once moved before after receipts proofs

end Steps

theorem Posted.moved (posted : Posted db) (keeps : KeepsPosted db.ledger db'.ledger)
    {row next : AllowanceRow} (moved : Moved id row next db.offline db'.offline) :
    ∀ other stored r, db'.offline.allowances.lookup other = some stored →
      db.offline.redemptionReceipts.lookup other = some r →
      RedemptionPosted db'.ledger stored r := by
  intro other stored r present receipt
  rw [moved.allowances, AList.lookup_insert_if] at present
  split at present
  · rename_i same
    subst same
    cases present
    exact moved.continues.posted ((posted other row r moved.found receipt).kept keeps)
  · exact (posted other stored r present receipt).kept keeps

theorem Posted.step (posted : Posted db) (inv : Exclusive db.offline) (lived : Lived db db') :
    Posted db' := by
  obtain ⟨keeps, life⟩ := lived
  intro other stored r' present receipt
  cases life with
  | same allowances receipts =>
    rw [allowances] at present
    rw [receipts] at receipt
    exact (posted other stored r' present receipt).kept keeps
  | prepared id row fresh state unused allowances receipts =>
    rw [receipts] at receipt
    obtain ⟨old, before⟩ := inv.receipts other r' receipt
    rw [allowances, AList.lookup_insert_fresh fresh row before] at present
    cases present
    exact (posted other stored r' before receipt).kept keeps
  | activated id row next moved before after receipts =>
    rw [receipts] at receipt
    exact posted.moved keeps moved other stored r' present receipt
  | redeemed id row next r moved before after entry distinct receipts proofs =>
    rw [receipts, AList.lookup_insert_if] at receipt
    split at receipt
    · rename_i same
      cases receipt
      rw [moved.allowances, same, AList.lookup_insert] at present
      cases present
      exact moved.continues.posted entry
    · exact posted.moved keeps moved other stored r' present receipt
  | terminated id row next proof moved before after receipts =>
    rw [receipts] at receipt
    exact posted.moved keeps moved other stored r' present receipt

/-- The offline calls, postings of the journal, and `elsewhere`: any other transaction,
which leaves the offline tables and the posted entries alone. -/
inductive OfflineCommand (E : Engine) where
  | configureDomain (domain keyId : Bytes) (first : Int) (last : Option Int)
  | rotateKey (domain expected new : Bytes) (epoch : Int) (reason : KeyTerminationReason)
  | terminateKey (domain expected : Bytes) (epoch : Int) (reason : KeyTerminationReason)
  | enroll (device : Device) (epoch : Int)
  | advanceEpoch (device : Device) (current next : Int)
  | prepare (preparation : Preparation)
  | activate (allowanceId : Bytes) (payloadHash : Digest) (signature : Bytes)
  | redeem (allowanceId : Bytes) (receipt : RedemptionRow)
  | redeemAndPost (verified : VerifiedPresentation) (posting : PostRequest)
  | recordClosure (allowanceId : Bytes) (hash : Digest) (evidence : EvidenceRow)
  | terminate (termination : Termination)
  | journal (command : Ledger.Command)
  | elsewhere (other : Database E)

def offlineStep (db : Database E) : OfflineCommand E → Database E
  | .configureDomain domain keyId first last =>
    overOffline (configureOfflineAcceptanceDomain E domain keyId first last) db
  | .rotateKey domain expected new epoch reason =>
    overOffline (rotateOfflineAcceptanceDomainKey E domain expected new epoch reason) db
  | .terminateKey domain expected epoch reason =>
    overOffline (terminateOfflineAcceptanceDomainKey E domain expected epoch reason) db
  | .enroll device epoch => commit (enrollOfflineDevice device epoch) db
  | .advanceEpoch device current next => commit (advanceOfflineIssuerEpoch device current next) db
  | .prepare preparation => commit (prepareOfflineAllowance preparation) db
  | .activate allowanceId payloadHash signature =>
    commit (activateOfflineAllowance allowanceId payloadHash signature) db
  | .redeem allowanceId receipt => commit (redeemOfflinePresentation allowanceId receipt) db
  | .redeemAndPost verified posting => commit (Offline.redeemAndPost verified posting) db
  | .recordClosure allowanceId hash evidence =>
    commit (recordOfflineDomainClosure allowanceId hash evidence) db
  | .terminate termination => commit (terminateOfflineAllowance termination) db
  | .journal command => { db with ledger := Ledger.step db.ledger command }
  | .elsewhere other =>
    if KeepsPosted db.ledger other.ledger then { other with offline := db.offline } else db

theorem lived_commit {body : Database E → Except ε (Database E × α)}
    (committed : ∀ db' answer, body db = .ok (db', answer) → Lived db db') :
    Lived db (commit body db) :=
  commit_preserves body (Lived db) (.refl db) committed

theorem lived_overOffline {body : Tables → Except ε (Tables × α)}
    (committed : ∀ st' answer, body db.offline = .ok (st', answer) → OnlyKeys db.offline st') :
    Lived db (overOffline body db) := by
  unfold overOffline
  refine ⟨.refl _, commit_preserves body (Life db.ledger db.offline) ?_ ?_⟩
  · exact .same rfl rfl rfl fun _ => rfl
  · intro st' answer done
    rw [committed st' answer done]
    exact .same rfl rfl rfl fun _ => rfl

theorem offlineStep_lived (db : Database E) (command : OfflineCommand E) :
    Lived db (offlineStep db command) := by
  cases command with
  | configureDomain =>
    exact lived_overOffline fun _ _ => configureOfflineAcceptanceDomain_keys
  | rotateKey =>
    exact lived_overOffline fun _ _ => rotateOfflineAcceptanceDomainKey_keys
  | terminateKey =>
    exact lived_overOffline fun _ _ => terminateOfflineAcceptanceDomainKey_keys
  | enroll => exact lived_commit fun _ _ => enrollOfflineDevice_lived
  | advanceEpoch =>
    exact lived_commit fun _ _ => advanceOfflineIssuerEpoch_lived
  | prepare => exact lived_commit fun _ _ => prepareOfflineAllowance_lived
  | activate =>
    exact lived_commit fun _ _ => activateOfflineAllowance_lived
  | redeem =>
    exact lived_commit fun _ _ done => (redeemOfflinePresentation_lived done).1
  | redeemAndPost => exact lived_commit fun _ _ => redeemAndPost_lived
  | recordClosure =>
    exact lived_commit fun _ _ => recordOfflineDomainClosure_lived
  | terminate => exact lived_commit fun _ _ => terminateOfflineAllowance_lived
  | journal => exact ⟨step_keepsPosted _ _, .same rfl rfl rfl fun _ => rfl⟩
  | elsewhere other =>
    simp only [offlineStep]
    split
    · rename_i keeps
      exact ⟨keeps, .same rfl rfl rfl fun _ => rfl⟩
    · exact .refl db

def withoutAllowances (db : Database E) : Database E :=
  { db with offline := ⟨∅, ∅, ∅, ∅, ∅, ∅, ∅, ∅, ∅, ∅⟩ }

theorem empty_exclusive : Exclusive ⟨∅, ∅, ∅, ∅, ∅, ∅, ∅, ∅, ∅, ∅⟩ := by
  refine ⟨?_, ?_, ?_, ?_, ?_, ?_, ?_⟩ <;> simp [issuedAt, outstanding]

theorem offlineRun_exclusive (db : Database E) (commands : List (OfflineCommand E)) :
    let reached := run offlineStep (withoutAllowances db) commands
    Exclusive reached.offline ∧ Posted reached := by
  refine run_preserves offlineStep (fun db => Exclusive db.offline ∧ Posted db) ?_ commands
    ⟨empty_exclusive, by simp [Posted, withoutAllowances]⟩
  rintro db command ⟨inv, posted⟩
  have lived := offlineStep_lived db command
  exact ⟨inv.step lived.2, posted.step inv lived⟩

def AllowanceState.Terminal (state : AllowanceState) : Prop :=
  state = .redeemed ∨ state = .revoked ∨ state = .expired

theorem Moved.next {changed : Bytes} {row old new : AllowanceRow}
    (moved : Moved changed old new st st') (found : st.allowances.lookup id = some row) :
    (row = old ∧ st'.allowances.lookup id = some new) ∨ st'.allowances.lookup id = some row := by
  rw [moved.allowances, AList.lookup_insert_if]
  split
  · rename_i same
    subst same
    exact .inl ⟨Option.some.inj (found.symm.trans moved.found), rfl⟩
  · exact .inr found

theorem Life.next (life : Life ledger st st') {row : AllowanceRow}
    (found : st.allowances.lookup id = some row) : ∃ next, st'.allowances.lookup id = some next ∧
      (next = row ∨ (row.state = .prepared ∧ next.state = .issued) ∨
        (row.state = .issued ∧ next.state.Terminal)) := by
  cases life with
  | same allowances => exact ⟨row, by rw [allowances, found], .inl rfl⟩
  | prepared changed new fresh state unused allowances =>
    exact ⟨row, allowances ▸ AList.lookup_insert_fresh fresh new found, .inl rfl⟩
  | activated changed old new moved before after =>
    rcases moved.next found with ⟨rfl, own⟩ | other
    · exact ⟨new, own, .inr (.inl ⟨before, after⟩)⟩
    · exact ⟨row, other, .inl rfl⟩
  | redeemed changed old new r moved before after =>
    rcases moved.next found with ⟨rfl, own⟩ | other
    · exact ⟨new, own, .inr (.inr ⟨before, .inl after⟩)⟩
    · exact ⟨row, other, .inl rfl⟩
  | terminated changed old new proof moved before after =>
    rcases moved.next found with ⟨rfl, own⟩ | other
    · exact ⟨new, own, .inr (.inr ⟨before, .inr after⟩)⟩
    · exact ⟨row, other, .inl rfl⟩

theorem Life.terminal (life : Life ledger st st')
    {row : AllowanceRow} (found : st.allowances.lookup id = some row)
    (terminal : row.state.Terminal) : st'.allowances.lookup id = some row := by
  obtain ⟨next, after, rfl | ⟨before, _⟩ | ⟨before, _⟩⟩ := life.next found
  · exact after
  all_goals
    rw [before] at terminal
    simp [AllowanceState.Terminal] at terminal

/-- Whether the amount of the allowance left the issued authority in this step. -/
def leavesIssued (id : Bytes) (db db' : Database E) : Nat :=
  if (db.offline.allowances.lookup id).map (·.state) = some .issued ∧
      (db'.offline.allowances.lookup id).map (·.state) ≠ some .issued then 1 else 0

def departures (id : Bytes) : Database E → List (OfflineCommand E) → Nat
  | _, [] => 0
  | db, command :: rest =>
    leavesIssued id db (offlineStep db command) + departures id (offlineStep db command) rest

theorem departures_terminal (id : Bytes) (commands : List (OfflineCommand E)) {row : AllowanceRow}
    (found : db.offline.allowances.lookup id = some row) (terminal : row.state.Terminal) :
    departures id db commands = 0 := by
  induction commands generalizing db with
  | nil => rfl
  | cons command rest ih =>
    have after := (offlineStep_lived db command).2.terminal found terminal
    rw [departures, ih after, leavesIssued, found, after]
    simp

theorem departures_le_one (id : Bytes) (commands : List (OfflineCommand E)) (db : Database E) :
    departures id db commands ≤ 1 := by
  induction commands generalizing db with
  | nil => exact Nat.zero_le 1
  | cons command rest ih =>
    rw [departures, leavesIssued]
    split
    · rename_i left
      obtain ⟨row, found, issued⟩ := Option.map_eq_some_iff.mp left.1
      obtain ⟨next, after, rfl | ⟨before, _⟩ | ⟨_, terminal⟩⟩ :=
        (offlineStep_lived db command).2.next found
      · exact absurd (by rw [after, ← issued]; rfl) left.2
      · rw [before] at issued
        cases issued
      · rw [departures_terminal id rest after terminal]
    · rw [Nat.zero_add]
      exact ih _

theorem terminal_stays (commands : List (OfflineCommand E)) {row : AllowanceRow}
    (found : db.offline.allowances.lookup id = some row) (terminal : row.state.Terminal) :
    (run offlineStep db commands).offline.allowances.lookup id = some row :=
  run_preserves offlineStep (fun db => db.offline.allowances.lookup id = some row)
    (fun db command found => (offlineStep_lived db command).2.terminal found terminal) commands found

/-- After any interleaving of offline calls, from empty offline tables: an allowance is
REDEEMED exactly when it has its receipt, REVOKED or EXPIRED exactly when it has its
proof, and then for good; a receipt names a POSTED redemption that debits the account by
the amount; receipts share no entry, effect or presentation; allowances of one device
share no epoch and counter; and the amount of an allowance leaves the issued authority,
which is the sum of the ISSUED allowances of every region, at most once. -/
theorem allowances_are_spent_or_returned_once (db : Database E)
    (commands : List (OfflineCommand E)) :
    let reached := run offlineStep (withoutAllowances db) commands
    (∀ id row, reached.offline.allowances.lookup id = some row →
      (row.state = .redeemed ↔ ∃ r, reached.offline.redemptionReceipts.lookup id = some r) ∧
      (row.state = .revoked ∨ row.state = .expired ↔
        ∃ proof, reached.offline.nonRedemptionProofs.lookup id = some proof) ∧
      (row.state.Terminal → ∀ later,
        (run offlineStep reached later).offline.allowances.lookup id = some row)) ∧
    (∀ id r, reached.offline.redemptionReceipts.lookup id = some r →
      (∃ row, reached.offline.allowances.lookup id = some row ∧
        RedemptionPosted reached.ledger row r) ∧
      reached.offline.nonRedemptionProofs.lookup id = none) ∧
    (∀ id other r r', reached.offline.redemptionReceipts.lookup id = some r →
      reached.offline.redemptionReceipts.lookup other = some r' → id ≠ other →
      r.ledgerTransactionId ≠ r'.ledgerTransactionId ∧ r.effectId ≠ r'.effectId ∧
        r.presentationHash ≠ r'.presentationHash) ∧
    (∀ id other row row', reached.offline.allowances.lookup id = some row →
      reached.offline.allowances.lookup other = some row' → row.device = row'.device →
      row.issuerEpoch = row'.issuerEpoch → row.deviceCounter = row'.deviceCounter → id = other) ∧
    (∀ id, departures id (withoutAllowances db) commands ≤ 1) ∧
    ∀ key, issuedAt reached.offline key = outstanding reached.offline key := by
  intro reached
  obtain ⟨inv, posted⟩ := offlineRun_exclusive db commands
  refine ⟨?_, ?_, ?_, ?_, fun id => departures_le_one id commands _, inv.issued⟩
  · intro id row found
    exact ⟨inv.redeemed id row found, inv.terminated id row found,
      fun terminal later => terminal_stays later found terminal⟩
  · intro id r present
    obtain ⟨row, found⟩ := inv.receipts id r present
    refine ⟨⟨row, found, posted id row r found present⟩, ?_⟩
    rw [Option.eq_none_iff_forall_ne_some]
    intro proof proven
    -- the one state of the row cannot be both
    have redeemed := (inv.redeemed id row found).mpr ⟨r, present⟩
    have terminated := (inv.terminated id row found).mpr ⟨proof, proven⟩
    simp [redeemed] at terminated
  · intro id other r r' present present' different
    obtain ⟨transaction, effect, presentation, _⟩ := inv.distinct id other r r' present present' different
    exact ⟨transaction, effect, presentation⟩
  · intro id other row row' found found' device epoch counter
    exact inv.counters id other row row' found found' ⟨device, epoch, counter⟩

end PaymentPlatform.Offline
