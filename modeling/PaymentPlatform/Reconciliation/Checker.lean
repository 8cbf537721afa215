import Mathlib.Data.Int.Interval
import PaymentPlatform.Ledger.Books
import PaymentPlatform.Rights.Rows

/-! The checks of internal/reconciliation/checker.go that replay the journal and the rights
of the authorities. A check reports the rows that break its law; in no state that the
ledger's or the rights' calls reach is there such a row. -/

namespace PaymentPlatform.Reconciliation

open Framing Serial Ledger

variable {E : Engine} {st : Tables E}

inductive Category where
  | unbalancedTransaction
  | journalReplayMismatch
  | journalSequenceGap
  | escrowNotConserved
  deriving DecidableEq

structure Finding where
  category : Category
  bookId : Bytes
  effectId : Bytes
  assetId : Bytes
  amount : Int
  details : List (String × Bytes)
  deriving DecidableEq

inductive CheckError where
  | amount (category : Category) (amount : Int)
  | database (error : SqlError)
  deriving DecidableEq

/-- ParseAmount refuses more than 38 digits, and with that the whole report fails. -/
def reported (findings : List Finding) : Except CheckError (List Finding) := do
  findings.forM fun f => require (fitsDecimal38 f.amount) (.amount f.category f.amount)
  return findings

theorem reported_nil {findings : List Finding} : reported findings = .ok [] ↔ findings = [] := by
  simp only [reported, steps_ok]
  constructor
  · rintro ⟨_, _, rfl⟩
    rfl
  · rintro rfl
    exact ⟨(), rfl, rfl⟩

theorem reported_rows {κ ρ : Type} [DecidableEq κ] {t : Table κ ρ} {f : κ × ρ → Option Finding} :
    reported (t.rows.filterMap f) = .ok [] ↔ ∀ key row, t.lookup key = some row →
      f (key, row) = none := by
  simp only [reported_nil, List.filterMap_eq_nil_iff, Prod.forall, AList.mem_rows]

def postedRows (st : Tables E) : List (Bytes × TransactionRow E) :=
  st.transactions.rows.filter fun e => e.2.status = .posted

def effectLines (st : Tables E) (bookId effectId : Bytes) : List (Int × LineRow) :=
  ((postedRows st).filter fun e => e.2.bookId = bookId ∧ e.2.effectId = effectId).flatMap
    fun e => linesOf st e.1

def checkLedgerBalance (st : Tables E) : Except CheckError (List Finding) :=
  let groups := (postedRows st).flatMap fun e => (effectLines st e.2.bookId e.2.effectId).map
    fun l => (e.2.bookId, e.2.effectId, l.2.assetId)
  reported (groups.dedup.filterMap fun (bookId, effectId, assetId) =>
    let total side := sideTotal side (fun l => l.assetId = assetId) (effectLines st bookId effectId)
    if total .debit = total .credit then none
    else some ⟨.unbalancedTransaction, bookId, effectId, assetId, total .debit - total .credit, []⟩)

def checkMaterializedBalances (st : Tables E) : Except CheckError (List Finding) :=
  reported (st.accounts.rows.filterMap fun (accountId, account) =>
    let folded := oriented account.normalSide (postedTotal st .debit accountId)
      (postedTotal st .credit accountId)
    let stored := (st.accountBalances.lookup accountId).map (·.currentBalanceAtoms)
    if stored = some folded then none
    else some ⟨.journalReplayMismatch, account.bookId, accountId, account.assetId,
      stored.getD 0 - folded, [("account_id", accountId),
        ("projection_present", ascii (if stored.isSome then "true" else "false"))]⟩)

def sequencesOf (st : Tables E) (bookId : Bytes) : List Int :=
  ((postedRows st).filter fun e => e.2.bookId = bookId).map fun e => e.2.sequenceNo

def checkSequences (st : Tables E) : Except CheckError (List Finding) :=
  reported (st.books.rows.filterMap fun (bookId, head) =>
    let expected := head.nextSequenceNo - 1
    let count := (sequencesOf st bookId).length
    let maximum := (sequencesOf st bookId).max?.getD 0
    if expected = count ∧ expected = maximum then none
    else some ⟨.journalSequenceGap, bookId, bookId, [], 0, [("expected", decimal expected),
      ("count", decimal count), ("maximum", decimal maximum)]⟩)

theorem mem_postedRows {e : Bytes × TransactionRow E} :
    e ∈ postedRows st ↔ st.transactions.lookup e.1 = some e.2 ∧ e.2.status = .posted := by
  rw [postedRows, List.mem_filter, AList.mem_rows, decide_eq_true_eq]

theorem mem_sequencesOf {bookId : Bytes} {n : Int} :
    n ∈ sequencesOf st bookId ↔ ∃ id row, PostedIn st bookId id row ∧ row.sequenceNo = n := by
  simp only [sequencesOf, List.mem_map, List.mem_filter, mem_postedRows, decide_eq_true_eq,
    Prod.exists]
  constructor
  · rintro ⟨id, row, ⟨⟨found, posted⟩, book⟩, rfl⟩
    exact ⟨id, row, ⟨found, posted, book⟩, rfl⟩
  · rintro ⟨id, row, ⟨found, posted, book⟩, rfl⟩
    exact ⟨id, row, ⟨⟨found, posted⟩, book⟩, rfl⟩

/-- Distinct positive numbers are the first ones exactly when the largest of them is their
number. -/
theorem covers_iff {numbers : List Int} {last : Int} (distinct : numbers.Nodup)
    (positive : ∀ n ∈ numbers, 0 < n) (start : 0 ≤ last) :
    (last = numbers.length ∧ last = numbers.max?.getD 0) ↔ ∀ n, n ∈ numbers ↔ 1 ≤ n ∧ n ≤ last := by
  have card := List.toFinset_card_of_nodup distinct
  constructor
  · rintro ⟨count, largest⟩
    have inside : numbers.toFinset ⊆ Finset.Icc 1 last := by
      intro n member
      have listed := List.mem_toFinset.mp member
      cases top : numbers.max? with
      | none => simp [List.max?_eq_none_iff.mp top] at listed
      | some =>
        rw [top] at largest
        have bound := (List.max?_eq_some_iff.mp top).2 n listed
        exact Finset.mem_Icc.mpr ⟨positive n listed, largest ▸ bound⟩
    have same := Finset.eq_of_subset_of_card_le inside (by rw [Int.card_Icc, card]; omega)
    intro n
    rw [← List.mem_toFinset, same, Finset.mem_Icc]
  · intro covered
    have same : numbers.toFinset = Finset.Icc 1 last := by
      ext n
      rw [List.mem_toFinset, covered, Finset.mem_Icc]
    rw [same, Int.card_Icc] at card
    refine ⟨by omega, ?_⟩
    rcases Int.lt_or_eq_of_le start with some_ | rfl
    · rw [List.max?_eq_some_iff.mpr ⟨(covered last).mpr ⟨some_, le_refl _⟩,
        fun n member => ((covered n).mp member).2⟩]
      rfl
    · cases numbers with
      | nil => rfl
      | cons => simp at card

theorem checkSequences_nil : checkSequences st = .ok [] ↔
    ∀ bookId head, st.books.lookup bookId = some head →
      head.nextSequenceNo - 1 = (sequencesOf st bookId).length ∧
        head.nextSequenceNo - 1 = (sequencesOf st bookId).max?.getD 0 := by
  simp only [checkSequences, reported_rows, ite_eq_left_iff, reduceCtorEq, imp_false, not_not]

theorem sequences_iff {bookId : Bytes} {head : BookRow}
    (once : ∀ id row id' row', PostedIn st bookId id row → PostedIn st bookId id' row' →
      row.sequenceNo = row'.sequenceNo → id = id')
    (positive : ∀ id row, PostedIn st bookId id row → 0 < row.sequenceNo)
    (started : 1 ≤ head.nextSequenceNo) :
    (head.nextSequenceNo - 1 = (sequencesOf st bookId).length ∧
        head.nextSequenceNo - 1 = (sequencesOf st bookId).max?.getD 0) ↔
      ∀ n, (∃ id row, PostedIn st bookId id row ∧ row.sequenceNo = n) ↔
        1 ≤ n ∧ n < head.nextSequenceNo := by
  have distinct : (sequencesOf st bookId).Nodup := by
    refine List.Nodup.map_on ?_ (((AList.rows_nodup _).filter _).filter _)
    rintro ⟨id, row⟩ member ⟨id', row'⟩ member' same
    simp only [List.mem_filter, mem_postedRows, decide_eq_true_eq] at member member'
    obtain ⟨⟨found, posted⟩, book⟩ := member
    obtain ⟨⟨found', posted'⟩, book'⟩ := member'
    cases once id row id' row' ⟨found, posted, book⟩ ⟨found', posted', book'⟩ same
    rw [Option.some.inj (found.symm.trans found')]
  have above : ∀ n ∈ sequencesOf st bookId, 0 < n := by
    intro n member
    obtain ⟨id, row, posted, rfl⟩ := mem_sequencesOf.mp member
    exact positive id row posted
  rw [covers_iff distinct above (by omega)]
  simp only [mem_sequencesOf, Int.le_sub_one_iff]

/-- Under the constraints of the tables the two numbers that checkSequences compares are
enough: it is silent exactly when the posted entries of every book are numbered from 1
without a gap. -/
theorem sequences_checked_exactly (st : Tables E)
    (index : ∀ e ∈ postedRows st, ∀ e' ∈ postedRows st, e.2.bookId = e'.2.bookId →
      e.2.sequenceNo = e'.2.sequenceNo → e.1 = e'.1)
    (positive : ∀ e ∈ postedRows st, 0 < e.2.sequenceNo)
    (heads : ∀ e ∈ st.books.rows, 0 < e.2.nextSequenceNo) :
    checkSequences st = .ok [] ↔ ∀ bookId head, st.books.lookup bookId = some head →
      ∀ n, (∃ id row, PostedIn st bookId id row ∧ row.sequenceNo = n) ↔
        1 ≤ n ∧ n < head.nextSequenceNo := by
  have row : ∀ {bookId id row}, PostedIn st bookId id row → (id, row) ∈ postedRows st :=
    fun posted => mem_postedRows.mpr ⟨posted.found, posted.posted⟩
  rw [checkSequences_nil]
  refine forall_congr' fun bookId => forall_congr' fun head => imp_congr_right fun found => ?_
  refine sequences_iff ?_ (fun _ _ posted => positive _ (row posted))
    (heads (bookId, head) ((AList.mem_rows _ _ _).mpr found))
  intro id first id' second posted posted' same
  exact index _ (row posted) _ (row posted') (posted.book.trans posted'.book.symm) same

theorem sample_sequences_checked :
    let reached := run step sampleTables sampleCommands
    (checkSequences reached = .ok [] ↔ ∀ bookId head, reached.books.lookup bookId = some head →
      ∀ n, (∃ id row, PostedIn reached bookId id row ∧ row.sequenceNo = n) ↔
        1 ≤ n ∧ n < head.nextSequenceNo) ∧ checkSequences reached = .ok [] :=
  ⟨sequences_checked_exactly _ (by decide +kernel) (by decide +kernel) (by decide +kernel),
    by decide +kernel⟩

def Balanced (st : Tables E) : Prop :=
  ∀ id row, st.transactions.lookup id = some row → row.status = .posted →
    balancedAssets (linesOf st id)

theorem step_balanced (st : Tables E) (command : Command) (inv : Balanced st) :
    Balanced (step st command) := by
  refine step_preserves Balanced ?_ ?_ ?_ st command inv
  · intro st st' account inv committed
    obtain ⟨_, _, rfl⟩ := createAccount_frame committed
    exact inv
  · intro st st' request head entryHash metadata inv drafted id row found posted
    obtain ⟨before, _, _⟩ := (drafted.postedIn _ id row).mp ⟨found, posted, rfl⟩
    rw [(drafted.keepsPosted id row before posted).2]
    exact inv id row before posted
  · intro st st' id row head inv effect id' row' found posted
    rcases (effect.postedIn _ id' row').mp ⟨found, posted, rfl⟩ with before | ⟨rfl, _, _⟩
    · rw [(effect.keepsPosted id' row' before.found posted).2]
      exact inv id' row' before.found posted
    · have same : linesOf st' id' = linesOf st id' := by simp only [linesOf, effect.lines]
      rw [same]
      exact checkDraft_balanced effect.checked

theorem Balanced.check (inv : Balanced st) : checkLedgerBalance st = .ok [] := by
  simp only [checkLedgerBalance, reported_nil, List.filterMap_eq_nil_iff, ite_eq_left_iff,
    reduceCtorEq, imp_false, not_not]
  rintro ⟨bookId, effectId, assetId⟩ _
  have entries : ∀ part : List (Bytes × TransactionRow E), (∀ e ∈ part, e ∈ postedRows st) →
      sideTotal .debit (fun l => l.assetId = assetId) (part.flatMap fun e => linesOf st e.1) =
        sideTotal .credit (fun l => l.assetId = assetId) (part.flatMap fun e => linesOf st e.1) := by
    intro part
    induction part with
    | nil => exact fun _ => rfl
    | cons e part ih =>
      intro posted
      obtain ⟨found, status⟩ := mem_postedRows.mp (posted e List.mem_cons_self)
      have head := balancedAssets_all (inv e.1 e.2 found status) assetId
      have tail := ih fun e member => posted e (List.mem_cons_of_mem _ member)
      simp only [sideTotal, List.flatMap_cons, List.map_append, List.sum_append] at head tail ⊢
      rw [head, tail]
  exact entries _ fun e member => (List.mem_filter.mp member).1

theorem chained_check (chained : Chained st) : checkSequences st = .ok [] := by
  rw [checkSequences_nil]
  intro bookId head found
  have chain := chained bookId head found
  refine (sequences_iff chain.once ?_ chain.started).mpr chain.sequences
  intro id row posted
  exact ((chain.sequences row.sequenceNo).mp ⟨id, row, posted, rfl⟩).1

/-- No run of account creations and postings, failed calls included, gives the checks of the
journal anything to report. -/
theorem journal_checks_pass (st : Tables E) (unused : Unused st) (opened : Opened st)
    (commands : List Command) :
    let reached := run step st commands
    checkLedgerBalance reached = .ok [] ∧ checkMaterializedBalances reached = .ok [] ∧
      checkSequences reached = .ok [] := by
  have nothing : Balanced st := by
    intro id row found _
    rw [unused.transactions] at found
    cases found
  have projected := run_preserves step Projected step_projected commands unused.projected
  refine ⟨(run_preserves step Balanced step_balanced commands nothing).check, ?_,
    chained_check (run_preserves step Chained step_chained commands opened.chained)⟩
  rw [checkMaterializedBalances, reported_rows]
  intro id account found
  obtain ⟨balance, present, projects⟩ := projected.folded id account found
  simp only [present, Option.map_some, projects.current, if_true]

theorem sample_journal_checks :
    let reached := run step sampleTables sampleCommands
    (postedRows reached).length = 2 ∧ checkLedgerBalance reached = .ok [] ∧
      checkMaterializedBalances reached = .ok [] ∧ checkSequences reached = .ok [] :=
  ⟨by decide +kernel,
    journal_checks_pass sampleTables ⟨rfl, rfl, rfl, rfl⟩ sampleTables_opened sampleCommands⟩

/-- The columns of the view escrow_authority_conservation beside those of the authority. -/
def conservationColumns (db : Database E) (owner : Bytes × Bytes) : List Int :=
  [Escrow.regional db.escrow owner, Escrow.inTransit db.escrow owner,
    Escrow.offlineIssued db.offline owner, Escrow.issuedAllowances db.offline owner]

def checkEscrow (db : Database E) : Except CheckError (List Finding) := do
  let rows := db.escrow.authorities.rows
  require (∀ e ∈ rows, ∀ amount ∈ conservationColumns db e.1, fitsDecimal38 amount)
    (.database .outOfRange)
  reported (rows.filterMap fun (owner, row) =>
    let issued := Escrow.offlineIssued db.offline owner
    let folded := Escrow.issuedAllowances db.offline owner
    let residual := row.totalAuthority - row.unallocated - Escrow.regional db.escrow owner -
      Escrow.inTransit db.escrow owner - issued
    if residual = 0 ∧ issued = folded then none
    else some ⟨.escrowNotConserved, [], owner.1, owner.2, residual, [("account_id", owner.1),
      ("offline_issued", decimal issued), ("folded_offline_issued", decimal folded)]⟩)

theorem rightsLaw_check {db : Database E} (law : RightsLaw db)
    (storable : ∀ owner row, db.escrow.authorities.lookup owner = some row → row.Storable) :
    checkEscrow db = .ok [] := by
  have balanced : ∀ owner row, db.escrow.authorities.lookup owner = some row →
      row.unallocated + Escrow.regional db.escrow owner + Escrow.inTransit db.escrow owner +
          Escrow.offlineIssued db.offline owner = row.totalAuthority ∧
        Escrow.offlineIssued db.offline owner = Escrow.issuedAllowances db.offline owner := by
    intro owner row found
    simpa only [Escrow.Conserved, Escrow.holdings, Escrow.authorityColumn, found, Option.map_some,
      Option.getD_some] using law.conserved owner
  simp only [checkEscrow, steps_ok, reported_rows, Prod.forall, AList.mem_rows]
  refine ⟨(), ?_, ?_⟩
  · -- no bucket is negative, so none exceeds the total, which fits its column
    intro account asset row found amount member
    obtain ⟨sum, folded⟩ := balanced (account, asset) row found
    obtain ⟨_, unallocated, _⟩ := law.checked.escrow.authorities _ row found
    have total := (storable _ row found).1
    have nonneg := law.checked.nonneg (account, asset)
    have regional := nonneg .regional
    have transit := nonneg .inTransit
    have issued := nonneg .offlineIssued
    simp only [Escrow.holdings, fitsDecimal38] at regional transit issued total ⊢
    simp only [conservationColumns, List.mem_cons, List.not_mem_nil, or_false] at member
    rcases member with rfl | rfl | rfl | rfl <;> omega
  · intro account asset row found
    obtain ⟨sum, folded⟩ := balanced (account, asset) row found
    rw [if_pos ⟨by omega, folded⟩]

/-- No run of the calls that write spending rights, with any other transactions between them,
gives the check of the escrow anything to report. -/
theorem escrow_check_passes (db : Database E) (commands : List (RightsCommand E)) :
    checkEscrow (run rightsStep db.withoutRights commands) = .ok [] := by
  refine rightsLaw_check (rightsRun_law db commands) (run_preserves rightsStep
    (fun db => ∀ owner row, db.escrow.authorities.lookup owner = some row → row.Storable)
    (fun db command => (rightsStep_kept db command).storable) commands ?_)
  intro owner row found
  simp [Database.withoutRights] at found

end PaymentPlatform.Reconciliation
