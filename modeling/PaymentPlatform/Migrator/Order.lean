import PaymentPlatform.Migrator.Processes

/-! Every statement of the migrations is executed at most once and in order, whatever the
processes meet. -/

namespace PaymentPlatform.Migrator

open Framing Serial Retry

variable {count n i j left : Nat} {e : Execution} {m next : Migration} {s s' : Store}
  {phase old : Phase} {κ : Type} {st : Tables} {row : AttemptRow} {meets : Meets}
  {process : Process} {current : Statement} {runId : Bytes}

def done (migration count : Nat) : List Execution :=
  (List.range count).map fun statement => ⟨migration, statement, true⟩

def complete (catalog : List Migration) : Nat → List Execution
  | 0 => []
  | n + 1 => complete catalog n ++ done n ((catalog[n]?.map (·.statements.length)).getD 0)

def Before (a b : Execution) : Prop :=
  a.migration < b.migration ∨ (a.migration = b.migration ∧ a.statement < b.statement)

instance : DecidableRel Before := fun _ _ => inferInstanceAs (Decidable (_ ∨ _))

theorem done_succ (migration count : Nat) :
    done migration (count + 1) = done migration count ++ [⟨migration, count, true⟩] := by
  simp [done, List.range_succ]

theorem mem_done {migration : Nat} :
    e ∈ done migration count ↔ e.migration = migration ∧ e.statement < count ∧
      e.succeeded = true := by
  simp only [done, List.mem_map, List.mem_range]
  constructor
  · rintro ⟨statement, small, rfl⟩
    exact ⟨rfl, small, rfl⟩
  · rintro ⟨rfl, small, succeeded⟩
    exact ⟨e.statement, small, by rw [← succeeded]⟩

theorem done_ordered (migration count : Nat) : (done migration count).Pairwise Before := by
  unfold done
  rw [List.pairwise_map]
  exact List.pairwise_lt_range.imp fun small => .inr ⟨rfl, small⟩

theorem mem_complete {catalog : List Migration} (member : e ∈ complete catalog n) :
    e.migration < n := by
  induction n with
  | zero => cases member
  | succ n ih =>
    rcases List.mem_append.mp member with earlier | last
    · exact Nat.lt_succ_of_lt (ih earlier)
    · rw [(mem_done.mp last).1]
      exact Nat.lt_succ_self n

theorem complete_ordered (catalog : List Migration) (n : Nat) :
    (complete catalog n).Pairwise Before := by
  induction n with
  | zero => exact .nil
  | succ n ih =>
    refine List.pairwise_append.mpr ⟨ih, done_ordered _ _, ?_⟩
    intro a earlier b last
    left
    rw [(mem_done.mp last).1]
    exact mem_complete earlier

theorem complete_all {catalog : List Migration} (earlier : i < n) (found : catalog[i]? = some m)
    (small : j < m.statements.length) : ⟨i, j, true⟩ ∈ complete catalog n := by
  induction n with
  | zero => cases earlier
  | succ n ih =>
    rcases Nat.lt_succ_iff_lt_or_eq.mp earlier with earlier | rfl
    · exact List.mem_append_left _ (ih earlier)
    · apply List.mem_append_right
      rw [found]
      exact mem_done.mpr ⟨rfl, small, rfl⟩

variable {catalog : List Migration}

/-- The receipts are those of the first migrations of the list, whose attempts are
APPLIED. -/
structure Recorded (catalog : List Migration) (n : Nat) (st : Tables) : Prop where
  receipts : ∀ version checksum, st.migrations.lookup version = some checksum ↔
    ∃ m ∈ catalog.take n, m.version = version ∧ m.checksum = checksum
  applied : ∀ m ∈ catalog.take n, ∃ row, st.attempts.lookup m.version = some row ∧
    row.status = .applied

/-- The current migration has an attempt, and exactly its first statements are executed. -/
def At (catalog : List Migration) (n count : Nat) (s : Store) : Prop :=
  (∃ m, catalog[n]? = some m ∧ s.tables.attempts.lookup m.version ≠ none) ∧
    s.executed = complete catalog n ++ done n count

/-- The migration whose statements a process is busy with. -/
def Phase.applies : Phase → Option Nat
  | .beginning i _ _ | .executing i _ | .completing i _ _ | .marking i _ _ _ | .finalizing i _ =>
    some i
  | _ => none

/-- What a phase implies when the first n migrations have their receipts. Only a process
that took its stale flag for a claim is busy with one of those. -/
def Fits (catalog : List Migration) (n : Nat) (s : Store) : Phase → Prop
  | .claiming i _ _ => i ≤ n
  | .beginning i j _ => i < n ∨ (i = n ∧ At catalog n j s)
  | .executing i j => i = n ∧ At catalog n j s
  | .completing i j _ => i = n ∧ At catalog n (j + 1) s
  | .marking i _ _ _ => i = n ∧ ∃ m, catalog[n]? = some m ∧ s.tables.attempts.lookup m.version ≠ none
  | .finalizing i _ =>
    i < n ∨ (i = n ∧ At catalog n ((catalog[n]?.map (·.statements.length)).getD 0) s)
  | _ => True

/-- What has been executed: all of the recorded migrations, and of the next one the first
statements, the last of them with any outcome. -/
def Executed (catalog : List Migration) (n : Nat) (executed : List Execution) : Prop :=
  ∃ count, executed = complete catalog n ++ done n count ∨
    executed = complete catalog n ++ done n count ++ [⟨n, count, false⟩]

structure Sound {ι : Type} (catalog : List Migration) (n : Nat) (w : World ι) : Prop where
  recorded : Recorded catalog n w.store.tables
  executed : Executed catalog n w.store.executed
  untouched : ∀ m, catalog[n]? = some m → w.store.tables.attempts.lookup m.version = none →
    w.store.executed = complete catalog n
  fits : ∀ p, Fits catalog n w.store (w.phase p)
  alone : ∀ p q, (w.phase p).applies = some n → (w.phase q).applies = some n → p = q

def Free (catalog : List Migration) (n : Nat) (st : Tables) : Prop :=
  ∀ m, catalog[n]? = some m → st.attempts.lookup m.version = none

theorem Fits.claimed (fits : Fits catalog n s phase) (applies : phase.applies = some n) :
    ∃ m, catalog[n]? = some m ∧ s.tables.attempts.lookup m.version ≠ none := by
  cases phase with
  | beginning =>
    cases applies
    rcases fits with earlier | ⟨_, claimed, _⟩
    · exact absurd earlier (Nat.lt_irrefl _)
    · exact claimed
  | executing => exact fits.2.1
  | completing => exact fits.2.1
  | marking => exact fits.2
  | finalizing =>
    cases applies
    rcases fits with earlier | ⟨_, claimed, _⟩
    · exact absurd earlier (Nat.lt_irrefl _)
    · exact claimed
  | _ => cases applies

/-- Who is not busy with the current migration does not read the store, and is not busy
with the next migration either. -/
theorem Fits.idle (fits : Fits catalog n s phase) (idle : phase.applies ≠ some n) (s' : Store) :
    Fits catalog n s' phase ∧ Fits catalog (n + 1) s' phase ∧ phase.applies ≠ some (n + 1) := by
  -- a process that is busy at all is busy with an earlier migration
  have behind : ∀ {i}, i < n → i < n + 1 ∧ some i ≠ some (n + 1) := fun earlier =>
    ⟨Nat.lt_succ_of_lt earlier, fun same => by cases same; omega⟩
  cases phase with
  | claiming => exact ⟨fits, Nat.le_succ_of_le fits, nofun⟩
  | beginning =>
    rcases fits with earlier | ⟨rfl, _⟩
    · exact ⟨.inl earlier, .inl (behind earlier).1, (behind earlier).2⟩
    · exact absurd rfl idle
  | executing => exact absurd (congrArg some fits.1) idle
  | completing => exact absurd (congrArg some fits.1) idle
  | marking => exact absurd (congrArg some fits.1) idle
  | finalizing =>
    rcases fits with earlier | ⟨rfl, _⟩
    · exact ⟨.inl earlier, .inl (behind earlier).1, (behind earlier).2⟩
    · exact absurd rfl idle
  | _ => exact ⟨trivial, trivial, nofun⟩

/-- A change of the tables that keeps what the other processes rely on. -/
structure Grows (catalog : List Migration) (n : Nat) (s s' : Store) : Prop where
  executed : s'.executed = s.executed
  recorded : Recorded catalog n s'.tables
  claimed : ∀ m, catalog[n]? = some m → s.tables.attempts.lookup m.version ≠ none →
    s'.tables.attempts.lookup m.version ≠ none

theorem At.grows (grows : Grows catalog n s s') (here : At catalog n count s) :
    At catalog n count s' := by
  obtain ⟨⟨m, found, claimed⟩, executed⟩ := here
  exact ⟨⟨m, found, grows.claimed m found claimed⟩, grows.executed.trans executed⟩

theorem Fits.grows (grows : Grows catalog n s s') (fits : Fits catalog n s phase) :
    Fits catalog n s' phase := by
  cases phase with
  | beginning => exact fits.imp id (And.imp_right (At.grows grows))
  | executing => exact fits.imp id (At.grows grows)
  | completing => exact fits.imp id (At.grows grows)
  | marking =>
    obtain ⟨same, m, found, claimed⟩ := fits
    exact ⟨same, m, found, grows.claimed m found claimed⟩
  | finalizing => exact fits.imp id (And.imp_right (At.grows grows))
  | _ => exact fits

theorem Grows.refl (recorded : Recorded catalog n s.tables) : Grows catalog n s s :=
  ⟨rfl, recorded, fun _ _ => id⟩

/-- A phase that a process may go on to: it becomes busy with the current migration only
when it already was or when nobody can be. -/
def Enters (catalog : List Migration) (n : Nat) (s s' : Store) (old new : Phase) : Prop :=
  Fits catalog n s' new ∧
    (new.applies = some n → old.applies = some n ∨ Free catalog n s.tables)

theorem enters_stopped (n : Nat) (s s' : Store) (old : Phase) :
    Enters catalog n s s' old .stopped :=
  ⟨trivial, nofun⟩

theorem proceed_holds {ended : Ended κ Failure Unit} {again : κ → Nat → Phase} {next : κ → Phase}
    (P : Phase → Prop) (stopped : P .stopped) (repeated : ∀ k left, P (again k left))
    (returned : ∀ k u, ended = .returned k u → P (next k)) : P (proceed ended left again next) := by
  cases ended with
  | returned k u => exact returned k u rfl
  | aborted k =>
    show P (if left ≤ 1 then .stopped else again k (left - 1))
    split
    · exact stopped
    · exact repeated k _
  | failed => exact stopped
  | ambiguous => exact stopped

variable {ι : Type} {w : World ι} {p : ι}

theorem Recorded.before (recorded : Recorded catalog n st)
    (distinct : (catalog.map Migration.version).Nodup) (found : catalog[i]? = some m)
    {checksum : Digest} (receipt : st.migrations.lookup m.version = some checksum) : i < n := by
  obtain ⟨m', member, same, _⟩ := (recorded.receipts _ _).mp receipt
  obtain ⟨j, small, at_j⟩ := List.getElem_of_mem member
  rw [List.length_take] at small
  rw [List.getElem_take] at at_j
  obtain ⟨inside, at_i⟩ := List.getElem?_eq_some_iff.mp found
  have inside' : i < (catalog.map Migration.version).length := by simpa using inside
  have small' : j < (catalog.map Migration.version).length := by
    rw [List.length_map]
    omega
  have versions : (catalog.map Migration.version)[i] = (catalog.map Migration.version)[j] := by
    simp only [List.getElem_map, at_i, at_j, same]
  have positions : i = j := distinct.getElem_inj_iff.mp versions
  omega

theorem mem_take_of_lt (found : catalog[i]? = some m) (earlier : i < n) : m ∈ catalog.take n := by
  obtain ⟨inside, at_i⟩ := List.getElem?_eq_some_iff.mp found
  exact List.mem_take_iff_getElem.mpr ⟨i, by omega, at_i⟩

section

variable (recorded : Recorded catalog n st)
include recorded

theorem Recorded.receipt (member : m ∈ catalog.take n) :
    st.migrations.lookup m.version = some m.checksum :=
  (recorded.receipts m.version m.checksum).mpr ⟨m, member, rfl, rfl⟩

theorem Recorded.after (found : catalog[i]? = some m)
    (absent : st.migrations.lookup m.version = none) : n ≤ i := by
  by_contra earlier
  cases absent.symm.trans (recorded.receipt (mem_take_of_lt found (Nat.lt_of_not_le earlier)))

theorem Recorded.other
    (distinct : (catalog.map Migration.version).Nodup) (found : catalog[n]? = some next)
    (member : m ∈ catalog.take n) : m.version ≠ next.version := by
  intro same
  have receipt := recorded.receipt member
  rw [same] at receipt
  exact absurd (recorded.before distinct found receipt) (Nat.lt_irrefl _)

theorem Recorded.inactive (found : catalog[i]? = some m)
    (earlier : i < n) (held : st.attempts.lookup m.version = some row) : row.status ≠ .active := by
  obtain ⟨row', held', applied⟩ := recorded.applied m (mem_take_of_lt found earlier)
  cases held.symm.trans held'
  rw [applied]
  nofun

end

theorem attempted_cases (body : Body κ Tables Failure Unit) (captured : κ) (meets : Meets)
    (s : Store) : ((attempted body captured meets s).1 = s ∧
      ∀ k u, (attempted body captured meets s).2 ≠ .returned k u) ∨
    ∃ c u, body ⟨captured, s.tables, meets.fault⟩ = (c, .ok u) ∧
      (attempted body captured meets s).1 = { s with tables := c.database } ∧
      ((attempted body captured meets s).2 = .returned c.captured u ∨
        (attempted body captured meets s).2 = .ambiguous c.captured) := by
  rcases once_cases body captured ⟨s.tables, meets.fault, meets.commit⟩ with
    ⟨same, other⟩ | ⟨c, u, finished, made, ended⟩
  · refine .inl ⟨?_, other⟩
    show ({ s with tables := _ } : Store) = s
    rw [same]
  · refine .inr ⟨c, u, finished, ?_, ended⟩
    show ({ s with tables := _ } : Store) = _
    rw [made]

/-- What comes of a section's transaction: the store grows, and the next phase fits it. -/
def Leads (catalog : List Migration) (n : Nat) (s : Store) (old : Phase)
    (made : Store × Ended κ Failure Unit) (left : Nat) (again : κ → Nat → Phase)
    (next : κ → Phase) : Prop :=
  Grows catalog n s made.1 ∧ Enters catalog n s made.1 old (proceed made.2 left again next)

/-- A transaction that records no migration: it is enough to follow its callback to the
end, where it may have committed. -/
theorem attempted_enters {body : Body κ Tables Failure Unit} {captured : κ}
    {again : κ → Nat → Phase} {next : κ → Phase} (recorded : Recorded catalog n s.tables)
    (repeats : ∀ k left, Fits catalog n s (again k left) ∧ (again k left).applies = old.applies)
    (finishes : ∀ c u, body ⟨captured, s.tables, meets.fault⟩ = (c, .ok u) →
      Grows catalog n s { s with tables := c.database } ∧
        Enters catalog n s { s with tables := c.database } old (next c.captured)) :
    Leads catalog n s old (attempted body captured meets s) left again next := by
  unfold Leads
  rcases attempted_cases body captured meets s with
    ⟨same, other⟩ | ⟨c, u, finished, made, ended⟩
  · rw [same]
    refine ⟨.refl recorded, proceed_holds (Enters catalog n s s old) (enters_stopped ..) ?_ ?_⟩
    · intro k left
      exact ⟨(repeats k left).1, fun applies => .inl ((repeats k left).2 ▸ applies)⟩
    · intro k u returned
      exact absurd returned (other k u)
  · obtain ⟨grows, enters⟩ := finishes c u finished
    rw [made]
    refine ⟨grows, proceed_holds (Enters catalog n s _ old) (enters_stopped ..) ?_ ?_⟩
    · intro k left
      exact ⟨(repeats k left).1.grows grows, fun applies => .inl ((repeats k left).2 ▸ applies)⟩
    · intro k u' returned
      rcases ended with same | same
      · cases same.symm.trans returned
        exact enters
      · cases same.symm.trans returned

theorem applyFrom_applies (next : Migration) (i j : Nat) :
    (applyFrom next i j).applies = some i := by
  unfold applyFrom
  split <;> rfl

theorem applyFrom_fits (found : catalog[n]? = some next) (small : count ≤ next.statements.length)
    (here : At catalog n count s) : Fits catalog n s (applyFrom next n count) := by
  unfold applyFrom
  split
  · exact .inr ⟨rfl, here⟩
  · refine .inr ⟨rfl, ?_⟩
    have whole : count = next.statements.length := by omega
    rw [found]
    show At catalog n next.statements.length s
    exact whole ▸ here

theorem claimFrom_fits (process : Process) (s : Store) (reached : i ≤ n) :
    Fits catalog n s (claimFrom catalog process i) ∧
      (claimFrom catalog process i).applies = none := by
  unfold claimFrom
  split
  · exact ⟨reached, rfl⟩
  · exact ⟨trivial, rfl⟩

theorem claimFrom_enters (reached : i ≤ n) :
    Enters catalog n s s' old (claimFrom catalog process i) := by
  obtain ⟨fits, idle⟩ := claimFrom_fits process s' reached
  exact ⟨fits, fun applies => by rw [idle] at applies; cases applies⟩

theorem Recorded.claimed (recorded : Recorded catalog n st)
    (absent : st.migrations.lookup next.version = none) (row : AttemptRow) :
    Recorded catalog n { st with attempts := st.attempts.insert next.version row } where
  receipts := recorded.receipts
  applied m member := by
    obtain ⟨held, found, applied⟩ := recorded.applied m member
    refine ⟨held, ?_, applied⟩
    have different : m.version ≠ next.version := by
      intro same
      cases absent.symm.trans (same ▸ recorded.receipt member)
    exact (AList.lookup_insert_ne different).trans found

theorem claiming_enters {claimed : Bool} (distinct : (catalog.map Migration.version).Nodup)
    (inv : Sound catalog n w) (found : catalog[i]? = some next) (reached : i ≤ n) :
    Leads catalog n w.store (.claiming i claimed left)
      (attempted (claimBody next process.runId) claimed meets w.store) left
      (fun claimed left => .claiming i claimed left) fun claimed =>
        if claimed then applyFrom next i 0 else claimFrom catalog process (i + 1) := by
  apply attempted_enters inv.recorded
  · intro k left
    exact ⟨reached, rfl⟩
  intro c u finished
  rcases claimBody_finished finished with ⟨receipt, same, _⟩ | ⟨absent, free, made, flag⟩
  · -- a receipt: the migration is recorded, and the flag may be stale
    have earlier := inv.recorded.before distinct found receipt
    rw [same]
    refine ⟨.refl inv.recorded, ?_⟩
    split
    · refine ⟨?_, fun applies => ?_⟩
      · unfold applyFrom
        split
        · exact .inl earlier
        · exact .inl earlier
      · rw [applyFrom_applies] at applies
        cases applies
        exact absurd earlier (Nat.lt_irrefl _)
    · exact claimFrom_enters earlier
  · have current : i = n := Nat.le_antisymm reached (inv.recorded.after found absent)
    subst current
    have grows : Grows catalog i w.store { w.store with tables := c.database } := by
      refine ⟨rfl, made ▸ inv.recorded.claimed absent _, ?_⟩
      intro m at_n claimed
      cases found.symm.trans at_n
      exact absurd free claimed
    refine ⟨grows, ?_⟩
    rw [flag, if_pos rfl]
    have here : At catalog i 0 { w.store with tables := c.database } := by
      refine ⟨⟨next, found, ?_⟩, ?_⟩
      · rw [made]
        show (w.store.tables.attempts.insert next.version _).lookup next.version ≠ none
        rw [AList.lookup_insert]
        nofun
      · show w.store.executed = _
        rw [inv.untouched next found free]
        simp [done]
    refine ⟨applyFrom_fits found (Nat.zero_le _) here, fun _ => .inr ?_⟩
    intro m at_n
    cases found.symm.trans at_n
    exact free

theorem grows_of_same (recorded : Recorded catalog n s.tables)
    (migrations : st.migrations = s.tables.migrations) (attempts : st.attempts = s.tables.attempts) :
    Grows catalog n s { s with tables := st } := by
  refine ⟨rfl, ⟨?_, ?_⟩, ?_⟩
  · rw [migrations]
    exact recorded.receipts
  · rw [attempts]
    exact recorded.applied
  · rw [attempts]
    exact fun _ _ => id

theorem statementAt_some (found : statementAt catalog i j = some (next, current)) :
    catalog[i]? = some next ∧ j < next.statements.length := by
  simp only [statementAt, Option.bind_eq_bind, Option.bind_eq_some_iff, Option.pure_def,
    Option.some.injEq, Prod.mk.injEq] at found
  obtain ⟨_, at_i, _, at_j, rfl, rfl⟩ := found
  exact ⟨at_i, (List.getElem?_eq_some_iff.mp at_j).1⟩

theorem beginning_enters (inv : Sound catalog n w) (found : catalog[i]? = some next)
    (fits : Fits catalog n w.store (.beginning i j left)) :
    Leads catalog n w.store (.beginning i j left)
      (attempted (startBody next (j + 1) current runId) () meets w.store) left
      (fun _ left => .beginning i j left) fun _ => .executing i j := by
  apply attempted_enters inv.recorded
  · intro k left
    exact ⟨fits, rfl⟩
  intro c u finished
  obtain ⟨⟨row, held, active⟩, migrations, attempts⟩ := startBody_finished finished
  have grows := grows_of_same inv.recorded migrations attempts
  refine ⟨grows, ?_⟩
  rcases fits with earlier | ⟨rfl, here⟩
  · exact absurd active (inv.recorded.inactive found earlier held)
  · exact ⟨⟨rfl, here.grows grows⟩, fun _ => .inl rfl⟩

theorem completing_enters (inv : Sound catalog n w) (found : catalog[n]? = some next)
    (small : j < next.statements.length) (here : At catalog n (j + 1) w.store) :
    Leads catalog n w.store (.completing n j left)
      (attempted (completeBody next (j + 1) current runId) () meets w.store) left
      (fun _ left => .completing n j left) fun _ => applyFrom next n (j + 1) := by
  apply attempted_enters inv.recorded
  · intro k left
    exact ⟨⟨rfl, here⟩, rfl⟩
  intro c u finished
  obtain ⟨migrations, attempts⟩ := completeBody_finished finished
  have grows := grows_of_same inv.recorded migrations attempts
  exact ⟨grows, applyFrom_fits found small (here.grows grows), fun _ => .inl rfl⟩

theorem marking_enters {cause : Bytes} (distinct : (catalog.map Migration.version).Nodup)
    (inv : Sound catalog n w) (found : catalog[n]? = some next)
    (fits : Fits catalog n w.store (.marking n j cause left)) :
    Leads catalog n w.store (.marking n j cause left)
      (attempted (markBody next.version (j + 1) runId cause) () meets w.store) left
      (fun _ left => .marking n j cause left) fun _ => .stopped := by
  apply attempted_enters inv.recorded
  · intro k left
    exact ⟨fits, rfl⟩
  intro c u finished
  obtain ⟨migrations, others, kept⟩ := markBody_finished finished
  refine ⟨⟨rfl, ⟨?_, ?_⟩, ?_⟩, enters_stopped ..⟩
  · show ∀ version checksum, c.database.migrations.lookup version = _ ↔ _
    rw [migrations]
    exact inv.recorded.receipts
  · intro m member
    obtain ⟨row, held, applied⟩ := inv.recorded.applied m member
    have different := inv.recorded.other distinct found member
    exact ⟨row, (others m.version different).trans held, applied⟩
  · intro m at_n claimed
    cases found.symm.trans at_n
    exact kept claimed

variable [DecidableEq ι]

theorem Sound.enters (inv : Sound catalog n w) (grows : Grows catalog n w.store s)
    (enters : Enters catalog n w.store s (w.phase p) phase) :
    Sound catalog n (w.next p s phase) where
  recorded := grows.recorded
  executed := grows.executed ▸ inv.executed
  untouched m found absent := by
    refine grows.executed.trans (inv.untouched m found ?_)
    by_contra claimed
    exact grows.claimed m found claimed absent
  fits q := by
    by_cases same : q = p
    · subst same
      rw [Calls.next_self]
      exact enters.1
    · rw [Calls.next_other same]
      exact (inv.fits q).grows grows
  alone q r applies applies' := by
    -- another busy process contradicts both ways of becoming busy
    have other : ∀ q, q ≠ p → (w.phase q).applies = some n → phase.applies ≠ some n := by
      intro q different busy entered
      rcases enters.2 entered with was | free
      · exact different (inv.alone q p busy was)
      · obtain ⟨m, found, claimed⟩ := (inv.fits q).claimed busy
        exact claimed (free m found)
    by_cases first : q = p <;> by_cases second : r = p
    · rw [first, second]
    · subst first
      rw [Calls.next_self] at applies
      rw [Calls.next_other second] at applies'
      exact absurd applies (other r second applies')
    · subst second
      rw [Calls.next_self] at applies'
      rw [Calls.next_other first] at applies
      exact absurd applies' (other q first applies)
    · rw [Calls.next_other first] at applies
      rw [Calls.next_other second] at applies'
      exact inv.alone q r applies applies'

theorem Sound.executes (inv : Sound catalog n w) (busy : w.phase p = .executing n j)
    (here : At catalog n j w.store) {succeeded : Bool} (fits : Fits catalog n
      { w.store with executed := w.store.executed ++ [⟨n, j, succeeded⟩] } phase) :
    Sound catalog n
      (w.next p { w.store with executed := w.store.executed ++ [⟨n, j, succeeded⟩] } phase) where
  recorded := inv.recorded
  executed := by
    obtain ⟨_, executed⟩ := here
    cases succeeded with
    | true =>
      refine ⟨j + 1, .inl ?_⟩
      show w.store.executed ++ _ = _
      rw [executed, done_succ, List.append_assoc]
    | false =>
      refine ⟨j, .inr ?_⟩
      show w.store.executed ++ _ = _
      rw [executed]
  untouched m found absent := by
    obtain ⟨⟨m', found', claimed⟩, _⟩ := here
    cases found.symm.trans found'
    exact absurd absent claimed
  fits q := by
    by_cases same : q = p
    · subst same
      rw [Calls.next_self]
      exact fits
    · rw [Calls.next_other same]
      -- nobody else is busy with this migration, so nobody else reads the executions
      have idle : (w.phase q).applies ≠ some n := fun applies =>
        same (inv.alone q p applies (by rw [busy]; rfl))
      exact ((inv.fits q).idle idle _).1
  alone q r applies applies' := by
    have only : ∀ q, ((w.next p { w.store with
        executed := w.store.executed ++ [⟨n, j, succeeded⟩] } phase).phase q).applies = some n →
        q = p := by
      intro q applies
      by_contra different
      rw [Calls.next_other different] at applies
      exact different (inv.alone q p applies (by rw [busy]; rfl))
    rw [only q applies, only r applies']

theorem Sound.finalizes (inv : Sound catalog n w) (distinct : (catalog.map Migration.version).Nodup)
    (found : catalog[n]? = some next) (busy : (w.phase p).applies = some n)
    (here : At catalog n next.statements.length w.store)
    (migrations : st.migrations = w.store.tables.migrations.insert next.version next.checksum)
    (applied : row.status = .applied)
    (attempts : st.attempts = w.store.tables.attempts.insert next.version row)
    (fits : Fits catalog (n + 1) { w.store with tables := st } phase) (idle : phase.applies = none) :
    Sound catalog (n + 1) (w.next p { w.store with tables := st } phase) := by
  obtain ⟨inside, at_n⟩ := List.getElem?_eq_some_iff.mp found
  have takes : catalog.take (n + 1) = catalog.take n ++ [next] := by
    rw [List.take_succ_eq_append_getElem inside, at_n]
  have unrecorded : ∀ m ∈ catalog.take n, m.version ≠ next.version := fun m member =>
    inv.recorded.other distinct found member
  have whole : w.store.executed = complete catalog (n + 1) := by
    rw [here.2, complete, found]
    rfl
  -- nobody else was busy with this migration, so nobody is busy with the next one
  have others : ∀ q, q ≠ p → Fits catalog (n + 1) { w.store with tables := st } (w.phase q) ∧
      (w.phase q).applies ≠ some (n + 1) := by
    intro q different
    have idle : (w.phase q).applies ≠ some n := fun applies =>
      different (inv.alone q p applies busy)
    exact ((inv.fits q).idle idle _).2
  have none_busy : ∀ q, ((w.next p { w.store with tables := st } phase).phase q).applies ≠
      some (n + 1) := by
    intro q
    by_cases same : q = p
    · rw [same, Calls.next_self, idle]
      nofun
    · rw [Calls.next_other same]
      exact (others q same).2
  refine
    { recorded := ⟨?_, ?_⟩
      executed := ⟨0, .inl ?_⟩
      untouched := fun _ _ _ => whole
      fits := ?_
      alone := fun q r applies => absurd applies (none_busy q) }
  · intro version checksum
    show st.migrations.lookup version = some checksum ↔ _
    rw [migrations, AList.lookup_insert_if, takes]
    split
    · rename_i same
      subst same
      simp only [List.mem_append, List.mem_singleton, Option.some.injEq]
      constructor
      · intro same
        exact ⟨next, .inr rfl, rfl, same⟩
      · rintro ⟨m, member | rfl, named, same⟩
        · exact absurd named (unrecorded m member)
        · exact same
    · rename_i different
      rw [inv.recorded.receipts]
      simp only [List.mem_append, List.mem_singleton]
      constructor
      · rintro ⟨m, member, named, same⟩
        exact ⟨m, .inl member, named, same⟩
      · rintro ⟨m, member | rfl, named, same⟩
        · exact ⟨m, member, named, same⟩
        · exact absurd named.symm different
  · intro m member
    show ∃ row, st.attempts.lookup m.version = some row ∧ _
    rw [attempts]
    rw [takes, List.mem_append, List.mem_singleton] at member
    rcases member with member | rfl
    · obtain ⟨held, found', status⟩ := inv.recorded.applied m member
      exact ⟨held, (AList.lookup_insert_ne (unrecorded m member)).trans found', status⟩
    · exact ⟨row, AList.lookup_insert _, applied⟩
  · show w.store.executed = _
    rw [whole]
    simp [done]
  · intro q
    by_cases same : q = p
    · subst same
      rw [Calls.next_self]
      exact fits
    · rw [Calls.next_other same]
      exact (others q same).1

theorem finalizing_sound (inv : Sound catalog n w)
    (distinct : (catalog.map Migration.version).Nodup) (phase : w.phase p = .finalizing i left)
    (found : catalog[i]? = some next) :
    let made := attempted (finalizeBody next process.runId) () meets w.store
    ∃ n', Sound catalog n' (w.next p made.1 (proceed made.2 left
      (fun _ left => .finalizing i left) fun _ => claimFrom catalog process (i + 1))) := by
  intro made
  have fits := inv.fits p
  rw [phase] at fits
  rcases attempted_cases (finalizeBody next process.runId) () meets w.store with
    ⟨same, other⟩ | ⟨c, u, finished, changed, ended⟩
  · rw [show made.1 = w.store from same]
    refine ⟨n, inv.enters (.refl inv.recorded) ?_⟩
    rw [phase]
    refine proceed_holds (Enters catalog n w.store w.store (.finalizing i left))
      (enters_stopped ..) ?_ ?_
    · intro k left
      exact ⟨fits, fun applies => .inl applies⟩
    · intro k u returned
      exact absurd returned (other k u)
  · obtain ⟨⟨row, held, active⟩, absent, migrations, row', applied, attempts⟩ :=
      finalizeBody_finished finished
    rcases fits with earlier | ⟨rfl, here⟩
    · exact absurd active (inv.recorded.inactive found earlier held)
    · rw [found] at here
      refine ⟨i + 1, ?_⟩
      rw [show made.1 = _ from changed]
      have goes : ∀ s, Fits catalog (i + 1) s (proceed made.2 left
          (fun _ left => .finalizing i left) fun _ => claimFrom catalog process (i + 1)) ∧
          (proceed made.2 left (fun _ left => .finalizing i left)
            fun _ => claimFrom catalog process (i + 1)).applies = none := by
        intro s
        rcases ended with same | same
        · rw [show made.2 = _ from same]
          exact claimFrom_fits process s (Nat.le_refl _)
        · rw [show made.2 = _ from same]
          exact ⟨trivial, rfl⟩
      exact inv.finalizes distinct found (by rw [phase]; rfl) here migrations applied attempts
        (goes _).1 (goes w.store).2

/-- One section of any process keeps the invariant, for as many recorded migrations or for
one more. -/
theorem resume_sound (distinct : (catalog.map Migration.version).Nodup) (processes : ι → Process)
    (inv : Sound catalog n w) (p : ι) (meets : Meets) :
    ∃ n', Sound catalog n' (step catalog processes w (.resume p meets)) := by
  have fits := inv.fits p
  show ∃ n', Sound catalog n' (w.next p (resume catalog (processes p) meets w.store (w.phase p)).1
    (resume catalog (processes p) meets w.store (w.phase p)).2)
  cases phase : w.phase p with
  | starting =>
    exact ⟨n, inv.enters (grows_of_same inv.recorded rfl rfl) ⟨trivial, nofun⟩⟩
  | readingReceipts =>
    refine ⟨n, inv.enters (.refl inv.recorded) ?_⟩
    show Enters catalog n w.store w.store _ (if _ then _ else _)
    split
    · exact ⟨trivial, nofun⟩
    · exact enters_stopped ..
  | readingAttempts =>
    refine ⟨n, inv.enters (.refl inv.recorded) ?_⟩
    show Enters catalog n w.store w.store _ (if _ then _ else _)
    split
    · exact claimFrom_enters (Nat.zero_le n)
    · exact enters_stopped ..
  | claiming i claimed left =>
    rw [phase] at fits
    simp only [resume]
    split
    · exact ⟨n, inv.enters (.refl inv.recorded) (enters_stopped ..)⟩
    · rename_i next found
      obtain ⟨grows, enters⟩ := claiming_enters distinct inv found fits
      exact ⟨n, inv.enters grows (phase ▸ enters)⟩
  | beginning i j left =>
    rw [phase] at fits
    simp only [resume]
    split
    · rename_i next current found
      obtain ⟨grows, enters⟩ := beginning_enters inv (statementAt_some found).1 fits
      exact ⟨n, inv.enters grows (phase ▸ enters)⟩
    · exact ⟨n, inv.enters (.refl inv.recorded) (enters_stopped ..)⟩
  | executing i =>
    rw [phase] at fits
    obtain ⟨rfl, here⟩ := fits
    simp only [resume]
    split
    · refine ⟨i, inv.executes phase here ⟨rfl, here.1, ?_⟩⟩
      show w.store.executed ++ _ = _
      rw [here.2, done_succ, List.append_assoc]
    · exact ⟨i, inv.executes phase here ⟨rfl, here.1⟩⟩
  | completing i j left =>
    rw [phase] at fits
    obtain ⟨rfl, here⟩ := fits
    simp only [resume]
    split
    · rename_i next current found
      obtain ⟨found, small⟩ := statementAt_some found
      obtain ⟨grows, enters⟩ := completing_enters inv found small here
      exact ⟨i, inv.enters grows (phase ▸ enters)⟩
    · exact ⟨i, inv.enters (.refl inv.recorded) (enters_stopped ..)⟩
  | marking i j cause left =>
    rw [phase] at fits
    obtain ⟨rfl, claimed⟩ := fits
    simp only [resume]
    split
    · exact ⟨i, inv.enters (.refl inv.recorded) (enters_stopped ..)⟩
    · rename_i next found
      obtain ⟨grows, enters⟩ := marking_enters distinct inv found ⟨rfl, claimed⟩
      exact ⟨i, inv.enters grows (phase ▸ enters)⟩
  | finalizing i left =>
    simp only [resume]
    split
    · exact ⟨n, inv.enters (.refl inv.recorded) (enters_stopped ..)⟩
    · rename_i next found
      exact finalizing_sound inv distinct phase found
  | stopped => exact ⟨n, inv.enters (.refl inv.recorded) (enters_stopped ..)⟩

theorem run_sound (distinct : (catalog.map Migration.version).Nodup) (processes : ι → Process)
    (events : List (Event ι)) :
    ∃ n, Sound catalog n (run (step catalog processes) initial events) := by
  apply run_preserves (step catalog processes) fun w => ∃ n, Sound catalog n w
  · rintro w event ⟨n, inv⟩
    cases event with
    | resume p meets => exact resume_sound distinct processes inv p meets
    | crash => exact ⟨n, inv.enters (.refl inv.recorded) (enters_stopped ..)⟩
  · refine ⟨0, ⟨⟨?_, ?_⟩, ⟨0, .inl rfl⟩, fun _ _ _ => rfl, fun _ => trivial, nofun⟩⟩
    · intro version checksum
      simp [initial]
    · simp

theorem Executed.ordered {executed : List Execution} (sent : Executed catalog n executed) :
    executed.Pairwise Before := by
  have whole : ∀ count, (complete catalog n ++ done n count).Pairwise Before := by
    intro count
    refine List.pairwise_append.mpr ⟨complete_ordered catalog n, done_ordered n count, ?_⟩
    intro a earlier b here
    left
    rw [(mem_done.mp here).1]
    exact mem_complete earlier
  obtain ⟨count, rfl | rfl⟩ := sent
  · exact whole count
  · refine List.pairwise_append.mpr ⟨whole count, List.pairwise_singleton _ _, ?_⟩
    intro a earlier b last
    cases List.mem_singleton.mp last
    rcases List.mem_append.mp earlier with earlier | here
    · exact .inl (mem_complete earlier)
    · obtain ⟨same, small, _⟩ := mem_done.mp here
      exact .inr ⟨same, small⟩

/-- Migrators that are started, crash and compete in any way execute every statement at most
once and in the order of the list; a receipt tells that every statement up to its
migration was executed and done, and the receipts are those of a prefix of the list, with
the checksums of its files. -/
theorem migrations_apply_in_order (catalog : List Migration)
    (distinct : (catalog.map Migration.version).Nodup) (processes : ι → Process)
    (events : List (Event ι)) :
    let store := (run (step catalog processes) initial events).store
    store.executed.Pairwise Before ∧
    (∀ k m, catalog[k]? = some m → store.tables.migrations.lookup m.version ≠ none →
      store.tables.migrations.lookup m.version = some m.checksum ∧
      ∀ i ≤ k, ∀ m', catalog[i]? = some m' → ∀ j < m'.statements.length,
        ⟨i, j, true⟩ ∈ store.executed) ∧
    ∃ n, ∀ version, store.tables.migrations.lookup version ≠ none ↔
      version ∈ (catalog.take n).map Migration.version := by
  intro store
  obtain ⟨n, inv⟩ := run_sound distinct processes events
  refine ⟨inv.executed.ordered, ?_, n, ?_⟩
  · intro k m found receipt
    obtain ⟨checksum, stored⟩ := Option.ne_none_iff_exists'.mp receipt
    have earlier := inv.recorded.before distinct found stored
    refine ⟨inv.recorded.receipt (mem_take_of_lt found earlier), ?_⟩
    intro i before m' found' j small
    have all := complete_all (Nat.lt_of_le_of_lt before earlier) found' small
    obtain ⟨count, same | same⟩ := inv.executed
    · rw [show store.executed = _ from same]
      exact List.mem_append_left _ all
    · rw [show store.executed = _ from same]
      exact List.mem_append_left _ (List.mem_append_left _ all)
  · intro version
    rw [Option.ne_none_iff_exists']
    simp only [List.mem_map]
    constructor
    · rintro ⟨checksum, stored⟩
      obtain ⟨m, member, named, _⟩ := (inv.recorded.receipts _ _).mp stored
      exact ⟨m, member, named⟩
    · rintro ⟨m, member, named⟩
      exact ⟨m.checksum, (inv.recorded.receipts _ _).mpr ⟨m, member, named, rfl⟩⟩

/- Two migrations and two processes: the first applies one migration and crashes in the
second one, which the other process then refuses to touch. -/

def sampleCatalog : List Migration :=
  [sampleMigration, ⟨ascii "002_more.sql", zeroDigest,
    [⟨ascii "SELECT 2", zeroDigest⟩, ⟨ascii "SELECT 3", zeroDigest⟩]⟩]

def sampleProcesses : Fin 2 → Process
  | 0 => ⟨ascii "run-a", 2⟩
  | 1 => ⟨ascii "run-b", 2⟩

def samplePassed : Meets := ⟨none, .committed, none⟩

def sampleEvents : List (Event (Fin 2)) :=
  List.replicate 11 (.resume 0 samplePassed) ++ [.crash 0] ++
    List.replicate 6 (.resume 1 samplePassed)

theorem sample_migrations_apply_in_order :
    let store := (run (step sampleCatalog sampleProcesses) initial sampleEvents).store
    store.executed = [⟨0, 0, true⟩, ⟨1, 0, true⟩] ∧
      (∃ n, ∀ version, store.tables.migrations.lookup version ≠ none ↔
        version ∈ (sampleCatalog.take n).map Migration.version) ∧
      store.tables.attempts.lookup (ascii "002_more.sql") =
        some ⟨zeroDigest, 2, ascii "run-a", .active, none⟩ :=
  ⟨by decide +kernel,
    (migrations_apply_in_order sampleCatalog (by decide) sampleProcesses sampleEvents).2.2,
    by decide +kernel⟩

end PaymentPlatform.Migrator
