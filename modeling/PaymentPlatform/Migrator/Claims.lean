import PaymentPlatform.Ledger.Types
import PaymentPlatform.Lib.Retry

/-! cmd/schema-migrator: the tables that bootstrap creates and the transactions over
them, each a callback of store.RunSerializable. Times are left out: nothing reads
them. -/

namespace PaymentPlatform.Migrator

open Framing Serial Retry

variable {runId : Bytes} {ordinal : Nat} {u : Unit}

inductive Status where
  | active
  | failed
  | applied
  deriving DecidableEq, Repr

structure AttemptRow where
  checksum : Digest
  statementCount : Nat
  ownerId : Bytes
  status : Status
  error : Option Bytes
  deriving DecidableEq

structure StepRow where
  checksum : Digest
  status : Status
  error : Option Bytes
  deriving DecidableEq

structure Tables where
  /-- The row of schema_migration_lock is there. -/
  locked : Bool
  /-- schema_migrations: the checksum by version. -/
  migrations : Table Bytes Digest
  attempts : Table Bytes AttemptRow
  /-- By version and ordinal. -/
  steps : Table (Bytes × Nat) StepRow

variable {c c' : Conn Unit Tables}

structure Statement where
  contents : Bytes
  checksum : Digest
  deriving DecidableEq

/-- A migration file with its statements, which are numbered from one. -/
structure Migration where
  version : Bytes
  checksum : Digest
  statements : List Statement
  deriving DecidableEq

inductive Failure where
  | noLock
  | checksumChanged (version : Bytes) (stored current : Digest)
  | inFlightChecksum (version : Bytes) (stored current : Digest)
  | unresolvedAttempt (version : Bytes) (status : Status) (owner : Bytes)
  | noRows
  | fenced (version owner : Bytes) (status : Status)
  | statementChanged (version : Bytes) (ordinal : Nat)
  | unresolvedStatement (version : Bytes) (ordinal : Nat) (status : Status)
  | stepReceipt
  | missingReceipts (version : Bytes) (applied count : Nat)
  | attemptReceipt
  | violates (constraint : Ledger.Constraint)
  deriving DecidableEq

def verifyChecksum (next : Migration) (stored : Digest) : Except Failure Unit :=
  require (stored = next.checksum) (.checksumChanged next.version stored next.checksum)

def refuseAttempt (next : Migration) (row : AttemptRow) : Except Failure Unit :=
  if row.checksum ≠ next.checksum then
    .error (.inFlightChecksum next.version row.checksum next.checksum)
  else .error (.unresolvedAttempt next.version row.status row.ownerId)

def claimedRow (next : Migration) (runId : Bytes) : AttemptRow :=
  ⟨next.checksum, next.statements.length, runId, .active, none⟩

def insertAttempt (next : Migration) (runId : Bytes) (st : Tables) :
    Except Failure (Tables × Unit) := do
  require (0 < next.statements.length) (.violates .check)
  require (st.attempts.lookup next.version = none) (.violates .primaryKey)
  return ({ st with attempts := st.attempts.insert next.version (claimedRow next runId) }, ())

/-- The callback of claimMigration; it captures the flag claimed. -/
def claimBody (next : Migration) (runId : Bytes) : Body Bool Tables Failure Unit := do
  query fun st => require (st.locked = true) .noLock
  let stored ← query fun st => .ok (st.migrations.lookup next.version)
  match stored with
  | some checksum => check (verifyChecksum next checksum)
  | none =>
    let attempt ← query fun st => .ok (st.attempts.lookup next.version)
    match attempt with
    | some row => check (refuseAttempt next row)
    | none =>
      statement (insertAttempt next runId)
      assign fun _ => true

def claimMigration (maxAttempts : Nat) (next : Migration) (runId : Bytes)
    (attempts : List (Attempt Tables)) : Bool × Reply Tables Failure Unit :=
  runSerializable (claimBody next runId) maxAttempts false attempts

/-- lockOwnedAttempt. -/
def ownedAttempt (next : Migration) (runId : Bytes) (st : Tables) : Except Failure AttemptRow := do
  let row ← expect (st.attempts.lookup next.version) .noRows
  require (row.checksum = next.checksum ∧ row.ownerId = runId ∧ row.status = .active)
    (.fenced next.version row.ownerId row.status)
  return row

/-- A statement that was started before is never started again. -/
def refuseStep (next : Migration) (ordinal : Nat) (current : Statement) (row : StepRow) :
    Except Failure Unit :=
  if row.checksum ≠ current.checksum then .error (.statementChanged next.version ordinal)
  else .error (.unresolvedStatement next.version ordinal row.status)

def insertStep (next : Migration) (ordinal : Nat) (current : Statement) (st : Tables) :
    Except Failure (Tables × Unit) := do
  require (0 < ordinal) (.violates .check)
  require (st.steps.lookup (next.version, ordinal) = none) (.violates .primaryKey)
  return ({ st with
    steps := st.steps.insert (next.version, ordinal) ⟨current.checksum, .active, none⟩ }, ())

def startBody (next : Migration) (ordinal : Nat) (current : Statement) (runId : Bytes) :
    Body Unit Tables Failure Unit := do
  let _ ← query (ownedAttempt next runId)
  let stored ← query fun st => .ok (st.steps.lookup (next.version, ordinal))
  match stored with
  | some row => check (refuseStep next ordinal current row)
  | none => statement (insertStep next ordinal current)

def applyStep (next : Migration) (ordinal : Nat) (current : Statement) (st : Tables) :
    Except Failure (Tables × Unit) := do
  let row ← expect (st.steps.lookup (next.version, ordinal)) .stepReceipt
  require (row.checksum = current.checksum ∧ row.status = .active) .stepReceipt
  return ({ st with
    steps := st.steps.insert (next.version, ordinal) ⟨row.checksum, .applied, none⟩ }, ())

def completeBody (next : Migration) (ordinal : Nat) (current : Statement) (runId : Bytes) :
    Body Unit Tables Failure Unit := do
  let _ ← query (ownedAttempt next runId)
  statement (applyStep next ordinal current)

def appliedSteps (version : Bytes) (st : Tables) : Nat :=
  st.steps.rows.countP fun e => e.1.1 = version && e.2.status = .applied

def insertReceipt (next : Migration) (st : Tables) : Except Failure (Tables × Unit) := do
  require (st.migrations.lookup next.version = none) (.violates .primaryKey)
  return ({ st with migrations := st.migrations.insert next.version next.checksum }, ())

def applyAttempt (next : Migration) (runId : Bytes) (st : Tables) :
    Except Failure (Tables × Unit) := do
  let row ← expect (st.attempts.lookup next.version) .attemptReceipt
  require (row.ownerId = runId ∧ row.status = .active) .attemptReceipt
  return ({ st with attempts :=
    st.attempts.insert next.version { row with status := .applied, error := none } }, ())

def finalizeBody (next : Migration) (runId : Bytes) : Body Unit Tables Failure Unit := do
  let _ ← query (ownedAttempt next runId)
  let applied ← query fun st => .ok (appliedSteps next.version st)
  check (require (applied = next.statements.length)
    (.missingReceipts next.version applied next.statements.length))
  statement (insertReceipt next)
  statement (applyAttempt next runId)

/-- UPDATE ... SET status='FAILED' WHERE status='ACTIVE': no row is no error. -/
def failStep (version : Bytes) (ordinal : Nat) (message : Bytes) (st : Tables) : Tables :=
  match st.steps.lookup (version, ordinal) with
  | some row =>
    if row.status = .active then
      { st with steps :=
          st.steps.insert (version, ordinal) { row with status := .failed, error := some message } }
    else st
  | none => st

def failAttempt (version runId message : Bytes) (st : Tables) : Tables :=
  match st.attempts.lookup version with
  | some row =>
    if row.ownerId = runId ∧ row.status = .active then
      { st with attempts :=
          st.attempts.insert version { row with status := .failed, error := some message } }
    else st
  | none => st

def markBody (version : Bytes) (ordinal : Nat) (runId cause : Bytes) :
    Body Unit Tables Failure Unit := do
  statement fun st => .ok (failStep version ordinal (cause.take 4096) st, ())
  statement fun st => .ok (failAttempt version runId (cause.take 4096) st, ())

/-- A claim found a receipt and left everything as it was, the flag included, or it
inserted the attempt and set the flag. -/
theorem claimBody_finished {next : Migration} {c c' : Conn Bool Tables}
    (done : claimBody next runId c = (c', .ok u)) :
    (c.database.migrations.lookup next.version = some next.checksum ∧
      c'.database = c.database ∧ c'.captured = c.captured) ∨
    (c.database.migrations.lookup next.version = none ∧
      c.database.attempts.lookup next.version = none ∧ c'.database = { c.database with
        attempts := c.database.attempts.insert next.version (claimedRow next runId) } ∧
      c'.captured = true) := by
  simp only [claimBody, bind_finished, query_finished, Except.ok.injEq] at done
  obtain ⟨_, _, ⟨_, _, rfl⟩, _, stored, ⟨_, receipt, rfl⟩, done⟩ := done
  cases stored with
  | some =>
    simp only [check_finished, verifyChecksum, require_ok] at done
    obtain ⟨rfl, rfl⟩ := done
    exact .inl ⟨receipt, rfl, rfl⟩
  | none =>
    simp only [bind_finished, query_finished, Except.ok.injEq] at done
    obtain ⟨_, attempt, ⟨_, unclaimed, rfl⟩, done⟩ := done
    cases attempt with
    | some =>
      simp only [check_finished, refuseAttempt] at done
      split at done <;> cases done.1
    | none =>
      simp only [bind_finished, statement_finished, insertAttempt, steps_ok,
        assign_finished] at done
      obtain ⟨_, _, ⟨_, _, ⟨_, _, _, _, rfl, _⟩, rfl⟩, rfl⟩ := done
      exact .inr ⟨receipt, unclaimed, rfl, rfl⟩

theorem ownedAttempt_ok {next : Migration} {st : Tables} {row : AttemptRow}
    (done : ownedAttempt next runId st = .ok row) :
    st.attempts.lookup next.version = some row ∧ row.status = .active := by
  simp only [ownedAttempt, steps_ok] at done
  obtain ⟨row, found, _, ⟨_, _, active⟩, rfl⟩ := done
  exact ⟨found, active⟩

theorem startBody_finished {next : Migration} {current : Statement}
    (done : startBody next ordinal current runId c = (c', .ok u)) :
    (∃ row, c.database.attempts.lookup next.version = some row ∧ row.status = .active) ∧
      c'.database.migrations = c.database.migrations ∧
      c'.database.attempts = c.database.attempts := by
  simp only [startBody, bind_finished, query_finished] at done
  obtain ⟨_, row, ⟨_, owned, rfl⟩, _, stored, ⟨_, _, rfl⟩, done⟩ := done
  refine ⟨⟨row, ownedAttempt_ok owned⟩, ?_⟩
  cases stored with
  | some =>
    simp only [check_finished, refuseStep] at done
    split at done <;> cases done.1
  | none =>
    simp only [statement_finished, insertStep, steps_ok] at done
    obtain ⟨_, _, ⟨_, _, _, _, rfl, _⟩, rfl⟩ := done
    exact ⟨rfl, rfl⟩

theorem completeBody_finished {next : Migration} {current : Statement}
    (done : completeBody next ordinal current runId c = (c', .ok u)) :
    c'.database.migrations = c.database.migrations ∧
      c'.database.attempts = c.database.attempts := by
  simp only [completeBody, applyStep, bind_finished, query_finished, statement_finished,
    steps_ok] at done
  obtain ⟨_, _, ⟨_, _, rfl⟩, _, _, ⟨_, _, _, _, rfl, _⟩, rfl⟩ := done
  exact ⟨rfl, rfl⟩

theorem finalizeBody_finished {next : Migration} (done : finalizeBody next runId c = (c', .ok u)) :
    (∃ row, c.database.attempts.lookup next.version = some row ∧ row.status = .active) ∧
      c.database.migrations.lookup next.version = none ∧
      c'.database.migrations = c.database.migrations.insert next.version next.checksum ∧
      ∃ row : AttemptRow, row.status = .applied ∧
        c'.database.attempts = c.database.attempts.insert next.version row := by
  simp only [finalizeBody, insertReceipt, applyAttempt, bind_finished, query_finished,
    check_finished, statement_finished, steps_ok] at done
  obtain ⟨_, owned, ⟨_, locked, rfl⟩, _, _, ⟨_, _, rfl⟩, _, _, ⟨_, rfl⟩, _, _,
    ⟨_, _, ⟨_, absent, rfl, _⟩, rfl⟩, _, _, ⟨row, _, _, _, rfl, _⟩, rfl⟩ := done
  exact ⟨⟨owned, ownedAttempt_ok locked⟩, absent, rfl, { row with status := .applied, error := none }, rfl, rfl⟩

theorem markBody_finished {version : Bytes} {cause : Bytes}
    (done : markBody version ordinal runId cause c = (c', .ok u)) :
    c'.database.migrations = c.database.migrations ∧ (∀ other, other ≠ version →
        c'.database.attempts.lookup other = c.database.attempts.lookup other) ∧
      (c.database.attempts.lookup version ≠ none → c'.database.attempts.lookup version ≠ none) := by
  simp only [markBody, bind_finished, statement_finished, Except.ok.injEq, Prod.mk.injEq] at done
  obtain ⟨_, _, ⟨_, _, ⟨rfl, _⟩, rfl⟩, _, _, ⟨rfl, _⟩, rfl⟩ := done
  have steps : ∀ st : Tables,
      (failStep version ordinal (cause.take 4096) st).migrations = st.migrations ∧
        (failStep version ordinal (cause.take 4096) st).attempts = st.attempts := by
    intro st
    unfold failStep
    split
    · split <;> exact ⟨rfl, rfl⟩
    · exact ⟨rfl, rfl⟩
  obtain ⟨migrations, attempts⟩ := steps c.database
  generalize failStep version ordinal (cause.take 4096) c.database = st at migrations attempts
  rw [← migrations, ← attempts]
  unfold failAttempt
  split
  · rename_i row found
    split
    · refine ⟨rfl, ?_, ?_⟩
      · intro other different
        exact AList.lookup_insert_ne different
      · intro _ absent
        rw [AList.lookup_insert] at absent
        cases absent
    · exact ⟨rfl, fun _ _ => rfl, id⟩
  · exact ⟨rfl, fun _ _ => rfl, id⟩

theorem claimBody_leaves (next : Migration) (runId : Bytes) (c : Conn Bool Tables) :
    Leaves (· = false) 4 (c.database.migrations.lookup next.version ≠ none)
      (claimBody next runId) c := by
  refine leaves_query fun _ _ => leaves_query fun stored receipt => ?_
  rw [Except.ok.inj receipt]
  cases stored with
  | some => exact leaves_kept nofun rfl
  | none =>
    refine leaves_query fun attempt _ => ?_
    cases attempt with
    | some row =>
      by_cases same : row.checksum = next.checksum <;>
        exact .inl (by simp [check, refuseAttempt, same])
    | none => exact leaves_statement fun _ _ _ => leaves_assigned (by simp)

/-- The flag is unset as long as every aborted attempt was aborted at one of its four
statements or found a receipt. -/
theorem claimed_carried_iff {next : Migration} {aborted : List (Attempt Tables)}
    (aborts : AllAborted (claimBody next runId) false aborted) :
    carried (claimBody next runId) false aborted = false ↔
      ∀ a ∈ aborted, Before a.fault 4 ∨ a.database.migrations.lookup next.version ≠ none :=
  carried_iff (P := (· = false)) (fun _ _ => claimBody_leaves next runId _) aborts rfl

/-- The call committed the attempt row that its caller takes for granted. -/
def ClaimedHere (next : Migration) (runId : Bytes) (before after : Tables) : Prop :=
  before.attempts.lookup next.version = none ∧
    after.attempts.lookup next.version = some (claimedRow next runId)

/-- Whatever attempts were aborted first, the flag that a successful call returns tells of a
row that this call committed, except when an aborted attempt had set it and the committed
one finds the receipt of another process. -/
theorem claims_are_committed_iff (maxAttempts : Nat) (next : Migration) (runId : Bytes)
    (aborted : List (Attempt Tables)) (last : Attempt Tables) (claimed : Bool) (st : Tables)
    (aborts : AllAborted (claimBody next runId) false aborted)
    (returned : claimMigration maxAttempts next runId (aborted ++ [last]) =
      (claimed, .committed st ())) :
    (claimed = true → ClaimedHere next runId last.database st) ↔
      ¬ (carried (claimBody next runId) false aborted = true ∧
        last.database.migrations.lookup next.version ≠ none) := by
  obtain ⟨_, finished⟩ := last_finished aborts returned
  rcases claimBody_finished finished with ⟨receipt, same, flag⟩ | ⟨absent, free, made, flag⟩
  · simp only [Attempt.begin] at receipt same flag
    rw [receipt, ← flag]
    cases claimed with
    | false => simp
    | true =>
      -- the attempt table is unchanged, so no row was added
      simp only [forall_const, ne_eq, reduceCtorEq, not_false_eq_true, and_self, not_true_eq_false,
        iff_false, ClaimedHere, same]
      rintro ⟨none, some⟩
      rw [none] at some
      cases some
  · simp only [Attempt.begin] at absent free made
    rw [absent]
    simp only [ne_eq, not_true_eq_false, and_false, not_false_eq_true, iff_true]
    intro _
    refine ⟨free, ?_⟩
    rw [made]
    exact AList.lookup_insert _

/- One migration of one statement, and the database before and after another process
applied it. -/

def sampleMigration : Migration := ⟨ascii "001_init.sql", zeroDigest, [⟨ascii "SELECT 1", zeroDigest⟩]⟩

def sampleBefore : Tables := ⟨true, ∅, ∅, ∅⟩

def committed {κ : Type} (body : Body κ Tables Failure Unit) (captured : κ) (st : Tables) : Tables :=
  (once body captured ⟨st, none, .committed⟩).1

def sampleAfter : Tables :=
  committed (finalizeBody sampleMigration (ascii "run-b")) () <|
    committed (completeBody sampleMigration 1 ⟨ascii "SELECT 1", zeroDigest⟩ (ascii "run-b")) () <|
      committed (startBody sampleMigration 1 ⟨ascii "SELECT 1", zeroDigest⟩ (ascii "run-b")) () <|
        committed (claimBody sampleMigration (ascii "run-b")) false sampleBefore

theorem sample_claim_is_committed :
    ∃ st, claimMigration 8 sampleMigration (ascii "run-a")
        ([⟨sampleBefore, none, .serialization⟩] ++ [⟨sampleBefore, none, .committed⟩]) =
      (true, .committed st ()) ∧ ClaimedHere sampleMigration (ascii "run-a") sampleBefore st := by
  have stored : (claimMigration 8 sampleMigration (ascii "run-a")
      ([⟨sampleBefore, none, .serialization⟩] ++
        [⟨sampleBefore, none, .committed⟩])).2.stored.isSome := by decide +kernel
  have flag : (claimMigration 8 sampleMigration (ascii "run-a")
      ([⟨sampleBefore, none, .serialization⟩] ++
        [⟨sampleBefore, none, .committed⟩])).1 = true := by decide +kernel
  obtain ⟨st, _, returned⟩ := returned_of_stored stored
  rw [flag] at returned
  exact ⟨st, returned, (claims_are_committed_iff 8 sampleMigration (ascii "run-a")
    [⟨sampleBefore, none, .serialization⟩] ⟨sampleBefore, none, .committed⟩ true st
    (by decide +kernel) returned).mpr (by decide +kernel) rfl⟩

/-- An attempt sets the flag and is aborted, another process applies the migration, and the
next attempt finds its receipt: the flag is returned and the row belongs to the other. -/
theorem stale_flag_claims_applied_migration :
    let call := claimMigration 8 sampleMigration (ascii "run-a")
      [⟨sampleBefore, none, .serialization⟩, ⟨sampleAfter, none, .committed⟩]
    call.1 = true ∧ call.2.stored.map (fun st => st.attempts.lookup (ascii "001_init.sql")) =
      some (some ⟨zeroDigest, 1, ascii "run-b", .applied, none⟩) := by
  decide +kernel

end PaymentPlatform.Migrator
