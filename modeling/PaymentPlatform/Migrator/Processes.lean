import PaymentPlatform.Lib.Sections
import PaymentPlatform.Migrator.Claims

/-! Schema-migrator processes that run side by side on one database: run, applyMigration and
verifyDatabaseCatalog of cmd/schema-migrator, section by section. A process that is
started again after a crash is another process. -/

namespace PaymentPlatform.Migrator

open Framing Serial Retry

/-- One process: its run id, and how many of the migrations its target selects. -/
structure Process where
  runId : Bytes
  target : Nat

/-- A statement that was sent to the database, by the positions of its migration and of
itself, and whether the database answered that it is done. -/
structure Execution where
  migration : Nat
  statement : Nat
  succeeded : Bool
  deriving DecidableEq

structure Store where
  tables : Tables
  /-- In the order of sending. -/
  executed : List Execution

/-- Where a process is; the last number of a transaction's phase counts its attempts. -/
inductive Phase where
  | starting
  | readingReceipts
  | readingAttempts
  | claiming (migration : Nat) (claimed : Bool) (left : Nat)
  | beginning (migration statement left : Nat)
  | executing (migration statement : Nat)
  | completing (migration statement left : Nat)
  | marking (migration statement : Nat) (cause : Bytes) (left : Nat)
  | finalizing (migration left : Nat)
  | stopped

/-- store.NewRunner. -/
def maxAttempts : Nat := 8

def byVersion {α : Type} (table : Table Bytes α) : List (Bytes × α) :=
  table.rows.insertionSort fun a b => a.1 ≤ b.1

def receiptsMatch (selected : List Migration) (st : Tables) : Bool :=
  (byVersion st.migrations).length ≤ selected.length ∧
    (byVersion st.migrations) =
      (selected.take (byVersion st.migrations).length).map fun m => (m.version, m.checksum)

/-- Every attempt is of a selected migration, and APPLIED exactly when it has a receipt. -/
def attemptsMatch (selected : List Migration) (st : Tables) : Bool :=
  (byVersion st.attempts).all fun e =>
    e.1 ∈ selected.map Migration.version ∧
      (e.2.status = .applied ↔ (st.migrations.lookup e.1).isSome)

variable (catalog : List Migration)

def claimFrom (process : Process) (migration : Nat) : Phase :=
  if migration < min process.target catalog.length then .claiming migration false maxAttempts
  else .stopped

def applyFrom (next : Migration) (migration statement : Nat) : Phase :=
  if statement < next.statements.length then .beginning migration statement maxAttempts
  else .finalizing migration maxAttempts

def statementAt (migration statement : Nat) : Option (Migration × Statement) := do
  let next ← catalog[migration]?
  let current ← next.statements[statement]?
  return (next, current)

/-- After one attempt of a transaction: on to the next phase, once more, or an error. -/
def proceed {κ : Type} (ended : Ended κ Failure Unit) (left : Nat) (again : κ → Nat → Phase)
    (next : κ → Phase) : Phase :=
  match ended with
  | .returned captured _ => next captured
  | .aborted captured => if left ≤ 1 then .stopped else again captured (left - 1)
  | .failed _ _ => .stopped
  | .ambiguous _ => .stopped

/-- What a section meets: where the store aborts its transaction, what comes of COMMIT, and
the error that the statement of a migration raises. -/
structure Meets where
  fault : Option Nat
  commit : Commit
  error : Option Bytes

def attempted {κ : Type} (body : Body κ Tables Failure Unit) (captured : κ) (meets : Meets)
    (store : Store) : Store × Ended κ Failure Unit :=
  let made := once body captured ⟨store.tables, meets.fault, meets.commit⟩
  ({ store with tables := made.1 }, made.2)

/-- The next section of a process; a position that its migration does not have stops it. -/
def resume (process : Process) (meets : Meets) (store : Store) : Phase → Store × Phase
  | .starting =>
    -- bootstrap
    ({ store with tables := { store.tables with locked := true } }, .readingReceipts)
  | .readingReceipts =>
    (store, if receiptsMatch (catalog.take process.target) store.tables then .readingAttempts
      else .stopped)
  | .readingAttempts =>
    (store, if attemptsMatch (catalog.take process.target) store.tables then
      claimFrom catalog process 0 else .stopped)
  | .claiming migration claimed left =>
    match catalog[migration]? with
    | none => (store, .stopped)
    | some next =>
      let made := attempted (claimBody next process.runId) claimed meets store
      (made.1, proceed made.2 left (fun claimed left => .claiming migration claimed left)
        fun claimed => if claimed then applyFrom next migration 0
          else claimFrom catalog process (migration + 1))
  | .beginning migration statement left =>
    match statementAt catalog migration statement with
    | some (next, current) =>
      let made := attempted (startBody next (statement + 1) current process.runId) () meets store
      (made.1, proceed made.2 left (fun _ left => .beginning migration statement left)
        fun _ => .executing migration statement)
    | none => (store, .stopped)
  | .executing migration statement =>
    match meets.error with
    | none =>
      ({ store with executed := store.executed ++ [⟨migration, statement, true⟩] },
        .completing migration statement maxAttempts)
    | some cause =>
      ({ store with executed := store.executed ++ [⟨migration, statement, false⟩] },
        .marking migration statement cause maxAttempts)
  | .completing migration statement left =>
    match statementAt catalog migration statement with
    | some (next, current) =>
      let made := attempted (completeBody next (statement + 1) current process.runId) () meets store
      (made.1, proceed made.2 left (fun _ left => .completing migration statement left)
        fun _ => applyFrom next migration (statement + 1))
    | none => (store, .stopped)
  | .marking migration statement cause left =>
    match catalog[migration]? with
    | none => (store, .stopped)
    | some next =>
      let made := attempted (markBody next.version (statement + 1) process.runId cause) () meets
        store
      (made.1, proceed made.2 left (fun _ left => .marking migration statement cause left)
        fun _ => .stopped)
  | .finalizing migration left =>
    match catalog[migration]? with
    | none => (store, .stopped)
    | some next =>
      let made := attempted (finalizeBody next process.runId) () meets store
      (made.1, proceed made.2 left (fun _ left => .finalizing migration left)
        fun _ => claimFrom catalog process (migration + 1))
  | .stopped => (store, .stopped)

inductive Event (ι : Type) where
  | resume (process : ι) (meets : Meets)
  | crash (process : ι)

variable {ι : Type} [DecidableEq ι] (processes : ι → Process)

abbrev World (ι : Type) := Calls Store Phase ι

def step (w : World ι) : Event ι → World ι
  | .resume p meets =>
    let made := resume catalog (processes p) meets w.store (w.phase p)
    w.next p made.1 made.2
  | .crash p => w.next p w.store .stopped

def initial : World ι := ⟨⟨⟨false, ∅, ∅, ∅⟩, []⟩, fun _ => .starting⟩

end PaymentPlatform.Migrator
