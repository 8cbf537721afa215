import PaymentPlatform.Lib.Retry
import PaymentPlatform.Repair.Runs

/-! Callbacks of store.RunSerializable that append to a variable of their caller:
LoadTransaction of internal/ledger, GetDetailsForScope of internal/payment and Plan of
internal/repair. An aborted attempt is rolled back in the database only. -/

namespace PaymentPlatform.Reads

open Framing Serial Ledger Retry

variable {E : Engine}
variable {paymentId transactionId : Bytes} {createdAt : Bytes → Int} {incident : CashbackIncident}
variable {u : Unit}

structure Transaction where
  request : PostRequest
  sequenceNo : Int
  prevHash : Digest
  entryHash : Digest
  status : Bytes
  deriving DecidableEq

variable {c c' : Conn Transaction (Tables E)}

def Transaction.zero : Transaction :=
  ⟨⟨[], [], [], [], [], none, [], 0, zeroDigest, [], []⟩, 0, zeroDigest, zeroDigest, []⟩

def statusText : Status → Bytes
  | .draft => ascii "DRAFT"
  | .posted => ascii "POSTED"

/-- The header as it is scanned; a NULL reference assigns nothing, and the lines are not
assigned at all. -/
def Transaction.scan (transactionId : Bytes) (row : TransactionRow E) (result : Transaction) :
    Transaction :=
  { request :=
      { transactionId := transactionId
        bookId := row.bookId
        operationId := row.operationId
        effectId := row.effectId
        kind := row.transactionKind
        referenceTransactionId := row.referenceTransactionId.or result.request.referenceTransactionId
        postingRuleVersion := row.postingRuleVersion
        schemaVersion := Int64.ofInt row.schemaVersion
        requestHash := row.requestHash
        metadata := E.jsonbText row.metadata
        lines := result.request.lines }
    sequenceNo := row.sequenceNo
    prevHash := row.prevHash
    entryHash := row.entryHash
    status := statusText row.status }

def Transaction.append (result : Transaction) (lines : List Line) : Transaction :=
  { result with request := { result.request with lines := result.request.lines ++ lines } }

def scannedLine (line : LineRow) : Line :=
  ⟨line.accountId, line.assetId, line.side.text, line.amountAtoms, line.memo⟩

def selectHeader (transactionId : Bytes) (st : Tables E) : Except Failure (TransactionRow E) := do
  (acceptsAll E [transactionId]).mapError Failure.database
  expect (st.transactions.lookup transactionId) .noRows

def storedLines (transactionId : Bytes) (st : Tables E) : List LineRow :=
  (orderByLineNo (linesOf st transactionId)).map Prod.snd

def appendLine (line : LineRow) : Body Transaction (Tables E) Failure Unit := do
  check (require (fitsDecimal38 line.amountAtoms) (.amountOverflow line.assetId))
  assign fun result => result.append [scannedLine line]

def loadTransactionBody (transactionId : Bytes) : Body Transaction (Tables E) Failure Unit := do
  let row ← query (selectHeader transactionId)
  assign (Transaction.scan transactionId row)
  let lines ← query fun st => .ok (storedLines transactionId st)
  forEach lines appendLine

def loadTransaction (maxAttempts : Nat) (transactionId : Bytes)
    (attempts : List (Attempt (Tables E))) : Transaction × Reply (Tables E) Failure Unit :=
  runSerializable (loadTransactionBody transactionId) maxAttempts .zero attempts

def storedTransaction (transactionId : Bytes) (st : Tables E) : Option Transaction :=
  (st.transactions.lookup transactionId).map fun row =>
    (Transaction.scan transactionId row .zero).append
      ((storedLines transactionId st).map scannedLine)

theorem appendLine_finished {line : LineRow} (done : appendLine line c = (c', .ok u)) :
    c'.captured = c.captured.append [scannedLine line] ∧ c'.database = c.database := by
  simp only [appendLine, bind_finished, check_finished, assign_finished] at done
  obtain ⟨_, _, ⟨_, rfl⟩, rfl⟩ := done
  exact ⟨rfl, rfl⟩

theorem append_all (rows : List LineRow) (result : Transaction) :
    rows.foldl (fun result row => result.append [scannedLine row]) result =
      result.append (rows.map scannedLine) := by
  induction rows generalizing result with
  | nil => simp [Transaction.append]
  | cons row rest ih =>
    rw [List.foldl_cons, ih]
    simp [Transaction.append]

theorem loadTransactionBody_finished (done : loadTransactionBody transactionId c = (c', .ok u)) :
    ∃ row, c.database.transactions.lookup transactionId = some row ∧
      c'.captured = (Transaction.scan transactionId row c.captured).append
        ((storedLines transactionId c.database).map scannedLine) := by
  simp only [loadTransactionBody, selectHeader, bind_finished, query_finished, assign_finished,
    steps_ok] at done
  obtain ⟨_, row, ⟨_, ⟨_, _, found⟩, rfl⟩, _, _, rfl, _, lines, ⟨_, read, rfl⟩, done⟩ := done
  cases read
  refine ⟨row, found, ?_⟩
  have folded := (forEach_finished (fun line result => result.append [scannedLine line])
    (fun _ _ _ _ => appendLine_finished) done).1
  rw [folded, append_all]

/-- payment.Details; the ledger receipt and the duplicate flag in it are never assigned. -/
structure Details where
  paymentId : Bytes
  state : Bytes
  amount : Int
  version : Int
  captureTransactionIds : List Bytes
  captured : Int
  refunded : Int
  chargedBack : Int
  deriving DecidableEq

def Details.zero : Details := ⟨[], [], 0, 0, [], 0, 0, 0⟩

def Details.scan (paymentId : Bytes) (row : Payment.PaymentRow) (result : Details) : Details :=
  { paymentId := paymentId
    state := row.state.text
    amount := row.authorizedAtoms
    version := row.version
    captureTransactionIds := result.captureTransactionIds
    captured := row.capturedAtoms
    refunded := row.refundedAtoms
    chargedBack := row.chargedBackAtoms }

def Details.append (result : Details) (ids : List Bytes) : Details :=
  { result with captureTransactionIds := result.captureTransactionIds ++ ids }

def selectPayment (scope paymentId : Bytes) (db : Database E) :
    Except Payment.Failure Payment.PaymentRow := do
  (acceptsAll E [paymentId, scope ++ ascii "/hold"]).mapError fun error =>
    .database (.ledger error)
  let row ← expect (db.payment.paymentOperations.lookup paymentId) .paymentNotFound
  require (row.idempotencyScope = scope ++ ascii "/hold") .paymentNotFound
  return row

/-- ORDER BY created_at, payment_effect_id; the column created_at is given apart. -/
def createdBefore (createdAt : Bytes → Int) (a b : Bytes × Payment.EffectRow) : Prop :=
  createdAt a.1 < createdAt b.1 ∨ (createdAt a.1 = createdAt b.1 ∧ a.1 ≤ b.1)

instance (createdAt : Bytes → Int) : DecidableRel (createdBefore createdAt) :=
  fun _ _ => inferInstanceAs (Decidable (_ ∨ _))

def storedCaptures (createdAt : Bytes → Int) (paymentId : Bytes) (db : Database E) : List Bytes :=
  ((db.payment.effects.rows.filter fun e =>
    e.2.paymentId = paymentId && e.2.effectKind = .capture).insertionSort
      (createdBefore createdAt)).map fun e => e.2.ledgerTransactionId

def parseAmounts (row : Payment.PaymentRow) : Except Payment.Failure Unit :=
  require (∀ amount ∈ [row.authorizedAtoms, row.capturedAtoms, row.refundedAtoms,
    row.chargedBackAtoms], fitsDecimal38 amount) .amountOverflow

def getDetailsBody (createdAt : Bytes → Int) (scope paymentId : Bytes) :
    Body Details (Database E) Payment.Failure Unit := do
  let row ← query (selectPayment scope paymentId)
  check (parseAmounts row)
  assign (Details.scan paymentId row)
  let ids ← query fun db => .ok (storedCaptures createdAt paymentId db)
  forEach ids fun id => assign fun result => result.append [id]

def getDetailsForScope (createdAt : Bytes → Int) (maxAttempts : Nat) (scope paymentId : Bytes)
    (attempts : List (Attempt (Database E))) :
    Details × Reply (Database E) Payment.Failure Unit :=
  if scope = [] ∨ paymentId = [] then (.zero, .failed .invalidRequest)
  else runSerializable (getDetailsBody createdAt scope paymentId) maxAttempts .zero attempts

def storedDetails (createdAt : Bytes → Int) (paymentId : Bytes) (db : Database E) :
    Option Details :=
  (db.payment.paymentOperations.lookup paymentId).map fun row =>
    (Details.scan paymentId row .zero).append (storedCaptures createdAt paymentId db)

theorem append_each (ids : List Bytes) (result : Details) :
    ids.foldl (fun result id => result.append [id]) result = result.append ids := by
  induction ids generalizing result with
  | nil => simp [Details.append]
  | cons id rest ih =>
    rw [List.foldl_cons, ih]
    simp [Details.append]

theorem getDetailsBody_finished {scope : Bytes} {c c' : Conn Details (Database E)}
    (done : getDetailsBody createdAt scope paymentId c = (c', .ok u)) :
    ∃ row, c.database.payment.paymentOperations.lookup paymentId = some row ∧
      c'.captured = (Details.scan paymentId row c.captured).append
        (storedCaptures createdAt paymentId c.database) := by
  simp only [getDetailsBody, selectPayment, bind_finished, query_finished, assign_finished,
    check_finished, steps_ok] at done
  obtain ⟨_, row, ⟨_, ⟨_, _, row', found, _, _, rfl⟩, rfl⟩, _, _, ⟨_, rfl⟩, _, _, rfl, _, ids,
    ⟨_, read, rfl⟩, done⟩ := done
  cases read
  refine ⟨row', found, ?_⟩
  have folded := (forEach_finished (fun id result => result.append [id])
    (fun _ _ _ _ acted => by rw [assign_finished.mp acted]; exact ⟨rfl, rfl⟩) done).1
  rw [folded, append_each]

open Repair in
/-- The loop over the candidates. planCapture touches no captured variable, so an abort at
any of its statements is an abort of the whole. -/
def planEach (incident : CashbackIncident) :
    List (Bytes × Bytes) → Body (List (Bytes × CashbackManifest)) (Store E) Repair.Failure Unit
  | [] => pure ()
  | (paymentId, captureId) :: rest => do
    let planned ← statement (planCapture incident paymentId captureId)
    assign fun manifests => manifests ++ planned.toList
    planEach incident rest

open Repair in
def selectCandidates (incident : CashbackIncident) (st : Store E) :
    Except Repair.Failure (List (Bytes × Bytes)) := do
  (acceptsAll E [incident.bookId, incident.buggyRuleVersion]).mapError fun error =>
    .database (.ledger error)
  return candidates incident st.db

open Repair in
def planBody (incident : CashbackIncident) :
    Body (List (Bytes × CashbackManifest)) (Store E) Repair.Failure Unit := do
  let found ← query (selectCandidates incident)
  forEach found fun _ => pure ()
  planEach incident found

open Repair in
def planRepairs (maxAttempts : Nat) (incident : CashbackIncident)
    (attempts : List (Attempt (Store E))) :
    List (Bytes × CashbackManifest) × Reply (Store E) Repair.Failure Unit :=
  if incident.Valid then runSerializable (planBody incident) maxAttempts [] attempts
  else ([], .failed .invalidIncident)

open Repair in
theorem planEach_finished {found : List (Bytes × Bytes)}
    {c c' : Conn (List (Bytes × CashbackManifest)) (Store E)}
    (done : planEach incident found c = (c', .ok u)) :
    ∃ planned, planCaptures incident found c.database = .ok (c'.database, planned) ∧
      c'.captured = c.captured ++ planned := by
  induction found generalizing c with
  | nil =>
    obtain ⟨rfl, _⟩ := pure_finished.mp done
    exact ⟨[], rfl, (List.append_nil _).symm⟩
  | cons candidate rest ih =>
    obtain ⟨paymentId, captureId⟩ := candidate
    simp only [planEach, bind_finished, statement_finished, assign_finished] at done
    obtain ⟨_, planned, ⟨_, st, made, rfl⟩, _, _, rfl, done⟩ := done
    obtain ⟨others, later, captured⟩ := ih done
    refine ⟨planned.toList ++ others, ?_, ?_⟩
    · simp only [planCaptures, bind_ok, pure_ok, Prod.exists]
      exact ⟨st, planned, made, c'.database, others, later, rfl⟩
    · rw [captured, List.append_assoc]

open Repair in
/-- An attempt of Plan that comes to its end planned what the model of one attempt
plans, behind what the variable held before. -/
theorem planBody_finished (valid : incident.Valid)
    {c c' : Conn (List (Bytes × CashbackManifest)) (Store E)}
    (done : planBody incident c = (c', .ok u)) :
    ∃ planned, plan incident c.database = .ok (c'.database, planned) ∧
      c'.captured = c.captured ++ planned := by
  simp only [planBody, selectCandidates, bind_finished, query_finished, steps_ok] at done
  obtain ⟨_, found, ⟨_, ⟨_, accepted, rfl⟩, rfl⟩, mid, _, scanned, done⟩ := done
  obtain ⟨captured, database⟩ := forEach_finished (fun _ manifests => manifests)
    (fun _ _ _ _ acted => by rw [(pure_finished.mp acted).1]; exact ⟨rfl, rfl⟩) scanned
  obtain ⟨planned, made, result⟩ := planEach_finished done
  rw [database] at made
  refine ⟨planned, ?_, ?_⟩
  · simp only [plan, steps_ok]
    exact ⟨(), valid, (), accepted, made⟩
  · rw [result, captured]
    simp

theorem scan_append_eq {row : TransactionRow E} {left : Transaction} {lines : List Line} :
    (Transaction.scan transactionId row .zero).append lines =
        (Transaction.scan transactionId row left).append lines ↔ left.request.lines = [] ∧
        (left.request.referenceTransactionId = none ∨ row.referenceTransactionId ≠ none) := by
  have reference : row.referenceTransactionId.or none =
      row.referenceTransactionId.or left.request.referenceTransactionId ↔
      left.request.referenceTransactionId = none ∨ row.referenceTransactionId ≠ none := by
    cases row.referenceTransactionId <;> simp [eq_comm]
  have appended : ([] : List Line) ++ lines = left.request.lines ++ lines ↔
      left.request.lines = [] := by
    rw [List.append_left_inj, eq_comm]
  simp only [Transaction.append, Transaction.scan, Transaction.zero, Transaction.mk.injEq,
    PostRequest.mk.injEq, true_and, and_true, reference, appended, and_comm]

theorem details_append_eq {row : Payment.PaymentRow} {left : Details} {ids : List Bytes} :
    (Details.scan paymentId row .zero).append ids = (Details.scan paymentId row left).append ids ↔
      left.captureTransactionIds = [] := by
  have appended : ([] : List Bytes) ++ ids = left.captureTransactionIds ++ ids ↔
      left.captureTransactionIds = [] := by
    rw [List.append_left_inj, eq_comm]
  simp only [Details.append, Details.scan, Details.zero, Details.mk.injEq, true_and, and_true,
    appended]

/- What aborted attempts leave, by their databases and by the statement each was aborted at. -/

theorem appendLine_acts (line : LineRow) (c : Conn Transaction (Tables E)) :
    (∃ c' e, appendLine line c = (c', .error (.failed e))) ∨ appendLine line c =
        ({ c with captured := c.captured.append [scannedLine line] }, .ok ()) := by
  unfold appendLine require
  split
  · exact .inr rfl
  · exact .inl ⟨c, _, rfl⟩

theorem loadTransactionBody_lines (transactionId : Bytes) (c : Conn Transaction (Tables E)) :
    Leaves (·.request.lines = []) 3 (storedLines transactionId c.database = [])
      (loadTransactionBody transactionId) c := by
  refine leaves_query fun row _ => leaves_assign Iff.rfl (leaves_query fun lines read => ?_)
  cases read
  refine leaves_forEach False (by simp) fun line c => (appendLine_acts line c).imp id ?_
  exact fun same => ⟨_, same, by simp [Transaction.append]⟩

theorem loadTransactionBody_reference (transactionId : Bytes) (c : Conn Transaction (Tables E)) :
    Leaves (·.request.referenceTransactionId = none) 1
      (∀ row ∈ c.database.transactions.lookup transactionId, row.referenceTransactionId = none)
      (loadTransactionBody transactionId) c := by
  refine leaves_query fun row read => ?_
  simp only [selectHeader, steps_ok] at read
  obtain ⟨_, _, found⟩ := read
  refine leaves_spoiled (by simp [Transaction.scan, found, and_comm]) (fun _ => trivial)
    (leaves_query fun lines _ => leaves_forEach True (by simp) fun line c => ?_)
  exact (appendLine_acts line c).imp id fun same => ⟨_, same, by simp [Transaction.append]⟩

/-- Lines are left by attempts that fetched one, and a reference by those that read the
header. -/
theorem loaded_carried_iff {aborted : List (Attempt (Tables E))}
    (aborts : AllAborted (loadTransactionBody transactionId) .zero aborted) :
    let left := carried (loadTransactionBody transactionId) .zero aborted
    (left.request.lines = [] ↔
      ∀ a ∈ aborted, Before a.fault 3 ∨ storedLines transactionId a.database = []) ∧
    (left.request.referenceTransactionId = none ↔ ∀ a ∈ aborted, Before a.fault 1 ∨
      ∀ row ∈ a.database.transactions.lookup transactionId, row.referenceTransactionId = none) :=
  ⟨carried_iff (P := fun left => left.request.lines = [])
      (fun _ _ => loadTransactionBody_lines transactionId _) aborts rfl,
    carried_iff (P := fun left => left.request.referenceTransactionId = none)
      (fun _ _ => loadTransactionBody_reference transactionId _) aborts rfl⟩

theorem getDetailsBody_leaves (createdAt : Bytes → Int) (scope paymentId : Bytes)
    (c : Conn Details (Database E)) :
    Leaves (·.captureTransactionIds = []) 3 (storedCaptures createdAt paymentId c.database = [])
      (getDetailsBody createdAt scope paymentId) c := by
  refine leaves_query fun row _ => leaves_check fun _ _ => leaves_assign Iff.rfl
    (leaves_query fun ids read => ?_)
  cases read
  exact leaves_forEach False (by simp) fun id c =>
    .inr ⟨c.captured.append [id], rfl, by simp [Details.append]⟩

theorem details_carried_iff {scope : Bytes} {aborted : List (Attempt (Database E))}
    (aborts : AllAborted (getDetailsBody createdAt scope paymentId) .zero aborted) :
    (carried (getDetailsBody createdAt scope paymentId) .zero aborted).captureTransactionIds = [] ↔
      ∀ a ∈ aborted, Before a.fault 3 ∨ storedCaptures createdAt paymentId a.database = [] :=
  carried_iff (P := fun left => left.captureTransactionIds = [])
    (fun _ _ => getDetailsBody_leaves createdAt scope paymentId _) aborts rfl

open Repair in
/-- How many captures are dealt with before one has a manifest. -/
def unplanned (incident : CashbackIncident) : List (Bytes × Bytes) → Store E → Option Nat
  | [], _ => none
  | (paymentId, captureId) :: rest, st =>
    match planCapture incident paymentId captureId st with
    | .ok (_, some _) => some 0
    | .ok (st, none) => (unplanned incident rest st).map (· + 1)
    | .error _ => none

open Repair in
theorem planEach_leaves (incident : CashbackIncident) (found : List (Bytes × Bytes))
    (c : Conn (List (Bytes × CashbackManifest)) (Store E)) :
    Leaves (· = []) ((unplanned incident found c.database).getD 0 + 1)
      (unplanned incident found c.database = none) (planEach incident found) c := by
  induction found generalizing c with
  | nil => exact leaves_kept rfl rfl
  | cons candidate rest ih =>
    refine leaves_statement fun st planned made => ?_
    have later := fun k => ih ⟨k, st, c.fault.map Nat.pred⟩
    simp only [unplanned, made]
    cases planned with
    | some => exact leaves_spoiled (by simp) nofun (later _)
    | none =>
      refine leaves_assign (by simp) ?_
      cases first : unplanned incident rest st <;> simpa [Leaves, first] using later _

open Repair in
/-- Manifests are left by attempts that dealt with a capture that has one. -/
theorem planned_carried_iff {aborted : List (Attempt (Store E))}
    (aborts : AllAborted (planBody incident) [] aborted) :
    carried (planBody incident) [] aborted = [] ↔ ∀ a ∈ aborted,
      let found := candidates incident a.database.db
      let first := unplanned incident found a.database
      Before a.fault (first.getD 0 + 1 + found.length + 2) ∨ first = none := by
  refine carried_iff (P := (· = [])) (fun captured a => ?_) aborts rfl
  refine leaves_query fun found read => ?_
  simp only [selectCandidates, steps_ok] at read
  obtain ⟨_, _, rfl⟩ := read
  exact leaves_fetched fun fault => planEach_leaves incident _ ⟨captured, a.database, fault⟩

open Repair in
/-- Whatever attempts were aborted first, the three calls return what their committed
attempt found stored exactly when the aborted ones had left nothing in the variable
that it appends to. -/
theorem retried_reads_return_stored_iff (E : Engine) (maxAttempts : Nat) :
    (∀ (transactionId : Bytes) aborted last result (s : Tables E),
      AllAborted (loadTransactionBody transactionId) .zero aborted →
      loadTransaction maxAttempts transactionId (aborted ++ [last]) = (result, .committed s ()) →
      (storedTransaction transactionId last.database = some result ↔
        (carried (loadTransactionBody transactionId) .zero aborted).request.lines = [] ∧
        ((carried (loadTransactionBody transactionId) .zero
            aborted).request.referenceTransactionId = none ∨
          ∀ row ∈ last.database.transactions.lookup transactionId,
            row.referenceTransactionId ≠ none))) ∧
    (∀ createdAt (scope paymentId : Bytes) aborted last result (s : Database E),
      AllAborted (getDetailsBody createdAt scope paymentId) .zero aborted →
      getDetailsForScope createdAt maxAttempts scope paymentId (aborted ++ [last]) =
        (result, .committed s ()) →
      (storedDetails createdAt paymentId last.database = some result ↔
        (carried (getDetailsBody createdAt scope paymentId) .zero
          aborted).captureTransactionIds = [])) ∧
    ∀ incident aborted last result (s : Store E),
      AllAborted (planBody incident) [] aborted →
      planRepairs maxAttempts incident (aborted ++ [last]) = (result, .committed s ()) →
      (plan incident last.database = .ok (s, result) ↔
        carried (planBody incident) [] aborted = []) := by
  refine ⟨?_, ?_, ?_⟩
  · intro transactionId aborted last result s aborts returned
    obtain ⟨_, finished⟩ := last_finished aborts returned
    obtain ⟨row, found, rfl⟩ := loadTransactionBody_finished finished
    simp only [storedTransaction, Attempt.begin] at found ⊢
    rw [found]
    simp only [Option.map_some, Option.some.injEq, Option.mem_def, forall_eq']
    exact scan_append_eq
  · intro createdAt scope paymentId aborted last result s aborts returned
    unfold getDetailsForScope at returned
    split at returned
    · cases returned
    · obtain ⟨_, finished⟩ := last_finished aborts returned
      obtain ⟨row, found, rfl⟩ := getDetailsBody_finished finished
      simp only [storedDetails, Attempt.begin] at found ⊢
      rw [found]
      simp only [Option.map_some, Option.some.injEq]
      exact details_append_eq
  · intro incident aborted last result s aborts returned
    unfold planRepairs at returned
    split at returned
    · rename_i valid
      obtain ⟨_, finished⟩ := last_finished aborts returned
      obtain ⟨planned, made, rfl⟩ := planBody_finished valid finished
      simp only [Attempt.begin] at made ⊢
      rw [made]
      simp only [Except.ok.injEq, Prod.mk.injEq, true_and, List.self_eq_append_left]
    · cases returned

/- A transaction of two lines, a payment with one capture and an incident with one
manifest; in each call a first attempt is aborted at COMMIT. -/

def sampleStored (ending : Commit) : Attempt (Tables sampleEngine) :=
  ⟨Repair.sampleJournal, none, ending⟩

def samplePaid : Database sampleEngine :=
  { Repair.sampleGranted with
    payment :=
      { Repair.sampleGranted.payment with
        paymentOperations := (∅ : Table _ _).insert (ascii "payment")
          { Repair.samplePaymentRow with idempotencyScope := ascii "alice/hold" }
        effects := (∅ : Table _ _).insert (ascii "capture effect")
          ⟨ascii "payment", .capture, 100, ascii "capture", none⟩ } }

def sampleManifested (ending : Commit) : Attempt (Repair.Store sampleEngine) :=
  ⟨⟨Repair.sampleGranted, ∅⟩, none, ending⟩

/-- An attempt that is aborted before it fetched a line leaves nothing behind. -/
theorem struck_load_returns_stored :
    ∃ result s,
      loadTransaction 8 (ascii "t1") ([⟨Repair.sampleJournal, some 1, .committed⟩] ++
        [sampleStored .committed]) = (result, .committed s ()) ∧
      storedTransaction (ascii "t1") (sampleStored .committed).database = some result := by
  have stored : (loadTransaction 8 (ascii "t1") ([⟨Repair.sampleJournal, some 1, .committed⟩] ++
      [sampleStored .committed])).2.stored.isSome := by decide +kernel
  obtain ⟨s, _, returned⟩ := returned_of_stored stored
  have same := ((retried_reads_return_stored_iff sampleEngine 8).1 (ascii "t1")
    [⟨Repair.sampleJournal, some 1, .committed⟩] (sampleStored .committed) _ s (by decide +kernel)
    returned).mpr (by decide +kernel)
  exact ⟨_, s, returned, same⟩

theorem aborted_reads_append_twice :
    (loadTransaction 8 (ascii "t1") [sampleStored .serialization,
      sampleStored .committed]).2.stored.isSome ∧
    (loadTransaction 8 (ascii "t1") [sampleStored .serialization,
      sampleStored .committed]).1.request.lines.length = 4 ∧
    (storedLines (ascii "t1") Repair.sampleJournal).length = 2 ∧
    (getDetailsForScope (fun _ => 0) 8 (ascii "alice") (ascii "payment")
      [⟨samplePaid, none, .serialization⟩, ⟨samplePaid, none, .committed⟩]).1.captureTransactionIds =
      [ascii "capture", ascii "capture"] ∧
    (planRepairs 8 Repair.sampleIncident [sampleManifested .serialization,
      sampleManifested .committed]).1.length = 2 := by
  decide +kernel

end PaymentPlatform.Reads
