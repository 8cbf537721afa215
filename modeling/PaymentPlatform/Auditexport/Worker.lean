import PaymentPlatform.Ledger.Types
import PaymentPlatform.Lib.Rotation

/-! processBook of internal/auditexport/worker.go over audit.merkle_checkpoints (migration
004), of which a cycle reads the primary key: it anchors what is closed, verifies the latest
external anchor and scrubs one older one. -/

namespace PaymentPlatform.Auditexport

open Framing Serial

/-- A last_sequence under the table's CHECK. -/
abbrev Sequence := { last : Int // 0 < last }

/-- A scrub cursor holds 0 or the last_sequence of a checkpoint. -/
abbrev Cursor := { after : Int // 0 ≤ after }

structure BookHead where
  bookId : Bytes
  closedLastSequence : Int

inductive Failure where
  | pending
  | artifact
  | create
  | export_
  | noCheckpoint
  | verify
  deriving DecidableEq

/-- How the calls of one cycle end: PendingCheckpoints, a checkpoint's VerifyStored,
BuildManifest and EnsureManifest, Create, and the exporter's Export and Verify. -/
structure Calls where
  pendingCheckpoints : Except Failure (List Sequence)
  verifiedArtifact : Sequence → Except Failure Unit
  create : Sequence → Except Failure Unit
  export_ : Sequence → Except Failure Unit
  verify : Sequence → Except Failure Unit

structure Worker where
  maxRangeEntries : Int
  positive : 0 < maxRangeEntries
  checkpoints : List (Bytes × Sequence)
  distinct : checkpoints.Nodup
  scrubCursor : Table Bytes Cursor
  /-- What the exporter was asked to verify, and did. -/
  verified : List (Bytes × Sequence)

variable {w w' : Worker} {bookId : Bytes} {calls : Calls} {book : BookHead}

namespace Worker

/-- A book's rows, ORDER BY last_sequence. -/
def checkpointsOf (w : Worker) (bookId : Bytes) : List Sequence :=
  ((w.checkpoints.filter fun row => row.1 = bookId).map Prod.snd).insertionSort (·.val ≤ ·.val)

/-- coalesce(max(last_sequence), 0) -/
def latestCheckpoint (w : Worker) (bookId : Bytes) : Int :=
  ((w.checkpointsOf bookId).map Subtype.val).foldr max 0

def nextHistoricalCheckpoint (w : Worker) (bookId : Bytes) (after before : Int) :
    Option Sequence :=
  let query minimum := (w.checkpointsOf bookId).find? fun last =>
    minimum < last.val ∧ last.val < before
  if bookId = [] ∨ after < 0 ∨ before ≤ 1 then none
  else match query after with
    | some found => some found
    | none => if after ≠ 0 then query 0 else none

/-- Create refuses an empty range. Asked again for a range, it answers with the row. -/
def createCheckpoint (w : Worker) (calls : Calls) (bookId : Bytes) (first last : Int) :
    Except Failure (Worker × Sequence) :=
  if valid : 0 < first ∧ first ≤ last then do
    let checkpoint : Sequence := ⟨last, lt_of_lt_of_le valid.1 valid.2⟩
    calls.create checkpoint
    pure ({ w with
      checkpoints := w.checkpoints.insert (bookId, checkpoint)
      distinct := w.distinct.insert }, checkpoint)
  else .error .create

def exportPending (calls : Calls) : List Sequence → Except Failure Unit
  | [] => pure ()
  | checkpoint :: rest => do
    calls.verifiedArtifact checkpoint
    calls.export_ checkpoint
    exportPending calls rest

/-- The worker and the latest checkpoint once the closed entries are anchored. The sum is
Go's, over int64. -/
def anchorClosed (w : Worker) (calls : Calls) (book : BookHead) (pending : List Sequence) :
    Except Failure (Worker × Int) := do
  let latest := w.latestCheckpoint book.bookId
  if pending = [] ∧ latest < book.closedLastSequence then
    let last := min book.closedLastSequence ((latest + w.maxRangeEntries).bmod (2 ^ 64))
    let (w, checkpoint) ← w.createCheckpoint calls book.bookId (latest + 1) last
    calls.verifiedArtifact checkpoint
    calls.export_ checkpoint
    pure (w, checkpoint.val)
  else pure (w, latest)

def verify (w : Worker) (calls : Calls) (bookId : Bytes) (checkpoint : Sequence) :
    Except Failure Worker := do
  calls.verifiedArtifact checkpoint
  calls.verify checkpoint
  pure { w with verified := w.verified ++ [(bookId, checkpoint)] }

def cursor (w : Worker) (bookId : Bytes) : Cursor :=
  (w.scrubCursor.lookup bookId).getD ⟨0, le_refl 0⟩

def scrub (w : Worker) (calls : Calls) (bookId : Bytes) (latest : Int) :
    Except Failure Worker := do
  let anchor ← expect ((w.checkpointsOf bookId).find? fun last => last.val = latest) .noCheckpoint
  let w ← w.verify calls bookId anchor
  match w.nextHistoricalCheckpoint bookId (w.cursor bookId).val latest with
  | none => pure w
  | some historical =>
    let w ← w.verify calls bookId historical
    pure { w with
      scrubCursor := w.scrubCursor.insert bookId ⟨historical.val, le_of_lt historical.property⟩ }

def processBook (w : Worker) (calls : Calls) (book : BookHead) : Except Failure Worker := do
  require (book.bookId ≠ []) .pending
  let pending ← calls.pendingCheckpoints
  exportPending calls pending
  let (w, latest) ← w.anchorClosed calls book pending
  if latest = 0 then pure w else w.scrub calls book.bookId latest

def cycles (w : Worker) : List (Calls × BookHead) → Except Failure Worker
  | [] => pure w
  | (calls, book) :: rest => do
    let w ← w.processBook calls book
    cycles w rest

def historical (w : Worker) (bookId : Bytes) : List Sequence :=
  (w.checkpointsOf bookId).filter fun last => last.val < w.latestCheckpoint bookId

instance : Std.Total (α := Sequence) (·.val ≤ ·.val) :=
  ⟨fun a b => Int.le_total a.val b.val⟩

instance : IsTrans Sequence (·.val ≤ ·.val) :=
  ⟨fun _ _ _ => Int.le_trans⟩

theorem checkpointsOf_sorted : (w.checkpointsOf bookId).Pairwise fun a b => a.val < b.val := by
  have keys : ((w.checkpoints.filter fun row => row.1 = bookId).map Prod.snd).Nodup := by
    refine (w.distinct.filter _).map_on ?_
    rintro ⟨book, a⟩ here ⟨book', b⟩ there same
    simp only [List.mem_filter, decide_eq_true_eq] at here there
    exact Prod.ext (here.2.trans there.2.symm) same
  have sorted := List.pairwise_insertionSort (α := Sequence) (·.val ≤ ·.val)
    ((w.checkpoints.filter fun row => row.1 = bookId).map Prod.snd)
  have distinct := (List.perm_insertionSort (α := Sequence) (·.val ≤ ·.val)
    ((w.checkpoints.filter fun row => row.1 = bookId).map Prod.snd)).nodup_iff.mpr keys
  exact (sorted.and distinct).imp fun ⟨below, other⟩ =>
    lt_of_le_of_ne below fun same => other (Subtype.ext same)

theorem historical_sorted : (w.historical bookId).Pairwise fun a b => a.val < b.val :=
  checkpointsOf_sorted.filter _

theorem mem_checkpointsOf {last : Sequence} :
    last ∈ w.checkpointsOf bookId ↔ (bookId, last) ∈ w.checkpoints := by
  rw [checkpointsOf, (List.perm_insertionSort _ _).mem_iff]
  simp

theorem le_latestCheckpoint {last : Sequence} (stored : (bookId, last) ∈ w.checkpoints) :
    last.val ≤ w.latestCheckpoint bookId := by
  have member := mem_checkpointsOf.mpr stored
  unfold latestCheckpoint
  generalize w.checkpointsOf bookId = rows at member
  induction rows with
  | nil => cases member
  | cons first rest ih =>
    rcases List.mem_cons.mp member with rfl | later
    · exact le_max_left _ _
    · exact le_max_of_le_right (ih later)

theorem nextHistorical_eq_next {cursor : Cursor} (named : bookId ≠ []) :
    w.nextHistoricalCheckpoint bookId cursor.val (w.latestCheckpoint bookId) =
      Rotation.next Subtype.val (w.historical bookId) cursor.val := by
  have both (minimum : Int) : (w.checkpointsOf bookId).find? (fun last =>
      minimum < last.val ∧ last.val < w.latestCheckpoint bookId) =
      (w.historical bookId).find? fun last => minimum < last.val := by
    rw [historical, List.find?_filter]
    congr 1
    funext last
    simp [and_comm]
  have all : (w.historical bookId).find? (fun last => (0 : Int) < last.val) =
      (w.historical bookId).head? := by
    cases w.historical bookId with
    | nil => rfl
    | cons first => exact List.find?_cons_of_pos (by simpa using first.property)
  simp only [nextHistoricalCheckpoint, Rotation.next, both, all]
  by_cases early : w.latestCheckpoint bookId ≤ 1
  · -- with a latest checkpoint of at most 1 no row lies before it
    have none_before : w.historical bookId = [] := List.filter_eq_nil_iff.mpr fun last _ => by
      have := last.property
      simp only [decide_eq_true_eq]
      omega
    simp [early, none_before]
  · rw [if_neg (by simp [named, early, cursor.property])]
    cases found : (w.historical bookId).find? fun last => cursor.val < last.val with
    | some => rfl
    | none =>
      by_cases start : cursor.val = 0
      · rw [start, all] at found
        simp [start, found]
      · simp [start]

/-- Of the book, a cycle that ends well verifies the latest anchor and the next older one. -/
def Scrubbed (w w' : Worker) (bookId : Bytes) : Prop :=
  ∃ anchor : Sequence, anchor.val = w.latestCheckpoint bookId ∧
    match Rotation.next Subtype.val (w.historical bookId) (w.cursor bookId).val with
    | none => w'.verified = w.verified ++ [(bookId, anchor)]
    | some last => w'.verified = w.verified ++ [(bookId, anchor), (bookId, last)] ∧
      (w'.cursor bookId).val = last.val

theorem scrub_ok {latest : Int} (named : bookId ≠ [])
    (done : w.scrub calls bookId latest = .ok w') : w'.checkpoints = w.checkpoints ∧
      (latest = w.latestCheckpoint bookId → Scrubbed w w' bookId) := by
  simp only [scrub, verify, steps_ok] at done
  obtain ⟨anchor, found, _, ⟨_, -, _, -, rfl⟩, done⟩ := done
  have at_ : anchor.val = latest := by simpa using List.find?_some found
  -- the log does not matter to the query
  change (match w.nextHistoricalCheckpoint bookId (w.cursor bookId).val latest with
    | none => _ | some historical => _) = _ at done
  unfold Scrubbed
  rw [← nextHistorical_eq_next named]
  cases chosen : w.nextHistoricalCheckpoint bookId (w.cursor bookId).val latest with
  | none =>
    simp only [chosen, pure_ok] at done
    subst done
    exact ⟨rfl, fun same => ⟨anchor, at_.trans same, by rw [← same, chosen]⟩⟩
  | some =>
    simp only [chosen, steps_ok] at done
    obtain ⟨_, ⟨_, -, _, -, rfl⟩, rfl⟩ := done
    refine ⟨rfl, fun same => ⟨anchor, at_.trans same, ?_⟩⟩
    rw [← same, chosen]
    refine ⟨by simp, ?_⟩
    rw [cursor, AList.lookup_insert]
    rfl

theorem checkpointsOf_congr (same : w'.checkpoints = w.checkpoints) :
    w'.checkpointsOf bookId = w.checkpointsOf bookId := by
  rw [checkpointsOf, same, checkpointsOf]

theorem latestCheckpoint_congr (same : w'.checkpoints = w.checkpoints) :
    w'.latestCheckpoint bookId = w.latestCheckpoint bookId := by
  rw [latestCheckpoint, checkpointsOf_congr same, latestCheckpoint]

theorem anchorClosed_ok {pending : List Sequence} {latest : Int}
    (done : w.anchorClosed calls book pending = .ok (w', latest)) :
    w' = w ∧ latest = w.latestCheckpoint book.bookId ∨
      w.latestCheckpoint book.bookId < w'.latestCheckpoint book.bookId := by
  simp only [anchorClosed] at done
  split at done
  · simp only [createCheckpoint] at done
    split at done
    · rename_i valid
      simp only [steps_ok, Prod.exists] at done
      obtain ⟨_, checkpoint, ⟨_, -, rfl, rfl⟩, _, -, _, -, rfl, rfl⟩ := done
      have stored := le_latestCheckpoint (w := { w with
        checkpoints := w.checkpoints.insert (book.bookId, ⟨_, lt_of_lt_of_le valid.1 valid.2⟩)
        distinct := w.distinct.insert }) (List.mem_insert_self)
      exact .inr (lt_of_lt_of_le (Int.lt_of_add_one_le valid.2) stored)
    · simp at done
  · simp only [pure_ok, Prod.mk.injEq] at done
    exact .inl ⟨done.1.symm, done.2.symm⟩

theorem processBook_ok (done : w.processBook calls book = .ok w') :
    w.latestCheckpoint book.bookId < w'.latestCheckpoint book.bookId ∨
      w'.checkpoints = w.checkpoints ∧
        (w.latestCheckpoint book.bookId ≠ 0 → Scrubbed w w' book.bookId) := by
  simp only [processBook, steps_ok, Prod.exists] at done
  obtain ⟨_, named, _, -, _, -, anchored, latest, closed, done⟩ := done
  rcases anchorClosed_ok closed with ⟨rfl, rfl⟩ | raised
  · split at done
    · rename_i empty
      obtain rfl := pure_ok.mp done
      exact .inr ⟨rfl, fun some => absurd empty some⟩
    · obtain ⟨kept, scrubbed⟩ := scrub_ok named done
      exact .inr ⟨kept, fun _ => scrubbed rfl⟩
  · left
    split at done
    · rwa [← pure_ok.mp done]
    · rwa [latestCheckpoint_congr (scrub_ok named done).1]

theorem cycles_latest {run : List (Calls × BookHead)} (own : ∀ c ∈ run, c.2.bookId = bookId)
    (done : w.cycles run = .ok w') : w.latestCheckpoint bookId ≤ w'.latestCheckpoint bookId := by
  induction run generalizing w with
  | nil => rw [pure_ok.mp done]
  | cons cycle rest ih =>
    obtain ⟨here, own⟩ := List.forall_mem_cons.mp own
    obtain ⟨between, step, done⟩ := bind_ok.mp done
    refine le_trans ?_ (ih own done)
    rw [← here]
    rcases processBook_ok step with raised | ⟨kept, -⟩
    · exact le_of_lt raised
    · exact le_of_eq (latestCheckpoint_congr kept).symm

/-- While the latest checkpoint stays, the run verifies of the older ones what the cursor
visits. -/
theorem cycles_visit {run : List (Calls × BookHead)} {last : Sequence}
    (own : ∀ c ∈ run, c.2.bookId = bookId) (done : w.cycles run = .ok w')
    (fixed : w'.latestCheckpoint bookId = w.latestCheckpoint bookId)
    (older : last.val < w.latestCheckpoint bookId) :
    w'.verified.count (bookId, last) = w.verified.count (bookId, last) +
      (Rotation.visits Subtype.val (w.historical bookId) run.length
        (w.cursor bookId).val).count last := by
  induction run generalizing w with
  | nil =>
    rw [pure_ok.mp done]
    simp [Rotation.visits]
  | cons cycle rest ih =>
    obtain ⟨rfl, own⟩ := List.forall_mem_cons.mp own
    obtain ⟨between, step, done⟩ := bind_ok.mp done
    rcases processBook_ok step with raised | ⟨kept, scrubs⟩
    · exact absurd (cycles_latest own done) (by omega)
    have latest : between.latestCheckpoint cycle.2.bookId = w.latestCheckpoint cycle.2.bookId :=
      latestCheckpoint_congr kept
    have same : between.historical cycle.2.bookId = w.historical cycle.2.bookId := by
      rw [historical, checkpointsOf_congr kept, latest, historical]
    obtain ⟨anchor, top, scrubbed⟩ := scrubs (by have := last.property; omega)
    have newer : anchor ≠ last := by
      rintro rfl
      omega
    rw [ih own done (by omega) (by omega), same, List.length_cons, Rotation.visits]
    cases chosen : Rotation.next Subtype.val (w.historical cycle.2.bookId)
        (w.cursor cycle.2.bookId).val with
    | none =>
      rw [chosen] at scrubbed
      rw [scrubbed, Rotation.next_eq_none.mp chosen, Rotation.visits_nil]
      simp [newer]
    | some visited =>
      rw [chosen] at scrubbed
      obtain ⟨log, moved⟩ := scrubbed
      rw [log, moved]
      simp [List.count_cons, newer, Subtype.ext_iff]
      omega

/-- From any cursor, as many cycles as there are checkpoints before the latest one verify
each of them once. -/
theorem historical_verified_once (w w' : Worker) (bookId : Bytes)
    (run : List (Calls × BookHead)) (own : ∀ c ∈ run, c.2.bookId = bookId)
    (done : w.cycles run = .ok w')
    (fixed : w'.latestCheckpoint bookId = w.latestCheckpoint bookId)
    (round : run.length = (w.historical bookId).length) :
    ∀ last ∈ w.historical bookId,
      w'.verified.count (bookId, last) = w.verified.count (bookId, last) + 1 := by
  intro last member
  have older : last.val < w.latestCheckpoint bookId := by
    simpa using (List.mem_filter.mp member).2
  rw [cycles_visit own done fixed older, round,
    (Rotation.visits_perm historical_sorted _).count_eq,
    List.count_eq_one_of_mem (historical_sorted.imp fun below => by grind) member]

def sampleWorker : Worker where
  maxRangeEntries := 2
  positive := by decide
  checkpoints := [([98], ⟨6, by decide⟩), ([98], ⟨2, by decide⟩), ([98], ⟨8, by decide⟩),
    ([98], ⟨4, by decide⟩)]
  distinct := by decide
  scrubCursor := (∅ : Table Bytes Cursor).insert [98] ⟨3, by decide⟩
  verified := []

def sampleCycle : Calls × BookHead where
  fst :=
    { pendingCheckpoints := .ok []
      verifiedArtifact := fun _ => .ok ()
      create := fun _ => .ok ()
      export_ := fun _ => .ok ()
      verify := fun _ => .ok () }
  snd := { bookId := [98], closedLastSequence := 8 }

theorem sample_historical_verified_once :
    ∃ w', sampleWorker.cycles [sampleCycle, sampleCycle, sampleCycle] = .ok w' ∧
      sampleWorker.historical [98] ≠ [] ∧ ∀ last ∈ sampleWorker.historical [98],
        w'.verified.count ([98], last) = sampleWorker.verified.count ([98], last) + 1 :=
  ⟨_, rfl, by decide, historical_verified_once sampleWorker _ [98]
    [sampleCycle, sampleCycle, sampleCycle] (by simp [sampleCycle]) rfl (by decide) (by decide)⟩

end Worker
end PaymentPlatform.Auditexport
