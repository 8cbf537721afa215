import PaymentPlatform.Lib.Serial

/-! Callbacks that a store runs again when it aborted them. What a callback wrote is
rolled back with its attempt; the variables it captured are not. -/

namespace Retry

variable {κ σ ε α β γ δ : Type}
variable {a : α} {change : κ → κ}

/-- An attempt under way: the captured variables, the database that the transaction
sees, and the statements left until the store raises a serialization failure, if it
raises one at a statement. -/
structure Conn (κ σ : Type) where
  captured : κ
  database : σ
  fault : Option Nat

variable {c c' : Conn κ σ}

inductive Stop (ε : Type) where
  | serialization
  | failed (error : ε)

def Body (κ σ ε α : Type) := Conn κ σ → Conn κ σ × Except (Stop ε) α

variable {x : Body κ σ ε α} {g : Unit → Body κ σ ε β}

instance : Monad (Body κ σ ε) where
  pure a := fun c => (c, .ok a)
  bind x f := fun c =>
    match x c with
    | (c', .ok a) => f a c'
    | (c', .error stop) => (c', .error stop)

def statement (request : σ → Except ε (σ × α)) : Body κ σ ε α := fun c =>
  if c.fault = some 0 then (c, .error .serialization)
  else
    match request c.database with
    | .ok (s, a) => (⟨c.captured, s, c.fault.map Nat.pred⟩, .ok a)
    | .error e => (⟨c.captured, c.database, c.fault.map Nat.pred⟩, .error (.failed e))

def query (read : σ → Except ε α) : Body κ σ ε α :=
  statement fun s => (read s).map fun a => (s, a)

def assign (change : κ → κ) : Body κ σ ε Unit := fun c =>
  ({ c with captured := change c.captured }, .ok ())

def assignAfter (x : Body κ σ ε α) (change : κ → κ) : Body κ σ ε α := fun c =>
  ({ (x c).1 with captured := change (x c).1.captured }, (x c).2)

def check (x : Except ε α) : Body κ σ ε α := fun c => (c, x.mapError .failed)

/-- The loop over a result: a row, or its end, may be what the store raises at. -/
def forEach (rows : List β) (act : β → Body κ σ ε Unit) : Body κ σ ε Unit :=
  match rows with
  | [] => query fun _ => .ok ()
  | row :: rest => do
    query fun _ => .ok ()
    act row
    forEach rest act

@[simp] theorem bind_finished {f : α → Body κ σ ε β} {b : β} :
    (x >>= f) c = (c', .ok b) ↔ ∃ mid a, x c = (mid, .ok a) ∧ f a mid = (c', .ok b) := by
  show (match x c with
    | (c', .ok a) => f a c'
    | (c', .error stop) => (c', .error stop)) = (c', .ok b) ↔ _
  rcases x c with ⟨mid, stop | a⟩
  · simp
  · simp only [Prod.mk.injEq, Except.ok.injEq]
    constructor
    · intro done
      exact ⟨mid, a, ⟨rfl, rfl⟩, done⟩
    · rintro ⟨_, _, ⟨rfl, rfl⟩, done⟩
      exact done

@[simp] theorem pure_finished {b : α} :
    (pure a : Body κ σ ε α) c = (c', .ok b) ↔ c = c' ∧ a = b := by
  show (c, Except.ok a) = (c', .ok b) ↔ _
  simp

@[simp] theorem statement_finished {request : σ → Except ε (σ × α)} :
    (statement request : Body κ σ ε α) c = (c', .ok a) ↔
      c.fault ≠ some 0 ∧ ∃ s, request c.database = .ok (s, a) ∧
        c' = ⟨c.captured, s, c.fault.map Nat.pred⟩ := by
  unfold statement
  split
  · rename_i struck
    simp [struck]
  · rename_i spared
    rcases request c.database with e | ⟨s, b⟩
    · simp
    · simp only [Prod.mk.injEq, Except.ok.injEq, ne_eq, spared, not_false_eq_true, true_and]
      constructor
      · rintro ⟨rfl, rfl⟩
        exact ⟨s, ⟨rfl, rfl⟩, rfl⟩
      · rintro ⟨_, ⟨rfl, rfl⟩, rfl⟩
        exact ⟨rfl, rfl⟩

@[simp] theorem query_finished {read : σ → Except ε α} :
    (query read : Body κ σ ε α) c = (c', .ok a) ↔ c.fault ≠ some 0 ∧ read c.database = .ok a ∧
        c' = { c with fault := c.fault.map Nat.pred } := by
  unfold query
  rw [statement_finished]
  rcases read c.database with e | b
  · simp [Except.map]
  · simp only [Except.map, Except.ok.injEq, Prod.mk.injEq]
    constructor
    · rintro ⟨spared, _, ⟨rfl, rfl⟩, rfl⟩
      exact ⟨spared, rfl, rfl⟩
    · rintro ⟨spared, rfl, rfl⟩
      exact ⟨spared, _, ⟨rfl, rfl⟩, rfl⟩

@[simp] theorem assign_finished {u : Unit} : (assign change : Body κ σ ε Unit) c = (c', .ok u) ↔
      c' = { c with captured := change c.captured } := by
  unfold assign
  simp [eq_comm]

@[simp] theorem assignAfter_finished
    {out : Except (Stop ε) α} : assignAfter x change c = (c', out) ↔
      ∃ mid, x c = (mid, out) ∧ c' = { mid with captured := change mid.captured } := by
  unfold assignAfter
  rcases x c with ⟨mid, answer⟩
  simp only [Prod.mk.injEq]
  constructor
  · rintro ⟨rfl, rfl⟩
    exact ⟨mid, ⟨rfl, rfl⟩, rfl⟩
  · rintro ⟨_, ⟨rfl, rfl⟩, rfl⟩
    exact ⟨rfl, rfl⟩

@[simp] theorem check_finished {x : Except ε α} :
    (check x : Body κ σ ε α) c = (c', .ok a) ↔ x = .ok a ∧ c' = c := by
  unfold check
  rcases x with e | b
  · simp [Serial.error_mapError]
  · simp [Serial.ok_mapError, eq_comm, and_comm]

theorem forEach_finished {rows : List β} {act : β → Body κ σ ε Unit} (change : β → κ → κ)
    (each : ∀ row c c' u, act row c = (c', .ok u) →
      c'.captured = change row c.captured ∧ c'.database = c.database) {u : Unit}
    (done : forEach rows act c = (c', .ok u)) :
    c'.captured = rows.foldl (fun k row => change row k) c.captured ∧
      c'.database = c.database := by
  induction rows generalizing c with
  | nil =>
    simp only [forEach, query_finished] at done
    obtain ⟨_, _, rfl⟩ := done
    exact ⟨rfl, rfl⟩
  | cons row rest ih =>
    simp only [forEach, bind_finished, query_finished] at done
    obtain ⟨_, _, ⟨_, _, rfl⟩, mid, _, acted, done⟩ := done
    obtain ⟨captured, database⟩ := each row _ _ _ acted
    obtain ⟨result, kept⟩ := ih done
    rw [captured] at result
    exact ⟨result, kept.trans database⟩

/-- The store raises at one of the first n statements. -/
def Before (fault : Option Nat) (n : Nat) : Prop := ∃ k < n, fault = some k

/-- Where the callback stops, unless it fails, P holds of the captured variable if it did
before, and the store raises at one of the first n statements or R. -/
def Leaves (P : κ → Prop) (n : Nat) (R : Prop) (x : Body κ σ ε α) (c : Conn κ σ) : Prop :=
  (∃ e, (x c).2 = .error (.failed e)) ∨
    (P (x c).1.captured ↔ P c.captured ∧ (Before c.fault n ∨ R))

section Leaving

variable {P : κ → Prop} {n : Nat} {R : Prop} {c : Conn κ σ} {f : α → Body κ σ ε β}

theorem before_succ {fault : Option Nat} (spared : fault ≠ some 0) :
    Before fault (n + 1) ↔ Before (fault.map Nat.pred) n := by
  rcases fault with _ | _ | k
  · simp [Before]
  · exact absurd rfl spared
  · simp [Before]

theorem leaves_statement {request : σ → Except ε (σ × α)}
    (rest : ∀ s a, request c.database = .ok (s, a) →
      Leaves P n R (f a) ⟨c.captured, s, c.fault.map Nat.pred⟩) :
    Leaves P (n + 1) R (statement request >>= f) c := by
  by_cases struck : c.fault = some 0
  · exact .inr (by simp [bind, statement, struck, Before])
  · cases made : request c.database with
    | error e => exact .inl ⟨e, by simp [bind, statement, struck, made]⟩
    | ok out =>
      have goes : (statement request >>= f) c =
          f out.2 ⟨c.captured, out.1, c.fault.map Nat.pred⟩ := by
        simp [bind, statement, struck, made]
      rw [Leaves, goes, before_succ struck]
      exact rest out.1 out.2 made

theorem leaves_query {read : σ → Except ε α} (rest : ∀ a, read c.database = .ok a →
      Leaves P n R (f a) { c with fault := c.fault.map Nat.pred }) :
    Leaves P (n + 1) R (query read >>= f) c := by
  refine leaves_statement fun s a made => ?_
  cases found : read c.database <;> simp only [found, Except.map] at made <;> cases made
  exact rest a found

theorem leaves_check {y : Except ε α} (rest : ∀ a, y = .ok a → Leaves P n R (f a) c) :
    Leaves P n R (check y >>= f) c := by
  cases y with
  | error e => exact .inl ⟨e, rfl⟩
  | ok a => exact rest a rfl

theorem leaves_assign (keeps : P (change c.captured) ↔ P c.captured)
    (rest : Leaves P n R (g ()) { c with captured := change c.captured }) :
    Leaves P n R (assign change >>= g) c :=
  rest.imp id fun left => left.trans (and_congr_left' keeps)

theorem leaves_kept (holds : R) (keeps : (x c).1.captured = c.captured) : Leaves P n R x c :=
  .inr (by simp [keeps, holds])

theorem leaves_assigned (changes : P (change c.captured) ↔ P c.captured ∧ R) :
    Leaves P 0 R (assign change : Body κ σ ε Unit) c :=
  .inr (by simp [assign, changes, Before])

theorem leaves_spoiled {S : Prop}
    (changes : P (change c.captured) ↔ P c.captured ∧ R) (implies : R → S)
    (rest : Leaves P n S (g ()) { c with captured := change c.captured }) :
    Leaves P 0 R (assign change >>= g) c := by
  refine rest.imp id fun left => left.trans ?_
  by_cases kept : R <;> simp [changes, kept, implies, Before]

/-- Rows that each assign the variable; S tells whether that keeps P. -/
theorem leaves_forEach (S : Prop) {rows : List γ} {act : γ → Body κ σ ε Unit}
    (ends : R ↔ rows = [] ∨ S) (acts : ∀ row c, (∃ c' e, act row c = (c', .error (.failed e))) ∨
      ∃ k, act row c = ({ c with captured := k }, .ok ()) ∧ (P k ↔ P c.captured ∧ S)) :
    Leaves P 1 R (forEach rows act) c := by
  induction rows generalizing c R with
  | nil =>
    refine leaves_kept (ends.mpr (.inl rfl)) ?_
    unfold forEach query statement
    split <;> rfl
  | cons row rest ih =>
    refine leaves_query fun _ _ => ?_
    rcases acts row { c with fault := c.fault.map Nat.pred } with ⟨_, e, failed⟩ | ⟨k, assigned, keeps⟩
    · exact .inl ⟨e, by simp [bind, failed]⟩
    · have later := ih (c := ⟨k, c.database, c.fault.map Nat.pred⟩) Iff.rfl
      simp only [Leaves, bind, assigned] at later ⊢
      refine later.imp id fun left => left.trans ?_
      by_cases kept : S <;> simp [kept, keeps, ends, Before]

theorem bind_assoc (x : Body κ σ ε α) (f : α → Body κ σ ε β) (g : β → Body κ σ ε γ) :
    (x >>= f) >>= g = x >>= fun a => f a >>= g := by
  funext c
  rcases stood : x c with ⟨mid, stop | a⟩ <;> simp [bind, stood]

/-- Rows that are only fetched. -/
theorem leaves_fetched {rows : List γ}
    (rest : ∀ fault, Leaves P n R (g ()) { c with fault := fault }) :
    Leaves P (n + rows.length + 1) R (forEach rows (fun _ => pure ()) >>= g) c := by
  induction rows generalizing c with
  | nil => exact leaves_query fun _ _ => rest _
  | cons row others ih =>
    simp only [forEach, bind_assoc]
    exact leaves_query fun _ _ => ih rest

end Leaving

/-- What comes of COMMIT; when its answer is unknown it may have been applied. -/
inductive Commit where
  | committed
  | serialization
  | unknown (applied : Bool)
  deriving DecidableEq, Repr

/-- What one attempt meets: the database when it begins, the statement at which the store
aborts it, and what comes of its COMMIT. -/
structure Attempt (σ : Type) where
  database : σ
  fault : Option Nat
  commit : Commit

variable {aborted : List (Attempt σ)}

def Attempt.begin (a : Attempt σ) (captured : κ) : Conn κ σ := ⟨captured, a.database, a.fault⟩

inductive Ended (κ ε α : Type) where
  /-- Aborted by the store, to be run again. -/
  | aborted (captured : κ)
  | returned (captured : κ) (answer : α)
  | failed (captured : κ) (error : ε)
  | ambiguous (captured : κ)

def once (body : Body κ σ ε α) (captured : κ) (a : Attempt σ) : σ × Ended κ ε α :=
  match body (a.begin captured) with
  | (c, .error .serialization) => (a.database, .aborted c.captured)
  | (c, .error (.failed e)) => (a.database, .failed c.captured e)
  | (c, .ok answer) =>
    match a.commit with
    | .committed => (c.database, .returned c.captured answer)
    | .serialization => (a.database, .aborted c.captured)
    | .unknown applied => (if applied then c.database else a.database, .ambiguous c.captured)

/-- An attempt leaves the database as it found it and does not return, or its callback came
to its end and it leaves what that wrote. -/
theorem once_cases (body : Body κ σ ε α) (captured : κ) (a : Attempt σ) :
    ((once body captured a).1 = a.database ∧ ∀ k b, (once body captured a).2 ≠ .returned k b) ∨
      ∃ c answer, body (a.begin captured) = (c, .ok answer) ∧
        (once body captured a).1 = c.database ∧
        ((once body captured a).2 = .returned c.captured answer ∨
          (once body captured a).2 = .ambiguous c.captured) := by
  unfold once
  split
  · exact .inl ⟨rfl, nofun⟩
  · exact .inl ⟨rfl, nofun⟩
  · rename_i c answer finished
    split
    · exact .inr ⟨c, answer, finished, rfl, .inl rfl⟩
    · exact .inl ⟨rfl, nofun⟩
    · rename_i applied _
      cases applied with
      | false => exact .inl ⟨rfl, nofun⟩
      | true => exact .inr ⟨c, answer, finished, rfl, .inr rfl⟩

inductive Reply (σ ε α : Type) where
  | committed (database : σ) (answer : α)
  | failed (error : ε)
  | ambiguous
  | exhausted
  /-- The context is done, or no transaction could begin. -/
  | cancelled

def Reply.stored : Reply σ ε α → Option σ
  | .committed s _ => some s
  | _ => none

theorem returned_of_stored {returned : κ × Reply σ ε α} (stored : returned.2.stored.isSome) :
    ∃ s answer, returned = (returned.1, .committed s answer) := by
  obtain ⟨result, reply⟩ := returned
  cases reply with
  | committed s answer => exact ⟨s, answer, rfl⟩
  | _ => cases stored

def runSerializable (body : Body κ σ ε α) : Nat → κ → List (Attempt σ) → κ × Reply σ ε α
  | 0, captured, _ => (captured, .exhausted)
  | _ + 1, captured, [] => (captured, .cancelled)
  | left + 1, captured, a :: rest =>
    match once body captured a with
    | (_, .aborted captured) => runSerializable body left captured rest
    | (s, .returned captured answer) => (captured, .committed s answer)
    | (_, .failed captured e) => (captured, .failed e)
    | (_, .ambiguous captured) => (captured, .ambiguous)

def Ended.isAborted : Ended κ ε α → Bool
  | .aborted _ => true
  | _ => false

def Aborts (body : Body κ σ ε α) (captured : κ) (a : Attempt σ) : Prop :=
  (once body captured a).2.isAborted = true
  deriving Decidable

def Ended.captured : Ended κ ε α → κ
  | .aborted captured | .returned captured _ | .failed captured _ | .ambiguous captured => captured

def carried (body : Body κ σ ε α) : κ → List (Attempt σ) → κ
  | captured, [] => captured
  | captured, a :: rest => carried body (once body captured a).2.captured rest

def AllAborted (body : Body κ σ ε α) : κ → List (Attempt σ) → Prop
  | _, [] => True
  | captured, a :: rest =>
    Aborts body captured a ∧ AllAborted body (once body captured a).2.captured rest

theorem aborts_stood {body : Body κ σ ε α} {captured : κ} {a : Attempt σ}
    (aborts : Aborts body captured a) :
    (once body captured a).2.captured = (body (a.begin captured)).1.captured ∧
      ¬ ∃ e, (body (a.begin captured)).2 = .error (.failed e) := by
  unfold Aborts once at aborts
  unfold once
  rcases stood : body (a.begin captured) with ⟨c, (_ | e) | answer⟩ <;>
    simp only [stood] at aborts ⊢
  · exact ⟨rfl, nofun⟩
  · cases aborts
  · refine ⟨?_, nofun⟩
    cases a.commit <;> rfl

/-- Every aborted attempt tells by its database and the statement it is aborted at whether
it leaves P of the captured variable alone. -/
theorem carried_iff {body : Body κ σ ε α} {P : κ → Prop} {n : Attempt σ → Nat}
    {R : Attempt σ → Prop} (each : ∀ captured a, Leaves P (n a) (R a) body (a.begin captured))
    {captured : κ} (aborts : AllAborted body captured aborted) (holds : P captured) :
    P (carried body captured aborted) ↔ ∀ a ∈ aborted, Before a.fault (n a) ∨ R a := by
  suffices kept : P (carried body captured aborted) ↔
      P captured ∧ ∀ a ∈ aborted, Before a.fault (n a) ∨ R a from kept.trans (and_iff_right holds)
  clear holds
  induction aborted generalizing captured with
  | nil => simp [carried]
  | cons a rest ih =>
    obtain ⟨same, ended⟩ := aborts_stood aborts.1
    rw [carried, ih aborts.2, same, (each captured a).resolve_left ended, List.forall_mem_cons,
      and_assoc]
    rfl

instance AllAborted.decidable (body : Body κ σ ε α) :
    ∀ captured attempts, Decidable (AllAborted body captured attempts)
  | _, [] => isTrue trivial
  | captured, a :: rest =>
    have := AllAborted.decidable body (once body captured a).2.captured rest
    inferInstanceAs (Decidable (_ ∧ _))

theorem runSerializable_aborted {body : Body κ σ ε α} {captured : κ} {a : Attempt σ}
    (aborts : Aborts body captured a) (left : Nat) (rest : List (Attempt σ)) :
    runSerializable body (left + 1) captured (a :: rest) =
      runSerializable body left (once body captured a).2.captured rest := by
  rw [runSerializable]
  unfold Aborts at aborts
  generalize once body captured a = ended at aborts
  obtain ⟨s, ended⟩ := ended
  cases ended with
  | aborted => rfl
  | _ => cases aborts

theorem last_finished {body : Body κ σ ε α} {left : Nat} {captured result : κ}
    {last : Attempt σ} {s : σ} {answer : α} (aborts : AllAborted body captured aborted)
    (done : runSerializable body left captured (aborted ++ [last]) =
      (result, .committed s answer)) : ∃ fault, body (last.begin (carried body captured aborted)) =
      (⟨result, s, fault⟩, .ok answer) := by
  induction aborted generalizing captured left with
  | nil =>
    cases left with
    | zero => simp [runSerializable] at done
    | succ left =>
      rw [List.nil_append, runSerializable] at done
      show ∃ fault, body (last.begin captured) = _
      split at done
      · cases left <;> simp [runSerializable] at done
      · rename_i returned
        simp only [Prod.mk.injEq, Reply.committed.injEq] at done
        obtain ⟨rfl, rfl, rfl⟩ := done
        rcases once_cases body captured last with ⟨_, other⟩ | ⟨c, b, finished, database, ended⟩
        · exact absurd (congrArg Prod.snd returned) (other _ _)
        · rw [returned] at database ended
          rcases ended with same | same
          · cases same
            cases database
            exact ⟨c.fault, finished⟩
          · cases same
      · simp at done
      · simp at done
  | cons a others ih =>
    cases left with
    | zero => simp [runSerializable] at done
    | succ =>
      rw [List.cons_append, runSerializable_aborted aborts.1] at done
      exact ih aborts.2 done

end Retry
