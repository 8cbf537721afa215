import Mathlib.Logic.Relation

/-! Serial execution of transactions that may raise. A transaction body maps
the committed state to an answer with the next state, or to an error; an error
rolls the transaction back. -/

namespace Serial

variable {σ ε α β γ : Type}
variable {failure e : ε} {a : α} {x : Except ε α} {f : α → Except ε β} {items : List α} {s : σ}
variable {condition : Prop} {ε' : Type} {first second : σ → γ → Prop}

def require (condition : Prop) [Decidable condition] (failure : ε) : Except ε Unit :=
  if condition then .ok () else .error failure

/-- The row a query found, or the error of an empty result. -/
def expect (row : Option α) (failure : ε) : Except ε α :=
  match row with
  | some a => .ok a
  | none => .error failure

@[simp] theorem require_ok [Decidable condition] {u : Unit} :
    require condition failure = .ok u ↔ condition := by
  unfold require
  split <;> simp_all

@[simp] theorem expect_ok {row : Option α} : expect row failure = .ok a ↔ row = some a := by
  cases row <;> simp [expect]

@[simp] theorem bind_ok {b : β} : (x >>= f) = .ok b ↔ ∃ a, x = .ok a ∧ f a = .ok b := by
  cases x with
  | error => simp [bind, Except.bind]
  | ok => simp [bind, Except.bind]

@[simp] theorem pure_ok {b : α} : (pure a : Except ε α) = .ok b ↔ a = b := by
  simp [pure, Except.pure]

@[simp] theorem ok_mapError {f : ε → ε'} : (.ok a : Except ε α).mapError f = .ok a :=
  rfl

@[simp] theorem error_mapError {f : ε → ε'} : (.error e : Except ε α).mapError f = .error (f e) :=
  rfl

@[simp] theorem mapError_ok {f : ε → ε'} : x.mapError f = .ok a ↔ x = .ok a := by
  cases x <;> simp

/-- The steps of a body that returns, as one set of simp lemmas. -/
theorem steps_ok : (∀ {ε α β : Type} {x : Except ε α} {f : α → Except ε β} {b},
      (x >>= f) = .ok b ↔ ∃ a, x = .ok a ∧ f a = .ok b) ∧
    (∀ {ε α : Type} {a b}, (pure a : Except ε α) = .ok b ↔ a = b) ∧
    (∀ {ε : Type} {condition} [Decidable condition] {failure : ε} {u},
      require condition failure = .ok u ↔ condition) ∧
    (∀ {ε α : Type} {row : Option α} {failure : ε} {a}, expect row failure = .ok a ↔ row = some a) ∧
    (∀ {ε ε' α : Type} {x : Except ε α} {f : ε → ε'} {a}, x.mapError f = .ok a ↔ x = .ok a) ∧
    ∀ {α β : Type} {a a' : α} {b b' : β}, (a, b) = (a', b') ↔ a = a' ∧ b = b' :=
  ⟨bind_ok, pure_ok, require_ok, expect_ok, mapError_ok, Prod.ext_iff⟩

theorem toOption_some (h : x.toOption = some a) : x = .ok a := by
  cases x with
  | error => cases h
  | ok => exact congrArg Except.ok (Option.some.inj h)

theorem pure_error : ¬ (pure a : Except ε α) = .error e := by
  simp [pure, Except.pure]

theorem bind_error : (x >>= f) = .error e ↔ x = .error e ∨ ∃ a, x = .ok a ∧ f a = .error e := by
  cases x with
  | error => simp [bind, Except.bind]
  | ok => simp [bind, Except.bind]

theorem require_error [Decidable condition] :
    require condition failure = .error e ↔ ¬ condition ∧ failure = e := by
  unfold require
  split <;> simp_all

theorem expect_error {row : Option α} :
    expect row failure = .error e ↔ row = none ∧ failure = e := by
  cases row <;> simp [expect]

theorem mapM_mem {answers : List β} (done : items.mapM f = .ok answers) :
    ∀ b ∈ answers, ∃ a ∈ items, f a = .ok b := by
  induction items generalizing answers with
  | nil =>
    cases done
    simp
  | cons a rest ih =>
    simp only [List.mapM_cons, bind_ok, pure_ok] at done
    obtain ⟨first, here, later, others, rfl⟩ := done
    intro b member
    rcases List.mem_cons.mp member with rfl | member
    · exact ⟨a, List.mem_cons_self, here⟩
    · obtain ⟨a', inside, answer⟩ := ih others b member
      exact ⟨a', List.mem_cons_of_mem _ inside, answer⟩

theorem mapM_total (each : ∀ a ∈ items, ∃ b, f a = .ok b) :
    ∃ answers, items.mapM f = .ok answers ∧ ∀ a ∈ items, ∃ b ∈ answers, f a = .ok b := by
  induction items with
  | nil => exact ⟨[], rfl, by simp⟩
  | cons a rest ih =>
    obtain ⟨first, here⟩ := each a List.mem_cons_self
    obtain ⟨later, done, found⟩ := ih fun a' member => each a' (List.mem_cons_of_mem _ member)
    refine ⟨first :: later, ?_, ?_⟩
    · simp only [List.mapM_cons, bind_ok, pure_ok]
      exact ⟨first, here, later, done, rfl⟩
    · intro a' member
      rcases List.mem_cons.mp member with rfl | member
      · exact ⟨first, List.mem_cons_self, here⟩
      · obtain ⟨b, inside, answer⟩ := found a' member
        exact ⟨b, List.mem_cons_of_mem _ inside, answer⟩

/-- The state after a transaction: its result when it commits, the state
before it when it raises. -/
def commit (body : σ → Except ε (σ × α)) (s : σ) : σ :=
  match body s with
  | .ok (s', _) => s'
  | .error _ => s

/-- What every committing transaction keeps, a rolled back one keeps as well. -/
theorem commit_preserves (body : σ → Except ε (σ × α)) (I : σ → Prop) (holds : I s)
    (keeps : ∀ s' a, body s = .ok (s', a) → I s') : I (commit body s) := by
  unfold commit
  split
  · rename_i s' a committed
    exact keeps s' a committed
  · exact holds

/-- How a transaction ends, and whether its caller hears of it. -/
inductive Ending where
  | acknowledged
  | unacknowledged
  | aborted
  deriving DecidableEq, Repr

def attempt (body : σ → Except ε (σ × α)) (ending : Ending) (s : σ) : σ :=
  match ending with
  | .aborted => s
  | _ => commit body s

theorem attempt_preserves (body : σ → Except ε (σ × α)) (I : σ → Prop) (ending : Ending)
    (holds : I s) (keeps : ∀ s' a, body s = .ok (s', a) → I s') : I (attempt body ending s) := by
  cases ending with
  | aborted => exact holds
  | acknowledged => exact commit_preserves body I holds keeps
  | unacknowledged => exact commit_preserves body I holds keeps

/-- A run is the fold of its commands over the starting state. -/
def run (step : σ → γ → σ) (s : σ) (commands : List γ) : σ :=
  commands.foldl step s

theorem run_append (step : σ → γ → σ) (s : σ) (first second : List γ) :
    run step s (first ++ second) = run step (run step s first) second :=
  List.foldl_append

/-- What every admissible command keeps, a run of admissible commands keeps. -/
theorem run_preserves_when (step : σ → γ → σ) (I : σ → Prop) (admissible : γ → Prop)
    (keeps : ∀ s c, admissible c → I s → I (step s c)) (commands : List γ)
    (legal : ∀ c ∈ commands, admissible c) (holds : I s) : I (run step s commands) := by
  induction commands generalizing s with
  | nil => exact holds
  | cons c rest ih =>
    exact ih (fun d member => legal d (List.mem_cons_of_mem _ member))
      (keeps s c (legal c List.mem_cons_self) holds)

theorem run_preserves (step : σ → γ → σ) (I : σ → Prop) (keeps : ∀ s c, I s → I (step s c))
    (commands : List γ) (holds : I s) : I (run step s commands) :=
  run_preserves_when step I (fun _ => True) (fun s c _ => keeps s c) commands (fun _ _ => trivial)
    holds

def Along (step : σ → γ → σ) (condition : σ → γ → Prop) : σ → List γ → Prop
  | _, [] => True
  | s, c :: rest => condition s c ∧ Along step condition (step s c) rest

instance Along.decidable (step : σ → γ → σ) (condition : σ → γ → Prop)
    [∀ s c, Decidable (condition s c)] : ∀ s commands, Decidable (Along step condition s commands)
  | _, [] => isTrue trivial
  | s, c :: rest =>
    have := Along.decidable step condition (step s c) rest
    inferInstanceAs (Decidable (_ ∧ _))

/-- The rule for conditions on the state before each step. -/
theorem run_preserves_along (step : σ → γ → σ) (condition : σ → γ → Prop) (I : σ → Prop)
    (keeps : ∀ s c, condition s c → I s → I (step s c)) (commands : List γ)
    (along : Along step condition s commands) (holds : I s) : I (run step s commands) := by
  induction commands generalizing s with
  | nil => exact holds
  | cons c rest ih => exact ih along.2 (keeps s c along.1 holds)

/-- Under an invariant that the second condition carries forward, runs meet the first
condition at every step exactly when they meet the second. -/
theorem along_iff (step : σ → γ → σ) (I : σ → Prop) {assumed : σ → γ → Prop}
    (same : ∀ s c, I s → assumed s c → (first s c ↔ second s c))
    (keeps : ∀ s c, I s → assumed s c → second s c → I (step s c)) (commands : List γ)
    (holds : I s) (assuming : Along step assumed s commands) :
    Along step first s commands ↔ Along step second s commands := by
  induction commands generalizing s with
  | nil => exact Iff.rfl
  | cons c rest ih =>
    have here := same s c holds assuming.1
    constructor
    · intro along
      have now := here.mp along.1
      exact ⟨now, (ih (keeps s c holds assuming.1 now) assuming.2).mp along.2⟩
    · intro along
      exact ⟨here.mpr along.1, (ih (keeps s c holds assuming.1 along.1) assuming.2).mpr along.2⟩

theorem along_true (step : σ → γ → σ) (commands : List γ) (s : σ) :
    Along step (fun _ _ => True) s commands := by
  induction commands generalizing s with
  | nil => trivial
  | cons c rest ih => exact ⟨trivial, ih (step s c)⟩

theorem along_append {step : σ → γ → σ} {condition : σ → γ → Prop} (first second : List γ) :
    Along step condition s (first ++ second) ↔
      Along step condition s first ∧ Along step condition (run step s first) second := by
  induction first generalizing s with
  | nil => exact ⟨fun along => ⟨trivial, along⟩, And.right⟩
  | cons c rest ih =>
    rw [List.cons_append, Along, Along, ih, and_assoc]
    rfl

theorem along_mono {step : σ → γ → σ} (weaker : ∀ s c, first s c → second s c) (commands : List γ)
    (along : Along step first s commands) : Along step second s commands := by
  induction commands generalizing s with
  | nil => trivial
  | cons c rest ih => exact ⟨weaker s c along.1, ih along.2⟩

/-- The rule for commands that bring names of their own, each name once: the
invariant may speak of the names used so far. -/
theorem run_preserves_fresh {τ : Type} (step : σ → γ → σ) (names : γ → List τ)
    (I : List τ → σ → Prop)
    (keeps : ∀ used s c, I used s → (∀ t ∈ names c, t ∉ used) → I (used ++ names c) (step s c))
    (commands : List γ) {used : List τ} (distinct : (used ++ commands.flatMap names).Nodup)
    (holds : I used s) : I (used ++ commands.flatMap names) (run step s commands) := by
  induction commands generalizing used s with
  | nil => simpa [run] using holds
  | cons c rest ih =>
    rw [List.flatMap_cons, ← List.append_assoc] at distinct ⊢
    apply ih distinct
    apply keeps used s c holds
    intro t member old
    have front := (List.nodup_append.mp distinct).1
    exact (List.nodup_append.mp front).2.2 t old t member rfl

end Serial
