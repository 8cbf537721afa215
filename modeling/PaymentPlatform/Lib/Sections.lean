import Mathlib.Logic.Function.Basic
import PaymentPlatform.Lib.Serial

/-! Calls that run section by section on a shared store, in any order, and requests to a
remote store whose answers may be lost. -/

namespace Serial

variable {σ α φ ι : Type}

/-- A request to a remote store: it may not arrive, and its answer may be lost. -/
def submit (request : σ → σ × α) (ending : Ending) (s : σ) : σ × Option α :=
  match ending with
  | .acknowledged => ((request s).1, some (request s).2)
  | .unacknowledged => ((request s).1, none)
  | .aborted => (s, none)

theorem submit_preserves (request : σ → σ × α) (I : σ → Prop) {s : σ} (ending : Ending)
    (holds : I s) (keeps : I (request s).1) : I (submit request ending s).1 := by
  cases ending with
  | acknowledged => exact keeps
  | unacknowledged => exact keeps
  | aborted => exact holds

theorem submit_answered {request : σ → σ × α} {ending : Ending} {s : σ} {a : α}
    (answered : (submit request ending s).2 = some a) :
    (submit request ending s).1 = (request s).1 ∧ (request s).2 = a := by
  cases ending with
  | acknowledged => exact ⟨rfl, Option.some.inj answered⟩
  | unacknowledged => cases answered
  | aborted => cases answered

/-- A shared store and the point that every call has reached. -/
structure Calls (σ φ ι : Type) where
  store : σ
  phase : ι → φ

variable [DecidableEq ι]

def Calls.next (s : Calls σ φ ι) (call : ι) (store : σ) (phase : φ) : Calls σ φ ι :=
  ⟨store, Function.update s.phase call phase⟩

@[simp] theorem Calls.next_self (s : Calls σ φ ι) (call : ι) (store : σ) (phase : φ) :
    (s.next call store phase).phase call = phase :=
  Function.update_self ..

theorem Calls.next_other {s : Calls σ φ ι} {call other : ι} (different : other ≠ call) (store : σ)
    (phase : φ) : (s.next call store phase).phase other = s.phase other :=
  Function.update_of_ne different ..

end Serial
