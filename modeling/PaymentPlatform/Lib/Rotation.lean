import Mathlib.Order.Lattice
import Mathlib.Data.List.Basic

/-! A cursor that goes round a list that is sorted by a key: to the first item beyond it, or
to the first of all. As many visits as there are items meet every item once, from any
cursor. -/

namespace Rotation

variable {α β : Type} [LinearOrder β] (key : α → β) {items : List α} {cursor : β}

def next (items : List α) (cursor : β) : Option α :=
  (items.find? fun x => cursor < key x).or items.head?

def visits (items : List α) : Nat → β → List α
  | 0, _ => []
  | n + 1, cursor =>
    match next key items cursor with
    | none => []
    | some x => x :: visits items n (key x)

variable {key}

theorem next_eq_none : next key items cursor = none ↔ items = [] := by
  cases items <;> simp [next]

theorem visits_nil {n : Nat} : visits key [] n cursor = [] := by
  cases n <;> rfl

variable (sorted : items.Pairwise fun a b => key a < key b)
include sorted

theorem visits_ahead {behind ahead later : List α} (parts : items = behind ++ (ahead ++ later))
    (passed : ∀ x ∈ behind, key x ≤ cursor) (beyond : ∀ x ∈ ahead, cursor < key x) (n : Nat) :
    visits key items (ahead.length + n) cursor =
      ahead ++ visits key items n ((ahead.getLast?.map key).getD cursor) := by
  induction ahead generalizing behind cursor with
  | nil => simp
  | cons x rest ih =>
    have found : next key items cursor = some x := by
      have skipped : behind.find? (fun y => cursor < key y) = none :=
        List.find?_eq_none.mpr fun y member => by simpa using passed y member
      rw [next, parts, List.find?_append, skipped, List.cons_append,
        List.find?_cons_of_pos (by simpa using beyond x List.mem_cons_self)]
      rfl
    have order := sorted
    rw [parts, List.pairwise_append, List.cons_append, List.pairwise_cons] at order
    obtain ⟨_, ⟨greater, _⟩, smaller⟩ := order
    have passed' : ∀ y ∈ behind ++ [x], key y ≤ key x := by
      intro y member
      rcases List.mem_append.mp member with early | last
      · exact le_of_lt (smaller y early x List.mem_cons_self)
      · exact le_of_eq (congrArg key (List.mem_singleton.mp last))
    have again := ih (by simp [parts]) passed' fun y member =>
      greater y (List.mem_append_left _ member)
    rw [List.length_cons, Nat.add_right_comm, visits, found, List.getLast?_cons]
    cases last : rest.getLast? with
    | none => simpa [last] using again
    | some => simpa [last] using again

theorem visits_wrap {first later : List α} (parts : items = first ++ later)
    (passed : ∀ x ∈ items, key x ≤ cursor) : visits key items first.length cursor = first := by
  cases first with
  | nil => rfl
  | cons x =>
    have found : next key items cursor = some x := by
      rw [next, List.find?_eq_none.mpr fun y member => by simpa using passed y member, parts]
      rfl
    have order := sorted
    rw [parts, List.cons_append, List.pairwise_cons] at order
    have passed' : ∀ y ∈ [x], key y ≤ key x := fun y member =>
      le_of_eq (congrArg key (List.mem_singleton.mp member))
    have again := visits_ahead sorted parts passed'
      (fun y member => order.1 y (List.mem_append_left _ member)) 0
    rw [List.length_cons, visits, found]
    simpa [visits] using again

theorem split_at (cursor : β) :
    ∃ behind ahead, items = behind ++ ahead ∧ (∀ x ∈ behind, key x ≤ cursor) ∧
      ∀ x ∈ ahead, cursor < key x := by
  induction items with
  | nil => exact ⟨[], [], rfl, by simp, by simp⟩
  | cons x rest ih =>
    obtain ⟨greater, sorted⟩ := List.pairwise_cons.mp sorted
    by_cases passed : key x ≤ cursor
    · obtain ⟨behind, ahead, rfl, before, after⟩ := ih sorted
      exact ⟨x :: behind, ahead, rfl, List.forall_mem_cons.mpr ⟨passed, before⟩, after⟩
    · refine ⟨[], x :: rest, rfl, by simp, List.forall_mem_cons.mpr ⟨not_le.mp passed, ?_⟩⟩
      exact fun y member => lt_trans (not_le.mp passed) (greater y member)

theorem visits_perm (cursor : β) : (visits key items items.length cursor).Perm items := by
  obtain ⟨behind, ahead, parts, passed, beyond⟩ := split_at sorted cursor
  have ended : ∀ x ∈ items, key x ≤ (ahead.getLast?.map key).getD cursor := by
    rcases List.eq_nil_or_concat ahead with rfl | ⟨init, last, rfl⟩
    · simpa [parts] using passed
    · have order := sorted
      rw [parts, List.concat_eq_append, ← List.append_assoc, List.pairwise_append] at order
      intro x member
      rw [parts, List.concat_eq_append, ← List.append_assoc] at member
      simp only [List.concat_eq_append, List.getLast?_append, List.getLast?_singleton,
        Option.some_or, Option.map_some, Option.getD_some]
      rcases List.mem_append.mp member with early | here
      · exact le_of_lt (order.2.2 x early last List.mem_cons_self)
      · exact le_of_eq (congrArg key (List.mem_singleton.mp here))
  have forward := visits_ahead sorted (by rw [parts, List.append_nil]) passed beyond behind.length
  rw [visits_wrap sorted parts ended] at forward
  have whole : items.length = ahead.length + behind.length := by
    rw [parts, List.length_append, Nat.add_comm]
  rw [whole, forward, parts]
  exact List.perm_append_comm

end Rotation
