import Mathlib.Data.List.Forall2
import Mathlib.Data.Set.Function

/-! Chains of digests. Each item is hashed together with the digest before it,
so the last digest commits to the whole list wherever the digest is injective
on what was hashed. -/

namespace HashChain

variable {D X P : Type}

/-- A list of items leads from one digest to another: the item at position `n`
is hashed as some preimage that `entry` allows for the digest before it. -/
inductive Leads (digest : P → D) (entry : Nat → D → X → P → Prop) : Nat → D → List X → D → Prop
  | nil (n : Nat) (d : D) : Leads digest entry n d [] d
  | cons {n : Nat} {d last : D} {x : X} {p : P} {rest : List X} (first : entry n d x p)
      (others : Leads digest entry (n + 1) (digest p) rest last) :
      Leads digest entry n d (x :: rest) last

/-- Same length and same last digest: the same first digest and related items.
The induction goes to the end of the lists and the equality comes back. -/
theorem Leads.commits {digest : P → D} {entry : Nat → D → X → P → Prop} {R : X → X → Prop}
    {inputs : Set P} (free : Set.InjOn digest inputs)
    (unique : ∀ n d d' x x' p, entry n d x p → entry n d' x' p → d = d' ∧ R x x')
    {n : Nat} {xs ys : List X} {d d' last : D} (length : xs.length = ys.length)
    (hx : ∀ m c x p, x ∈ xs → entry m c x p → p ∈ inputs)
    (hy : ∀ m c x p, x ∈ ys → entry m c x p → p ∈ inputs)
    (left : Leads digest entry n d xs last) (right : Leads digest entry n d' ys last) :
    d = d' ∧ List.Forall₂ R xs ys := by
  induction left generalizing ys d' with
  | nil =>
    cases right with
    | nil => exact ⟨rfl, .nil⟩
    | cons => simp at length
  | @cons n d last x p xs first others ih =>
    cases right with
    | nil => simp at length
    | @cons _ _ _ y q ys first' others' =>
      obtain ⟨same, related⟩ := ih (by simpa using length)
        (fun m c z r member => hx m c z r (List.mem_cons_of_mem _ member))
        (fun m c z r member => hy m c z r (List.mem_cons_of_mem _ member)) others'
      have preimage : p = q := free (hx n d x p List.mem_cons_self first)
        (hy n d' y q List.mem_cons_self first') same
      subst preimage
      obtain ⟨previous, here⟩ := unique n d d' x y p first first'
      exact ⟨previous, .cons here related⟩

end HashChain
