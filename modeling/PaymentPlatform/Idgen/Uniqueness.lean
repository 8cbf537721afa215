import PaymentPlatform.Idgen.Generator

/-! No string is returned twice: the counters that a generator still holds and those
already returned are below the durable counter of their issuer, and disjoint. -/

namespace PaymentPlatform.Idgen

open Framing Serial

variable {issuer : Bytes} {block : CounterBlock} {g g' : Generator} {blockSize : Int}
variable {st st' : Issuers} {index : Nat}

theorem uint64_inj {v w : Int} (hv : 0 < v ∧ v ≤ maxInt8) (hw : 0 < w ∧ w ≤ maxInt8)
    (same : uint64 v = uint64 w) : v = w := by
  have values := congrArg Fin.val same
  simp only [uint64] at values
  unfold maxInt8 at hv hw
  omega

def Issued.InRange (id : Issued) : Prop :=
  (0 < id.incarnation ∧ id.incarnation ≤ maxInt8) ∧ 0 < id.counter ∧ id.counter ≤ maxInt8

theorem Issued.text_inj {a b : Issued} (ha : a.InRange) (hb : b.InRange)
    (same : a.text = b.text) : a = b := by
  have parts := Identifier.text_injective same
  simp only [Identifier.mk.injEq] at parts
  obtain ⟨issuer, incarnation, counter⟩ := parts
  cases a
  cases b
  simp only [Issued.mk.injEq]
  exact ⟨issuer, uint64_inj ha.1 hb.1 incarnation, uint64_inj ha.2 hb.2 counter⟩

def Generator.Holds (g : Generator) (c : Int) : Prop := g.next ≠ 0 ∧ g.next ≤ c ∧ c ≤ g.last

def Reserved (st : Issuers) (id : Issued) : Prop :=
  ∃ row, st.lookup id.issuer = some row ∧ id.incarnation = row.incarnation ∧ 0 < id.counter ∧
    id.counter < row.nextCounter

def Advanced (st st' : Issuers) : Prop :=
  ∀ issuer row, st.lookup issuer = some row → ∃ later, st'.lookup issuer = some later ∧
    later.incarnation = row.incarnation ∧ row.nextCounter ≤ later.nextCounter

theorem Advanced.insert {next : IssuerRow} (forward : ∀ row, st.lookup issuer = some row →
      next.incarnation = row.incarnation ∧ row.nextCounter ≤ next.nextCounter) :
    Advanced st (st.insert issuer next) := by
  intro id row found
  by_cases same : id = issuer
  · subst same
    exact ⟨next, AList.lookup_insert _, forward row found⟩
  · exact ⟨row, (AList.lookup_insert_ne same).trans found, rfl, le_refl _⟩

theorem Reserved.advance {id : Issued} (reserved : Reserved st id)
    (advanced : Advanced st st') : Reserved st' id := by
  obtain ⟨row, found, incarnation, low, high⟩ := reserved
  obtain ⟨later, kept, same, forward⟩ := advanced _ row found
  exact ⟨later, kept, incarnation.trans same.symm, low, by omega⟩

/-- The invariant; `ids` are the parts of the strings returned so far. -/
structure Exclusive (ids : List Issued) (w : World) : Prop where
  returned : w.returned = ids.map Issued.text
  distinct : ids.Nodup
  checked : ∀ issuer row, w.issuers.lookup issuer = some row → row.Checked
  reserved : ∀ id ∈ ids, Reserved w.issuers id
  passed : ∀ id ∈ ids, ∀ g ∈ w.generators, g.issuer = id.issuer → ¬ g.Holds id.counter
  held : ∀ g ∈ w.generators, ∀ c, g.Holds c → Reserved w.issuers ⟨g.issuer, g.incarnation, c⟩
  disjoint : ∀ (i j : Nat) (g h : Generator), w.generators[i]? = some g → w.generators[j]? = some h → i ≠ j →
    g.issuer = h.issuer → ∀ c, g.Holds c → ¬ h.Holds c

namespace Exclusive

variable {ids : List Issued} {w : World}

theorem empty : Exclusive [] World.empty := by
  refine ⟨rfl, .nil, ?_, ?_, ?_, ?_, ?_⟩ <;> simp [World.empty]

theorem advance (exclusive : Exclusive ids w) {next : IssuerRow}
    (forward : ∀ row, w.issuers.lookup issuer = some row →
      next.incarnation = row.incarnation ∧ row.nextCounter ≤ next.nextCounter)
    (checked : next.Checked) : Exclusive ids { w with issuers := w.issuers.insert issuer next } where
  returned := exclusive.returned
  distinct := exclusive.distinct
  checked := AList.forall_insert checked exclusive.checked
  reserved id member := (exclusive.reserved id member).advance (.insert forward)
  passed := exclusive.passed
  held g member c holds := (exclusive.held g member c holds).advance (.insert forward)
  disjoint := exclusive.disjoint

theorem push (exclusive : Exclusive ids w) (fresh : g.next = 0) :
    Exclusive ids { w with generators := w.generators ++ [g] } where
  returned := exclusive.returned
  distinct := exclusive.distinct
  checked := exclusive.checked
  reserved := exclusive.reserved
  passed id member h known := by
    rcases List.mem_append.mp known with old | new
    · exact exclusive.passed id member h old
    · cases List.mem_singleton.mp new
      intro _ holds
      exact holds.1 fresh
  held h known c holds := by
    rcases List.mem_append.mp known with old | new
    · exact exclusive.held h old c holds
    · cases List.mem_singleton.mp new
      exact absurd fresh holds.1
  disjoint i j a b first second different same c holds := by
    have old : ∀ (k : Nat) (h : Generator), (w.generators ++ [g])[k]? = some h → h.Holds c →
        w.generators[k]? = some h := by
      intro k h known holds
      rw [List.getElem?_append] at known
      split at known
      · exact known
      · have is := List.mem_of_getElem? known
        cases List.mem_singleton.mp is
        exact absurd fresh holds.1
    intro other
    exact exclusive.disjoint i j a b (old i a first holds) (old j b second other) different same c
      holds other

theorem replace (exclusive : Exclusive ids w) (issuer : g'.issuer = g.issuer)
    (reserved : ∀ c, g'.Holds c → Reserved w.issuers ⟨g'.issuer, g'.incarnation, c⟩)
    (passed : ∀ c, g'.Holds c → ∀ id ∈ ids, id.issuer = g.issuer → id.counter ≠ c)
    (apart : ∀ c, g'.Holds c → ∀ (j : Nat) h, w.generators[j]? = some h → j ≠ index →
      h.issuer = g.issuer → ¬ h.Holds c) :
    Exclusive ids { w with generators := w.generators.set index g' } where
  returned := exclusive.returned
  distinct := exclusive.distinct
  checked := exclusive.checked
  reserved := exclusive.reserved
  passed id member h known same holds := by
    rcases List.mem_or_eq_of_mem_set known with old | rfl
    · exact exclusive.passed id member h old same holds
    · exact passed _ holds id member (same.symm.trans issuer) rfl
  held h known c holds := by
    rcases List.mem_or_eq_of_mem_set known with old | rfl
    · exact exclusive.held h old c holds
    · exact reserved c holds
  disjoint i j a b first second different same c holds other := by
    have at_index : ∀ (k : Nat) (h : Generator), (w.generators.set index g')[k]? = some h →
        (k = index ∧ h = g') ∨ (k ≠ index ∧ w.generators[k]? = some h) := by
      intro k h known
      rw [List.getElem?_set] at known
      split at known
      · rename_i here
        split at known
        · cases known
          exact .inl ⟨here.symm, rfl⟩
        · cases known
      · rename_i away
        exact .inr ⟨fun here => away here.symm, known⟩
    rcases at_index i a first with ⟨rfl, rfl⟩ | ⟨away, before⟩
    · rcases at_index j b second with ⟨here, _⟩ | ⟨away, before⟩
      · exact different here.symm
      · exact apart c holds j b before away (same.symm.trans issuer) other
    · rcases at_index j b second with ⟨rfl, rfl⟩ | ⟨_, before'⟩
      · exact apart c other i a before away (same.trans issuer) holds
      · exact exclusive.disjoint i j a b before before' different same c holds other

theorem emit (exclusive : Exclusive ids w)
    (here : w.generators[index]? = some g) (ready : ¬ g.exhausted) :
    Exclusive (ids ++ [g.current]) (emit w index g) := by
  unfold Generator.exhausted at ready
  have member := List.mem_of_getElem? here
  have holds : g.Holds g.next := ⟨by omega, by omega, by omega⟩
  have positive := exclusive.held g member _ holds
  have shrinks : ∀ c, ({ g with next := g.next + 1 } : Generator).Holds c →
      g.Holds c ∧ c ≠ g.next := by
    intro c later
    simp only [Generator.Holds] at later ⊢
    omega
  have moved : Exclusive ids
      { w with generators := w.generators.set index { g with next := g.next + 1 } } := by
    refine exclusive.replace (g := g) rfl ?_ ?_ ?_
    · intro c later
      exact exclusive.held g member c (shrinks c later).1
    · intro c later id known same equal
      exact exclusive.passed id known g member same.symm (equal ▸ (shrinks c later).1)
    · intro c later j h known other same
      exact exclusive.disjoint index j g h here known other.symm same.symm c (shrinks c later).1
  have fresh : g.current ∉ ids := by
    intro known
    exact exclusive.passed g.current known g member rfl holds
  refine ⟨?_, ?_, moved.checked, ?_, ?_, moved.held, moved.disjoint⟩
  · simp [Idgen.emit, exclusive.returned]
  · rw [List.nodup_append_comm]
    exact List.nodup_cons.mpr ⟨fresh, exclusive.distinct⟩
  · intro id known
    rcases List.mem_append.mp known with old | new
    · exact exclusive.reserved id old
    · cases List.mem_singleton.mp new
      exact positive
  · intro id known h place same later
    rcases List.mem_append.mp known with old | new
    · exact moved.passed id old h place same later
    · cases List.mem_singleton.mp new
      obtain ⟨k, at_k⟩ := List.mem_iff_getElem?.mp place
      rw [Idgen.emit, List.getElem?_set] at at_k
      split at at_k
      · split at at_k
        · cases at_k
          exact (shrinks _ later).2 rfl
        · cases at_k
      · rename_i away
        exact exclusive.disjoint index k g h here at_k away same.symm _ holds later

end Exclusive

theorem reserveBlock_ok (h : reserveBlock issuer blockSize st = .ok (st', block)) :
    ∃ row next, st' = st.insert issuer next ∧ st.lookup issuer = some row ∧ next.Checked ∧
      next.incarnation = row.incarnation ∧ block.incarnation = row.incarnation ∧
      block.first = row.nextCounter ∧ block.first ≤ block.last ∧ block.last < next.nextCounter := by
  simp only [reserveBlock, enforceMonotonicUpdate, steps_ok] at h
  obtain ⟨row, found, _, _, _, _, _, checked, _, valid, rfl, rfl⟩ := h
  refine ⟨row, _, rfl, found, checked, rfl, rfl, ?_, valid.2.2, ?_⟩ <;> dsimp only <;> omega

theorem enforceMonotonicUpdate_ok {old new : IssuerRow}
    (h : enforceMonotonicUpdate old new = .ok ()) :
    new.incarnation = old.incarnation ∧ old.nextCounter ≤ new.nextCounter := by
  simp only [enforceMonotonicUpdate, require_ok] at h
  exact ⟨h.1, h.2.2.1.le⟩

namespace Exclusive

variable {ids : List Issued} {w : World}

theorem cache (exclusive : Exclusive ids w) (index : Nat)
    (h : reserveBlock g.issuer g.blockSize w.issuers = .ok (st, block))
    (cached : g.cache block = .ok g') :
    Exclusive ids { w with issuers := st, generators := w.generators.set index g' } ∧
      ¬ g'.exhausted := by
  obtain ⟨row, next, rfl, found, checked, incarnation, sameIncarnation, first, nonempty, last⟩ :=
    reserveBlock_ok h
  simp only [Generator.cache, steps_ok] at cached
  obtain ⟨_, valid, rfl⟩ := cached
  have forward : ∀ old, w.issuers.lookup g.issuer = some old →
      next.incarnation = old.incarnation ∧ old.nextCounter ≤ next.nextCounter := by
    intro old known
    cases found.symm.trans known
    exact ⟨incarnation, by omega⟩
  have below : ∀ id, Reserved w.issuers id → id.issuer = g.issuer →
      id.counter < row.nextCounter := by
    rintro id ⟨other, known, _, _, high⟩ same
    rw [same] at known
    cases found.symm.trans known
    exact high
  constructor
  · refine (exclusive.advance forward checked).replace (g := g) (by rfl) ?_ ?_ ?_
    · intro c holds
      exact ⟨next, AList.lookup_insert _, sameIncarnation.trans incarnation.symm,
        by have := holds.2.1; have := valid.2.1; dsimp only at *; omega,
        by have := holds.2.2; dsimp only at *; omega⟩
    · rintro c holds id known same rfl
      have old := below id (exclusive.reserved id known) same
      have := holds.2.1
      dsimp only at this
      omega
    · intro c holds j h known _ same other
      have old := below _ (exclusive.held h (List.mem_of_getElem? known) c other) same
      have := holds.2.1
      dsimp only at this old
      omega
  · have := valid.2.1
    simp only [Generator.exhausted]
    omega

theorem burn (exclusive : Exclusive ids w)
    (h : reserveBlock issuer blockSize w.issuers = .ok (st, block)) :
    Exclusive ids { w with issuers := st } := by
  obtain ⟨row, next, rfl, found, checked, incarnation, _, first, nonempty, last⟩ :=
    reserveBlock_ok h
  apply exclusive.advance _ checked
  intro old known
  cases found.symm.trans known
  exact ⟨incarnation, by omega⟩

theorem next (exclusive : Exclusive ids w) (index : Nat) (delivery : Delivery) :
    ∃ ids, Exclusive ids (nextStep index delivery w) := by
  unfold nextStep
  split
  · exact ⟨ids, exclusive⟩
  · rename_i g here
    split
    · split
      · exact ⟨ids, exclusive⟩
      · exact ⟨ids, exclusive⟩
      · rename_i h
        exact ⟨ids, exclusive.burn h⟩
      · rename_i st block h
        split
        · exact ⟨ids, exclusive.burn h⟩
        · rename_i g' cached
          obtain ⟨held, ready⟩ := exclusive.cache index h cached
          have inside := (List.getElem?_eq_some_iff.mp here).1
          have place : (w.generators.set index g')[index]? = some g' :=
            List.getElem?_set_self inside
          have emitted := held.emit place ready
          simp only [Idgen.emit, List.set_set] at emitted
          exact ⟨_, emitted⟩
    · rename_i ready
      exact ⟨_, exclusive.emit here ready⟩

end Exclusive

theorem step_exclusive (w : World) (command : Command) (before : ∃ ids, Exclusive ids w) :
    ∃ ids, Exclusive ids (step w command) := by
  obtain ⟨ids, exclusive⟩ := before
  cases command with
  | insertIssuer =>
    refine ⟨ids, ?_⟩
    apply commit_preserves _ (fun st => Exclusive ids { w with issuers := st }) exclusive
    intro st _ h
    simp only [insertIssuer, steps_ok] at h
    obtain ⟨_, fresh, _, checked, rfl, _⟩ := h
    apply exclusive.advance _ checked
    intro old known
    cases fresh.symm.trans known
  | updateIssuer =>
    refine ⟨ids, ?_⟩
    apply commit_preserves _ (fun st => Exclusive ids { w with issuers := st }) exclusive
    intro st _ h
    simp only [updateIssuer, steps_ok] at h
    obtain ⟨old, found, _, enforced, _, checked, rfl, _⟩ := h
    apply exclusive.advance _ checked
    intro other known
    cases found.symm.trans known
    exact enforceMonotonicUpdate_ok enforced
  | new issuer blockSize =>
    simp only [step]
    split
    · rename_i g h
      simp only [newGenerator, steps_ok] at h
      obtain ⟨_, _, _, _, rfl⟩ := h
      exact ⟨ids, exclusive.push rfl⟩
    · exact ⟨ids, exclusive⟩
  | next index delivery => exact exclusive.next index delivery

/-- No two successful calls of Next return the same string. -/
theorem identifiers_are_unique (commands : List Command) :
    (run step World.empty commands).returned.Nodup := by
  obtain ⟨ids, exclusive⟩ := run_preserves step (fun w => ∃ ids, Exclusive ids w) step_exclusive
    commands ⟨[], .empty⟩
  rw [exclusive.returned]
  apply exclusive.distinct.map_on
  have inRange : ∀ id ∈ ids, id.InRange := by
    intro id member
    obtain ⟨row, found, incarnation, low, high⟩ := exclusive.reserved id member
    obtain ⟨positive, bounded, _, limit⟩ := exclusive.checked _ row found
    refine ⟨?_, low, ?_⟩
    · rw [incarnation]
      exact ⟨positive, bounded⟩
    · omega
  intro a ha b hb same
  exact Issued.text_inj (inRange a ha) (inRange b hb) same

end PaymentPlatform.Idgen
