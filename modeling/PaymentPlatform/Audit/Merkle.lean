import PaymentPlatform.Audit.Verify

/-! What the Merkle root of a list of leaves commits to. -/

namespace PaymentPlatform.Audit

open Framing Ledger

variable {E : Engine} {index : Nat} {level level' : List Digest} {inputs : Set Bytes}
  {k j : Nat} {x : Digest}

def merkleNodeInput (left right : Digest) (index : Nat) : Bytes :=
  merkleNodeDomain ++ (left.val ++ (right.val ++ bigEndian 8 index))

def levelInputs : Nat → List Digest → List Bytes
  | _, [] => []
  | index, [node] => [merkleNodeInput node node index]
  | index, left :: right :: rest =>
    merkleNodeInput left right index :: levelInputs (index + 1) rest

def merkleInputs (E : Engine) : List Digest → List Bytes
  | [] => [ascii "payment-platform/merkle-empty/v1" ++ [0]]
  | [_] => []
  | left :: right :: rest => levelInputs 0 (left :: right :: rest) ++
      merkleInputs E (merkleLevel E 0 (left :: right :: rest))
termination_by level => level.length
decreasing_by
  simp only [merkleLevel_length, List.length_cons]
  omega

theorem merkleLevel_eq (E : Engine) (index : Nat) (level : List Digest) :
    merkleLevel E index level = (levelInputs index level).map E.sha256 := by
  induction index, level using merkleLevel.induct with
  | case1 => rfl
  | case2 => rfl
  | case3 index left right rest ih =>
    rw [merkleLevel, levelInputs, List.map_cons, ih]
    rfl

theorem merkleNodeInput_inj {left right left' right' : Digest} {index' : Nat}
    (same : merkleNodeInput left right index = merkleNodeInput left' right' index') :
    left = left' ∧ right = right' := by
  have rest := List.append_cancel_left same
  obtain ⟨first, rest⟩ := List.append_inj rest (left.property.trans left'.property.symm)
  obtain ⟨second, _⟩ := List.append_inj rest (right.property.trans right'.property.symm)
  exact ⟨Subtype.ext first, Subtype.ext second⟩

theorem mem_levelInputs {b : Bytes} (member : b ∈ levelInputs index level) :
    ∃ left ∈ level, ∃ right i, b = merkleNodeInput left right i := by
  induction index, level using levelInputs.induct with
  | case1 => cases member
  | case2 index node =>
    exact ⟨node, List.mem_cons_self, node, index, List.mem_singleton.mp member⟩
  | case3 index left right rest ih =>
    rcases List.mem_cons.mp member with here | later
    · exact ⟨left, List.mem_cons_self, right, index, here⟩
    · obtain ⟨other, inside, found⟩ := ih later
      exact ⟨other, List.mem_cons_of_mem _ (List.mem_cons_of_mem _ inside), found⟩

theorem levelInputs_nodup (distinct : level.Nodup) : (levelInputs index level).Nodup := by
  induction index, level using levelInputs.induct with
  | case1 => exact .nil
  | case2 => exact List.nodup_singleton _
  | case3 index left right rest ih =>
    obtain ⟨fresh, others⟩ := List.nodup_cons.mp distinct
    refine List.nodup_cons.mpr ⟨fun member => ?_, ih (List.nodup_cons.mp others).2⟩
    obtain ⟨other, inside, _, _, same⟩ := mem_levelInputs member
    rw [(merkleNodeInput_inj same).1] at fresh
    exact fresh (List.mem_cons_of_mem _ inside)

theorem levelInputs_inj (distinct : level.Nodup) (distinct' : level'.Nodup)
    (same : levelInputs index level = levelInputs index level') : level = level' := by
  induction index, level using levelInputs.induct generalizing level' with
  | case1 =>
    match level', same with
    | [], _ => rfl
    | [_], same => cases same
    | _ :: _ :: _, same => cases same
  | case2 =>
    match level', same with
    | [other], same => rw [(merkleNodeInput_inj (List.cons.inj same).1).1]
    | left :: right :: rest, same =>
      obtain ⟨first, second⟩ := merkleNodeInput_inj (List.cons.inj same).1
      exact absurd (first.symm.trans second) (by simp at distinct'; tauto)
  | case3 index left right rest ih =>
    match level', same with
    | [other], same =>
      obtain ⟨first, second⟩ := merkleNodeInput_inj (List.cons.inj same).1
      exact absurd (first.trans second.symm) (by simp at distinct; tauto)
    | left' :: right' :: rest', same =>
      obtain ⟨here, later⟩ := List.cons.inj same
      obtain ⟨first, second⟩ := merkleNodeInput_inj here
      rw [first, second, ih (List.nodup_cons.mp (List.nodup_cons.mp distinct).2).2
        (List.nodup_cons.mp (List.nodup_cons.mp distinct').2).2 later]

theorem map_injOn {f : Bytes → Digest} (free : Set.InjOn f inputs) {xs ys : List Bytes}
    (hx : ∀ b ∈ xs, b ∈ inputs) (hy : ∀ b ∈ ys, b ∈ inputs) (same : xs.map f = ys.map f) :
    xs = ys := by
  induction xs generalizing ys with
  | nil => exact (List.map_eq_nil_iff.mp same.symm).symm
  | cons x xs ih =>
    obtain ⟨y, ys, rfl, hashed, later⟩ := List.map_eq_cons_iff.mp same.symm
    rw [List.forall_mem_cons] at hx hy
    rw [free hx.1 hy.1 hashed.symm, ih hx.2 hy.2 later.symm]

/-- How often a digest is the hash of a node whose left child can be looked at next. -/
def Height (E : Engine) (inputs : Set Bytes) : Nat → Digest → Prop
  | 0, x => ∀ b ∈ inputs, E.sha256 b ≠ x
  | k + 1, x => ∃ left right index, merkleNodeInput left right index ∈ inputs ∧
      E.sha256 (merkleNodeInput left right index) = x ∧ Height E inputs k left

theorem height_unique (free : Set.InjOn E.sha256 inputs) (first : Height E inputs j x)
    (second : Height E inputs k x) : j = k := by
  induction j generalizing k x with
  | zero =>
    cases k with
    | zero => rfl
    | succ =>
      obtain ⟨_, _, _, member, hashed, _⟩ := second
      exact absurd hashed (first _ member)
  | succ j ih =>
    obtain ⟨left, right, index, member, hashed, below⟩ := first
    cases k with
    | zero => exact absurd hashed (second _ member)
    | succ =>
      obtain ⟨left', right', index', member', hashed', below'⟩ := second
      have same := free member member' (hashed.trans hashed'.symm)
      rw [← (merkleNodeInput_inj same).1] at below'
      rw [ih below below']

theorem merkleLevel_height (held : ∀ b ∈ levelInputs index level, b ∈ inputs)
    (heights : ∀ y ∈ level, Height E inputs k y) :
    ∀ y ∈ merkleLevel E index level, Height E inputs (k + 1) y := by
  intro y member
  rw [merkleLevel_eq] at member
  obtain ⟨b, inside, rfl⟩ := List.mem_map.mp member
  obtain ⟨left, here, right, i, rfl⟩ := mem_levelInputs inside
  exact ⟨left, right, i, held _ inside, rfl, heights left here⟩

theorem merkleRoot_height (nonempty : level ≠ []) (held : ∀ b ∈ merkleInputs E level, b ∈ inputs)
    (heights : ∀ y ∈ level, Height E inputs k y) :
    ∃ j, Height E inputs j (merkleRoot E level) ∧ k ≤ j ∧ (1 < level.length → k < j) := by
  induction level using merkleRoot.induct (E := E) generalizing k with
  | case1 => exact absurd rfl nonempty
  | case2 root =>
    rw [merkleRoot]
    exact ⟨k, heights root List.mem_cons_self, le_refl k, fun long => absurd long (by simp)⟩
  | case3 left right rest ih =>
    rw [merkleInputs] at held
    rw [merkleRoot]
    obtain ⟨j, height, above, _⟩ := ih (by simp [merkleLevel])
      (fun b member => held b (List.mem_append_right _ member))
      (merkleLevel_height (fun b member => held b (List.mem_append_left _ member)) heights)
    exact ⟨j, height, by omega, fun _ => above⟩

theorem merkleRoot_ne (free : Set.InjOn E.sha256 inputs) (long : 1 < level.length)
    (held : ∀ b ∈ merkleInputs E level, b ∈ inputs) (heights : ∀ y ∈ level, Height E inputs k y)
    (low : Height E inputs k x) : merkleRoot E level ≠ x := by
  intro root
  obtain ⟨j, height, _, above⟩ :=
    merkleRoot_height (List.ne_nil_of_length_pos (by omega)) held heights
  rw [root] at height
  exact absurd (height_unique free height low) (Nat.ne_of_gt (above long))

theorem merkleRoot_inj (free : Set.InjOn E.sha256 inputs) (nonempty : level ≠ [])
    (nonempty' : level' ≠ []) (distinct : level.Nodup) (distinct' : level'.Nodup)
    (held : ∀ b ∈ merkleInputs E level, b ∈ inputs)
    (held' : ∀ b ∈ merkleInputs E level', b ∈ inputs)
    (heights : ∀ y ∈ level, Height E inputs k y) (heights' : ∀ y ∈ level', Height E inputs k y)
    (same : merkleRoot E level = merkleRoot E level') : level = level' := by
  induction level using merkleRoot.induct (E := E) generalizing level' k with
  | case1 => exact absurd rfl nonempty
  | case2 node =>
    match level', nonempty' with
    | [other], _ => simpa [merkleRoot] using same
    | left :: right :: rest, _ =>
      rw [show merkleRoot E [node] = node by rw [merkleRoot]] at same
      exact absurd same.symm
        (merkleRoot_ne free (by simp) held' heights' (heights node List.mem_cons_self))
  | case3 left right rest ih =>
    match level', nonempty' with
    | [other], _ =>
      rw [show merkleRoot E [other] = other by rw [merkleRoot]] at same
      exact absurd same
        (merkleRoot_ne free (by simp) held heights (heights' other List.mem_cons_self))
    | left' :: right' :: rest', _ =>
      rw [merkleInputs] at held held'
      rw [merkleRoot, merkleRoot] at same
      have here := fun b member => held b (List.mem_append_left _ member)
      have here' := fun b member => held' b (List.mem_append_left _ member)
      have nodes : ∀ {level : List Digest}, level.Nodup → (∀ b ∈ levelInputs 0 level, b ∈ inputs) →
          (merkleLevel E 0 level).Nodup := by
        intro level distinct here
        rw [merkleLevel_eq]
        exact (levelInputs_nodup distinct).map_on fun a ma b mb => free (here a ma) (here b mb)
      have above := ih (by simp [merkleLevel]) (by simp [merkleLevel]) (nodes distinct here)
        (nodes distinct' here') (fun b member => held b (List.mem_append_right _ member))
        (fun b member => held' b (List.mem_append_right _ member))
        (merkleLevel_height here heights) (merkleLevel_height here' heights') same
      rw [merkleLevel_eq, merkleLevel_eq] at above
      exact levelInputs_inj distinct distinct' (map_injOn free here here' above)

/-- Two lists of distinct leaves with the same root are equal, their lengths included,
where SHA-256 has no collision among the strings hashed for them and no leaf is the hash
of one of these strings. -/
theorem merkle_roots_determine_leaves (E : Engine) (xs ys : List Digest) (nonempty : xs ≠ [])
    (nonempty' : ys ≠ []) (distinct : xs.Nodup) (distinct' : ys.Nodup)
    (free : Set.InjOn E.sha256 { b | b ∈ merkleInputs E xs ∨ b ∈ merkleInputs E ys })
    (leaves : ∀ leaf, leaf ∈ xs ∨ leaf ∈ ys →
      ∀ b, b ∈ merkleInputs E xs ∨ b ∈ merkleInputs E ys → E.sha256 b ≠ leaf)
    (same : merkleRoot E xs = merkleRoot E ys) : xs = ys :=
  merkleRoot_inj free nonempty nonempty' distinct distinct' (fun _ member => .inl member)
    (fun _ member => .inr member) (k := 0) (fun leaf member => leaves leaf (.inl member))
    (fun leaf member => leaves leaf (.inr member)) same

def sampleLeaf (byte : UInt8) : Digest := ⟨List.replicate 32 byte, by simp⟩

def sampleInputs : List Bytes :=
  [merkleNodeInput (sampleLeaf 1) (sampleLeaf 2) 0, merkleNodeInput (sampleLeaf 3) (sampleLeaf 3) 1,
    merkleNodeInput (merkleNode sampleEngine (sampleLeaf 1) (sampleLeaf 2) 0)
      (merkleNode sampleEngine (sampleLeaf 3) (sampleLeaf 3) 1) 0]

/-- A third leaf changes the root. -/
theorem sample_merkle_roots_differ :
    merkleRoot sampleEngine [sampleLeaf 1, sampleLeaf 2] ≠
      merkleRoot sampleEngine [sampleLeaf 1, sampleLeaf 2, sampleLeaf 3] := by
  intro same
  have inputs : ∀ b, b ∈ merkleInputs sampleEngine [sampleLeaf 1, sampleLeaf 2] ∨
      b ∈ merkleInputs sampleEngine [sampleLeaf 1, sampleLeaf 2, sampleLeaf 3] →
      b ∈ sampleInputs := by
    intro b
    simp only [merkleInputs, levelInputs, merkleLevel, sampleInputs, List.mem_append, List.mem_cons,
      List.not_mem_nil, or_false]
    tauto
  have free : ∀ b ∈ sampleInputs, ∀ c ∈ sampleInputs,
      sampleEngine.sha256 b = sampleEngine.sha256 c → b = c := by decide +kernel
  have leaves : ∀ leaf ∈ [sampleLeaf 1, sampleLeaf 2, sampleLeaf 3], ∀ b ∈ sampleInputs,
      sampleEngine.sha256 b ≠ leaf := by decide +kernel
  have equal := merkle_roots_determine_leaves sampleEngine _ _ (by simp) (by simp) (by decide)
    (by decide) (fun b hb c hc => free b (inputs b hb) c (inputs c hc))
    (fun leaf member b hb => leaves leaf (by simp at member ⊢; tauto) b (inputs b hb)) same
  cases equal

end PaymentPlatform.Audit
