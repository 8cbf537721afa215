import PaymentPlatform.Ledger.Types

/-! What Validate accepts. The loop keeps two totals for each asset and checks their size
after every line; with positive amounts the last totals are the largest, so only the sums
over all lines count. -/

namespace PaymentPlatform.Ledger

open Framing Serial

variable {perAsset totals : Table Bytes Totals} {lines : List Line} {line : Line} {index : Nat}
  {side : Side} {asset : Bytes} {request : PostRequest}

structure Line.WellFormed (line : Line) : Prop where
  account : validId line.accountId
  asset : validId line.assetId
  side : line.side = Side.debit.text ∨ line.side = Side.credit.text
  positive : 0 < line.amountAtoms

def sumOf (side : Side) (asset : Bytes) (lines : List Line) : Int :=
  ((lines.filter fun line => line.assetId = asset ∧ line.side = side.text).map
    (·.amountAtoms)).sum

/-- The conditions on a request, with sums in place of the loop. -/
structure PostRequest.WellFormed (r : PostRequest) : Prop where
  header : validId r.transactionId ∧ validId r.bookId ∧ validId r.operationId ∧
    validId r.effectId ∧ r.kind ≠ [] ∧ r.postingRuleVersion ≠ []
  schemaVersion : 0 < r.schemaVersion.toInt
  reference : ∀ reference ∈ r.referenceTransactionId, validId reference
  atLeastTwo : 2 ≤ r.lines.length
  metadata : (canonicalJson r.metadata).isSome
  lines : ∀ line ∈ r.lines, line.WellFormed
  balanced : ∀ asset, sumOf .debit asset r.lines = sumOf .credit asset r.lines
  bounded : ∀ asset, sumOf .debit asset r.lines < 10 ^ 38

theorem sumOf_cons (side : Side) (asset : Bytes) (line : Line) (lines : List Line) :
    sumOf side asset (line :: lines) =
      (if line.assetId = asset ∧ line.side = side.text then line.amountAtoms else 0) +
        sumOf side asset lines := by
  unfold sumOf
  rw [List.filter_cons]
  by_cases counts : line.assetId = asset ∧ line.side = side.text
  · simp [counts]
  · rw [if_neg counts, if_neg (by simpa using counts), zero_add]

theorem sumOf_nonneg (positive : ∀ line ∈ lines, line.WellFormed) : 0 ≤ sumOf side asset lines := by
  refine List.sum_nonneg fun amount member => ?_
  obtain ⟨line, kept, rfl⟩ := List.mem_map.mp member
  exact (positive line (List.mem_of_mem_filter kept)).positive.le

theorem sumOf_perm {lines' : List Line} (same : lines.Perm lines') :
    sumOf side asset lines = sumOf side asset lines' :=
  ((same.filter _).map _).sum_eq

theorem fits_of_lt {value : Int} (nonneg : 0 ≤ value) (small : value < 10 ^ 38) :
    fitsDecimal38 value := by
  unfold fitsDecimal38 maxAtomicDigits
  omega

def held (perAsset : Table Bytes Totals) (asset : Bytes) : Totals :=
  (perAsset.lookup asset).getD ⟨0, 0⟩

theorem held_insert (perAsset : Table Bytes Totals) (asset other : Bytes) (totals : Totals) :
    held (perAsset.insert asset totals) other =
      if other = asset then totals else held perAsset other := by
  unfold held
  rw [AList.lookup_insert_if]
  split <;> rfl

def Totals.plus (totals : Totals) (asset : Bytes) (lines : List Line) : Totals :=
  ⟨totals.debit + sumOf .debit asset lines, totals.credit + sumOf .credit asset lines⟩

theorem add_plus (totals : Totals) (lines : List Line) (formed : line.WellFormed) :
    (totals.add line).plus line.assetId lines = totals.plus line.assetId (line :: lines) := by
  have apart : Side.debit.text ≠ Side.credit.text := by decide
  unfold Totals.plus Totals.add
  rw [sumOf_cons, sumOf_cons]
  rcases formed.side with debit | credit
  · have other : line.side ≠ Side.credit.text := fun credit => apart (debit.symm.trans credit)
    rw [if_pos debit, if_pos ⟨rfl, debit⟩, if_neg fun both => other both.2]
    simp only [Totals.mk.injEq]
    omega
  · have other : line.side ≠ Side.debit.text := fun debit => apart (debit.symm.trans credit)
    rw [if_neg other, if_neg fun both => other both.2, if_pos ⟨rfl, credit⟩]
    simp only [Totals.mk.injEq]
    omega

theorem plus_other (totals : Totals) (lines : List Line) (other : asset ≠ line.assetId) :
    totals.plus asset (line :: lines) = totals.plus asset lines := by
  unfold Totals.plus
  rw [sumOf_cons, sumOf_cons, if_neg fun both => other both.1.symm,
    if_neg fun both => other both.1.symm, zero_add, zero_add]

theorem validateLine_ok : validateLine perAsset index line = .ok totals ↔
    line.WellFormed ∧ fitsDecimal38 line.amountAtoms ∧
      (fitsDecimal38 ((held perAsset line.assetId).add line).debit ∧
        fitsDecimal38 ((held perAsset line.assetId).add line).credit) ∧
      perAsset.insert line.assetId ((held perAsset line.assetId).add line) = totals := by
  simp only [validateLine, steps_ok]
  constructor
  · rintro ⟨_, ids, _, side, _, amount, _, fits, rfl⟩
    exact ⟨⟨ids.1, ids.2, side, amount.1⟩, amount.2, fits, rfl⟩
  · rintro ⟨formed, amount, fits, rfl⟩
    exact ⟨(), ⟨formed.account, formed.asset⟩, (), formed.side, (), ⟨formed.positive, amount⟩, (),
      fits, rfl⟩

theorem validateLines_ok (validated : validateLines index perAsset lines = .ok totals) :
    (∀ line ∈ lines, line.WellFormed) ∧
    (∀ asset, held totals asset = (held perAsset asset).plus asset lines) ∧
    ((∀ asset, fitsDecimal38 (held perAsset asset).debit) →
      ∀ asset, fitsDecimal38 (held totals asset).debit) := by
  induction lines generalizing index perAsset with
  | nil =>
    cases Except.ok.inj validated
    refine ⟨by simp, fun asset => ?_, id⟩
    simp [Totals.plus, sumOf]
  | cons line rest ih =>
    obtain ⟨next, first, others⟩ := bind_ok.mp validated
    obtain ⟨formed, _, fits, rfl⟩ := validateLine_ok.mp first
    obtain ⟨restFormed, sums, size⟩ := ih others
    refine ⟨List.forall_mem_cons.mpr ⟨formed, restFormed⟩, fun asset => ?_, fun before => ?_⟩
    · rw [sums asset, held_insert]
      split
      · rename_i same
        rw [same]
        exact add_plus _ _ formed
      · rename_i other
        exact (plus_other _ _ other).symm
    · refine size fun asset => ?_
      rw [held_insert]
      split
      · exact fits.1
      · exact before asset

theorem validateLines_accepts (formed : ∀ line ∈ lines, line.WellFormed)
    (nonneg : ∀ asset, 0 ≤ (held perAsset asset).debit ∧ 0 ≤ (held perAsset asset).credit)
    (small : ∀ asset, ((held perAsset asset).plus asset lines).debit < 10 ^ 38 ∧
      ((held perAsset asset).plus asset lines).credit < 10 ^ 38) :
    ∃ totals, validateLines index perAsset lines = .ok totals := by
  induction lines generalizing index perAsset with
  | nil => exact ⟨perAsset, rfl⟩
  | cons line rest ih =>
    obtain ⟨first, others⟩ := List.forall_mem_cons.mp formed
    have grown := add_plus (held perAsset line.assetId) rest first
    have last := small line.assetId
    have debits : 0 ≤ sumOf .debit line.assetId rest := sumOf_nonneg others
    have credits : 0 ≤ sumOf .credit line.assetId rest := sumOf_nonneg others
    rw [← grown] at last
    simp only [Totals.plus] at last
    have start := nonneg line.assetId
    have positive := first.positive
    have sides : 0 ≤ ((held perAsset line.assetId).add line).debit ∧
        0 ≤ ((held perAsset line.assetId).add line).credit ∧
        (line.amountAtoms ≤ ((held perAsset line.assetId).add line).debit ∨
          line.amountAtoms ≤ ((held perAsset line.assetId).add line).credit) := by
      unfold Totals.add
      split
      · simp only
        omega
      · simp only
        omega
    have step : validateLine perAsset index line = .ok _ :=
      validateLine_ok.mpr ⟨first, fits_of_lt positive.le (by omega),
        ⟨fits_of_lt sides.1 (by omega), fits_of_lt sides.2.1 (by omega)⟩, rfl⟩
    have later : ∃ totals, validateLines (index + 1)
        (perAsset.insert line.assetId ((held perAsset line.assetId).add line)) rest = .ok totals := by
      refine ih others (fun asset => ?_) (fun asset => ?_)
      · rw [held_insert]
        split
        · exact ⟨sides.1, sides.2.1⟩
        · exact nonneg asset
      · rw [held_insert]
        split
        · rename_i same
          rw [same, grown]
          exact small line.assetId
        · rename_i other
          rw [← plus_other _ _ other]
          exact small asset
    obtain ⟨totals, done⟩ := later
    exact ⟨totals, bind_ok.mpr ⟨_, step, done⟩⟩

theorem checkBalanced_ok : checkBalanced perAsset = .ok () ↔
    ∀ asset, (held perAsset asset).debit = (held perAsset asset).credit := by
  unfold checkBalanced
  constructor
  · intro checked asset
    split at checked
    · cases checked
    · rename_i balanced
      unfold held
      cases found : perAsset.lookup asset with
      | none => rfl
      | some =>
        have member := (AList.mem_rows _ _ _).mpr found
        simpa using List.find?_eq_none.mp balanced _ member
  · intro balanced
    split
    · rename_i asset totals unequal
      have member := List.mem_of_find?_eq_some unequal
      have same := balanced asset
      rw [held, (AList.mem_rows _ _ _).mp member, Option.getD_some] at same
      have differs := List.find?_some unequal
      simp [same] at differs
    · rfl

theorem held_empty_plus (asset : Bytes) (lines : List Line) :
    (held ∅ asset).plus asset lines = ⟨sumOf .debit asset lines, sumOf .credit asset lines⟩ := by
  show Totals.plus ⟨0, 0⟩ _ _ = _
  rw [Totals.plus, zero_add, zero_add]

theorem validate_wellFormed (valid : request.validate = .ok ()) : request.WellFormed := by
  simp only [PostRequest.validate, steps_ok] at valid
  obtain ⟨_, header, _, version, _, reference, _, two, _, canonical, totals, validated, checked⟩ :=
    valid
  obtain ⟨formed, sums, size⟩ := validateLines_ok validated
  have empty : ∀ asset, held totals asset =
      ⟨sumOf .debit asset request.lines, sumOf .credit asset request.lines⟩ := by
    intro asset
    rw [sums asset, held_empty_plus]
  refine ⟨header, version, reference, two, by rw [canonical]; rfl, formed, fun asset => ?_,
    fun asset => ?_⟩
  · have same := checkBalanced_ok.mp checked asset
    rwa [empty] at same
  · have fits := size (fun _ => show fitsDecimal38 0 by decide) asset
    rw [empty] at fits
    have nonneg : 0 ≤ sumOf .debit asset request.lines := sumOf_nonneg formed
    unfold fitsDecimal38 maxAtomicDigits at fits
    simp only at fits
    omega

theorem PostRequest.WellFormed.validate (formed : request.WellFormed) : request.validate = .ok () := by
  obtain ⟨canonical, made⟩ := Option.isSome_iff_exists.mp formed.metadata
  have loop : ∃ totals, validateLines 0 ∅ request.lines = .ok totals := by
    refine validateLines_accepts formed.lines (fun _ => ⟨le_rfl, le_rfl⟩) fun asset => ?_
    rw [held_empty_plus]
    exact ⟨formed.bounded asset, formed.balanced asset ▸ formed.bounded asset⟩
  obtain ⟨totals, validated⟩ := loop
  have checked : checkBalanced totals = .ok () := by
    refine checkBalanced_ok.mpr fun asset => ?_
    rw [(validateLines_ok validated).2.1 asset, held_empty_plus]
    exact formed.balanced asset
  simp only [PostRequest.validate, steps_ok]
  exact ⟨(), formed.header, (), formed.schemaVersion, (), formed.reference, (), formed.atLeastTwo,
    canonical, made, totals, validated, checked⟩

theorem PostRequest.WellFormed.perm {lines' : List Line} (formed : request.WellFormed)
    (same : request.lines.Perm lines') :
    PostRequest.WellFormed { request with lines := lines' } where
  header := formed.header
  schemaVersion := formed.schemaVersion
  reference := formed.reference
  atLeastTwo := same.length_eq ▸ formed.atLeastTwo
  metadata := formed.metadata
  lines line member := formed.lines line (same.mem_iff.mpr member)
  balanced asset := by
    show sumOf .debit asset lines' = sumOf .credit asset lines'
    rw [← sumOf_perm same, ← sumOf_perm same]
    exact formed.balanced asset
  bounded asset := by
    show sumOf .debit asset lines' < 10 ^ 38
    rw [← sumOf_perm same]
    exact formed.bounded asset

/-- Validate accepts just the requests that are well formed and balanced in every asset,
and its verdict does not depend on the order of the lines. -/
theorem validate_accepts_balanced (request : PostRequest) :
    (request.validate = .ok () ↔ request.WellFormed) ∧
    ∀ lines', request.lines.Perm lines' →
      (PostRequest.validate { request with lines := lines' } = .ok () ↔
        request.validate = .ok ()) := by
  refine ⟨⟨validate_wellFormed, PostRequest.WellFormed.validate⟩, fun lines' same => ⟨fun valid => ?_,
    fun valid => ?_⟩⟩
  · exact ((validate_wellFormed valid).perm same.symm).validate
  · exact ((validate_wellFormed valid).perm same).validate

end PaymentPlatform.Ledger
