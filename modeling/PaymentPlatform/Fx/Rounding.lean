import Mathlib.Algebra.Order.Round
import Mathlib.Data.Rat.Floor
import Mathlib.Tactic.Linarith
import PaymentPlatform.Fx.Service

/-! What Convert computes: the rounding of the exact product with the rate, as a number
and not as a quotient and a remainder. -/

namespace PaymentPlatform.Fx

open Framing Ledger Serial

/-- No integer is nearer to the number, and of two that are as near it is the even one. -/
structure NearestEven (q : ℚ) (n : ℤ) : Prop where
  nearest : ∀ m : ℤ, |q - n| ≤ |q - m|
  even : ∀ m : ℤ, m ≠ n → |q - m| = |q - n| → Even n

def Rounds : RoundingRule → ℚ → ℤ → Prop
  | .floor, q, n => n = ⌊q⌋
  | .ceiling, q, n => n = ⌈q⌉
  | .halfEven, q, n => NearestEven q n

theorem NearestEven.within {q : ℚ} {n : ℤ} (rounded : NearestEven q n) : |q - n| ≤ 1 / 2 :=
  (rounded.nearest (round q)).trans (abs_sub_round q)

theorem NearestEven.mono {q q' : ℚ} {m n : ℤ} (first : NearestEven q m) (second : NearestEven q' n)
    (le : q ≤ q') : m ≤ n := by
  by_contra crossed
  have above : (n : ℚ) + 1 ≤ m := by exact_mod_cast (show n + 1 ≤ m by omega)
  obtain ⟨low, high⟩ := abs_le.mp first.within
  obtain ⟨low', high'⟩ := abs_le.mp second.within
  -- both lie half-way between n and n + 1, and round to either side of it
  have next : m = n + 1 := by
    have : (m : ℚ) ≤ n + 1 := by linarith
    have : m ≤ n + 1 := by exact_mod_cast this
    omega
  subst next
  push_cast at low high above
  have half : q = n + 1 / 2 := by linarith
  have half' : q' = n + 1 / 2 := by linarith
  have upper : Even (n + 1) := by
    refine first.even n (by omega) ?_
    rw [half]
    push_cast
    rw [show (n : ℚ) + 1 / 2 - n = 1 / 2 by ring, show (n : ℚ) + 1 / 2 - (n + 1) = -(1 / 2) by ring,
      abs_neg]
  have lower : Even n := by
    refine second.even (n + 1) (by omega) ?_
    rw [half']
    push_cast
    rw [show (n : ℚ) + 1 / 2 - n = 1 / 2 by ring, show (n : ℚ) + 1 / 2 - (n + 1) = -(1 / 2) by ring,
      abs_neg]
  obtain ⟨a, double⟩ := upper
  obtain ⟨b, double'⟩ := lower
  omega

theorem Rounds.mono {rule : RoundingRule} {q q' : ℚ} {m n : ℤ} (first : Rounds rule q m)
    (second : Rounds rule q' n) (le : q ≤ q') : m ≤ n := by
  cases rule with
  | floor =>
    rw [show m = ⌊q⌋ from first, show n = ⌊q'⌋ from second]
    exact Int.floor_mono le
  | ceiling =>
    rw [show m = ⌈q⌉ from first, show n = ⌈q'⌉ from second]
    exact Int.ceil_mono le
  | halfEven => exact NearestEven.mono first second le

theorem Rounds.unique {rule : RoundingRule} {q : ℚ} {m n : ℤ} (first : Rounds rule q m)
    (second : Rounds rule q n) : m = n :=
  le_antisymm (first.mono second le_rfl) (second.mono first le_rfl)

theorem nearestEven_low {k : ℤ} {part : ℚ} (nonneg : 0 ≤ part) (below : part ≤ 1 / 2)
    (tie : part = 1 / 2 → Even k) : NearestEven (k + part) k := by
  have here : |(k : ℚ) + part - k| = part := by
    rw [show (k : ℚ) + part - k = part by ring, abs_of_nonneg nonneg]
  have far : ∀ m : ℤ, m ≠ k → part ≤ |(k : ℚ) + part - m| ∧
      (|(k : ℚ) + part - m| = part → part = 1 / 2) := by
    intro m differs
    rcases lt_or_gt_of_ne differs with less | more
    · have step : (m : ℚ) + 1 ≤ k := by exact_mod_cast less
      rw [abs_of_nonneg (by linarith)]
      exact ⟨by linarith, fun same => by linarith⟩
    · have step : (k : ℚ) + 1 ≤ m := by exact_mod_cast more
      rw [abs_of_nonpos (by linarith)]
      exact ⟨by linarith, fun same => by linarith⟩
  refine ⟨fun m => ?_, fun m differs same => ?_⟩
  · by_cases same : m = k
    · rw [same]
    · rw [here]
      exact (far m same).1
  · rw [here] at same
    exact tie ((far m differs).2 same)

theorem nearestEven_high {k : ℤ} {part : ℚ} (above : 1 / 2 ≤ part) (less : part < 1)
    (tie : part = 1 / 2 → ¬ Even k) : NearestEven (k + part) (k + 1) := by
  have mirrored : NearestEven (-((k : ℚ) + part)) (-(k + 1)) := by
    have low := @nearestEven_low (-(k + 1)) (1 - part) (by linarith) (by linarith)
      (fun half => ?_)
    · rw [show -((k : ℚ) + part) = ((-(k + 1) : ℤ) : ℚ) + (1 - part) by push_cast; ring]
      exact low
    · rw [even_neg, Int.even_add_one]
      exact tie (by linarith)
  have flip : ∀ m : ℤ, |-((k : ℚ) + part) - ((-m : ℤ) : ℚ)| = |(k : ℚ) + part - m| := by
    intro m
    rw [← abs_neg]
    congr 1
    push_cast
    ring
  refine ⟨fun m => ?_, fun m differs same => ?_⟩
  · have nearest := mirrored.nearest (-m)
    rwa [flip m, flip (k + 1)] at nearest
  · have even := mirrored.even (-m) (by omega) (by rw [flip m, flip (k + 1)]; exact same)
    rwa [even_neg] at even

theorem rounded_rounds (rule : RoundingRule) {product denominator : Int} (nonneg : 0 ≤ product)
    (positive : 0 < denominator) :
    Rounds rule ((product : ℚ) / denominator) (rounded rule product denominator) := by
  have den : (0 : ℚ) < denominator := by exact_mod_cast positive
  obtain ⟨k, quotient⟩ : ∃ k, product.tdiv denominator = k := ⟨_, rfl⟩
  obtain ⟨r, remainder⟩ : ∃ r, product.tmod denominator = r := ⟨_, rfl⟩
  have low : 0 ≤ r := remainder ▸ Int.tmod_nonneg _ nonneg
  have high : r < denominator := remainder ▸ Int.tmod_lt_of_pos _ positive
  have split : product = denominator * k + r := by
    rw [← quotient, ← remainder]
    exact (Int.mul_tdiv_add_tmod _ _).symm
  have value : (product : ℚ) / denominator = k + (r : ℚ) / denominator := by
    rw [split]
    push_cast
    field_simp
  have part : 0 ≤ (r : ℚ) / denominator := div_nonneg (by exact_mod_cast low) den.le
  have less : (r : ℚ) / denominator < 1 := by
    rw [div_lt_one den]
    exact_mod_cast high
  rw [value]
  cases rule with
  | floor =>
    show (rounded .floor product denominator) = ⌊_⌋
    simp only [rounded, quotient]
    rw [Int.floor_intCast_add, Int.floor_eq_zero_iff.mpr ⟨part, less⟩, add_zero]
  | ceiling =>
    show (rounded .ceiling product denominator) = ⌈_⌉
    simp only [rounded, quotient, remainder]
    rw [Int.ceil_intCast_add]
    split
    · rename_i inexact
      have above : (0 : ℚ) < (r : ℚ) / denominator :=
        div_pos (by exact_mod_cast lt_of_le_of_ne low (Ne.symm inexact)) den
      rw [(Int.ceil_eq_iff (z := 1)).mpr ⟨by push_cast; linarith, by push_cast; linarith⟩]
    · rename_i whole
      rw [not_not.mp whole]
      simp
  | halfEven =>
    show NearestEven _ (rounded .halfEven product denominator)
    simp only [rounded, quotient, remainder]
    have twice : ∀ {c : Prop}, ((r : ℚ) / denominator = 1 / 2 → 2 * r = denominator → c) →
        ((r : ℚ) / denominator = 1 / 2 → c) := by
      intro c given half
      refine given half ?_
      rw [div_eq_div_iff den.ne' (by norm_num)] at half
      have : ((2 * r : ℤ) : ℚ) = denominator := by push_cast; linarith
      exact_mod_cast this
    split
    · rename_i up
      have above : 1 / 2 ≤ (r : ℚ) / denominator := by
        rw [div_le_div_iff₀ (by norm_num) den]
        have : denominator ≤ 2 * r := by omega
        have : (denominator : ℚ) ≤ 2 * r := by exact_mod_cast this
        linarith
      refine nearestEven_high above less (twice fun _ same even => ?_)
      obtain ⟨a, double⟩ := even
      omega
    · rename_i down
      have below : (r : ℚ) / denominator ≤ 1 / 2 := by
        rw [div_le_div_iff₀ den (by norm_num)]
        have : 2 * r ≤ denominator := by omega
        have : (2 * r : ℚ) ≤ denominator := by exact_mod_cast this
        linarith
      refine nearestEven_low part below (twice fun _ same => ?_)
      rw [Int.even_iff]
      omega

theorem RoundingRule.ofText_text (rule : RoundingRule) : RoundingRule.ofText rule.text = some rule := by
  cases rule <;> decide

theorem convert_eq {base numerator denominator : Int} (rule : RoundingRule) (first : 0 < base)
    (second : 0 < numerator) (third : 0 < denominator) :
    convert base numerator denominator rule.text =
      if fitsDecimal38 (rounded rule (base * numerator) denominator) then
        .ok (rounded rule (base * numerator) denominator) else .error .amountOverflow := by
  have checked : require (0 < base ∧ 0 < numerator ∧ 0 < denominator) Failure.invalidQuote = .ok () :=
    require_ok.mpr ⟨first, second, third⟩
  have known : expect (RoundingRule.ofText rule.text) Failure.invalidQuote = .ok rule :=
    expect_ok.mpr rule.ofText_text
  unfold convert
  rw [checked, known]
  by_cases fits : fitsDecimal38 (rounded rule (base * numerator) denominator)
  · rw [if_pos fits]
    exact bind_ok.mpr ⟨(), rfl, bind_ok.mpr ⟨rule, rfl, bind_ok.mpr ⟨(), require_ok.mpr fits, rfl⟩⟩⟩
  · rw [if_neg fits]
    exact bind_error.mpr (.inr ⟨(), rfl, bind_error.mpr (.inr ⟨rule, rfl,
      bind_error.mpr (.inl (require_error.mpr ⟨fits, rfl⟩))⟩)⟩)

/-- For every rate and every amount Convert answers the one rounding of the exact value
under its rule, reports an overflow just where that has more than 38 digits, and never
answers less for a larger amount. -/
theorem convert_rounds_exactly (rule : RoundingRule) (base numerator denominator : Int)
    (bases : 0 < base ∧ base < 10 ^ 38) (numerators : 0 < numerator ∧ numerator < 10 ^ 38)
    (denominators : 0 < denominator ∧ denominator < 10 ^ 38) :
    (∃ n : ℤ, Rounds rule ((base * numerator : ℚ) / denominator) n ∧
      (∀ m, Rounds rule ((base * numerator : ℚ) / denominator) m → m = n) ∧
      (n < 10 ^ 38 → convert base numerator denominator rule.text = .ok n) ∧
      (10 ^ 38 ≤ n → convert base numerator denominator rule.text = .error .amountOverflow)) ∧
    ∀ larger m n, base ≤ larger → convert base numerator denominator rule.text = .ok m →
      convert larger numerator denominator rule.text = .ok n → m ≤ n := by
  have value : ∀ amount : Int, ((amount * numerator : ℚ) / denominator) =
      ((amount * numerator : ℤ) : ℚ) / denominator := by
    intro amount
    push_cast
    rfl
  have rounds : ∀ amount : Int, 0 < amount → Rounds rule ((amount * numerator : ℚ) / denominator)
      (rounded rule (amount * numerator) denominator) := by
    intro amount positive
    rw [value]
    exact rounded_rounds rule (mul_pos positive numerators.1).le denominators.1
  have answer : ∀ amount : Int, 0 < amount → ∀ m,
      convert amount numerator denominator rule.text = .ok m →
        m = rounded rule (amount * numerator) denominator := by
    intro amount positive m done
    rw [convert_eq rule positive numerators.1 denominators.1] at done
    split at done
    · exact (Except.ok.inj done).symm
    · cases done
  constructor
  · have own := rounds base bases.1
    have nonneg : 0 ≤ rounded rule (base * numerator) denominator := by
      have zero : Rounds rule 0 0 := by
        have := @rounded_rounds rule 0 1 le_rfl one_pos
        cases rule <;> simpa [rounded] using this
      refine zero.mono own (div_nonneg (mul_nonneg ?_ ?_) ?_)
      · exact_mod_cast bases.1.le
      · exact_mod_cast numerators.1.le
      · exact_mod_cast denominators.1.le
    refine ⟨_, own, fun m other => other.unique own, fun small => ?_, fun large => ?_⟩
    · rw [convert_eq rule bases.1 numerators.1 denominators.1, if_pos]
      show Int.natAbs _ < 10 ^ 38
      omega
    · rw [convert_eq rule bases.1 numerators.1 denominators.1, if_neg]
      show ¬ Int.natAbs _ < 10 ^ 38
      omega
  · intro larger m n le first second
    have positive : 0 < larger := lt_of_lt_of_le bases.1 le
    rw [answer base bases.1 m first, answer larger positive n second]
    refine (rounds base bases.1).mono (rounds larger positive) ?_
    have den : (0 : ℚ) < denominator := by exact_mod_cast denominators.1
    have num : (0 : ℚ) ≤ numerator := by exact_mod_cast numerators.1.le
    have amounts : (base : ℚ) ≤ larger := by exact_mod_cast le
    exact div_le_div_of_nonneg_right (mul_le_mul_of_nonneg_right amounts num) den.le

/-- Five halves of one round to two, and seven to four. -/
theorem sample_convert_rounds :
    convert 5 1 2 RoundingRule.halfEven.text = .ok 2 ∧
      convert 7 1 2 RoundingRule.halfEven.text = .ok 4 ∧ (2 : Int) ≤ 4 := by
  have first : convert 5 1 2 RoundingRule.halfEven.text = .ok 2 := by decide +kernel
  have second : convert 7 1 2 RoundingRule.halfEven.text = .ok 4 := by decide +kernel
  exact ⟨first, second, (convert_rounds_exactly .halfEven 5 1 2 (by decide) (by decide)
    (by decide)).2 7 2 4 (by decide) first second⟩

end PaymentPlatform.Fx
