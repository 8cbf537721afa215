import Mathlib.Data.Nat.Digits.Lemmas
import Mathlib.Tactic.Ring

/-! Byte strings built from fixed-width integers and length-prefixed fields, and
the hexadecimal text functions of SQL that build the same strings. -/

abbrev Bytes := List UInt8

instance Bytes.lawful : LawfulBEq Bytes := inferInstance

namespace Framing

variable {base v w width : Nat} {α : Type}

def ascii (text : String) : Bytes :=
  text.toList.map fun c => UInt8.ofNat c.toNat

theorem append_ne_append {first second : Bytes} (n : Nat)
    (long : n ≤ first.length ∧ n ≤ second.length) (apart : first.take n ≠ second.take n)
    (rest rest' : Bytes) : first ++ rest ≠ second ++ rest' := by
  intro same
  have begin := congrArg (List.take n) same
  rw [List.take_append_of_le_length long.1, List.take_append_of_le_length long.2] at begin
  exact apart begin

/- Exactly `width` digits, most significant first; higher digits are dropped. -/
def digitsOf (base : Nat) : Nat → Nat → List Nat
  | 0, _ => []
  | width + 1, v => digitsOf base width (v / base) ++ [v % base]

@[simp] theorem digitsOf_length (base width v : Nat) : (digitsOf base width v).length = width := by
  induction width generalizing v with
  | zero => rfl
  | succ width ih => simp [digitsOf, ih]

theorem digitsOf_lt (positive : 0 < base) (width v : Nat) :
    ∀ d ∈ digitsOf base width v, d < base := by
  induction width generalizing v with
  | zero => simp [digitsOf]
  | succ width ih =>
    intro d member
    rcases List.mem_append.mp member with front | back
    · exact ih _ d front
    · have last : d = v % base := by simpa using back
      rw [last]
      exact Nat.mod_lt _ positive

theorem digitsOf_mod (base width v : Nat) :
    digitsOf base width (v % base ^ width) = digitsOf base width v := by
  induction width generalizing v with
  | zero => rfl
  | succ width ih =>
    have high : v % base ^ (width + 1) / base = v / base % base ^ width := by
      rw [pow_succ', Nat.mod_mul_right_div_self]
    have low : v % base ^ (width + 1) % base = v % base := by
      rw [pow_succ', Nat.mod_mul_right_mod]
    simp only [digitsOf, high, low, ih]

theorem digitsOf_inj (hv : v < base ^ width) (hw : w < base ^ width)
    (same : digitsOf base width v = digitsOf base width w) : v = w := by
  induction width generalizing v w with
  | zero =>
    simp only [pow_zero, Nat.lt_one_iff] at hv hw
    rw [hv, hw]
  | succ width ih =>
    simp only [digitsOf] at same
    have parts := List.append_inj same (by simp)
    have bound : ∀ u, u < base ^ (width + 1) → u / base < base ^ width := by
      intro u hu
      rw [pow_succ'] at hu
      exact Nat.div_lt_of_lt_mul hu
    have high := ih (bound v hv) (bound w hw) parts.1
    have low : v % base = w % base := by simpa using parts.2
    rw [← Nat.div_add_mod v base, ← Nat.div_add_mod w base, high, low]

theorem digitsOf_digits (large : 1 < base) (width v : Nat) (fits : v < base ^ width) :
    digitsOf base width v =
      List.replicate (width - (Nat.digits base v).length) 0 ++ (Nat.digits base v).reverse := by
  induction width generalizing v with
  | zero =>
    have zero : v = 0 := by simpa using fits
    simp [digitsOf, zero]
  | succ width ih =>
    have bound : v / base < base ^ width := by
      rw [pow_succ'] at fits
      exact Nat.div_lt_of_lt_mul fits
    rw [digitsOf, ih _ bound]
    rcases Nat.eq_zero_or_pos v with zero | positive
    · subst zero
      simp [← List.replicate_succ']
    · rw [Nat.digits_def' large positive]
      simp

/- Big-endian unsigned integers of a fixed number of bytes. -/
def bigEndian (width v : Nat) : Bytes :=
  (digitsOf 256 width v).map UInt8.ofNat

@[simp] theorem bigEndian_length (width v : Nat) : (bigEndian width v).length = width := by
  simp [bigEndian]

theorem ofNat_inj_of_lt {a b : Nat} (ha : a < 256) (hb : b < 256)
    (same : UInt8.ofNat a = UInt8.ofNat b) : a = b := by
  have h := congrArg UInt8.toNat same
  simpa [Nat.mod_eq_of_lt ha, Nat.mod_eq_of_lt hb] using h

theorem map_ofNat_inj {xs ys : List Nat} (hx : ∀ d ∈ xs, d < 256) (hy : ∀ d ∈ ys, d < 256)
    (same : xs.map UInt8.ofNat = ys.map UInt8.ofNat) : xs = ys := by
  induction xs generalizing ys with
  | nil => simpa using same.symm
  | cons x xs ih =>
    cases ys with
    | nil => simp at same
    | cons y =>
      simp only [List.map_cons, List.cons.injEq] at same
      have head := ofNat_inj_of_lt (hx x (by simp)) (hy y (by simp)) same.1
      have tail := ih (fun d m => hx d (by simp [m])) (fun d m => hy d (by simp [m])) same.2
      rw [head, tail]

theorem bigEndian_inj (hv : v < 256 ^ width) (hw : w < 256 ^ width)
    (same : bigEndian width v = bigEndian width w) : v = w :=
  digitsOf_inj hv hw (map_ofNat_inj (digitsOf_lt (by decide) _ _) (digitsOf_lt (by decide) _ _) same)

theorem bigEndian_mod (width v : Nat) : bigEndian width (v % 256 ^ width) = bigEndian width v := by
  rw [bigEndian, digitsOf_mod, bigEndian]

def prefixed (value : Bytes) : Bytes :=
  bigEndian 4 value.length ++ value

/- Encoders whose output shows where it ends: equal concatenations have equal
first values and equal remainders. -/
def SelfDelimiting {α : Type} (P : α → Prop) (encode : α → Bytes) : Prop :=
  ∀ ⦃a b s t⦄, P a → P b → encode a ++ s = encode b ++ t → a = b ∧ s = t

theorem bigEndian_selfDelimiting (width : Nat) :
    SelfDelimiting (fun v => v < 256 ^ width) (bigEndian width) := by
  intro v w s t hv hw same
  have parts := List.append_inj same (by simp)
  exact ⟨bigEndian_inj hv hw parts.1, parts.2⟩

theorem fixed_selfDelimiting {P : α → Prop} {encode : α → Bytes} (width : Nat)
    (length : ∀ a, P a → (encode a).length = width)
    (inj : ∀ a b, P a → P b → encode a = encode b → a = b) : SelfDelimiting P encode := by
  intro a b s t ha hb same
  have parts := List.append_inj same (by rw [length a ha, length b hb])
  exact ⟨inj a b ha hb parts.1, parts.2⟩

theorem prefixed_selfDelimiting :
    SelfDelimiting (fun value : Bytes => value.length < 2 ^ 32) prefixed := by
  intro a b s t ha hb same
  simp only [prefixed, List.append_assoc] at same
  obtain ⟨length, rest⟩ := bigEndian_selfDelimiting 4 ha hb same
  exact List.append_inj rest length

theorem comap_selfDelimiting {β : Type} {P : α → Prop} {Q : β → Prop} {encode : β → Bytes}
    (fields : α → β) (inj : Function.Injective fields) (legal : ∀ a, P a → Q (fields a))
    (h : SelfDelimiting Q encode) : SelfDelimiting P (fun a => encode (fields a)) := by
  intro a b s t pa pb same
  obtain ⟨eq, rest⟩ := h (legal a pa) (legal b pb) same
  exact ⟨inj eq, rest⟩

def flagged {α : Type} (encode : α → Bytes) : Option α → Bytes
  | none => [0]
  | some a => 1 :: encode a

theorem flagged_selfDelimiting {P : α → Prop} {encode : α → Bytes} (h : SelfDelimiting P encode) :
    SelfDelimiting (fun o : Option α => ∀ a ∈ o, P a) (flagged encode) := by
  intro a b s t ha hb same
  cases a with
  | none =>
    cases b with
    | none => exact ⟨rfl, by simpa [flagged] using same⟩
    | some => simp [flagged] at same
  | some a =>
    cases b with
    | none => simp [flagged] at same
    | some b =>
      simp only [flagged, List.cons_append, List.cons.injEq, true_and] at same
      obtain ⟨rfl, rest⟩ := h (ha a rfl) (hb b rfl) same
      exact ⟨rfl, rest⟩

theorem list_selfDelimiting {P : α → Prop} {encode : α → Bytes}
    (h : SelfDelimiting P encode) (count : Nat) :
    SelfDelimiting (fun xs : List α => xs.length = count ∧ ∀ a ∈ xs, P a)
      (fun xs => xs.flatMap encode) := by
  intro xs ys s t hx hy same
  induction count generalizing xs ys with
  | zero =>
    rw [List.length_eq_zero_iff.mp hx.1, List.length_eq_zero_iff.mp hy.1] at same ⊢
    exact ⟨rfl, same⟩
  | succ count ih =>
    obtain ⟨x, xs, rfl⟩ := List.exists_cons_of_length_eq_add_one hx.1
    obtain ⟨y, ys, rfl⟩ := List.exists_cons_of_length_eq_add_one hy.1
    simp only [List.flatMap_cons, List.append_assoc] at same
    obtain ⟨rfl, rest⟩ := h (hx.2 x (by simp)) (hy.2 y (by simp)) same
    obtain ⟨rfl, final⟩ := ih ⟨by simpa using hx.1, fun a m => hx.2 a (by simp [m])⟩
      ⟨by simpa using hy.1, fun a m => hy.2 a (by simp [m])⟩ rest
    exact ⟨rfl, final⟩

/-- A list of self-delimiting, non-empty items that ends the string is
determined by it, even without a count. -/
theorem flatMap_inj {P : α → Prop} {encode : α → Bytes}
    (h : SelfDelimiting P encode) (nonempty : ∀ a, P a → encode a ≠ []) {xs ys : List α}
    (hx : ∀ a ∈ xs, P a) (hy : ∀ a ∈ ys, P a)
    (same : xs.flatMap encode = ys.flatMap encode) : xs = ys := by
  induction xs generalizing ys with
  | nil =>
    cases ys with
    | nil => rfl
    | cons y =>
      simp only [List.flatMap_nil, List.flatMap_cons] at same
      exact absurd (List.append_eq_nil_iff.mp same.symm).1 (nonempty y (hy y (by simp)))
  | cons x xs ih =>
    cases ys with
    | nil =>
      simp only [List.flatMap_nil, List.flatMap_cons] at same
      exact absurd (List.append_eq_nil_iff.mp same).1 (nonempty x (hx x (by simp)))
    | cons y =>
      simp only [List.flatMap_cons] at same
      obtain ⟨rfl, rest⟩ := h (hx x (by simp)) (hy y (by simp)) same
      rw [ih (fun a m => hx a (by simp [m])) (fun a m => hy a (by simp [m])) rest]

end Framing
