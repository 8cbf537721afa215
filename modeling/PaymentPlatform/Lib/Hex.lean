import PaymentPlatform.Lib.Framing

/-! Numerals as text, and the SQL functions to_hex, lpad, encode and decode. -/

namespace Framing

def hexDigit (d : Nat) : UInt8 :=
  if d < 10 then UInt8.ofNat (48 + d) else UInt8.ofNat (87 + d)

def hexValue (c : UInt8) : Option Nat :=
  let v := c.toNat
  if 48 ≤ v ∧ v < 58 then some (v - 48)
  else if 97 ≤ v ∧ v < 103 then some (v - 87)
  else if 65 ≤ v ∧ v < 71 then some (v - 55)
  else none

theorem hexValue_hexDigit {d : Nat} (small : d < 16) : hexValue (hexDigit d) = some d := by
  revert d
  decide

def numeral (base v : Nat) : List Nat :=
  if v = 0 then [0] else (Nat.digits base v).reverse

theorem numeral_value (v : Nat) : (numeral 10 v).foldl (fun value d => 10 * value + d) 0 = v := by
  unfold numeral
  split
  · rename_i zero
    simp [zero]
  · rw [List.foldl_reverse]
    have digits := Nat.ofDigits_digits 10 v
    rw [Nat.ofDigits_eq_foldr] at digits
    simpa [Nat.add_comm] using digits

def decimal (v : Int) : Bytes :=
  (if v < 0 then [45] else []) ++ (numeral 10 v.natAbs).map fun d => UInt8.ofNat (48 + d)

theorem numeral_inj {base : Nat} {v w : Nat} (same : numeral base v = numeral base w) : v = w := by
  have value : ∀ u, Nat.ofDigits base (numeral base u).reverse = u := by
    intro u
    unfold numeral
    split
    · rename_i zero
      simp [zero]
    · rw [List.reverse_reverse, Nat.ofDigits_digits]
  rw [← value v, same, value w]

theorem numeral_lt {base : Nat} (large : 1 < base) (v : Nat) : ∀ d ∈ numeral base v, d < base := by
  intro d member
  unfold numeral at member
  split at member
  · have zero : d = 0 := by simpa using member
    omega
  · exact Nat.digits_lt_base large (List.mem_reverse.mp member)

theorem decimal_inj {v w : Int} (hv : 0 ≤ v) (hw : 0 ≤ w) (same : decimal v = decimal w) :
    v = w := by
  have below : ∀ u, ∀ d ∈ (numeral 10 u).map (48 + ·), d < 256 := by
    intro u d member
    obtain ⟨d', hd, rfl⟩ := List.mem_map.mp member
    have := numeral_lt (by decide : 1 < 10) u d' hd
    omega
  have digits : ((numeral 10 v.natAbs).map (48 + ·)).map UInt8.ofNat =
      ((numeral 10 w.natAbs).map (48 + ·)).map UInt8.ofNat := by
    simpa [decimal, not_lt.mpr hv, not_lt.mpr hw, List.map_map, Function.comp_def] using same
  have shifted := map_ofNat_inj (below _) (below _) digits
  have plain : numeral 10 v.natAbs = numeral 10 w.natAbs :=
    List.map_injective_iff.mpr (fun a b h => by simpa using h) shifted
  have abs := numeral_inj plain
  omega

def toHex (v : Nat) : Bytes :=
  (numeral 16 v).map hexDigit

def lpad (text : Bytes) (width : Nat) (fill : UInt8) : Bytes :=
  List.replicate (width - text.length) fill ++ text.take width

def encodeHex (value : Bytes) : Bytes :=
  value.flatMap fun b => [hexDigit (b.toNat / 16), hexDigit (b.toNat % 16)]

def decodeHex : Bytes → Option Bytes
  | [] => some []
  | [_] => none
  | a :: b :: rest => do
    let high ← hexValue a
    let low ← hexValue b
    let tail ← decodeHex rest
    return UInt8.ofNat (16 * high + low) :: tail

theorem decodeHex_pair {high low : Nat} (hh : high < 16) (hl : low < 16) (rest : Bytes) :
    decodeHex (hexDigit high :: hexDigit low :: rest) =
      (decodeHex rest).map (UInt8.ofNat (16 * high + low) :: ·) := by
  simp only [decodeHex, hexValue_hexDigit hh, hexValue_hexDigit hl]
  cases decodeHex rest <;> rfl

theorem decodeHex_encodeHex_append (value rest : Bytes) :
    decodeHex (encodeHex value ++ rest) = (decodeHex rest).map (value ++ ·) := by
  induction value with
  | nil => simp [encodeHex]
  | cons b value ih =>
    have bound := b.toNat_lt
    have split : encodeHex (b :: value) ++ rest =
        hexDigit (b.toNat / 16) :: hexDigit (b.toNat % 16) :: (encodeHex value ++ rest) := rfl
    have byte : 16 * (b.toNat / 16) + b.toNat % 16 = b.toNat := Nat.div_add_mod _ _
    rw [split, decodeHex_pair (by omega) (by omega), ih, byte, UInt8.ofNat_toNat]
    cases decodeHex rest <;> rfl

theorem decodeHex_flatMap (frames : List Bytes) :
    decodeHex (frames.flatMap encodeHex) = some frames.flatten := by
  induction frames with
  | nil => rfl
  | cons f frames ih =>
    rw [List.flatMap_cons, decodeHex_encodeHex_append, ih]
    rfl

theorem decodeHex_append_pair (text : Bytes) (even : text.length % 2 = 0) {high low : Nat}
    (hh : high < 16) (hl : low < 16) : decodeHex (text ++ [hexDigit high, hexDigit low]) =
      (decodeHex text).map (· ++ [UInt8.ofNat (16 * high + low)]) := by
  induction text using decodeHex.induct with
  | case1 =>
    rw [List.nil_append, decodeHex_pair hh hl]
    rfl
  | case2 => simp at even
  | case3 a b rest ih =>
    have tail := ih (by simp only [List.length_cons] at even; omega)
    simp only [List.cons_append, decodeHex, tail]
    cases hexValue a <;> cases hexValue b <;> cases decodeHex rest <;> rfl

theorem decodeHex_digitsOf (width v : Nat) :
    decodeHex ((digitsOf 16 (2 * width) v).map hexDigit) = some (bigEndian width v) := by
  induction width generalizing v with
  | zero => rfl
  | succ width ih =>
    have split : digitsOf 16 (2 * (width + 1)) v =
        digitsOf 16 (2 * width) (v / 256) ++ [v / 16 % 16, v % 16] := by
      have double : 2 * (width + 1) = 2 * width + 1 + 1 := by ring
      rw [double, digitsOf, digitsOf, Nat.div_div_eq_div_mul, List.append_assoc]
      rfl
    have byte : 16 * (v / 16 % 16) + v % 16 = v % 256 := by omega
    rw [split, List.map_append]
    simp only [List.map_cons, List.map_nil]
    rw [decodeHex_append_pair _ (by simp) (Nat.mod_lt _ (by decide)) (Nat.mod_lt _ (by decide)),
      ih, byte]
    simp [bigEndian, digitsOf]

def hexLength (v : Nat) : Nat := (Nat.digits 16 v).length

theorem digits_take (base v width : Nat) (large : 1 < base) :
    (Nat.digits base v).reverse.take width =
      (Nat.digits base (v / base ^ ((Nat.digits base v).length - width))).reverse := by
  rw [List.take_reverse]
  congr 1
  have drop : ∀ n u, (Nat.digits base u).drop n = Nat.digits base (u / base ^ n) := by
    intro n
    induction n with
    | zero => simp
    | succ n ih =>
      intro u
      rcases Nat.eq_zero_or_pos u with zero | positive
      · simp [zero]
      · rw [Nat.digits_def' large positive, List.drop_succ_cons, ih, Nat.div_div_eq_div_mul,
          pow_succ']
  exact drop _ v

theorem leading_lt (v width : Nat) : v / 16 ^ (hexLength v - width) < 16 ^ width := by
  have digits := digits_take 16 v width (by decide)
  have length := congrArg List.length digits
  simp only [List.length_take, List.length_reverse] at length
  have bound : (Nat.digits 16 (v / 16 ^ ((Nat.digits 16 v).length - width))).length ≤ width := by
    omega
  exact (Nat.digits_length_le_iff (by decide) _).mp bound

theorem lpad_toHex (v width : Nat) (positive : 0 < width) : lpad (toHex v) width 48 =
      (digitsOf 16 width (v / 16 ^ (hexLength v - width))).map hexDigit := by
  rcases Nat.eq_zero_or_pos v with zero | nonzero
  · subst zero
    obtain ⟨width, rfl⟩ : ∃ w, width = w + 1 := ⟨width - 1, by omega⟩
    rw [Nat.zero_div, digitsOf_digits (by decide) _ _ (by positivity)]
    simp only [lpad, toHex, numeral, if_true, Nat.digits_zero, List.length_nil, List.reverse_nil,
      List.append_nil, List.map_replicate, List.map_cons, List.map_nil, List.length_singleton,
      Nat.add_sub_cancel, Nat.sub_zero, List.take_succ_cons, List.take_nil]
    exact (List.replicate_succ' ..).symm
  · have plain : numeral 16 v = (Nat.digits 16 v).reverse := by
      simp [numeral, Nat.pos_iff_ne_zero.mp nonzero]
    have taken := digits_take 16 v width (by decide)
    have lengths := congrArg List.length taken
    simp only [List.length_take, List.length_reverse] at lengths
    rw [digitsOf_digits (by decide) _ _ (leading_lt v width)]
    simp only [lpad, toHex, plain, List.length_map, List.length_reverse, ← List.map_take, taken,
      List.map_append, List.map_replicate, hexLength]
    congr 2
    omega

end Framing
