import PaymentPlatform.Lib.Hex

/-! The durable identifiers of internal/idgen/generator.go: an issuer prefix, the
issuer's incarnation and a counter. -/

namespace PaymentPlatform.Idgen

open Framing

structure Identifier where
  issuer : Bytes
  incarnation : Fin (2 ^ 64)
  counter : Fin (2 ^ 64)
  deriving DecidableEq

instance uint64_ne : NeZero (2 ^ 64) := ⟨by decide⟩

def hex16 (v : Nat) : Bytes := (digitsOf 16 16 v).map hexDigit

def Identifier.text (id : Identifier) : Bytes :=
  id.issuer ++ (ascii "-" ++ (hex16 id.incarnation ++ (ascii "-" ++ hex16 id.counter)))

@[simp] theorem hex16_length (v : Nat) : (hex16 v).length = 16 := by
  simp [hex16]

theorem hex16_inj {v w : Nat} (hv : v < 2 ^ 64) (hw : w < 2 ^ 64) (same : hex16 v = hex16 w) :
    v = w := by
  have bound : (2 : Nat) ^ 64 = 16 ^ 16 := by norm_num
  rw [bound] at hv hw
  apply digitsOf_inj hv hw
  have values := congrArg (List.map hexValue) same
  simp only [hex16, List.map_map] at values
  have digits : ∀ u, (digitsOf 16 16 u).map (hexValue ∘ hexDigit) = (digitsOf 16 16 u).map some := by
    intro u
    apply List.map_congr_left
    intro d member
    exact hexValue_hexDigit (digitsOf_lt (by decide) 16 u d member)
  rw [digits, digits] at values
  exact List.map_injective_iff.mpr (Option.some_injective Nat) values

theorem Identifier.text_injective : Function.Injective Identifier.text := by
  intro a b same
  simp only [Identifier.text, ← List.append_assoc] at same
  obtain ⟨front, counter⟩ := List.append_inj' same (by simp)
  obtain ⟨front, _⟩ := List.append_inj' front rfl
  obtain ⟨front, incarnation⟩ := List.append_inj' front (by simp)
  obtain ⟨issuer, _⟩ := List.append_inj' front rfl
  have hc := hex16_inj a.counter.isLt b.counter.isLt counter
  have hi := hex16_inj a.incarnation.isLt b.incarnation.isLt incarnation
  cases a
  cases b
  simp only [Identifier.mk.injEq]
  exact ⟨issuer, Fin.ext hi, Fin.ext hc⟩

theorem hexDigit_ne_colon : ∀ d, d < 16 → hexDigit d ≠ 58 := by
  decide

theorem Identifier.text_ne_suffixed (a b : Identifier) {suffix : Bytes} (colon : 58 ∈ suffix)
    (short : suffix.length ≤ 16) : a.text ≠ b.text ++ suffix := by
  intro same
  have counter : hex16 a.counter <:+ a.text := by
    simp only [Identifier.text, ← List.append_assoc]
    exact List.suffix_append _ _
  have ending : suffix <:+ a.text := same ▸ List.suffix_append _ _
  have inside : suffix <:+ hex16 a.counter :=
    List.suffix_of_suffix_length_le ending counter (by simpa using short)
  have member : (58 : UInt8) ∈ hex16 a.counter := inside.subset colon
  obtain ⟨d, digit, value⟩ := List.mem_map.mp member
  exact hexDigit_ne_colon d (digitsOf_lt (by decide) 16 _ d digit) value

end PaymentPlatform.Idgen
