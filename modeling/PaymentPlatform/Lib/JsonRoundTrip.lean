import PaymentPlatform.Lib.Json

/-! What Marshal writes is read back as the same value, so writing the value
of a text is idempotent. -/

namespace Json

open Framing

variable {c : Char} {b : UInt8} {digits input rest rest' : Bytes} {allowed : UInt8 → Bool}
  {v : Value}

theorem char_of_toNat {n : Nat} (code : c.toNat = n) : Char.ofNat n = c := by
  rw [← code, Char.ofNat_toNat]

theorem utf8EncodeChar_ascii (small : c.toNat < 128) :
    String.utf8EncodeChar c = [UInt8.ofNat c.toNat] := by
  have bound : c.val.toNat ≤ 127 := Nat.le_of_lt_succ small
  simp only [String.utf8EncodeChar, bound, if_true]
  rfl

theorem utf8EncodeChar_head (large : 128 ≤ c.toNat) :
    ∃ b tail, String.utf8EncodeChar c = b :: tail ∧ 128 ≤ b.toNat := by
  have bound : ¬ c.val.toNat ≤ 127 := Nat.not_le.mpr large
  unfold String.utf8EncodeChar
  simp only [bound, if_false]
  split
  · refine ⟨_, _, rfl, ?_⟩
    simp only [UInt8.toNat_ofNat']
    omega
  · split
    · refine ⟨_, _, rfl, ?_⟩
      simp only [UInt8.toNat_ofNat']
      omega
    · refine ⟨_, _, rfl, ?_⟩
      simp only [UInt8.toNat_ofNat']
      omega

theorem readRune_plain (c : Char) (rest : Bytes) (printable : 32 ≤ c.toNat) (escape : c ≠ '\\') :
    readRune (String.utf8EncodeChar c ++ rest) = some (c, rest) := by
  rcases Nat.lt_or_ge c.toNat 128 with small | large
  · have code : (UInt8.ofNat c.toNat).toNat = c.toNat := by
      simp only [UInt8.toNat_ofNat']
      omega
    have backslash : UInt8.ofNat c.toNat ≠ 92 := by
      intro same
      have value := congrArg UInt8.toNat same
      rw [code] at value
      exact escape (char_of_toNat value).symm
    have control : ¬ UInt8.ofNat c.toNat < 32 := by
      rw [UInt8.lt_iff_toNat_lt, code]
      exact Nat.not_lt.mpr printable
    have single : UInt8.ofNat c.toNat < 128 := by
      rw [UInt8.lt_iff_toNat_lt, code]
      exact small
    rw [utf8EncodeChar_ascii small]
    simp only [List.cons_append, List.nil_append, readRune, backslash, control, single, if_false,
      if_true, code, Char.ofNat_toNat]
  · obtain ⟨b, tail, encoded, high⟩ := utf8EncodeChar_head large
    have backslash : b ≠ 92 := by
      rintro rfl
      exact absurd high (by decide)
    have control : ¬ b < 32 := by
      rw [UInt8.lt_iff_toNat_lt]
      exact Nat.not_lt.mpr (Nat.le_trans (by decide) high)
    have multi : ¬ b < 128 := by
      rw [UInt8.lt_iff_toNat_lt]
      exact Nat.not_lt.mpr high
    have decoded : (b :: (tail ++ rest)).toByteArray.utf8DecodeChar? 0 = some c := by
      rw [← List.cons_append, ← encoded, List.toByteArray_append]
      exact ByteArray.utf8DecodeChar?_utf8EncodeChar_append
    have dropped : (b :: (tail ++ rest)).drop c.utf8Size = rest := by
      rw [← List.cons_append, ← encoded, ← String.length_utf8EncodeChar]
      exact List.drop_left
    rw [encoded]
    simp only [List.cons_append, readRune, backslash, control, multi, if_false, decoded, dropped]

theorem readRune_escape (e : UInt8) (c : Char) (rest : Bytes) (known : simpleEscape e = some c)
    (plain : e ≠ 117) : readRune (92 :: e :: rest) = some (c, rest) := by
  simp [readRune, readEscape, plain, known]

theorem readRune_unicode (a b d e : Nat) (rest : Bytes) (ha : a < 16) (hb : b < 16) (hd : d < 16)
    (he : e < 16) (scalar : 4096 * a + 256 * b + 16 * d + e < 0xD800) :
    readRune (92 :: 117 :: hexDigit a :: hexDigit b :: hexDigit d :: hexDigit e :: rest) =
      some (Char.ofNat (4096 * a + 256 * b + 16 * d + e), rest) := by
  have surrogate : ¬ (0xD800 ≤ 4096 * a + 256 * b + 16 * d + e ∧
      4096 * a + 256 * b + 16 * d + e < 0xE000) := by omega
  simp only [readRune, readEscape, readUnicode, readHex4, hexValue_hexDigit ha,
    hexValue_hexDigit hb, hexValue_hexDigit hd, hexValue_hexDigit he, if_true, Option.bind_eq_bind,
    Option.bind_some, pure, if_neg surrogate]

theorem readRune_escapeRune (c : Char) (rest : Bytes) :
    readRune (escapeRune c ++ rest) = some (c, rest) := by
  unfold escapeRune
  split
  · subst c
    exact readRune_escape 34 _ rest rfl (by decide)
  split
  · subst c
    exact readRune_escape 92 _ rest rfl (by decide)
  split
  · rename_i code
    rw [← char_of_toNat code]
    exact readRune_escape 98 _ rest rfl (by decide)
  split
  · rename_i code
    rw [← char_of_toNat code]
    exact readRune_escape 102 _ rest rfl (by decide)
  split
  · rename_i code
    rw [← char_of_toNat code]
    exact readRune_escape 110 _ rest rfl (by decide)
  split
  · rename_i code
    rw [← char_of_toNat code]
    exact readRune_escape 114 _ rest rfl (by decide)
  split
  · rename_i code
    rw [← char_of_toNat code]
    exact readRune_escape 116 _ rest rfl (by decide)
  split
  · rename_i low
    have small : c.toNat < 128 := by
      rcases low with control | rfl | rfl | rfl
      · exact Nat.lt_trans control (by decide)
      all_goals decide
    have value : 4096 * 0 + 256 * 0 + 16 * (c.toNat / 16) + c.toNat % 16 = c.toNat := by omega
    have read := readRune_unicode 0 0 (c.toNat / 16) (c.toNat % 16) rest (by decide) (by decide)
      (by omega) (by omega) (by omega)
    rw [value, Char.ofNat_toNat] at read
    exact read
  split
  · rename_i separator
    have value : 4096 * 2 + 256 * 0 + 16 * 2 + c.toNat % 16 = c.toNat := by omega
    have read := readRune_unicode 2 0 2 (c.toNat % 16) rest (by decide) (by decide) (by decide)
      (by omega) (by omega)
    rw [value, Char.ofNat_toNat] at read
    exact read
  · rename_i backslash _ _ _ _ _ low _
    exact readRune_plain c rest (Nat.not_lt.mp fun control => low (Or.inl control)) backslash

theorem escapeRune_head (c : Char) : ∃ b tail, escapeRune c = b :: tail ∧ b ≠ 34 := by
  unfold escapeRune
  split
  · exact ⟨92, _, rfl, by decide⟩
  rename_i quote
  iterate 8
    split
    · exact ⟨92, _, rfl, by decide⟩
  rcases Nat.lt_or_ge c.toNat 128 with small | large
  · refine ⟨UInt8.ofNat c.toNat, [], utf8EncodeChar_ascii small, ?_⟩
    intro same
    have value := congrArg UInt8.toNat same
    simp only [UInt8.toNat_ofNat', Nat.mod_eq_of_lt (Nat.lt_trans small (by decide : 128 < 2 ^ 8))]
      at value
    exact quote (char_of_toNat value).symm
  · obtain ⟨b, tail, encoded, high⟩ := utf8EncodeChar_head large
    refine ⟨b, tail, encoded, ?_⟩
    rintro rfl
    exact absurd high (by decide)

theorem readText_write (text : List Char) (rest : Bytes) (fuel : Nat) (enough : text.length < fuel) :
    readText fuel (text.flatMap escapeRune ++ 34 :: rest) = some (text, rest) := by
  induction text generalizing fuel with
  | nil =>
    obtain ⟨fuel, rfl⟩ : ∃ n, fuel = n + 1 := ⟨fuel - 1, by simp at enough; omega⟩
    simp [readText]
  | cons c text ih =>
    obtain ⟨fuel, rfl⟩ : ∃ n, fuel = n + 1 := ⟨fuel - 1, by simp at enough; omega⟩
    obtain ⟨b, tail, escaped, plain⟩ := escapeRune_head c
    have read := readRune_escapeRune c (text.flatMap escapeRune ++ 34 :: rest)
    rw [escaped, List.cons_append] at read
    simp only [List.flatMap_cons, List.append_assoc, escaped, List.cons_append, readText, plain,
      if_false, read, Option.bind_eq_bind, Option.bind_some]
    rw [ih fuel (by simpa using enough)]
    rfl

theorem length_le_escaped (text : List Char) : text.length ≤ (text.flatMap escapeRune).length := by
  induction text with
  | nil => simp
  | cons c =>
    obtain ⟨b, tail, escaped, _⟩ := escapeRune_head c
    simp only [List.flatMap_cons, List.length_append, List.length_cons, escaped]
    omega

theorem readText_writeText (text : List Char) (rest : Bytes) :
    readText ((text.flatMap escapeRune ++ 34 :: rest).length + 1)
      (text.flatMap escapeRune ++ 34 :: rest) = some (text, rest) := by
  apply readText_write
  have length := length_le_escaped text
  simp only [List.length_append, List.length_cons]
  omega

def Stops (rest : Bytes) : Prop :=
  ∀ b tail, rest = b :: tail → isDigit b = false ∧ b ≠ 46 ∧ b ≠ 101 ∧ b ≠ 69

theorem stops_nil : Stops [] := by
  intro b tail impossible
  cases impossible

theorem stops_cons {tail : Bytes} (other : isDigit b = false ∧ b ≠ 46 ∧ b ≠ 101 ∧ b ≠ 69) :
    Stops (b :: tail) := by
  intro c rest same
  cases same
  exact other

def Digits (digits : Bytes) : Prop :=
  digits ≠ [] ∧ ∀ b ∈ digits, isDigit b = true

theorem Digits.head (legal : Digits digits) : ∃ b tail, digits = b :: tail ∧ isDigit b = true := by
  cases digits with
  | nil => exact absurd rfl legal.1
  | cons b tail => exact ⟨b, tail, rfl, legal.2 b (by simp)⟩

theorem readDigits_sound (read : readDigits input = some (digits, rest)) :
    Digits digits ∧ digits = input.takeWhile isDigit := by
  unfold readDigits at read
  simp only at read
  split at read
  · contradiction
  · rename_i nonempty
    cases read
    exact ⟨⟨nonempty, List.all_eq_true.mp List.all_takeWhile⟩, rfl⟩

theorem readDigits_append (legal : Digits digits) (rest : Bytes)
    (ends : ∀ b tail, rest = b :: tail → isDigit b = false) :
    readDigits (digits ++ rest) = some (digits, rest) := by
  have stop : rest.takeWhile isDigit = [] ∧ rest.dropWhile isDigit = rest := by
    cases rest with
    | nil => exact ⟨rfl, rfl⟩
    | cons b tail => simp [ends b tail rfl]
  simp [readDigits, List.takeWhile_append_of_pos legal.2, List.dropWhile_append_of_pos legal.2,
    stop.1, stop.2, legal.1]

theorem readSign_present (legal : allowed b = true) (rest : Bytes) :
    readSign allowed (b :: rest) = ([b], rest) := by
  simp [readSign, legal]

theorem readSign_absent (other : ∀ b tail, rest = b :: tail → allowed b = false) :
    readSign allowed rest = ([], rest) := by
  cases rest with
  | nil => rfl
  | cons b tail => simp [readSign, other b tail rfl]

theorem readSign_sound (allowed : UInt8 → Bool) (input : Bytes) : (readSign allowed input).1 = [] ∨
      ∃ b, (readSign allowed input).1 = [b] ∧ allowed b = true := by
  cases input with
  | nil => exact .inl rfl
  | cons b tail =>
    simp only [readSign]
    split
    · rename_i legal
      exact .inr ⟨b, rfl, legal⟩
    · exact .inl rfl

theorem readSign_append {sign : Bytes} (legal : sign = [] ∨ ∃ b, sign = [b] ∧ allowed b = true)
    {digit : UInt8} (tail : Bytes) (other : allowed digit = false) :
    readSign allowed (sign ++ digit :: tail) = (sign, digit :: tail) := by
  rcases legal with rfl | ⟨b, rfl, known⟩
  · apply readSign_absent
    intro b rest same
    cases same
    exact other
  · exact readSign_present known _

theorem digit_range (legal : isDigit b = true) : 48 ≤ b.toNat ∧ b.toNat ≤ 57 := by
  simp only [isDigit, Bool.and_eq_true, decide_eq_true_eq, UInt8.le_iff_toNat_le] at legal
  exact legal

theorem digit_other (legal : isDigit b = true) (allowed : UInt8 → Bool)
    (outside : ∀ n : Fin 10, allowed (UInt8.ofNat (48 + n)) = false) : allowed b = false := by
  have range := digit_range legal
  have same := outside ⟨b.toNat - 48, by omega⟩
  rwa [Nat.add_sub_cancel' range.1, UInt8.ofNat_toNat] at same

theorem readExponent_again {exponent : Bytes} (read : readExponent input = some (exponent, rest'))
    (stops : Stops rest) : readExponent (exponent ++ rest) = some (exponent, rest) ∧
      (exponent = [] ∨ ∃ b tail, exponent = b :: tail ∧ (b = 101 ∨ b = 69)) := by
  have absent : readExponent ([] ++ rest) = some ([], rest) := by
    cases rest with
    | nil => rfl
    | cons b tail =>
      have other := stops b tail rfl
      simp [readExponent, other.2.2.1, other.2.2.2]
  cases input with
  | nil =>
    cases read
    exact ⟨absent, Or.inl rfl⟩
  | cons b input =>
    simp only [readExponent] at read
    split at read
    · rename_i mark
      simp only [Option.bind_eq_bind, Option.bind_eq_some_iff] at read
      obtain ⟨⟨digits, after⟩, hd, out⟩ := read
      cases out
      refine ⟨?_, Or.inr ⟨b, _, rfl, mark⟩⟩
      have legal := (readDigits_sound hd).1
      obtain ⟨d, tail, split, isd⟩ := legal.head
      have sign := readSign_append (readSign_sound (fun s => s == 43 || s == 45) input)
        (tail ++ rest) (digit_other isd (fun s => s == 43 || s == 45) (by decide))
      have again := readDigits_append legal rest (fun c t same => (stops c t same).1)
      rw [split, List.cons_append] at again
      simp only [split, List.cons_append, List.append_assoc, readExponent, if_pos mark, sign,
        Option.bind_eq_bind, again, Option.bind_some]
      rfl
    · cases read
      exact ⟨absent, Or.inl rfl⟩

theorem readFraction_again {fraction : Bytes} (read : readFraction input = some (fraction, rest'))
    (ends : ∀ b tail, rest = b :: tail → isDigit b = false ∧ b ≠ 46) :
    readFraction (fraction ++ rest) = some (fraction, rest) ∧
      (fraction = [] ∨ ∃ tail, fraction = 46 :: tail) := by
  have absent : readFraction ([] ++ rest) = some ([], rest) := by
    cases rest with
    | nil => rfl
    | cons b tail => simp [readFraction, (ends b tail rfl).2]
  cases input with
  | nil =>
    cases read
    exact ⟨absent, Or.inl rfl⟩
  | cons =>
    simp only [readFraction] at read
    split at read
    · simp only [Option.bind_eq_bind, Option.bind_eq_some_iff] at read
      obtain ⟨⟨digits, after⟩, hd, out⟩ := read
      cases out
      refine ⟨?_, Or.inr ⟨_, rfl⟩⟩
      have again := readDigits_append (readDigits_sound hd).1 rest (fun c t same => (ends c t same).1)
      simp [readFraction, again]
    · cases read
      exact ⟨absent, Or.inl rfl⟩

theorem readInteger_again {integer : Bytes} (read : readInteger input = some (integer, rest'))
    (ends : ∀ b tail, rest = b :: tail → isDigit b = false) :
    readInteger (integer ++ rest) = some (integer, rest) ∧
      ∃ b tail, integer = b :: tail ∧ isDigit b = true := by
  cases input with
  | nil => cases read
  | cons b input =>
    simp only [readInteger] at read
    split at read
    · cases read
      exact ⟨by simp [readInteger], 48, [], rfl, by decide⟩
    · rename_i nonzero
      have sound := readDigits_sound read
      obtain ⟨d, tail, split, isd⟩ := sound.1.head
      have first : d = b := by
        have same := sound.2
        rw [split] at same
        by_cases legal : isDigit b = true
        · rw [List.takeWhile_cons_of_pos legal] at same
          exact (List.cons.inj same).1
        · rw [List.takeWhile_cons_of_neg legal] at same
          cases same
      have again := readDigits_append sound.1 rest ends
      refine ⟨?_, d, tail, split, isd⟩
      rw [split, List.cons_append] at again ⊢
      rw [readInteger, if_neg (first ▸ nonzero), again]

/-- A literal that the reader takes in front of anything that stops a number. -/
structure NumberText (literal : Bytes) : Prop where
  head : ∃ b tail, literal = b :: tail ∧ (b = 45 ∨ isDigit b = true)
  read : ∀ rest, Stops rest → readNumber (literal ++ rest) = some (literal, rest)

theorem readNumber_sound {literal : Bytes} (read : readNumber input = some (literal, rest)) :
    NumberText literal := by
  simp only [readNumber, Option.bind_eq_bind, Option.bind_eq_some_iff] at read
  obtain ⟨⟨integer, r1⟩, hi, ⟨fraction, r2⟩, hf, ⟨exponent, r3⟩, he, out⟩ := read
  cases out
  have legal := readSign_sound (· == 45) input
  obtain ⟨b, tail, split, isd⟩ := (readInteger_again hi (fun b tail (none : [] = b :: tail) => by cases none)).2
  refine ⟨?_, ?_⟩
  · rcases legal with none | ⟨c, some, minus⟩
    · exact ⟨b, tail ++ (fraction ++ exponent), by rw [none, split]; rfl, Or.inr isd⟩
    · exact ⟨c, _, by rw [some]; rfl, Or.inl (by simpa using minus)⟩
  · intro after stops
    obtain ⟨exponentAgain, exponentHead⟩ := readExponent_again he stops
    have fractionEnds : ∀ c t, exponent ++ after = c :: t → isDigit c = false ∧ c ≠ 46 := by
      intro c t same
      rcases exponentHead with rfl | ⟨c', t', rfl, mark⟩
      · exact ⟨(stops c t same).1, (stops c t same).2.1⟩
      · cases (List.cons.inj same).1
        rcases mark with rfl | rfl <;> exact ⟨by decide, by decide⟩
    obtain ⟨fractionAgain, fractionHead⟩ := readFraction_again hf fractionEnds
    have integerEnds : ∀ c t, fraction ++ (exponent ++ after) = c :: t → isDigit c = false := by
      intro c t same
      rcases fractionHead with rfl | ⟨t', rfl⟩
      · exact (fractionEnds c t same).1
      · cases (List.cons.inj same).1
        decide
    have integerAgain := (readInteger_again hi integerEnds).1
    have sign := readSign_append legal (tail ++ (fraction ++ (exponent ++ after)))
      (digit_other isd (· == 45) (by decide))
    rw [split, List.cons_append] at integerAgain
    simp only [List.append_assoc, split, List.cons_append, readNumber, sign, integerAgain,
      Option.bind_eq_bind, Option.bind_some, fractionAgain, exponentAgain]
    rfl

def Members.After (name : List Char) : Members → Prop
  | .nil => True
  | .cons other _ tail => utf8 name < utf8 other ∧ tail.After name

mutual
/-- The values the reader produces: numbers are literals, members are in strict
order, and the nesting is within the limit. -/
def Value.Legal : Nat → Value → Prop
  | _, .null => True
  | _, .bool _ => True
  | _, .number literal => NumberText literal
  | _, .string _ => True
  | 0, .array _ => False
  | depth + 1, .array items => items.Legal depth
  | 0, .object _ => False
  | depth + 1, .object members => members.Legal depth
def Items.Legal : Nat → Items → Prop
  | _, .nil => True
  | depth, .cons head tail => head.Legal depth ∧ tail.Legal depth
def Members.Legal : Nat → Members → Prop
  | _, .nil => True
  | depth, .cons name value tail => value.Legal depth ∧ tail.Legal depth ∧ tail.After name
end

theorem utf8_injective : Function.Injective utf8 := by
  intro a b same
  have delimiting : SelfDelimiting (fun _ : Char => True) String.utf8EncodeChar := by
    intro c d s t _ _ equal
    have first : c = d := by
      have left := ByteArray.utf8DecodeChar?_utf8EncodeChar_append (b := s.toByteArray) (c := c)
      have right := ByteArray.utf8DecodeChar?_utf8EncodeChar_append (b := t.toByteArray) (c := d)
      rw [← List.toByteArray_append] at left right
      rw [equal, right] at left
      exact (Option.some.inj left).symm
    subst first
    exact ⟨rfl, List.append_cancel_left equal⟩
  refine flatMap_inj delimiting ?_ (fun _ _ => trivial) (fun _ _ => trivial) same
  intro c _ empty
  have size := String.length_utf8EncodeChar c
  rw [empty] at size
  exact absurd size.symm (Nat.pos_iff_ne_zero.mp c.utf8Size_pos)

theorem utf8_trichotomy {a b : List Char} (other : a ≠ b) (above : ¬ utf8 a < utf8 b) :
    utf8 b < utf8 a := by
  rcases List.le_iff_lt_or_eq.mp (List.not_lt.mp above) with below | same
  · exact below
  · exact absurd (utf8_injective same.symm) other

theorem Members.After.trans {a b : List Char} (below : utf8 a < utf8 b) :
    ∀ {members : Members}, members.After b → members.After a
  | .nil, _ => trivial
  | .cons _ _ _, after => ⟨List.lt_trans below after.1, Members.After.trans below after.2⟩

theorem Members.After.insert {a name : List Char} {value : Value} (below : utf8 a < utf8 name) :
    ∀ {members : Members}, members.After a → (members.insert name value).After a
  | .nil, _ => ⟨below, trivial⟩
  | .cons other old tail, after => by
    simp only [Members.insert]
    split
    · exact ⟨below, after.2⟩
    split
    · exact ⟨below, after⟩
    · exact ⟨after.1, Members.After.insert below after.2⟩

theorem Members.insert_legal {depth : Nat} (name : List Char) {value : Value}
    (fits : value.Legal depth) :
    ∀ {members : Members}, members.Legal depth → (members.insert name value).Legal depth
  | .nil, _ => ⟨fits, trivial, trivial⟩
  | .cons other old tail, ⟨hold, htail, hafter⟩ => by
    simp only [Members.insert]
    split
    · rename_i same
      exact ⟨fits, htail, same ▸ hafter⟩
    rename_i different
    split
    · rename_i below
      exact ⟨fits, ⟨hold, htail, hafter⟩, below, Members.After.trans below hafter⟩
    · rename_i above
      exact ⟨hold, Members.insert_legal name fits htail,
        Members.After.insert (utf8_trichotomy different above) hafter⟩

theorem readLiteral_value {word : Bytes} {value : Value}
    (read : readLiteral word value input = some (v, rest)) : v = value := by
  unfold readLiteral at read
  split at read
  · cases read
    rfl
  · contradiction

theorem read_legal (fuel : Nat) :
    (∀ depth input v rest, readValue fuel depth input = some (v, rest) → v.Legal depth) ∧
    (∀ depth input items rest, readItems fuel depth input = some (items, rest) →
      items.Legal depth) ∧
    (∀ depth seen input members rest, readMembers fuel depth seen input = some (members, rest) →
      seen.Legal depth → members.Legal depth) := by
  induction fuel with
  | zero => exact ⟨by simp [readValue], by simp [readItems], by simp [readMembers]⟩
  | succ fuel ih =>
    obtain ⟨values, itemsLegal, membersLegal⟩ := ih
    refine ⟨?_, ?_, ?_⟩
    · intro depth input v rest read
      rw [readValue] at read
      split at read
      · contradiction
      iterate 3
        split at read
        · rw [readLiteral_value read]
          simp only [Value.Legal]
      split at read
      · obtain ⟨p, _, out⟩ := Option.map_eq_some_iff.mp read
        cases out
        simp only [Value.Legal]
      split at read
      · split at read
        · contradiction
        split at read
        · contradiction
        split at read
        · cases read
          trivial
        · obtain ⟨p, hp, out⟩ := Option.map_eq_some_iff.mp read
          cases out
          exact itemsLegal _ _ _ _ hp
      split at read
      · split at read
        · contradiction
        split at read
        · contradiction
        split at read
        · cases read
          trivial
        · obtain ⟨p, hp, out⟩ := Option.map_eq_some_iff.mp read
          cases out
          exact membersLegal _ _ _ _ _ hp trivial
      · obtain ⟨p, hp, out⟩ := Option.map_eq_some_iff.mp read
        cases out
        simp only [Value.Legal]
        exact readNumber_sound hp
    · intro depth input items rest read
      simp only [readItems, Option.bind_eq_bind, Option.bind_eq_some_iff] at read
      obtain ⟨⟨head, after⟩, hh, read⟩ := read
      split at read
      · contradiction
      split at read
      · cases read
        exact ⟨values _ _ _ _ hh, trivial⟩
      split at read
      · simp only [Option.bind_eq_some_iff] at read
        obtain ⟨⟨tail, r⟩, ht, out⟩ := read
        cases out
        exact ⟨values _ _ _ _ hh, itemsLegal _ _ _ _ ht⟩
      · contradiction
    · intro depth seen input members rest read legal
      rw [readMembers] at read
      split at read
      · contradiction
      split at read
      · simp only [Option.bind_eq_bind, Option.bind_eq_some_iff] at read
        obtain ⟨⟨name, after⟩, _, read⟩ := read
        split at read
        · contradiction
        split at read
        · simp only [Option.bind_eq_some_iff] at read
          obtain ⟨⟨value, after'⟩, hv, read⟩ := read
          have grown := Members.insert_legal name (values _ _ _ _ hv) legal
          split at read
          · contradiction
          split at read
          · cases read
            exact grown
          split at read
          · exact membersLegal _ _ _ _ _ read grown
          · contradiction
        · contradiction
      · contradiction

def Members.append : Members → Members → Members
  | .nil, back => back
  | .cons name value tail, back => .cons name value (tail.append back)

def Members.Before (name : List Char) : Members → Prop
  | .nil => True
  | .cons other _ tail => utf8 other < utf8 name ∧ tail.Before name

theorem Members.insert_last {name : List Char} (value : Value) :
    ∀ {members : Members}, members.Before name →
      members.insert name value = members.append (.cons name value .nil)
  | .nil, _ => rfl
  | .cons other old tail, before => by
    have different : name ≠ other := by
      rintro rfl
      exact List.lt_irrefl _ before.1
    have above : ¬ utf8 name < utf8 other := fun below =>
      List.lt_irrefl _ (List.lt_trans below before.1)
    rw [Members.insert, if_neg different, if_neg above, Members.insert_last value before.2]
    rfl

theorem Members.append_assoc (b c : Members) :
    ∀ a : Members, (a.append b).append c = a.append (b.append c)
  | .nil => rfl
  | .cons name value tail => by
    simp only [Members.append, Members.append_assoc b c tail]

theorem Members.Before.append {name : List Char} {back : Members} (hb : back.Before name) :
    ∀ {front : Members}, front.Before name → (front.append back).Before name
  | .nil, _ => hb
  | .cons _ _ _, before => ⟨before.1, Members.Before.append hb before.2⟩

theorem Members.Before.trans {a b : List Char} (below : utf8 a < utf8 b) :
    ∀ {members : Members}, members.Before a → members.Before b
  | .nil, _ => trivial
  | .cons _ _ _, before => ⟨List.lt_trans before.1 below, Members.Before.trans below before.2⟩

theorem skipSpace_cons (dark : isSpace b = false) (rest : Bytes) :
    skipSpace (b :: rest) = b :: rest := by
  simp [skipSpace, dark]

theorem write_head (depth : Nat) (v : Value) (legal : v.Legal depth) :
    ∃ b tail, write v = b :: tail ∧ isSpace b = false ∧ b ≠ 93 ∧ b ≠ 125 := by
  have digit : ∀ b : UInt8, isDigit b = true → isSpace b = false ∧ b ≠ 93 ∧ b ≠ 125 := by
    intro b isd
    have other := digit_other isd (fun b => isSpace b || b == 93 || b == 125) (by decide)
    simpa [and_assoc] using other
  cases v with
  | null => exact ⟨_, _, rfl, by decide⟩
  | bool b => cases b <;> exact ⟨_, _, rfl, by decide⟩
  | number =>
    simp only [Value.Legal] at legal
    obtain ⟨b, tail, split, first⟩ := legal.head
    rcases first with rfl | isd
    · exact ⟨_, _, split, by decide⟩
    · exact ⟨b, tail, split, digit b isd⟩
  | string => exact ⟨_, _, rfl, by decide⟩
  | array items => cases items <;> exact ⟨_, _, rfl, by decide⟩
  | object members => cases members <;> exact ⟨_, _, rfl, by decide⟩

theorem writeItems_stops (tail : Items) (rest : Bytes) : Stops (writeItems tail ++ rest) := by
  cases tail <;> exact stops_cons (by decide)

theorem writeMembers_stops (tail : Members) (rest : Bytes) : Stops (writeMembers tail ++ rest) := by
  cases tail <;> exact stops_cons (by decide)

theorem readLiteral_append (word : Bytes) (value : Value) (rest : Bytes) :
    readLiteral word value (word ++ rest) = some (value, rest) := by
  simp [readLiteral]

def writeRow : Items → Bytes
  | .nil => []
  | .cons head tail => write head ++ writeItems tail

def writeFields : Members → Bytes
  | .nil => []
  | .cons name value tail => writeText name ++ 58 :: (write value ++ writeMembers tail)

mutual
theorem readValue_write : ∀ (v : Value) (depth fuel : Nat) (rest : Bytes), v.Legal depth →
    Stops rest → (write v).length < fuel → readValue fuel depth (write v ++ rest) = some (v, rest)
  | v, _, 0, _, _, _, enough => absurd enough (Nat.not_lt_zero _)
  | .null, depth, fuel + 1, rest, _, _, _ => readLiteral_append (ascii "null") .null rest
  | .bool true, depth, fuel + 1, rest, _, _, _ => readLiteral_append (ascii "true") _ rest
  | .bool false, depth, fuel + 1, rest, _, _, _ => readLiteral_append (ascii "false") _ rest
  | .number literal, depth, fuel + 1, rest, legal, stops, _ => by
    simp only [Value.Legal] at legal
    obtain ⟨b, tail, split, first⟩ := legal.head
    have read := legal.read rest stops
    have other : ∀ c : UInt8, c ∈ [110, 116, 102, 34, 91, 123] → isSpace b = false ∧ b ≠ c := by
      intro c member
      rcases first with rfl | isd
      · simp only [List.mem_cons, List.not_mem_nil, or_false] at member
        rcases member with rfl | rfl | rfl | rfl | rfl | rfl <;> decide
      · have apart := digit_other isd
          (fun b => isSpace b || [110, 116, 102, 34, 91, 123].contains b) (by decide)
        simp only [Bool.or_eq_false_iff] at apart
        refine ⟨apart.1, ?_⟩
        rintro rfl
        simp [member] at apart
    have dark := (other 110 (by decide)).1
    simp only [write]
    rw [split, List.cons_append] at read ⊢
    simp only [readValue, skipSpace_cons dark, (other 110 (by decide)).2, (other 116 (by decide)).2,
      (other 102 (by decide)).2, (other 34 (by decide)).2, (other 91 (by decide)).2,
      (other 123 (by decide)).2, if_false, read, Option.map_some]
  | .string text, depth, fuel + 1, rest, _, _, _ => by
    have read := readText_writeText text rest
    simp only [write, writeText, List.cons_append, List.append_assoc, List.nil_append, readValue,
      skipSpace_cons (show isSpace 34 = false by decide)]
    simp only [if_true, read]
    rw [if_neg (by decide), if_neg (by decide), if_neg (by decide)]
    rfl
  | .array .nil, depth + 1, fuel + 1, rest, _, _, _ => rfl
  | .array (.cons head tail), depth + 1, fuel + 1, rest, legal, _, enough => by
    have length : (writeRow (.cons head tail)).length < fuel := by
      simpa [write, writeRow] using enough
    have items := readItems_write (.cons head tail) depth fuel rest legal (by simp) length
    obtain ⟨b, t, split, dark, close, _⟩ := write_head depth head legal.1
    simp only [writeRow, split, List.cons_append, List.append_assoc] at items
    simp only [write, split, List.cons_append, List.append_assoc, readValue,
      skipSpace_cons (show isSpace 91 = false by decide), skipSpace_cons dark]
    simp [close, items]
  | .object .nil, depth + 1, fuel + 1, rest, _, _, _ => rfl
  | .object (.cons name value tail), depth + 1, fuel + 1, rest, legal, _, enough => by
    have length : (writeFields (.cons name value tail)).length < fuel := by
      simpa [write, writeFields] using enough
    have members := readMembers_write (.cons name value tail) .nil depth fuel rest legal (by simp)
      (fun _ _ _ _ => trivial) length
    simp only [writeFields, writeText, List.cons_append, List.append_assoc, Members.append,
      List.nil_append] at members
    simp only [write, writeText, List.cons_append, List.append_assoc, List.nil_append, readValue,
      skipSpace_cons (show isSpace 123 = false by decide),
      skipSpace_cons (show isSpace 34 = false by decide)]
    simp [members]

theorem readItems_write : ∀ (items : Items) (depth fuel : Nat) (rest : Bytes), items.Legal depth →
    items ≠ .nil → (writeRow items).length < fuel →
    readItems fuel depth (writeRow items ++ rest) = some (items, rest)
  | .nil, _, _, _, _, nonempty, _ => absurd rfl nonempty
  | .cons head tail, _, 0, _, _, _, enough => absurd enough (Nat.not_lt_zero _)
  | .cons head tail, depth, fuel + 1, rest, legal, _, enough => by
    simp only [writeRow, List.length_append] at enough
    have first := readValue_write head depth fuel (writeItems tail ++ rest) legal.1
      (writeItems_stops tail rest) (by cases tail <;> simp [writeItems] at enough <;> omega)
    simp only [writeRow, List.append_assoc, readItems, first, Option.bind_eq_bind, Option.bind_some]
    cases tail with
    | nil => simp [writeItems, skipSpace_cons (show isSpace 93 = false by decide)]
    | cons next more =>
      have others := readItems_write (.cons next more) depth fuel rest legal.2 (by simp)
        (by simp [writeItems, writeRow] at enough ⊢; omega)
      simp only [writeRow, List.append_assoc] at others
      simp [writeItems, skipSpace_cons (show isSpace 44 = false by decide), others]

theorem readMembers_write : ∀ (members seen : Members) (depth fuel : Nat) (rest : Bytes),
    members.Legal depth → members ≠ .nil →
    (∀ name value tail, members = .cons name value tail → seen.Before name) →
    (writeFields members).length < fuel →
    readMembers fuel depth seen (writeFields members ++ rest) = some (seen.append members, rest)
  | .nil, _, _, _, _, _, nonempty, _, _ => absurd rfl nonempty
  | .cons name value tail, _, _, 0, _, _, _, _, enough => absurd enough (Nat.not_lt_zero _)
  | .cons name value tail, seen, depth, fuel + 1, rest, legal, _, before, enough => by
    simp only [writeFields, List.length_append, List.length_cons] at enough
    have key := readText_writeText name (58 :: (write value ++ (writeMembers tail ++ rest)))
    have first := readValue_write value depth fuel (writeMembers tail ++ rest) legal.1
      (writeMembers_stops tail rest) (by omega)
    have inserted := Members.insert_last value (before name value tail rfl)
    simp only [writeFields, writeText, List.cons_append, List.append_assoc, List.nil_append,
      readMembers, skipSpace_cons (show isSpace 34 = false by decide), if_true, key,
      Option.bind_eq_bind, Option.bind_some, skipSpace_cons (show isSpace 58 = false by decide),
      first]
    cases tail with
    | nil => simp [writeMembers, skipSpace_cons (show isSpace 125 = false by decide), inserted]
    | cons next nextValue more =>
      have single : (Members.cons name value .nil).Before next := ⟨legal.2.2.1, trivial⟩
      have grown : (seen.insert name value).Before next := by
        rw [inserted]
        exact Members.Before.append single
          (Members.Before.trans legal.2.2.1 (before name value _ rfl))
      have others := readMembers_write (.cons next nextValue more) (seen.insert name value) depth
        fuel rest legal.2.1 (by simp) (fun n v t same => by cases same; exact grown)
        (by simp [writeMembers, writeFields] at enough ⊢; omega)
      simp only [writeFields, writeText, List.cons_append, List.append_assoc, List.nil_append,
        inserted, Members.append_assoc, Members.append] at others
      simp only [writeMembers, writeText, List.cons_append, List.append_assoc, List.nil_append,
        skipSpace_cons (show isSpace 44 = false by decide), others, inserted]
      simp
end

theorem parse_write (legal : v.Legal maxNestingDepth) : parse (write v) = some v := by
  have read := readValue_write v maxNestingDepth ((write v).length + 1) [] legal stops_nil
    (Nat.lt_succ_self _)
  rw [List.append_nil] at read
  simp [parse, read, skipSpace]

theorem parse_legal (parsed : parse input = some v) : v.Legal maxNestingDepth := by
  simp only [parse, Option.bind_eq_bind, Option.bind_eq_some_iff] at parsed
  obtain ⟨⟨value, rest⟩, read, out⟩ := parsed
  split at out
  · cases out
    exact (read_legal _).1 _ _ _ _ read
  · contradiction

theorem write_ne_nil (legal : v.Legal maxNestingDepth) : write v ≠ [] := by
  obtain ⟨b, tail, split, _⟩ := write_head _ v legal
  rw [split]
  exact List.cons_ne_nil b tail

end Json
