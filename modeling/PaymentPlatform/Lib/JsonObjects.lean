import PaymentPlatform.Lib.JsonRoundTrip

/-! Objects by their members, integer literals, and documents that are equal up to the
order of members: the reader produces one value for them. -/

namespace Json

open Framing

theorem Members.find_insert (name other : List Char) (value : Value) (members : Members) :
    (members.insert name value).find other =
      if other = name then some value else members.find other := by
  match members with
  | .nil => rfl
  | .cons first old tail =>
    have ih := Members.find_insert name other value tail
    simp only [Members.insert]
    split
    · rename_i same
      subst same
      simp only [Members.find]
      split <;> rfl
    split
    · rfl
    · rename_i different _
      simp only [Members.find, ih]
      split
      · rename_i here
        rw [if_neg (fun same => different (same.symm.trans here))]
      · rfl

theorem object_preserves (P : Members → Prop) (Q : Value → Prop) {members : List (String × Value)}
    (empty : P .nil) (keeps : ∀ name value seen, Q value → P seen → P (seen.insert name value))
    (values : ∀ m ∈ members, Q m.2) : ∃ built, object members = .object built ∧ P built := by
  suffices folded : ∀ seen : Members, P seen →
      P (members.foldl (fun seen m => seen.insert m.1.toList m.2) seen) from
    ⟨_, rfl, folded .nil empty⟩
  induction members with
  | nil => exact fun _ holds => holds
  | cons m rest ih =>
    intro seen holds
    apply ih (fun m' member => values m' (List.mem_cons_of_mem _ member))
    exact keeps _ _ _ (values m List.mem_cons_self) holds

theorem object_legal {depth : Nat} {members : List (String × Value)}
    (values : ∀ m ∈ members, m.2.Legal depth) : (object members).Legal (depth + 1) := by
  obtain ⟨built, same, legal⟩ := object_preserves (Members.Legal depth) (Value.Legal depth) trivial
    (fun name _ _ fits legal => Members.insert_legal name fits legal) values
  rw [same]
  exact legal

theorem find_foldl (name : List Char) (members : List (String × Value)) (seen : Members) :
    (members.foldl (fun seen m => seen.insert m.1.toList m.2) seen).find name =
      ((members.reverse.find? fun m => m.1.toList = name).map Prod.snd).or (seen.find name) := by
  induction members generalizing seen with
  | nil => rfl
  | cons m rest ih =>
    rw [List.foldl_cons, ih, Members.find_insert, List.reverse_cons, List.find?_append]
    cases found : rest.reverse.find? fun m => m.1.toList = name with
    | some => rfl
    | none =>
      by_cases same : m.1.toList = name
      · simp [same]
      · simp [same, Ne.symm same]

theorem find_object (name : String) (members : List (String × Value)) :
    ∃ built, object members = .object built ∧ built.find name.toList =
      (members.reverse.find? fun m => m.1 = name).map Prod.snd := by
  refine ⟨_, rfl, ?_⟩
  rw [find_foldl]
  simp [Members.find, String.toList_inj]

theorem runes_ascii (bytes : Bytes) (plain : ∀ b ∈ bytes, b < 128) (fuel : Nat)
    (enough : bytes.length ≤ fuel) : runes fuel bytes = bytes.map fun b => Char.ofNat b.toNat := by
  induction bytes generalizing fuel with
  | nil => cases fuel <;> rfl
  | cons b rest ih =>
    cases fuel with
    | zero => simp at enough
    | succ fuel =>
      have first := plain b List.mem_cons_self
      rw [runes, if_pos first, ih (fun c member => plain c (List.mem_cons_of_mem _ member)) fuel
        (Nat.le_of_succ_le_succ enough)]
      rfl

theorem utf8_text_ascii {bytes : Bytes} (plain : ∀ b ∈ bytes, b < 128) :
    utf8 (text bytes) = bytes := by
  rw [text, runes_ascii bytes plain _ (Nat.le_refl _), utf8, List.flatMap_map]
  have single : ∀ b ∈ bytes, String.utf8EncodeChar (Char.ofNat b.toNat) = [b] := by
    intro b member
    have small : b.toNat < 128 := plain b member
    have codes : ∀ n : Fin 128, (Char.ofNat n).toNat = n := by decide
    have code : (Char.ofNat b.toNat).toNat = b.toNat := codes ⟨b.toNat, small⟩
    rw [utf8EncodeChar_ascii (by omega), code, UInt8.ofNat_toNat]
  rw [List.flatMap_congr single]
  simp

theorem decimal_cases (v : Int) :
    decimal v = if v < 0 then 45 :: decimal v.natAbs else decimal v.natAbs := by
  simp only [decimal, Int.natAbs_natCast, Int.natCast_nonneg, not_lt.mpr]
  split <;> simp

theorem digit_text {d : Nat} (small : d < 10) : isDigit (UInt8.ofNat (48 + d)) = true := by
  revert d
  decide

theorem digit_nonzero {d : Nat} (small : d < 10) (nonzero : d ≠ 0) : UInt8.ofNat (48 + d) ≠ 48 := by
  revert d
  decide

theorem numeral_head (base : Nat) {v : Nat} (positive : v ≠ 0) :
    ∃ d rest, numeral base v = d :: rest ∧ d ≠ 0 := by
  have nonempty : Nat.digits base v ≠ [] := Nat.digits_ne_nil_iff_ne_zero.mpr positive
  simp only [numeral, if_neg positive]
  cases split : (Nat.digits base v).reverse with
  | nil => exact absurd (List.reverse_eq_nil_iff.mp split) nonempty
  | cons d rest =>
    have last : (Nat.digits base v).getLast nonempty = d := by
      rw [← List.head_reverse (by simpa using nonempty)]
      simp [split]
    exact ⟨d, rest, rfl, last ▸ Nat.getLast_digit_ne_zero base positive⟩

theorem digits_decimal (v : Nat) : Digits (decimal v) := by
  have small := numeral_lt (by decide : 1 < 10) v
  refine ⟨?_, ?_⟩
  · by_cases zero : v = 0
    · subst zero
      decide
    · obtain ⟨d, rest, split, _⟩ := numeral_head 10 zero
      simp [decimal, split]
  · intro b member
    simp only [decimal, Int.natAbs_natCast, Int.natCast_nonneg, not_lt.mpr, if_false,
      List.nil_append, List.mem_map] at member
    obtain ⟨d, within, rfl⟩ := member
    exact digit_text (small d within)

theorem readInteger_decimal (v : Nat) : readInteger (decimal v) = some (decimal v, []) := by
  by_cases zero : v = 0
  · subst zero
    decide
  · obtain ⟨d, rest, split, nonzero⟩ := numeral_head 10 zero
    have small : d < 10 := numeral_lt (by decide) v d (by simp [split])
    have read := readDigits_append (digits_decimal v) [] (by simp)
    rw [List.append_nil] at read
    have text : decimal v = UInt8.ofNat (48 + d) :: rest.map fun d => UInt8.ofNat (48 + d) := by
      simp [decimal, split]
    rw [text] at read ⊢
    rw [readInteger, if_neg (digit_nonzero small nonzero), read]

theorem readNumber_decimal (v : Int) : readNumber (decimal v) = some (decimal v, []) := by
  obtain ⟨b, tail, split, digit⟩ := (digits_decimal v.natAbs).head
  have integer := readInteger_decimal v.natAbs
  rw [decimal_cases]
  generalize v.natAbs = n at split integer ⊢
  split
  · rw [readNumber, readSign_present rfl]
    simp [integer, readFraction, readExponent]
  · have sign : readSign (· == 45) (decimal n) = ([], decimal n) := by
      rw [split]
      exact readSign_absent (fun c t same => by
        cases same
        exact digit_other digit (· == 45) (by decide))
    rw [readNumber, sign]
    simp [integer, readFraction, readExponent]

theorem numberText_decimal (v : Int) : NumberText (decimal v) :=
  readNumber_sound (readNumber_decimal v)

theorem decimal_ascii (v : Int) : ∀ b ∈ decimal v, b < 128 := by
  have digits : ∀ b ∈ decimal v.natAbs, b < 128 := by
    intro b member
    have range := digit_range ((digits_decimal v.natAbs).2 b member)
    exact UInt8.lt_iff_toNat_lt.mpr (by simp; omega)
  rw [decimal_cases]
  split
  · intro b member
    rcases List.mem_cons.mp member with rfl | inside
    · decide
    · exact digits b inside
  · exact digits

mutual
def Value.Integral : Value → Prop
  | .number literal => ∃ v, literal = decimal v
  | .array items => items.Integral
  | .object members => members.Integral
  | _ => True
def Items.Integral : Items → Prop
  | .nil => True
  | .cons head tail => head.Integral ∧ tail.Integral
def Members.Integral : Members → Prop
  | .nil => True
  | .cons _ value tail => value.Integral ∧ tail.Integral
end

theorem Members.insert_integral (name : List Char) {value : Value} (whole : value.Integral) :
    ∀ {members : Members}, members.Integral → (members.insert name value).Integral
  | .nil, _ => ⟨whole, trivial⟩
  | .cons other old tail, ⟨hold, htail⟩ => by
    simp only [Members.insert]
    split
    · exact ⟨whole, htail⟩
    split
    · exact ⟨whole, hold, htail⟩
    · exact ⟨hold, Members.insert_integral name whole htail⟩

theorem object_integral {members : List (String × Value)}
    (values : ∀ m ∈ members, m.2.Integral) : (object members).Integral := by
  obtain ⟨built, same, whole⟩ := object_preserves Members.Integral Value.Integral trivial
    (fun name _ _ fits whole => Members.insert_integral name fits whole) values
  rw [same]
  exact whole

mutual
/-- The same document; members are compared by name. -/
inductive Similar : Value → Value → Prop
  | refl (v : Value) : Similar v v
  | array {items items' : Items} (each : SimilarItems items items') :
      Similar (.array items) (.array items')
  | object {members members' : Members}
      (names : ∀ name, members.find name = none ↔ members'.find name = none)
      (values : ∀ name v v', members.find name = some v → members'.find name = some v' →
        Similar v v') :
      Similar (.object members) (.object members')
inductive SimilarItems : Items → Items → Prop
  | nil : SimilarItems .nil .nil
  | cons {head head' : Value} {tail tail' : Items} (first : Similar head head')
      (rest : SimilarItems tail tail') : SimilarItems (.cons head tail) (.cons head' tail')
end

theorem After.absent {name : List Char} : ∀ {members : Members}, members.After name →
    members.find name = none
  | .nil, _ => rfl
  | .cons other _ tail, ⟨below, after⟩ => by
    have different : name ≠ other := by
      rintro rfl
      exact List.lt_irrefl _ below
    rw [Members.find, if_neg different]
    exact After.absent after

/-- The first of two first names stands in one of the lists only. -/
theorem Members.Legal.same_first {depth : Nat} {name name' : List Char} {value value' : Value}
    {tail tail' : Members} (legal : (Members.cons name value tail).Legal depth)
    (legal' : (Members.cons name' value' tail').Legal depth)
    (names : ∀ other, (Members.cons name value tail).find other = none ↔
      (Members.cons name' value' tail').find other = none) : name = name' := by
  by_contra different
  by_cases below : utf8 name < utf8 name'
  · have absent := (names name).mpr (After.absent ⟨below, legal'.2.2.trans below⟩)
    simp [Members.find] at absent
  · have above := utf8_trichotomy different below
    have absent := (names name').mp (After.absent ⟨above, legal.2.2.trans above⟩)
    simp [Members.find] at absent

mutual
/-- The reader sorts the members, so of a document it produces one value. -/
theorem Similar.eq : ∀ {v v' : Value} {depth : Nat}, Similar v v' → v.Legal depth →
    v'.Legal depth → v = v'
  | _, _, _, .refl _, _, _ => rfl
  | .array items, .array items', depth + 1, .array each, legal, legal' => by
    rw [SimilarItems.eq each legal legal']
  | .object members, .object members', depth + 1, .object names values, legal, legal' => by
    rw [Members.eq_of_find legal legal' names values]
theorem SimilarItems.eq : ∀ {items items' : Items} {depth : Nat}, SimilarItems items items' →
    items.Legal depth → items'.Legal depth → items = items'
  | _, _, _, .nil, _, _ => rfl
  | .cons head tail, .cons head' tail', _, .cons first rest, legal, legal' => by
    rw [Similar.eq first legal.1 legal'.1, SimilarItems.eq rest legal.2 legal'.2]
theorem Members.eq_of_find : ∀ {members members' : Members} {depth : Nat}, members.Legal depth →
    members'.Legal depth → (∀ name, members.find name = none ↔ members'.find name = none) →
    (∀ name v v', members.find name = some v → members'.find name = some v' → Similar v v') →
    members = members'
  | .nil, .nil, _, _, _, _, _ => rfl
  | .nil, .cons name value tail, _, _, _, names, _ => by
    have absent := (names name).mp rfl
    simp [Members.find] at absent
  | .cons name value tail, .nil, _, _, _, names, _ => by
    have absent := (names name).mpr rfl
    simp [Members.find] at absent
  | .cons name value tail, .cons name' value' tail', depth, legal, legal', names, values => by
    cases Members.Legal.same_first legal legal' names
    have head := values name value value' (by simp [Members.find]) (by simp [Members.find])
    have later : ∀ {other v} {rest : Members} (w : Value), rest.After name →
        rest.find other = some v → (Members.cons name w rest).find other = some v := by
      intro other v rest w after found
      rw [Members.find, if_neg, found]
      rintro rfl
      rw [After.absent after] at found
      cases found
    have tails : ∀ other, tail.find other = none ↔ tail'.find other = none := by
      intro other
      by_cases first : other = name
      · rw [first, After.absent legal.2.2, After.absent legal'.2.2]
      · have both := names other
        rwa [Members.find, if_neg first, Members.find, if_neg first] at both
    rw [Similar.eq head legal.1 legal'.1,
      Members.eq_of_find legal.2.1 legal'.2.1 tails fun other v v' found found' =>
        values other v v' (later _ legal.2.2 found) (later _ legal'.2.2 found')]
end
end Json
