import PaymentPlatform.Lib.Framing

/-! Texts without the spaces around them: strings.TrimSpace. -/

namespace Framing

variable {text : Bytes} {strings : List Bytes}

/-- The characters of unicode.IsSpace, in UTF-8; a byte that is no part of a valid encoding is no
space. -/
def spaces : List Bytes :=
  [[9], [10], [11], [12], [13], [32], [0xC2, 0x85], [0xC2, 0xA0], [0xE1, 0x9A, 0x80],
    [0xE2, 0x80, 0x80], [0xE2, 0x80, 0x81], [0xE2, 0x80, 0x82], [0xE2, 0x80, 0x83],
    [0xE2, 0x80, 0x84], [0xE2, 0x80, 0x85], [0xE2, 0x80, 0x86], [0xE2, 0x80, 0x87],
    [0xE2, 0x80, 0x88], [0xE2, 0x80, 0x89], [0xE2, 0x80, 0x8A], [0xE2, 0x80, 0xA8],
    [0xE2, 0x80, 0xA9], [0xE2, 0x80, 0xAF], [0xE2, 0x81, 0x9F], [0xE3, 0x80, 0x80]]

/-- One string after the other is cut off the front; each has a byte, so the length of the text
is enough. -/
def dropFront (strings : List Bytes) : Nat → Bytes → Bytes
  | 0, text => text
  | fuel + 1, text =>
    match strings.find? fun s => s.isPrefixOf text with
    | some s => dropFront strings fuel (text.drop s.length)
    | none => text

def trimLeft (text : Bytes) : Bytes := dropFront spaces text.length text

def trimRight (text : Bytes) : Bytes :=
  (dropFront (spaces.map List.reverse) text.length text.reverse).reverse

def trimSpace (text : Bytes) : Bytes := trimRight (trimLeft text)

def leadingSpace (text : Bytes) : Bytes := text.take (text.length - (trimLeft text).length)

theorem dropFront_parts (strings : List Bytes) (fuel : Nat) (text : Bytes) :
    ∃ lead, text = lead ++ dropFront strings fuel text ∧ ∀ b ∈ lead, b ∈ strings.flatten := by
  induction fuel generalizing text with
  | zero => exact ⟨[], rfl, by simp⟩
  | succ fuel ih =>
    rw [dropFront]
    split
    · rename_i s found
      have front : s.isPrefixOf text = true := by simpa using List.find?_some found
      obtain ⟨rest, rfl⟩ := List.isPrefixOf_iff_prefix.mp front
      rw [List.drop_left]
      obtain ⟨lead, parts, inside⟩ := ih rest
      refine ⟨s ++ lead, by rw [List.append_assoc, ← parts], fun b member => ?_⟩
      rcases List.mem_append.mp member with here | there
      · exact List.mem_flatten_of_mem (List.mem_of_find?_eq_some found) here
      · exact inside b there
    · exact ⟨[], rfl, by simp⟩

theorem dropFront_stops (nonempty : [] ∉ strings) {fuel : Nat} (enough : text.length ≤ fuel) :
    ∀ s ∈ strings, ¬ s <+: dropFront strings fuel text := by
  induction fuel generalizing text with
  | zero =>
    intro s member front
    rw [dropFront, List.length_eq_zero_iff.mp (Nat.le_zero.mp enough)] at front
    exact nonempty (List.prefix_nil.mp front ▸ member)
  | succ fuel ih =>
    rw [dropFront]
    split
    · rename_i s found
      have member := List.mem_of_find?_eq_some found
      have some : 0 < s.length := List.length_pos_of_ne_nil fun empty => nonempty (empty ▸ member)
      exact ih (by rw [List.length_drop]; omega)
    · rename_i none
      intro s member front
      exact List.find?_eq_none.mp none s member (List.isPrefixOf_iff_prefix.mpr front)

theorem dropFront_fixed (fuel : Nat) (none : ∀ s ∈ strings, ¬ s <+: text) :
    dropFront strings fuel text = text := by
  cases fuel with
  | zero => rfl
  | succ =>
    rw [dropFront, List.find?_eq_none.mpr fun s member front =>
      none s member (List.isPrefixOf_iff_prefix.mp front)]

theorem leadingSpace_parts (text : Bytes) :
    text = leadingSpace text ++ trimLeft text ∧ ∀ b ∈ leadingSpace text, b ∈ spaces.flatten := by
  obtain ⟨lead, parts, inside⟩ := dropFront_parts spaces text.length text
  have same : leadingSpace text = lead := by
    unfold leadingSpace trimLeft
    generalize dropFront spaces text.length text = kept at parts
    subst parts
    simp
  rw [same]
  exact ⟨parts, inside⟩

theorem trimRight_parts (text : Bytes) :
    ∃ trail, text = trimRight text ++ trail ∧ ∀ b ∈ trail, b ∈ spaces.flatten := by
  obtain ⟨lead, parts, inside⟩ :=
    dropFront_parts (spaces.map List.reverse) text.length text.reverse
  refine ⟨lead.reverse, ?_, fun b member => ?_⟩
  · rw [trimRight, ← List.reverse_append, ← parts, List.reverse_reverse]
  · have known : ∀ b ∈ (spaces.map List.reverse).flatten, b ∈ spaces.flatten := by decide +kernel
    exact known b (inside b (List.mem_reverse.mp member))

theorem trimSpace_trimSpace (text : Bytes) : trimSpace (trimSpace text) = trimSpace text := by
  have left : ∀ s ∈ spaces, ¬ s <+: trimLeft text := dropFront_stops (by decide) le_rfl
  have right : ∀ s ∈ spaces.map List.reverse, ¬ s <+: (trimSpace text).reverse := by
    unfold trimSpace trimRight
    rw [List.reverse_reverse]
    exact dropFront_stops (by decide) (by simp)
  have front : trimLeft (trimSpace text) = trimSpace text := by
    obtain ⟨trail, parts, -⟩ := trimRight_parts (trimLeft text)
    exact dropFront_fixed _ fun s member within => left s member (within.trans ⟨trail, parts.symm⟩)
  rw [trimSpace, front, trimRight, dropFront_fixed _ right, List.reverse_reverse]

end Framing
