import PaymentPlatform.Lib.JsonObjects
import PaymentPlatform.Lib.Table

/-! Go's map[string]string as a JSON object: Marshal, Unmarshal and the round trip for
maps of valid UTF-8 texts. -/

namespace Json

open Framing

def Utf8 (value : Bytes) : Prop := ∃ chars, utf8 chars = value

def insertAll (rows : List (Bytes × Bytes)) (seen : Members) : Members :=
  rows.foldl (fun seen e => seen.insert (text e.1) (.string (text e.2))) seen

def textMap (m : Table Bytes Bytes) : Value :=
  .object (insertAll (m.rows.insertionSort fun a b => a.1 ≤ b.1) .nil)

def textMapOf : Members → Option (Table Bytes Bytes)
  | .nil => some ∅
  | .cons name value tail =>
    match value with
    | .string text => (textMapOf tail).map (·.insert (utf8 name) (utf8 text))
    | .null => (textMapOf tail).map (·.insert (utf8 name) [])
    | _ => none

def unmarshalTextMap (document : Bytes) : Option (Table Bytes Bytes) :=
  match parse document with
  | some .null => some ∅
  | some (.object members) => textMapOf members
  | _ => none

theorem runes_utf8 (chars : List Char) (fuel : Nat) (enough : (utf8 chars).length ≤ fuel) :
    runes fuel (utf8 chars) = chars := by
  induction chars generalizing fuel with
  | nil => cases fuel <;> rfl
  | cons c rest ih =>
    have encoded : utf8 (c :: rest) = String.utf8EncodeChar c ++ utf8 rest := List.flatMap_cons
    have size := String.length_utf8EncodeChar c
    have positive := c.utf8Size_pos
    rw [encoded, List.length_append] at enough
    rw [encoded]
    cases fuel with
    | zero => omega
    | succ fuel =>
      have later := ih fuel (by omega)
      rcases Nat.lt_or_ge c.toNat 128 with small | large
      · have code : (UInt8.ofNat c.toNat).toNat = c.toNat := by
          simp only [UInt8.toNat_ofNat']
          omega
        have single : UInt8.ofNat c.toNat < 128 := by
          rw [UInt8.lt_iff_toNat_lt, code]
          exact small
        rw [utf8EncodeChar_ascii small]
        simp only [List.cons_append, List.nil_append, runes, single, if_true, code, Char.ofNat_toNat,
          later]
      · obtain ⟨b, tail, split, high⟩ := utf8EncodeChar_head large
        have multi : ¬ b < 128 := by
          rw [UInt8.lt_iff_toNat_lt]
          exact Nat.not_lt.mpr high
        have decoded : (b :: (tail ++ utf8 rest)).toByteArray.utf8DecodeChar? 0 = some c := by
          rw [← List.cons_append, ← split, List.toByteArray_append]
          exact ByteArray.utf8DecodeChar?_utf8EncodeChar_append
        have dropped : (b :: (tail ++ utf8 rest)).drop c.utf8Size = utf8 rest := by
          rw [← List.cons_append, ← split, ← size]
          exact List.drop_left
        rw [split]
        simp only [List.cons_append, runes, multi, if_false, decoded, dropped, later]

theorem utf8_text {value : Bytes} (valid : Utf8 value) : utf8 (text value) = value := by
  obtain ⟨chars, rfl⟩ := valid
  rw [text, runes_utf8 chars _ (Nat.le_refl _)]

def Texts : Members → Prop
  | .nil => True
  | .cons _ value tail => (∃ text, value = .string text) ∧ Texts tail

theorem Texts.insert (name text : List Char) :
    ∀ {members : Members}, Texts members → Texts (members.insert name (.string text))
  | .nil, _ => ⟨⟨text, rfl⟩, trivial⟩
  | .cons other old tail, ⟨first, rest⟩ => by
    simp only [Members.insert]
    split
    · exact ⟨⟨text, rfl⟩, rest⟩
    split
    · exact ⟨⟨text, rfl⟩, first, rest⟩
    · exact ⟨first, rest.insert name text⟩

theorem Texts.unmarshal {depth : Nat} : ∀ {members : Members}, Texts members → members.Legal depth →
    ∃ m, textMapOf members = some m ∧
      (∀ name text, members.find name = some (.string text) → m.lookup (utf8 name) = some (utf8 text)) ∧
      ∀ key value, m.lookup key = some value →
        ∃ name text, key = utf8 name ∧ members.find name = some (.string text)
  | .nil, _, _ => ⟨∅, rfl, fun _ _ found => (nomatch found), fun _ _ found => (nomatch found)⟩
  | .cons name _ tail, ⟨⟨text, rfl⟩, rest⟩, ⟨_, legal, after⟩ => by
    obtain ⟨m, read, there, back⟩ := rest.unmarshal legal
    refine ⟨m.insert (utf8 name) (utf8 text), by rw [textMapOf, read]; rfl, ?_, ?_⟩
    · intro other found stored
      simp only [Members.find] at stored
      split at stored
      · rename_i same
        cases stored
        rw [same, AList.lookup_insert]
      · rename_i different
        rw [AList.lookup_insert_ne fun same => different (utf8_injective same)]
        exact there other found stored
    · intro key value found
      simp only [AList.lookup_insert_if] at found
      split at found
      · rename_i same
        exact ⟨name, text, same, by rw [Members.find, if_pos rfl]⟩
      · obtain ⟨other, stored, rfl, member⟩ := back key value found
        refine ⟨other, stored, rfl, ?_⟩
        have different : other ≠ name := by
          rintro rfl
          rw [After.absent after] at member
          cases member
        rw [Members.find, if_neg different, member]

theorem insertAll_texts (rows : List (Bytes × Bytes)) {seen : Members} (texts : Texts seen)
    (integral : seen.Integral) (legal : ∀ depth, seen.Legal depth) :
    Texts (insertAll rows seen) ∧ (insertAll rows seen).Integral ∧
      ∀ depth, (insertAll rows seen).Legal depth := by
  induction rows generalizing seen with
  | nil => exact ⟨texts, integral, legal⟩
  | cons e rest ih =>
    have whole : (Value.string (text e.2)).Integral := trivial
    have fits : ∀ depth, (Value.string (text e.2)).Legal depth := fun _ => trivial
    exact ih (texts.insert _ _) (Members.insert_integral _ whole integral)
      fun depth => Members.insert_legal _ (fits depth) (legal depth)

theorem textMap_texts (m : Table Bytes Bytes) :
    ∃ members, textMap m = .object members ∧ Texts members ∧ members.Integral ∧
      ∀ depth, members.Legal depth :=
  ⟨_, rfl, insertAll_texts _ trivial trivial fun _ => trivial⟩

theorem textMap_congr {a b : Table Bytes Bytes} (same : ∀ name, a.lookup name = b.lookup name) :
    textMap a = textMap b := by
  unfold textMap
  rw [AList.sort_congr same]

theorem unmarshalTextMap_object {document : Bytes} {members : Members}
    (parsed : parse document = some (.object members)) :
    unmarshalTextMap document = textMapOf members := by
  rw [unmarshalTextMap, parsed]

theorem find_insertAll_other {name : List Char} {rows : List (Bytes × Bytes)}
    (absent : ∀ e ∈ rows, text e.1 ≠ name) (seen : Members) :
    (insertAll rows seen).find name = seen.find name := by
  induction rows generalizing seen with
  | nil => rfl
  | cons e rest ih =>
    have later := ih (fun e' member => absent e' (List.mem_cons_of_mem _ member))
      (seen.insert (text e.1) (.string (text e.2)))
    have first := absent e List.mem_cons_self
    rw [insertAll, List.foldl_cons]
    refine later.trans ?_
    rw [Members.find_insert, if_neg (Ne.symm first)]

theorem find_insertAll {rows : List (Bytes × Bytes)} (distinct : (rows.map Prod.fst).Nodup)
    (valid : ∀ e ∈ rows, Utf8 e.1) {e : Bytes × Bytes} (member : e ∈ rows) (seen : Members) :
    (insertAll rows seen).find (text e.1) = some (.string (text e.2)) := by
  induction rows generalizing seen with
  | nil => cases member
  | cons first rest ih =>
    rw [List.map_cons, List.nodup_cons] at distinct
    rcases List.mem_cons.mp member with rfl | member
    · have absent : ∀ e' ∈ rest, text e'.1 ≠ text e.1 := by
        intro e' there same
        have keys : e'.1 = e.1 := by
          rw [← utf8_text (valid e' (List.mem_cons_of_mem _ there)), same,
            utf8_text (valid e List.mem_cons_self)]
        exact distinct.1 (keys ▸ List.mem_map_of_mem there)
      refine (find_insertAll_other absent _).trans ?_
      rw [Members.find_insert, if_pos rfl]
    · exact ih distinct.2 (fun e' there => valid e' (List.mem_cons_of_mem _ there)) member _

theorem unmarshalTextMap_write {m : Table Bytes Bytes}
    (valid : ∀ key value, m.lookup key = some value → Utf8 key ∧ Utf8 value) :
    ∃ read, unmarshalTextMap (write (textMap m)) = some read ∧ ∀ key, read.lookup key = m.lookup key := by
  have sorted := m.rows.perm_insertionSort fun a b => a.1 ≤ b.1
  have listed : ∀ e, e ∈ m.rows.insertionSort (fun a b => a.1 ≤ b.1) ↔ m.lookup e.1 = some e.2 :=
    fun e => (sorted.mem_iff).trans (AList.mem_rows m e.1 e.2)
  have distinct : ((m.rows.insertionSort fun a b => a.1 ≤ b.1).map Prod.fst).Nodup :=
    (sorted.map Prod.fst).nodup_iff.mpr m.rows_keys_nodup
  obtain ⟨texts, _, legal⟩ := @insertAll_texts (m.rows.insertionSort fun a b => a.1 ≤ b.1) .nil
    trivial trivial fun _ => trivial
  obtain ⟨read, back, there, from_⟩ := texts.unmarshal (legal 9999)
  have parsed : parse (write (textMap m)) = some (textMap m) := parse_write (legal 9999)
  refine ⟨read, (unmarshalTextMap_object parsed).trans back, fun key => ?_⟩
  cases known : m.lookup key with
  | some value =>
    obtain ⟨utf8Key, utf8Value⟩ := valid key value known
    have found := find_insertAll distinct
      (fun e member => (valid e.1 e.2 ((listed e).mp member)).1) ((listed (key, value)).mpr known) .nil
    have stored := there _ _ found
    rwa [utf8_text utf8Key, utf8_text utf8Value] at stored
  | none =>
    cases unread : read.lookup key with
    | none => rfl
    | some value =>
      obtain ⟨name, stored, rfl, found⟩ := from_ key value unread
      by_contra
      have absent : ∀ e ∈ m.rows.insertionSort (fun a b => a.1 ≤ b.1), text e.1 ≠ name := by
        rintro e member rfl
        have present := (listed e).mp member
        rw [utf8_text (valid e.1 e.2 present).1, present] at known
        cases known
      rw [find_insertAll_other absent] at found
      cases found

end Json
