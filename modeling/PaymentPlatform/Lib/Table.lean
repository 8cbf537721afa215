import Mathlib.Data.Finmap
import Mathlib.Data.List.Sort
import Mathlib.Algebra.BigOperators.Group.List.Basic
import Mathlib.Algebra.Order.BigOperators.Group.List
import Mathlib.Data.Int.Order.Basic
import Mathlib.Tactic.Abel

/-! Relations with a primary key. A table is a finite map from keys to rows;
`total` is the aggregate SUM over its rows. Nothing depends on the order in
which rows were written: an ordered read sorts the selected rows explicitly.
A log only grows at its end. -/

abbrev Table (κ ρ : Type) := AList (fun _ : κ => ρ)

namespace AList

variable {κ ρ M : Type}
variable {t t' : Table κ ρ} {k : κ} {weight weight' : κ → ρ → M} {r : ρ}

def rows (t : Table κ ρ) : List (κ × ρ) :=
  t.entries.map fun e => (e.1, e.2)

def total [AddCommMonoid M] (t : Table κ ρ) (weight : κ → ρ → M) : M :=
  (t.rows.map fun e => weight e.1 e.2).sum

theorem rows_keys_nodup (t : Table κ ρ) : (t.rows.map Prod.fst).Nodup := by
  simpa [rows, List.map_map, AList.keys, List.keys, Function.comp_def] using t.keys_nodup

theorem rows_nodup (t : Table κ ρ) : t.rows.Nodup :=
  t.rows_keys_nodup.of_map

section Lookup

variable [DecidableEq κ]

theorem lookup_insert_if (t : Table κ ρ) (k k' : κ) (r : ρ) :
    (t.insert k r).lookup k' = if k' = k then some r else t.lookup k' := by
  split
  · rename_i same
    subst same
    exact lookup_insert t
  · rename_i other
    exact lookup_insert_ne other

theorem forall_insert {P : κ → ρ → Prop} (own : P k r)
    (others : ∀ k' r', t.lookup k' = some r' → P k' r') (k' : κ) (r' : ρ)
    (found : (t.insert k r).lookup k' = some r') : P k' r' := by
  rw [lookup_insert_if] at found
  split at found
  · rename_i same
    cases found
    exact same ▸ own
  · exact others k' r' found

theorem lookup_insert_fresh (fresh : t.lookup k = none) (r : ρ) {k' : κ}
    {r' : ρ} (found : t.lookup k' = some r') : (t.insert k r).lookup k' = some r' := by
  rw [lookup_insert_ne]
  · exact found
  · rintro rfl
    rw [fresh] at found
    cases found

theorem rows_insert_fresh (fresh : t.lookup k = none) (r : ρ) :
    (t.insert k r).rows = (k, r) :: t.rows := by
  simp only [rows, entries_insert_of_notMem (lookup_eq_none.mp fresh), List.map_cons]

theorem mem_rows (t : Table κ ρ) (k : κ) (r : ρ) : (k, r) ∈ t.rows ↔ t.lookup k = some r := by
  rw [← Option.mem_def, mem_lookup_iff]
  simp only [rows, List.mem_map, Prod.mk.injEq]
  constructor
  · rintro ⟨⟨k', r'⟩, member, rfl, rfl⟩
    exact member
  · intro member
    exact ⟨⟨k, r⟩, member, rfl, rfl⟩

theorem any_rows (t : Table κ ρ) (p : κ → ρ → Bool) :
    t.rows.any (fun e => p e.1 e.2) = true ↔ ∃ k r, t.lookup k = some r ∧ p k r = true := by
  simp only [List.any_eq_true, Prod.exists, mem_rows]

end Lookup

section Totals

variable [AddCommMonoid M]

@[simp] theorem total_empty (weight : κ → ρ → M) : total (∅ : Table κ ρ) weight = 0 := rfl

theorem total_add (t : Table κ ρ) (weight weight' : κ → ρ → M) :
    t.total (fun k r => weight k r + weight' k r) = t.total weight + t.total weight' := by
  simp only [total, List.sum_map_add]

theorem total_zero (t : Table κ ρ) : t.total (fun _ _ => (0 : M)) = 0 := by
  simp [total]

variable [DecidableEq κ]

theorem total_insert (t : Table κ ρ) (k : κ) (r : ρ) (weight : κ → ρ → M) :
    (t.insert k r).total weight = weight k r + (t.erase k).total weight := by
  simp [total, rows, AList.entries_insert, AList.erase]

theorem erase_absent (t : Table κ ρ) (fresh : t.lookup k = none) : t.erase k = t := by
  apply AList.ext
  exact List.kerase_of_notMem_keys (lookup_eq_none.mp fresh)

theorem total_insert_fresh (t : Table κ ρ) (fresh : t.lookup k = none) (r : ρ)
    (weight : κ → ρ → M) : (t.insert k r).total weight = weight k r + t.total weight := by
  rw [total_insert, erase_absent t fresh]

theorem total_erase (t : Table κ ρ) (present : t.lookup k = some r)
    (weight : κ → ρ → M) : t.total weight = weight k r + (t.erase k).total weight := by
  have member : (⟨k, r⟩ : Sigma fun _ : κ => ρ) ∈ t.entries := mem_lookup_iff.mp present
  obtain ⟨r', left, right, absent, split, erased⟩ :=
    List.exists_of_kerase (List.mem_keys_of_mem member)
  have same : r' = r := by
    have head : (⟨k, r'⟩ : Sigma fun _ : κ => ρ) ∈ t.entries := by simp [split]
    have other : t.lookup k = some r' := mem_lookup_iff.mpr head
    rw [present] at other
    exact (Option.some.inj other).symm
  subst same
  have entries : (t.erase k).entries = left ++ right := erased
  simp only [total, rows, entries, split, List.map_append, List.map_cons, List.sum_append,
    List.sum_cons]
  abel

/-- Overwriting a row moves an aggregate by the difference of the two rows. -/
theorem total_update (t : Table κ ρ) (present : t.lookup k = some r) (r' : ρ) (weight : κ → ρ → M) :
    (t.insert k r').total weight + weight k r = t.total weight + weight k r' := by
  rw [total_insert, total_erase t present weight]
  abel

theorem total_congr (t : Table κ ρ) (same : ∀ k r, t.lookup k = some r → weight k r = weight' k r) :
    t.total weight = t.total weight' := by
  unfold total
  congr 1
  apply List.map_congr_left
  intro e member
  exact same e.1 e.2 ((mem_rows t e.1 e.2).mp member)

theorem total_reweigh (t : Table κ ρ) (present : t.lookup k = some r)
    (same : ∀ k' r', k' ≠ k → weight' k' r' = weight k' r') :
    t.total weight' + weight k r = t.total weight + weight' k r := by
  have rest : (t.erase k).total weight' = (t.erase k).total weight := by
    apply total_congr
    intro k' r' found
    apply same
    rintro rfl
    simp at found
  rw [total_erase t present weight, total_erase t present weight', rest]
  abel

theorem total_indicator (t : Table κ ρ) (present : t.lookup k = some r) (x : M) :
    t.total (fun k' _ => if k' = k then x else 0) = x := by
  have moved : t.total (fun k' _ => if k' = k then x else 0) + 0 =
      t.total (fun _ _ => 0) + if k = k then x else 0 :=
    t.total_reweigh present (fun _ _ other => if_neg other)
  rwa [total_zero, add_zero, zero_add, if_pos rfl] at moved

/-- Writing a row moves an aggregate by what the row adds to the one it overwrites. -/
theorem total_insert_add (t : Table κ ρ) (weight : κ → ρ → M) {d : M}
    (adds : weight k r = (t.lookup k).elim 0 (weight k) + d) :
    (t.insert k r).total weight = t.total weight + d := by
  rw [total_insert, adds]
  cases present : t.lookup k with
  | none => rw [erase_absent t present, Option.elim_none, zero_add, add_comm]
  | some =>
    rw [total_erase t present, Option.elim_some]
    abel

theorem total_insert_weightless (t : Table κ ρ) (k : κ) (r : ρ) (weight : κ → ρ → M)
    (new : weight k r = 0) (old : ∀ r', t.lookup k = some r' → weight k r' = 0) :
    (t.insert k r).total weight = t.total weight := by
  rw [total_insert_add t weight (d := 0), add_zero]
  cases present : t.lookup k with
  | none => simp [new]
  | some r' => simp [new, old r' present]

omit [DecidableEq κ] in
theorem sum_filter_weightless (rows : List (κ × ρ)) (select : κ × ρ → Bool) (weight : κ → ρ → M)
    (light : ∀ e ∈ rows, select e = false → weight e.1 e.2 = 0) :
    (rows.map fun e => weight e.1 e.2).sum =
      ((rows.filter select).map fun e => weight e.1 e.2).sum := by
  induction rows with
  | nil => rfl
  | cons e rest ih =>
    have later := ih fun e' member => light e' (List.mem_cons_of_mem _ member)
    cases chosen : select e with
    | false => simp [chosen, later, light e List.mem_cons_self chosen]
    | true => simp [chosen, later]

theorem total_extend (weight : κ → ρ → M) (kept : ∀ k r, t.lookup k = some r → t'.lookup k = some r)
    (new : ∀ k r, t.lookup k = none → t'.lookup k = some r → weight k r = 0) :
    t'.total weight = t.total weight := by
  have same : (t'.rows.filter fun e => (t.lookup e.1).isSome).Perm t.rows := by
    rw [List.perm_ext_iff_of_nodup (t'.rows_nodup.filter _) t.rows_nodup]
    rintro ⟨k, r⟩
    simp only [List.mem_filter, mem_rows]
    constructor
    · rintro ⟨present, old⟩
      obtain ⟨r', found⟩ := Option.isSome_iff_exists.mp old
      rw [kept k r' found] at present
      rw [found, present]
    · intro found
      exact ⟨kept k r found, by rw [found]; rfl⟩
  rw [total, sum_filter_weightless t'.rows (fun e => (t.lookup e.1).isSome) weight]
  · exact (same.map _).sum_eq
  · intro e member absent
    exact new e.1 e.2 (by simpa using absent) ((mem_rows t' e.1 e.2).mp member)

end Totals

section Order

variable [DecidableEq κ]

/-- What an insertion adds to an aggregate; an absent row counts for nothing. -/
theorem total_insert_diff (t : Table κ ρ) (k : κ) (r : ρ) (weight : κ → ρ → Int) :
    (t.insert k r).total weight =
      t.total weight + (weight k r - ((t.lookup k).map (weight k)).getD 0) := by
  cases present : t.lookup k with
  | none =>
    rw [total_insert_fresh t present]
    simp only [Option.map_none, Option.getD_none]
    omega
  | some =>
    have moved := total_update t present r weight
    simp only [Option.map_some, Option.getD_some]
    omega

theorem total_nonneg (t : Table κ ρ) (weight : κ → ρ → Int)
    (nonneg : ∀ k r, t.lookup k = some r → 0 ≤ weight k r) : 0 ≤ t.total weight := by
  apply List.sum_nonneg
  intro w member
  obtain ⟨e, he, rfl⟩ := List.mem_map.mp member
  exact nonneg e.1 e.2 ((mem_rows t e.1 e.2).mp he)

theorem weight_le_total (t : Table κ ρ) (weight : κ → ρ → Int)
    (nonneg : ∀ k r, t.lookup k = some r → 0 ≤ weight k r)
    (present : t.lookup k = some r) : weight k r ≤ t.total weight := by
  have rest : 0 ≤ (t.erase k).total weight := by
    apply total_nonneg
    intro k' r' found
    by_cases same : k' = k
    · subst same
      simp at found
    · rw [lookup_erase_ne same] at found
      exact nonneg k' r' found
  rw [total_erase t present]
  omega

end Order

section Load

/- Rows that are written into a table one after the other. -/

variable {α : Type}

theorem exists_rows (rows : List (κ × ρ)) (distinct : (rows.map Prod.fst).Nodup) :
    ∃ t : Table κ ρ, t.rows = rows := by
  refine ⟨⟨rows.map fun e => ⟨e.1, e.2⟩, ?_⟩, ?_⟩
  · simpa [List.NodupKeys, List.keys, List.map_map, Function.comp_def] using distinct
  · simp [AList.rows, List.map_map, Function.comp_def]

variable [DecidableEq κ]

theorem lookup_load_absent (f : α → ρ) (rows : List (κ × α)) (t : Table κ ρ)
    (absent : k ∉ rows.map Prod.fst) :
    (rows.foldl (fun t e => t.insert e.1 (f e.2)) t).lookup k = t.lookup k := by
  induction rows generalizing t with
  | nil => rfl
  | cons e rest ih =>
    rw [List.map_cons, List.mem_cons, not_or] at absent
    rw [List.foldl_cons, ih _ absent.2, lookup_insert_ne absent.1]

theorem lookup_load_present (f : α → ρ) (rows : List (κ × α)) (t : Table κ ρ)
    (distinct : (rows.map Prod.fst).Nodup) {a : α} (present : (k, a) ∈ rows) :
    (rows.foldl (fun t e => t.insert e.1 (f e.2)) t).lookup k = some (f a) := by
  induction rows generalizing t with
  | nil => cases present
  | cons e rest ih =>
    rw [List.map_cons, List.nodup_cons] at distinct
    rw [List.foldl_cons]
    rcases List.mem_cons.mp present with rfl | later
    · rw [lookup_load_absent f rest _ distinct.1, lookup_insert]
    · exact ih _ distinct.2 later

end Load

section Sorted

/- Rows in the order of their keys, for keys that are words over an ordered alphabet: the order
in which they were written does not matter. -/

theorem rows_perm [DecidableEq κ] (same : ∀ k, t.lookup k = t'.lookup k) : t.rows.Perm t'.rows := by
  refine (List.perm_ext_iff_of_nodup t.rows_nodup t'.rows_nodup).mpr fun e => ?_
  rw [mem_rows t e.1 e.2, mem_rows t' e.1 e.2, same]

variable {α : Type} [LT α] [LE α] [Std.IsLinearOrder α] [Std.LawfulOrderLT α]
  [DecidableRel fun a b : List α × ρ => a.1 ≤ b.1]

instance keys_total : Std.Total fun a b : List α × ρ => a.1 ≤ b.1 :=
  ⟨fun a b => List.le_total a.1 b.1⟩

instance keys_trans : IsTrans (List α × ρ) fun a b => a.1 ≤ b.1 :=
  ⟨fun _ _ _ first second => List.le_trans first second⟩

theorem sort_eq_of_perm {rows rows' : List (List α × ρ)} (same : rows.Perm rows')
    (distinct : (rows.map Prod.fst).Nodup) :
    rows.insertionSort (fun a b => a.1 ≤ b.1) = rows'.insertionSort (fun a b => a.1 ≤ b.1) := by
  have first := List.perm_insertionSort (fun a b : List α × ρ => a.1 ≤ b.1) rows
  have second := List.perm_insertionSort (fun a b : List α × ρ => a.1 ≤ b.1) rows'
  refine List.Perm.eq_of_pairwise (fun a b member member' le ge => ?_)
    (List.pairwise_insertionSort _ _) (List.pairwise_insertionSort _ _)
    (first.trans (same.trans second.symm))
  have keys : a.1 = b.1 := List.le_antisymm le ge
  have here : a ∈ rows := first.mem_iff.mp member
  have there : b ∈ rows := same.mem_iff.mpr (second.mem_iff.mp member')
  exact List.inj_on_of_nodup_map distinct here there keys

theorem sort_congr [DecidableEq α] {t t' : Table (List α) ρ} (same : ∀ k, t.lookup k = t'.lookup k) :
    t.rows.insertionSort (fun a b => a.1 ≤ b.1) = t'.rows.insertionSort (fun a b => a.1 ≤ b.1) :=
  sort_eq_of_perm (rows_perm same) t.rows_keys_nodup

end Sorted

end AList

namespace Log

theorem nodup_extend {α β : Type} {log : List α} {key : α → β} {entry : α}
    (once : (log.map key).Nodup) (fresh : ∀ a ∈ log, key a ≠ key entry) :
    ((log ++ [entry]).map key).Nodup := by
  rw [List.map_append, List.nodup_append]
  refine ⟨once, by simp, ?_⟩
  intro a old b new same
  obtain ⟨entry', member, rfl⟩ := List.mem_map.mp old
  rw [List.map_cons, List.map_nil, List.mem_singleton] at new
  exact fresh entry' member (same.trans new)

/-- A log with an entry for every row has one for the row that is inserted with it. -/
theorem mem_extend {α κ ρ : Type} [DecidableEq κ] {t : Table κ ρ} {log : List α} {key : α → κ}
    {entry : α} {k k' : κ} {r r' : ρ} (named : key entry = k)
    (found : (t.insert k r).lookup k' = some r')
    (before : t.lookup k' = some r' → ∃ a ∈ log, key a = k') : ∃ a ∈ log ++ [entry], key a = k' := by
  rw [AList.lookup_insert_if] at found
  split at found
  · rename_i same
    exact ⟨entry, List.mem_append_right _ List.mem_cons_self, named.trans same.symm⟩
  · obtain ⟨a, member, same⟩ := before found
    exact ⟨a, List.mem_append_left _ member, same⟩

end Log
