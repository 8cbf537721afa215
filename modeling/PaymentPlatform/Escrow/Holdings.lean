import PaymentPlatform.Escrow.Transfers
import PaymentPlatform.Offline.Types

/-! Spending rights as holdings. An authority of an account and asset has six
numbers, five of them buckets; a movement adds to some of them, and it is
balanced when what enters or leaves the buckets enters or leaves the total. -/

namespace PaymentPlatform.Escrow

open Framing Ledger Serial

variable {owner : Bytes × Bytes} {st st' : Tables}
variable {st'' : Tables}

/-- `allowances` is the fold over the ISSUED offline allowances, which the stored
bucket `offlineIssued` materializes. -/
inductive Bucket where
  | total
  | unallocated
  | regional
  | inTransit
  | offlineIssued
  | allowances
  deriving DecidableEq, Repr

abbrev Holdings := Bytes × Bytes → Bucket → Int

variable {h h' : Holdings}

abbrev Movement := List (Bucket × Int)

variable {first second : Movement}

def Movement.net (movement : Movement) (bucket : Bucket) : Int :=
  (movement.map fun entry => if entry.1 = bucket then entry.2 else 0).sum

/-- The movement was made at one authority and nowhere else. -/
def Moved (movement : Movement) (owner : Bytes × Bytes) (before after : Holdings) : Prop :=
  ∀ other bucket, after other bucket =
    before other bucket + if other = owner then movement.net bucket else 0

def Conserved (amounts : Bucket → Int) : Prop :=
  amounts .unallocated + amounts .regional + amounts .inTransit + amounts .offlineIssued =
      amounts .total ∧
    amounts .offlineIssued = amounts .allowances

@[simp] theorem Movement.net_nil (bucket : Bucket) : Movement.net [] bucket = 0 := rfl

@[simp] theorem Movement.net_cons (entry : Bucket × Int) (rest : Movement) (bucket : Bucket) :
    Movement.net (entry :: rest) bucket =
      (if entry.1 = bucket then entry.2 else 0) + Movement.net rest bucket := by
  simp [Movement.net]

@[simp] theorem Movement.net_append (first second : Movement) (bucket : Bucket) :
    Movement.net (first ++ second) bucket = first.net bucket + second.net bucket := by
  simp [Movement.net]

theorem Moved.refl (owner : Bytes × Bytes) (holdings : Holdings) :
    Moved [] owner holdings holdings := by
  intro other bucket
  simp

theorem Moved.trans {h'' : Holdings} (left : Moved first owner h h')
    (right : Moved second owner h' h'') : Moved (first ++ second) owner h h'' := by
  intro other bucket
  rw [right other bucket, left other bucket, Movement.net_append]
  split <;> omega

theorem Moved.conserves {movement : Movement} (moved : Moved movement owner h h')
    (balanced : Conserved movement.net) (other : Bytes × Bytes) (law : Conserved (h other)) :
    Conserved (h' other) := by
  obtain ⟨sum, materialized⟩ := balanced
  obtain ⟨whole, folded⟩ := law
  simp only [Conserved, moved other]
  split
  · omega
  · simpa using ⟨whole, folded⟩

def authorityColumn (st : Tables) (column : AuthorityRow → Int) (owner : Bytes × Bytes) : Int :=
  ((st.authorities.lookup owner).map column).getD 0

def regional (st : Tables) (owner : Bytes × Bytes) : Int :=
  st.regionalRights.total fun key row => if (key.1, key.2.1) = owner then row.available else 0

def inTransit (st : Tables) (owner : Bytes × Bytes) : Int :=
  st.transfers.total fun _ row =>
    if (row.accountId, row.assetId) = owner ∧ row.status = .inTransit then row.amount else 0

def offlineIssued (offline : Offline.Tables) (owner : Bytes × Bytes) : Int :=
  offline.offlineIssued.total fun key row => if (key.1, key.2.1) = owner then row.amount else 0

def issuedAllowances (offline : Offline.Tables) (owner : Bytes × Bytes) : Int :=
  offline.allowances.total fun _ row =>
    if (row.accountId, row.assetId) = owner ∧ row.state = .issued then row.amount else 0

def holdings (st : Tables) (offline : Offline.Tables) : Holdings := fun owner bucket =>
  match bucket with
  | .total => authorityColumn st AuthorityRow.totalAuthority owner
  | .unallocated => authorityColumn st AuthorityRow.unallocated owner
  | .regional => regional st owner
  | .inTransit => inTransit st owner
  | .offlineIssued => offlineIssued offline owner
  | .allowances => issuedAllowances offline owner

structure RowsChecked (st : Tables) : Prop where
  authorities : ∀ key row, st.authorities.lookup key = some row → row.Checked
  rights : ∀ key row, st.regionalRights.lookup key = some row → row.Checked
  transfers : ∀ id row, st.transfers.lookup id = some row → 0 < row.amount

/-- Neither an authority nor a regional right is removed, and what fitted its columns
still does. -/
structure RowsKept (st st' : Tables) : Prop where
  authorities : ∀ key, (st.authorities.lookup key).isSome → (st'.authorities.lookup key).isSome
  rights : ∀ key, (st.regionalRights.lookup key).isSome → (st'.regionalRights.lookup key).isSome
  storable : (∀ key row, st.authorities.lookup key = some row → row.Storable) →
    ∀ key row, st'.authorities.lookup key = some row → row.Storable

/-- A step of the escrow tables: rows stay there and stay checked, and the authority of
`owner` changes by the movement. -/
structure Shifted (movement : Movement) (owner : Bytes × Bytes) (st st' : Tables) : Prop where
  checked : RowsChecked st → RowsChecked st'
  moved : ∀ offline, Moved movement owner (holdings st offline) (holdings st' offline)
  kept : RowsKept st st'

theorem RowsKept.trans (left : RowsKept st st') (right : RowsKept st' st'') : RowsKept st st'' :=
  ⟨fun key present => right.authorities key (left.authorities key present),
    fun key present => right.rights key (left.rights key present),
    right.storable ∘ left.storable⟩

theorem RowsKept.of_same (authorities : st'.authorities = st.authorities)
    (rights : st'.regionalRights = st.regionalRights) : RowsKept st st' :=
  ⟨fun key present => by rwa [authorities], fun key present => by rwa [rights],
    fun storable => by rwa [authorities]⟩

theorem Shifted.refl (owner : Bytes × Bytes) (st : Tables) : Shifted [] owner st st :=
  ⟨id, fun _ => Moved.refl owner _, .of_same rfl rfl⟩

theorem Shifted.trans (left : Shifted first owner st st') (right : Shifted second owner st' st'') :
    Shifted (first ++ second) owner st st'' :=
  ⟨right.checked ∘ left.checked, fun offline => (left.moved offline).trans (right.moved offline),
    left.kept.trans right.kept⟩

theorem Shifted.of_same (owner : Bytes × Bytes) (authorities : st'.authorities = st.authorities)
    (rights : st'.regionalRights = st.regionalRights) (transfers : st'.transfers = st.transfers) :
    Shifted [] owner st st' := by
  refine ⟨?_, ?_, .of_same authorities rights⟩
  · rintro ⟨hauthorities, hrights, htransfers⟩
    exact ⟨authorities ▸ hauthorities, rights ▸ hrights, transfers ▸ htransfers⟩
  · intro offline other bucket
    cases bucket <;>
      simp [holdings, authorityColumn, regional, inTransit, authorities, rights, transfers]

theorem Shifted.congr (shifted : Shifted first owner st st')
    (same : ∀ bucket, first.net bucket = second.net bucket) : Shifted second owner st st' := by
  refine ⟨shifted.checked, fun offline other bucket => ?_, shifted.kept⟩
  rw [← same bucket]
  exact shifted.moved offline other bucket

theorem writeAuthority_shifted {key : Bytes × Bytes} {row : AuthorityRow}
    (written : writeAuthority key row st = .ok st') :
    Shifted [(.total, row.totalAuthority - authorityColumn st AuthorityRow.totalAuthority key),
      (.unallocated, row.unallocated - authorityColumn st AuthorityRow.unallocated key)]
      key st st' := by
  simp only [writeAuthority, steps_ok, exists_and_left, exists_const] at written
  obtain ⟨fits, checked, rfl⟩ := written
  refine ⟨?_, ?_, ?_, fun _ => id, ?_⟩
  · rintro ⟨authorities, rights, transfers⟩
    exact ⟨AList.forall_insert checked authorities, rights, transfers⟩
  · intro offline other bucket
    by_cases same : other = key
    · subst same
      cases bucket <;> simp [holdings, authorityColumn, regional, inTransit]
    · cases bucket <;>
        simp [holdings, authorityColumn, regional, inTransit, AList.lookup_insert_ne same, same]
  · intro other present
    rw [AList.lookup_insert_if]
    split
    · rfl
    · exact present
  · exact AList.forall_insert fits

theorem writeRights_shifted {key : Bytes × Bytes × Bytes} {row : RightsRow}
    (written : writeRights key row st = .ok st') : Shifted [(.regional, row.available -
      ((st.regionalRights.lookup key).map RightsRow.available).getD 0)] (key.1, key.2.1) st st' := by
  simp only [writeRights, steps_ok, exists_and_left, exists_const] at written
  obtain ⟨_, checked, _, rfl⟩ := written
  refine ⟨?_, ?_, fun _ => id, ?_, id⟩
  · rintro ⟨authorities, rights, transfers⟩
    exact ⟨authorities, AList.forall_insert checked rights, transfers⟩
  · intro offline other bucket
    cases bucket <;>
      simp only [holdings, authorityColumn, regional, inTransit, AList.total_insert_diff,
        Movement.net_cons, Movement.net_nil, reduceCtorEq, if_true, if_false]
    case regional =>
      by_cases same : (key.1, key.2.1) = other
      · simp [same]
      · cases found : st.regionalRights.lookup key <;> simp [same, Ne.symm same]
    all_goals split <;> simp
  · intro other present
    rw [AList.lookup_insert_if]
    split
    · rfl
    · exact present

theorem updateAuthority_ok {key : Bytes × Bytes} {condition : AuthorityRow → Bool}
    {change : AuthorityRow → AuthorityRow}
    (updated : updateAuthority key condition change st = .ok (some st')) :
    ∃ row, st.authorities.lookup key = some row ∧ condition row = true ∧
      writeAuthority key { change row with version := row.version + 1 } st = .ok st' := by
  unfold updateAuthority at updated
  split at updated
  · cases updated
  · rename_i row found
    split at updated
    · rename_i holds
      simp only [steps_ok, Option.some.injEq, exists_eq_right] at updated
      exact ⟨row, found, holds, updated⟩
    · cases updated

theorem updateRights_ok {key : Bytes × Bytes × Bytes} {condition : RightsRow → Bool}
    {change : RightsRow → RightsRow}
    (updated : updateRights key condition change st = .ok (some st')) :
    ∃ row, st.regionalRights.lookup key = some row ∧ condition row = true ∧
      writeRights key { change row with version := row.version + 1 } st = .ok st' := by
  unfold updateRights at updated
  split at updated
  · cases updated
  · rename_i row found
    split at updated
    · rename_i holds
      simp only [steps_ok, Option.some.injEq, exists_eq_right] at updated
      exact ⟨row, found, holds, updated⟩
    · cases updated

end PaymentPlatform.Escrow
