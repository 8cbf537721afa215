import PaymentPlatform.Rights.Conservation

/-! The rows of rights over all runs: neither an authority nor a regional right is
removed, and every stored authority fits its columns. What a repeated CreateAuthority
finds is therefore the total as the effects since have left it. -/

namespace PaymentPlatform

open Framing Ledger Serial Escrow

variable {E : Engine}
variable {st st' : Escrow.Tables} {accountId assetId region id : Bytes} {amount total : Int}
  {ε : Type} {kind : EffectKind} {request : EffectRequest} {hash : Digest} {answer : Bool}
  {c : Certificate} {v : Verifier} {db db' : Database E}

theorem rightsStep_kept (db : Database E) (command : RightsCommand E) :
    RowsKept db.escrow (rightsStep db command).escrow := by
  obtain ⟨_, _, _, moved⟩ := rightsStep_steady db command
  exact moved.kept

theorem createAuthority_present {answer : Unit}
    (done : createAuthority E accountId assetId total st = .ok (st', answer)) :
    (accountId ≠ [] ∧ assetId ≠ [] ∧ 0 ≤ total) ∧
      (st'.authorities.lookup (accountId, assetId)).isSome := by
  simp only [createAuthority, steps_ok] at done
  obtain ⟨_, valid, done⟩ := done
  refine ⟨valid, ?_⟩
  split at done
  · simp only [steps_ok, executed_ok] at done
    obtain ⟨_, _, _, written, rfl, _⟩ := done
    simp only [writeAuthority, steps_ok] at written
    obtain ⟨_, _, _, _, rfl⟩ := written
    rw [AList.lookup_insert]
    rfl
  · rename_i row found
    simp only [steps_ok] at done
    obtain ⟨_, _, rfl, _⟩ := done
    simp [found]

/-- The answer where the row exists: the request is compared with the total the row
has now. -/
theorem createAuthority_stored {stored : AuthorityRow}
    (valid : accountId ≠ [] ∧ assetId ≠ [] ∧ 0 ≤ total)
    (found : st.authorities.lookup (accountId, assetId) = some stored) :
    createAuthority E accountId assetId total st =
      if stored.totalAuthority = total then .ok (st, ()) else .error .authorityConflict := by
  have checked : require (accountId ≠ [] ∧ assetId ≠ [] ∧ 0 ≤ total) Escrow.Failure.invalidArgument =
      .ok () := require_ok.2 valid
  unfold createAuthority
  rw [checked, found]
  by_cases same : stored.totalAuthority = total
  · rw [if_pos same]
    exact bind_ok.2 ⟨(), rfl, bind_ok.2 ⟨(), require_ok.2 same, rfl⟩⟩
  · rw [if_neg same]
    exact bind_error.2 (.inr ⟨(), rfl, bind_error.2 (.inl (require_error.2 ⟨same, rfl⟩))⟩)

/-- What is expected of CreateAuthority after it has succeeded with a total: the same
call answers nil and changes nothing, one with another total is refused as a conflict
and changes nothing. -/
def RepeatsCreation (accountId assetId : Bytes) (total : Int) (db : Database E) : Prop :=
  (createAuthority E accountId assetId total db.escrow = .ok (db.escrow, ()) ∧
      rightsStep db (.createAuthority accountId assetId total) = db) ∧
    ∀ other, 0 ≤ other → other ≠ total →
      createAuthority E accountId assetId other db.escrow = .error .authorityConflict ∧
        rightsStep db (.createAuthority accountId assetId other) = db

/-- After any calls, exactly the histories that have brought the total back to the one
created with are ones in which the creation repeats. -/
theorem creation_repeats_iff (db : Database E) (accountId assetId : Bytes) (total : Int)
    (created : Escrow.Tables)
    (succeeded : createAuthority E accountId assetId total db.escrow = .ok (created, ()))
    (commands : List (RightsCommand E)) :
    let reached := run rightsStep { db with escrow := created } commands
    RepeatsCreation accountId assetId total reached ↔
      (reached.escrow.authorities.lookup (accountId, assetId)).map AuthorityRow.totalAuthority =
        some total := by
  intro reached
  obtain ⟨⟨account, asset, nonneg⟩, present⟩ := createAuthority_present succeeded
  have kept : (reached.escrow.authorities.lookup (accountId, assetId)).isSome :=
    run_preserves rightsStep
      (fun db => (db.escrow.authorities.lookup (accountId, assetId)).isSome)
      (fun db command => (rightsStep_kept db command).authorities _) commands present
  obtain ⟨stored, found⟩ := Option.isSome_iff_exists.1 kept
  have answers : ∀ other, 0 ≤ other → createAuthority E accountId assetId other reached.escrow =
      if stored.totalAuthority = other then .ok (reached.escrow, ()) else .error .authorityConflict :=
    fun other valid => createAuthority_stored ⟨account, asset, valid⟩ found
  -- whatever the answer, the row stays as it is
  have unchanged : ∀ other, 0 ≤ other →
      rightsStep reached (.createAuthority accountId assetId other) = reached := by
    intro other valid
    simp only [rightsStep, overEscrow, commit, answers other valid]
    split <;> rename_i stated
    · split at stated
      · cases stated
        rfl
      · cases stated
    · rfl
  rw [found]
  simp only [Option.map_some, Option.some.injEq]
  constructor
  · rintro ⟨⟨answer, _⟩, _⟩
    rw [answers total nonneg] at answer
    by_contra differs
    rw [if_neg differs] at answer
    cases answer
  · intro same
    refine ⟨⟨?_, unchanged total nonneg⟩, ?_⟩
    · rw [answers total nonneg, if_pos same]
    · intro other valid differs
      refine ⟨?_, unchanged other valid⟩
      rw [answers other valid, if_neg fun equal => differs (equal.symm.trans same)]

/-- A creation is repeated after an allocation, which moves rights and keeps the total. -/
theorem sample_creation_repeats :
    let owner := (ascii "alice", ascii "KZT")
    let created : Escrow.Tables :=
      (rightsStep Payment.sampleDatabase.withoutRights
        (.createAuthority owner.1 owner.2 10)).escrow
    let reached := run rightsStep { Payment.sampleDatabase.withoutRights with escrow := created }
      [.allocate ⟨ascii "e1", owner.1, owner.2, ascii "north", 6⟩]
    reached.escrow.authorities.lookup owner = some ⟨10, 4, 1⟩ ∧
      RepeatsCreation owner.1 owner.2 10 reached := by
  refine ⟨by decide +kernel, ?_⟩
  exact (creation_repeats_iff _ _ _ 10 _ rfl _).2 (by decide +kernel)

/-- One spend of two later, the creation with the same total conflicts, and one with a
total of eight is taken for its repetition. -/
theorem spent_authority_conflicts :
    let reached := run rightsStep Payment.sampleDatabase.withoutRights sampleRights
    createAuthority sampleEngine (ascii "alice") (ascii "KZT") 10 reached.escrow =
        .error .authorityConflict ∧
      createAuthority sampleEngine (ascii "alice") (ascii "KZT") 8 reached.escrow =
        .ok (reached.escrow, ()) := by
  have found : (run rightsStep Payment.sampleDatabase.withoutRights
      sampleRights).escrow.authorities.lookup (ascii "alice", ascii "KZT") = some ⟨8, 4, 2⟩ := by
    decide +kernel
  exact ⟨createAuthority_stored (by decide) found, createAuthority_stored (by decide) found⟩

end PaymentPlatform
