import PaymentPlatform.Pii.Service

/-! What one section can do to rows, receipts and keys. -/

namespace PaymentPlatform.Pii

open Framing Ledger Serial

variable {E : Engine} {T : Transit} {phase : Phase}
variable {name keyName : Bytes} {α : Type} {store : Store T}

structure Mapping.Follows (mapping mapping' : Mapping) : Prop where
  jurisdiction : mapping'.jurisdiction = mapping.jurisdiction
  keyName : mapping'.vaultKeyName = mapping.vaultKeyName
  ciphertext : mapping'.ciphertext = mapping.ciphertext
  active : mapping'.state = .active → mapping.state = .active

theorem Mapping.Follows.refl (mapping : Mapping) : mapping.Follows mapping :=
  ⟨rfl, rfl, rfl, fun active => active⟩

theorem Mapping.follows_pending (mapping : Mapping) (requestId : Bytes) :
    mapping.Follows (mapping.pending requestId) :=
  ⟨rfl, rfl, rfl, nofun⟩

structure DatabaseEffect (E : Engine) (phase : Phase) (name : Bytes)
    (db db' : Database) : Prop where
  /-- Rows are stored by an INSERT of Create only. -/
  row : ∀ id mapping', db'.mappings.lookup id = some mapping' →
    (∃ mapping, db.mappings.lookup id = some mapping ∧ mapping.Follows mapping') ∨
    ∃ draft ciphertext, phase = .inserting draft ciphertext ∧ name = draft.target.database ∧
      id = draft.identityId ∧ mapping' = draft.mapping ciphertext ∧
      texts E [draft.identityId, draft.jurisdiction] = true

structure VaultEffect (phase : Phase) (name : Bytes) (vault vault' : T.Vault) :
    Prop where
  /-- Keys are created by Create only. -/
  key : ∀ keyName entry', T.lookup vault' keyName = some entry' →
    (∃ entry, T.lookup vault keyName = some entry ∧ entry'.material = entry.material) ∨
    ∃ draft, phase = .ensuring draft ∧ name = draft.target.kms ∧ keyName = draft.keyName ∧
      T.lookup vault keyName = none
  /-- Keys are deleted by the two DELETE requests only. -/
  gone : ∀ keyName entry, T.lookup vault keyName = some entry → T.lookup vault' keyName = none →
    (∃ target, phase = .destroying target keyName ∧ name = target.kms) ∨
    ∃ draft, phase = .purging draft ∧ name = draft.target.kms ∧ keyName = draft.keyName

structure Effect (E : Engine) (phase : Phase) (store store' : Store T) : Prop where
  databases : ∀ name, DatabaseEffect E phase name (store.databases name) (store'.databases name)
  vaults : ∀ name, VaultEffect phase name (store.vaults name) (store'.vaults name)

theorem DatabaseEffect.refl (name : Bytes) (db : Database) : DatabaseEffect E phase name db db :=
  ⟨fun _ mapping found => .inl ⟨mapping, found, .refl mapping⟩⟩

theorem VaultEffect.same {vault vault' : T.Vault} (same : T.lookup vault' = T.lookup vault) :
    VaultEffect phase name vault vault' :=
  ⟨fun _ entry found => .inl ⟨entry, same ▸ found, rfl⟩,
    fun _ entry found missing => by rw [same, found] at missing; cases missing⟩

theorem VaultEffect.refl (name : Bytes) (vault : T.Vault) : VaultEffect phase name vault vault :=
  .same rfl

theorem VaultEffect.update {vault vault' : T.Vault} {new : Option (KeyEntry T.Key)}
    (written : T.lookup vault' = Function.update (T.lookup vault) keyName new)
    (kept : ∀ entry', new = some entry' →
      (∃ entry, T.lookup vault keyName = some entry ∧ entry'.material = entry.material) ∨
      ∃ draft, phase = .ensuring draft ∧ name = draft.target.kms ∧ keyName = draft.keyName ∧
        T.lookup vault keyName = none)
    (gone : ∀ entry, T.lookup vault keyName = some entry → new = none →
      (∃ target, phase = .destroying target keyName ∧ name = target.kms) ∨
      ∃ draft, phase = .purging draft ∧ name = draft.target.kms ∧ keyName = draft.keyName) :
    VaultEffect phase name vault vault' := by
  refine ⟨fun other entry' found => ?_, fun other entry found lost => ?_⟩
  · by_cases same : other = keyName
    · subst same
      rw [written, Function.update_self] at found
      exact kept entry' found
    · rw [written, Function.update_of_ne same] at found
      exact .inl ⟨entry', found, rfl⟩
  · by_cases same : other = keyName
    · subst same
      rw [written, Function.update_self] at lost
      exact gone entry found lost
    · rw [written, Function.update_of_ne same, found] at lost
      cases lost

theorem Effect.refl (store : Store T) : Effect E phase store store :=
  ⟨fun name => .refl name _, fun name => .refl name _⟩

theorem VaultEffect.stays {vault vault' : T.Vault}
    (effect : VaultEffect phase name vault vault') {entry : KeyEntry T.Key}
    (present : T.lookup vault keyName = some entry) :
    (∃ entry', T.lookup vault' keyName = some entry' ∧ entry'.material = entry.material) ∨
      T.lookup vault' keyName = none ∧ ((∃ target, phase = .destroying target keyName ∧ name = target.kms) ∨
        ∃ draft, phase = .purging draft ∧ name = draft.target.kms ∧ keyName = draft.keyName) := by
  cases after : T.lookup vault' keyName with
  | none => exact .inr ⟨rfl, effect.gone keyName entry present after⟩
  | some entry' =>
    rcases effect.key keyName entry' after with ⟨old, found, same⟩ | ⟨_, _, _, _, missing⟩
    · rw [present] at found
      cases found
      exact .inl ⟨entry', rfl, same⟩
    · rw [present] at missing
      cases missing

theorem onDatabase_effect {statement : Database → Database × α}
    (effect : DatabaseEffect E phase name (store.databases name)
      (statement (store.databases name)).1) (ending : Ending) :
    Effect E phase store (store.onDatabase name statement ending).1 := by
  refine ⟨fun other => ?_, fun other => .refl other _⟩
  simp only [Store.onDatabase]
  by_cases same : other = name
  · subst same
    rw [Function.update_self]
    exact submit_preserves statement (DatabaseEffect E phase other (store.databases other)) ending
      (.refl other _) effect
  · rw [Function.update_of_ne same]
    exact .refl other _

theorem onVault_effect {post : T.Vault → T.Vault × α}
    (effect : VaultEffect phase name (store.vaults name) (post (store.vaults name)).1)
    (ending : Ending) : Effect E phase store (store.onVault name post ending).1 := by
  refine ⟨fun other => .refl other _, fun other => ?_⟩
  simp only [Store.onVault]
  by_cases same : other = name
  · subst same
    rw [Function.update_self]
    exact submit_preserves post (VaultEffect phase other (store.vaults other)) ending
      (.refl other _) effect
  · rw [Function.update_of_ne same]
    exact .refl other _

theorem onDatabase_answered {statement : Database → Database × α} {ending : Ending} {a : α}
    (answered : (store.onDatabase name statement ending).2 = some a) :
    (store.onDatabase name statement ending).1.databases name =
        (statement (store.databases name)).1 ∧ (statement (store.databases name)).2 = a := by
  obtain ⟨same, answer⟩ : _ ∧ _ := submit_answered
    (show (submit statement ending (store.databases name)).2 = some a from answered)
  refine ⟨?_, answer⟩
  simp only [Store.onDatabase, Function.update_self]
  exact same

theorem onVault_answered {post : T.Vault → T.Vault × α} {ending : Ending} {a : α}
    (answered : (store.onVault name post ending).2 = some a) :
    (store.onVault name post ending).1.vaults name = (post (store.vaults name)).1 ∧
      (post (store.vaults name)).2 = a := by
  obtain ⟨same, answer⟩ : _ ∧ _ := submit_answered
    (show (submit post ending (store.vaults name)).2 = some a from answered)
  refine ⟨?_, answer⟩
  simp only [Store.onVault, Function.update_self]
  exact same

theorem insertMapping_effect (draft : Draft) (ciphertext : Bytes) (db : Database) :
    DatabaseEffect E (.inserting draft ciphertext) draft.target.database db
      (insertMapping E draft.identityId (draft.mapping ciphertext) db).1 := by
  unfold insertMapping
  split
  · rename_i legal
    refine ⟨fun id mapping' found => ?_⟩
    simp only [Database.setMappings, AList.lookup_insert_if] at found
    split at found
    · rename_i same
      refine .inr ⟨draft, ciphertext, rfl, rfl, same, (Option.some.inj found).symm, ?_⟩
      have all := legal.1
      simp only [texts, List.all_cons, Bool.and_eq_true] at all ⊢
      exact ⟨all.1, all.2.1, rfl⟩
    · exact .inl ⟨mapping', found, .refl mapping'⟩
  · exact .refl _ db

theorem row_some {db : Database} {jurisdiction identityId : Bytes} {mapping : Mapping}
    (found : db.row jurisdiction identityId = some mapping) :
    db.mappings.lookup identityId = some mapping ∧ mapping.jurisdiction = jurisdiction := by
  simp only [Database.row, Option.filter_eq_some_iff, decide_eq_true_eq] at found
  exact found

theorem markPending_effect (name jurisdiction identityId requestId : Bytes) (db : Database) :
    DatabaseEffect E phase name db (markPending E jurisdiction identityId requestId db).1 := by
  unfold markPending
  split
  · split
    · exact .refl name db
    · rename_i mapping found
      split
      · refine ⟨fun id mapping' there => ?_⟩
        simp only [Database.setMappings, AList.lookup_insert_if] at there
        split at there
        · rename_i same
          cases there
          exact .inl ⟨mapping, same ▸ (row_some found).1, mapping.follows_pending requestId⟩
        · exact .inl ⟨mapping', there, .refl mapping'⟩
      · exact .refl name db
  · exact .refl name db

theorem eraseMapping_effect (target : Target) (jurisdiction identityId requestId : Bytes)
    (db : Database) :
    DatabaseEffect E (.erasing target) target.database db (eraseMapping E jurisdiction identityId requestId db).1 := by
  unfold eraseMapping
  split
  · split
    · exact .refl _ db
    · split
      · refine ⟨fun id mapping' found => ?_⟩
        by_cases same : id = identityId
        · subst same
          rw [AList.lookup_erase] at found
          cases found
        · rw [AList.lookup_erase_ne same] at found
          exact .inl ⟨mapping', found, .refl mapping'⟩
      · exact .refl _ db
  · exact .refl _ db

theorem createKey_effect (draft : Draft) (material : T.Key) (vault : T.Vault) :
    VaultEffect (.ensuring draft) draft.target.kms vault
      (T.createKey draft.keyName material vault).1 := by
  refine VaultEffect.update (T.created draft.keyName material vault) (fun entry' same => ?_) nofun
  cases known : T.lookup vault draft.keyName with
  | none => exact .inr ⟨draft, rfl, rfl, rfl, rfl⟩
  | some entry =>
    rw [known] at same
    exact .inl ⟨entry, rfl, congrArg _ (Option.some.inj same).symm⟩

theorem allowDeletion_effect (name keyName : Bytes) (vault : T.Vault) :
    VaultEffect phase name vault (T.allowDeletion keyName vault).1 := by
  refine VaultEffect.update (T.allowed keyName vault) (fun entry' same => ?_) fun entry found none_ => ?_
  · obtain ⟨entry, found, rfl⟩ := Option.map_eq_some_iff.mp same
    exact .inl ⟨entry, found, rfl⟩
  · rw [found] at none_
    cases none_

theorem deleteKey_effect
    (deletes : (∃ target, phase = .destroying target keyName ∧ name = target.kms) ∨
      ∃ draft, phase = .purging draft ∧ name = draft.target.kms ∧ keyName = draft.keyName)
    (vault : T.Vault) : VaultEffect phase name vault (T.deleteKey keyName vault).1 := by
  refine VaultEffect.update (T.deleted keyName vault) (fun entry' same => ?_) fun _ _ _ => deletes
  exact .inl ⟨entry', (Option.filter_eq_some_iff.mp same).1, rfl⟩

theorem createSection_effect (material : T.Key) (nonce : Nat) (ending : Ending) (store : Store T) :
    Effect E phase store (createSection E material nonce phase ending store).1 := by
  cases phase with
  | ensuring draft => exact onVault_effect (createKey_effect draft material _) ending
  | encrypting => exact onVault_effect (.same (T.encrypted ..).1) ending
  | inserting draft ciphertext => exact onDatabase_effect (insertMapping_effect draft ciphertext _) ending
  | cleaning => exact onVault_effect (allowDeletion_effect _ _ _) ending
  | purging draft => exact onVault_effect (deleteKey_effect (.inr ⟨draft, rfl, rfl, rfl⟩) _) ending
  | _ => exact .refl store

theorem getSection_effect (jurisdiction identityId : Bytes) (ending : Ending) (store : Store T) :
    Effect E phase store (getSection E jurisdiction identityId phase ending store).1 := by
  cases phase with
  | reading => exact onDatabase_effect (.refl _ _) ending
  | opening =>
    simp only [getSection]
    split
    · exact .refl store
    · exact onVault_effect (.same (T.decrypted ..).1) ending
  | _ => exact .refl store

theorem deleteSection_effect (jurisdiction identityId requestId : Bytes) (ending : Ending)
    (store : Store T) : Effect E phase store
      (deleteSection E jurisdiction identityId requestId phase ending store).1 := by
  cases phase with
  | marking => exact onDatabase_effect (markPending_effect _ _ _ _ _) ending
  | allowing => exact onVault_effect (allowDeletion_effect _ _ _) ending
  | destroying target =>
    exact onVault_effect (deleteKey_effect (.inl ⟨target, rfl, rfl⟩) _) ending
  | erasing target => exact onDatabase_effect (eraseMapping_effect target _ _ _ _) ending
  | lookingUp => exact onDatabase_effect (.refl _ _) ending
  | explaining => exact onDatabase_effect (.refl _ _) ending
  | _ => exact .refl store

theorem requestSection_effect (request : Request T) (phase : Phase) (ending : Ending)
    (store : Store T) : Effect E phase store (requestSection E request phase ending store).1 := by
  cases request with
  | create jurisdiction attributes identitySuffix keySuffix material nonce =>
    exact createSection_effect material nonce ending store
  | get jurisdiction identityId => exact getSection_effect jurisdiction identityId ending store
  | delete jurisdiction identityId requestId =>
    exact deleteSection_effect jurisdiction identityId requestId ending store

end PaymentPlatform.Pii
