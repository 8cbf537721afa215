import PaymentPlatform.Pii.Deletion

/-! The key of an active mapping is kept, and Get returns what Create was given, exactly when
the cleanup of Create never deletes the key of a mapping that was stored after all. -/

namespace PaymentPlatform.Pii

open Framing Ledger Serial

variable {E : Engine} {T : Transit} {ι : Type} {routing : Routing} {request : ι → Request T}
  {s s' : System T ι}
variable {draft : Draft} {store : Store T} {phase : Phase} {jurisdiction id : Bytes}
  {entry : KeyEntry T.Key}

def Requested (request : ι → Request T) (s : System T ι) (jurisdiction id : Bytes) : Prop :=
  ∃ call requestId, request call = .delete jurisdiction id requestId ∧ s.phase call ≠ .called

def getNow (E : Engine) (routing : Routing) (store : Store T) (jurisdiction id : Bytes) : Phase :=
  let read := getSection E jurisdiction id (enter routing (.get jurisdiction id : Request T))
    .acknowledged store
  (getSection E jurisdiction id read.2 .acknowledged read.1).2

structure Creation (routing : Routing) (request : Request T) (attributes : Table Bytes Bytes)
    (draft : Draft) : Prop where
  prepares : Prepares routing request draft
  given : ∃ jurisdiction identitySuffix keySuffix material nonce,
    request = .create jurisdiction (some attributes) identitySuffix keySuffix material nonce

/-- Every active mapping whose deletion was not requested has its key, and Get returns the
attributes that were given to Create. -/
def Retained (E : Engine) (routing : Routing) (request : ι → Request T) (s : System T ι) : Prop :=
  ∀ name id mapping, (s.store.databases name).mappings.lookup id = some mapping →
    mapping.state = .active → ¬ Requested request s mapping.jurisdiction id →
    ∃ call attributes draft, Creation routing (request call) attributes draft ∧
      draft.identityId = id ∧
      (T.lookup (s.store.vaults draft.target.kms) draft.keyName).isSome ∧
      ((∀ key value, attributes.lookup key = some value → Json.Utf8 key ∧ Json.Utf8 value) →
        ∃ identity, getNow E routing s.store draft.jurisdiction id = .found identity ∧
          identity.identityId = id ∧ identity.jurisdiction = draft.jurisdiction ∧
          ∀ key, identity.attributes.lookup key = attributes.lookup key)

/-- The cleanup of a Create does not delete the key of an active mapping. -/
def Spares (request : ι → Request T) (s : System T ι) : Event ι → Prop
  | .crash _ => True
  | .resume call ending => match s.phase call with
    | .purging draft => ending ≠ .aborted →
      (∃ entry ∈ T.lookup (s.store.vaults draft.target.kms) draft.keyName, entry.deletionAllowed = true) →
      ∀ mapping ∈ (s.store.databases draft.target.database).mappings.lookup draft.identityId,
        mapping.state = .active → Requested request s mapping.jurisdiction draft.identityId
    | _ => True

def Request.material : Request T → Option (T.Key × Nat)
  | .create _ _ _ _ material nonce => some (material, nonce)
  | _ => none

/-- The key of a draft is in its key store, as it was drawn. -/
def Holds (request : Request T) (store : Store T) (draft : Draft) : Prop :=
  ∃ entry nonce, T.lookup (store.vaults draft.target.kms) draft.keyName = some entry ∧
    request.material = some (entry.material, nonce)

def Sealed (request : Request T) (draft : Draft) (ciphertext : Bytes) : Prop :=
  ciphertext ≠ [] ∧ ∃ material nonce, request.material = some (material, nonce) ∧
    ciphertext = T.encipher material nonce draft.context draft.plaintext

def KeySound (routing : Routing) (request : Request T) (store : Store T) : Phase → Prop
  | .called => ∀ draft, Prepares routing request draft →
    T.lookup (store.vaults draft.target.kms) draft.keyName = none
  | .ensuring draft => T.lookup (store.vaults draft.target.kms) draft.keyName = none
  | .encrypting draft => Holds request store draft
  | .inserting draft ciphertext => Holds request store draft ∧ Sealed request draft ciphertext
  | _ => True

structure Intact (E : Engine) (routing : Routing) (request : ι → Request T) (s : System T ι) : Prop where
  sound : Sound routing request s
  keys : ∀ call, KeySound routing (request call) s.store (s.phase call)
  rows : ∀ name id mapping, (s.store.databases name).mappings.lookup id = some mapping →
    mapping.state = .active → ¬ Requested request s mapping.jurisdiction id →
    ∃ call draft, Creates routing request s call draft ∧ name = draft.target.database ∧
      id = draft.identityId ∧ mapping.jurisdiction = draft.jurisdiction ∧
      mapping.vaultKeyName = draft.keyName ∧ Holds (request call) s.store draft ∧
      Sealed (request call) draft mapping.ciphertext ∧
      texts E [draft.identityId, draft.jurisdiction] = true

theorem Prepares.given {call : Request T} (prepares : Prepares routing call draft) :
    ∃ attributes, Creation routing call attributes draft ∧
      draft.plaintext = Json.write (Json.textMap attributes) ∧ validKeyName draft.keyName = true ∧
      draft.jurisdiction ≠ [] := by
  obtain ⟨jurisdiction, _, _, _, material, nonce, rfl, prepared⟩ := id prepares
  have nonempty : jurisdiction ≠ [] := by
    simp only [prepare, steps_ok] at prepared
    obtain ⟨_, nonempty, _⟩ := prepared
    exact nonempty
  obtain ⟨map, _, _, rfl, rfl, rfl, _, located, _, _, valid, written⟩ := prepare_ok prepared
  exact ⟨map, ⟨prepares, _, _, _, _, _, rfl⟩, written, valid, located ▸ nonempty⟩

theorem getNow_found (documented : T.Documented) {call : Request T} {mapping : Mapping}
    (prepares : Prepares routing call draft)
    (stored : (store.databases draft.target.database).mappings.lookup draft.identityId = some mapping)
    (active : mapping.state = .active) (located : mapping.jurisdiction = draft.jurisdiction)
    (keyed : mapping.vaultKeyName = draft.keyName) (holds : Holds call store draft)
    (sealed_ : Sealed call draft mapping.ciphertext)
    (legal : texts E [draft.identityId, draft.jurisdiction] = true) {attributes : Table Bytes Bytes}
    (written : draft.plaintext = Json.write (Json.textMap attributes))
    (valid : ∀ key value, attributes.lookup key = some value → Json.Utf8 key ∧ Json.Utf8 value) :
    ∃ identity, getNow E routing store draft.jurisdiction draft.identityId = .found identity ∧
      identity.identityId = draft.identityId ∧ identity.jurisdiction = draft.jurisdiction ∧
      ∀ key, identity.attributes.lookup key = attributes.lookup key := by
  obtain ⟨_, _, _, validName, nonempty⟩ := prepares.given
  obtain ⟨_, _, _, _, named, _⟩ := prepares.drawn
  have identified : draft.identityId ≠ [] := by
    rw [named]
    exact nofun
  obtain ⟨entry, nonce, present, drawn⟩ := holds
  obtain ⟨nonzero, material, nonce', drawn', cipher⟩ := sealed_
  rw [drawn] at drawn'
  cases drawn'
  obtain ⟨read, decoded, same⟩ := Json.unmarshalTextMap_write valid
  have entered : enter routing (.get draft.jurisdiction draft.identityId : Request T) =
      .reading draft.target := by
    simp only [enter, prepares.routed, nonempty, identified, or_self, if_false]
  have row : (store.databases draft.target.database).row draft.jurisdiction draft.identityId =
      some mapping := by
    simp only [Database.row, stored, Option.filter_some, located, decide_true, if_true]
  have selected : getSection E draft.jurisdiction draft.identityId (.reading draft.target)
      .acknowledged store = (store, .opening draft.target mapping) := by
    simp only [getSection, Store.onDatabase, submit, selectMapping, legal, row, active, ne_eq,
      not_true_eq_false, if_true, if_false, Function.update_eq_self]
  have opened : (getSection E draft.jurisdiction draft.identityId (.opening draft.target mapping)
      .acknowledged store).2 = .found ⟨draft.identityId, draft.jurisdiction, read⟩ := by
    have text : T.decipher entry.material (associatedData draft.jurisdiction draft.identityId)
        mapping.ciphertext = some draft.plaintext := by
      rw [cipher]
      exact documented.decrypts _ _ _ _
    have key : T.lookup (store.vaults draft.target.kms) mapping.vaultKeyName = some entry := by
      rw [keyed]
      exact present
    have legalName : validKeyName mapping.vaultKeyName = true := keyed ▸ validName
    simp only [getSection, legalName, nonzero, Bool.true_eq_false, or_self, if_false,
      Store.onVault, submit, (T.decrypted ..).2, key, Option.bind_some, located, text, decodeMapping,
      written, decoded]
  refine ⟨⟨draft.identityId, draft.jurisdiction, read⟩, ?_, rfl, rfl, same⟩
  simp only [getNow, entered, selected]
  exact opened

theorem Intact.retained (documented : T.Documented) (inv : Intact E routing request s) :
    Retained E routing request s := by
  intro name id mapping stored active unrequested
  obtain ⟨call, draft, creates, rfl, rfl, located, keyed, holds, sealed_, legal⟩ :=
    inv.rows name id mapping stored active unrequested
  obtain ⟨attributes, creation, written, _⟩ := creates.prepares.given
  refine ⟨call, attributes, draft, creation, rfl, ?_, fun valid =>
    getNow_found documented creates.prepares stored active located keyed holds sealed_ legal written
      valid⟩
  obtain ⟨entry, _, present, _⟩ := holds
  rw [present]
  rfl

theorem requestSection_begun {call : Request T} (begun : phase ≠ .called) (ending : Ending)
    (store : Store T) : (requestSection E call phase ending store).2 ≠ .called := by
  -- no section leads back to the start
  cases call <;> cases phase <;>
    simp only [requestSection, createSection, getSection, deleteSection, decodeMapping] <;>
    (repeat' split) <;> first | exact begun | (intro same; cases same)

theorem enter_begun (call : Request T) : enter routing call ≠ .called := by
  cases call <;> simp only [enter] <;> (repeat' split) <;> (intro same; cases same)

variable [DecidableEq ι] {call : ι} {ending : Ending}

theorem Requested.next (requested : Requested request s jurisdiction id) (store : Store T)
    (begun : phase ≠ .called) : Requested request (s.next call store phase) jurisdiction id := by
  obtain ⟨deleter, requestId, deletes, begun'⟩ := requested
  refine ⟨deleter, requestId, deletes, ?_⟩
  by_cases same : deleter = call
  · subst same
    rw [Calls.next_self]
    exact begun
  · rw [Calls.next_other same]
    exact begun'

theorem Requested.after (requested : Requested request s jurisdiction id)
    (begun : s.phase call ≠ .called) :
    Requested request (Pii.after E request s call ending) jurisdiction id :=
  requested.next _ (requestSection_begun begun ending s.store)

theorem Holds.of_stays {call : Request T} {store' : Store T} (holds : Holds call store draft)
    (stays : ∀ entry, T.lookup (store.vaults draft.target.kms) draft.keyName = some entry →
      ∃ entry', T.lookup (store'.vaults draft.target.kms) draft.keyName = some entry' ∧
        entry'.material = entry.material) : Holds call store' draft := by
  obtain ⟨entry, nonce, present, drawn⟩ := holds
  obtain ⟨entry', present', same⟩ := stays entry present
  exact ⟨entry', nonce, present', by rw [same]; exact drawn⟩

section Keys

variable (distinct : Distinct request) (inv : Sound routing request s)
include distinct inv

/-- A DELETE of a key comes from the deletion of its identity or from the cleanup of the Create
that owns it. -/
theorem key_stays (call : ι) (ending : Ending) {owner : ι}
    (prepares : Prepares routing (request owner) draft)
    (present : T.lookup (s.store.vaults draft.target.kms) draft.keyName = some entry) :
    (∃ entry', T.lookup ((after E request s call ending).store.vaults draft.target.kms) draft.keyName =
      some entry' ∧ entry'.material = entry.material) ∨
    T.lookup ((after E request s call ending).store.vaults draft.target.kms) draft.keyName = none ∧
      ((∃ target, s.phase call = .destroying target draft.keyName ∧ (s.phase owner).inserted = true ∧
        Requested request s draft.jurisdiction draft.identityId) ∨
      call = owner ∧ s.phase call = .purging draft) := by
  have effect := requestSection_effect (E := E) (request call) (s.phase call) ending s.store
  have here := inv.calls call
  rcases (effect.vaults draft.target.kms).stays present with kept | ⟨gone, deleted⟩
  · exact .inl kept
  · refine .inr ⟨gone, ?_⟩
    rcases deleted with ⟨target, at_, _⟩ | ⟨draft', at_, _, same⟩
    · rw [at_] at here
      obtain ⟨_, _, requestId, deletes, creator, draft', creates, rfl, rfl, same⟩ := here
      cases distinct.key prepares creates.prepares same.symm
      cases prepares.unique creates.prepares
      refine .inl ⟨target, at_, creates.inserted, call, requestId, deletes.1, ?_⟩
      rw [at_]
      exact nofun
    · rw [at_] at here
      cases distinct.key here prepares same.symm
      cases prepares.unique here
      exact .inr ⟨rfl, at_⟩

theorem KeySound.other {other : ι} (different : other ≠ call)
    (held : KeySound routing (request other) s.store (s.phase other)) :
    KeySound routing (request other) (after E request s call ending).store (s.phase other) := by
  have effect := requestSection_effect (E := E) (request call) (s.phase call) ending s.store
  have there := inv.calls other
  have missing : ∀ draft, Prepares routing (request other) draft →
      T.lookup (s.store.vaults draft.target.kms) draft.keyName = none →
      T.lookup ((after E request s call ending).store.vaults draft.target.kms) draft.keyName = none := by
    intro draft prepares absent
    cases after_ : T.lookup ((after E request s call ending).store.vaults draft.target.kms)
        draft.keyName with
    | none => rfl
    | some entry' =>
      rcases (effect.vaults _).key _ _ after_ with ⟨entry, found, _⟩ | ⟨draft', at_, _, same, _⟩
      · rw [absent] at found
        cases found
      · exact absurd (distinct.key prepares (inv.at at_) same) different
  have holding : ∀ draft, Prepares routing (request other) draft → (s.phase other).inserted = false →
      Holds (request other) s.store draft →
      Holds (request other) (after E request s call ending).store draft := by
    intro draft prepares early holds
    refine holds.of_stays fun entry present => ?_
    rcases key_stays (E := E) distinct inv call ending prepares present with kept |
      ⟨_, ⟨_, _, inserted, _⟩ | ⟨same, _⟩⟩
    · exact kept
    · rw [early] at inserted
      cases inserted
    · exact absurd same.symm different
  cases at_ : s.phase other with
  | called =>
    rw [at_] at held
    exact fun draft prepares => missing draft prepares (held draft prepares)
  | ensuring draft =>
    rw [at_] at held there
    exact missing draft there held
  | encrypting draft =>
    rw [at_] at held there
    exact holding draft there (by rw [at_]; rfl) held
  | inserting draft =>
    rw [at_] at held there
    exact ⟨holding draft there (by rw [at_]; rfl) held.1, held.2⟩
  | _ => trivial

omit [DecidableEq ι] distinct inv in
theorem createKey_fresh {keyName : Bytes} {material : T.Key} {vault : T.Vault}
    (missing : T.lookup vault keyName = none) :
    T.lookup (T.createKey keyName material vault).1 keyName = some ⟨material, false⟩ := by
  rw [T.created, Function.update_self, missing]
  rfl

omit distinct in
theorem KeySound.self (begun : s.phase call ≠ .called)
    (held : KeySound routing (request call) s.store (s.phase call)) :
    KeySound routing (request call) (after E request s call ending).store
      (requestSection E (request call) (s.phase call) ending s.store).2 := by
  have here := inv.calls call
  cases at_ : s.phase call with
  | called => exact absurd at_ begun
  | ensuring draft =>
    rw [at_] at held here
    obtain ⟨_, _, _, _, material, nonce, created, _⟩ := here
    have store : (after E request s call ending).store =
        (s.store.onVault draft.target.kms (T.createKey draft.keyName material) ending).1 := by
      simp only [after, Calls.next, at_, created, requestSection, createSection]
    rw [store]
    simp only [created, requestSection, createSection]
    split
    · rename_i accepted
      cases answer : (s.store.onVault draft.target.kms (T.createKey draft.keyName material) ending).2 with
      | none =>
        rw [answer] at accepted
        cases accepted
      | some =>
        obtain ⟨same, _⟩ := onVault_answered answer
        refine ⟨⟨material, false⟩, nonce, ?_, rfl⟩
        rw [same]
        exact createKey_fresh held
    · trivial
  | encrypting draft =>
    rw [at_] at held here
    obtain ⟨_, _, _, _, material, nonce, created, _⟩ := here
    have store : (after E request s call ending).store = (s.store.onVault draft.target.kms
        (T.encryptText draft.keyName nonce draft.context draft.plaintext) ending).1 := by
      simp only [after, Calls.next, at_, created, requestSection, createSection]
    rw [store]
    simp only [created, requestSection, createSection]
    split
    · rename_i ciphertext answer
      obtain ⟨same, sealed_⟩ := onVault_answered answer
      split
      · trivial
      rename_i nonempty
      obtain ⟨entry, nonce', present, drawn⟩ := held
      rw [created] at drawn
      cases drawn
      simp only [(T.encrypted ..).2, present, Option.map_some, Option.some.injEq] at sealed_
      refine ⟨⟨entry, nonce, ?_, rfl⟩, nonempty, entry.material, nonce, rfl, sealed_.symm⟩
      rw [same, (T.encrypted ..).1]
      exact present
    · trivial
  | inserting draft ciphertext | cleaning draft | purging draft =>
    rw [at_] at here
    obtain ⟨_, _, _, _, material, nonce, created, _⟩ := here
    simp only [created, requestSection, createSection]
    try split
    all_goals trivial
  | marking target | lookingUp target =>
    rw [at_] at here
    obtain ⟨_, _, _, deletes, _⟩ := here
    simp only [deletes, requestSection, deleteSection]
    repeat' split
    all_goals trivial
  | allowing target keyName | destroying target keyName =>
    rw [at_] at here
    obtain ⟨_, _, _, deletes, _⟩ := here
    simp only [deletes.1, requestSection, deleteSection]
    split <;> trivial
  | erasing =>
    rw [at_] at here
    obtain ⟨_, _, _, _, deletes, _⟩ := here
    simp only [deletes.1, requestSection, deleteSection]
    split <;> trivial
  | reading target | opening target mapping =>
    cases request call <;> simp only [requestSection, createSection, getSection, deleteSection,
      decodeMapping] <;> (repeat' split) <;> trivial
  | explaining => cases request call <;> trivial
  | created _ | found _ | deleted | failed _ | crashed => cases request call <;> trivial

end Keys

theorem purge_store (E : Engine) (ending : Ending) (prepares : Prepares routing (request call) draft)
    (at_ : s.phase call = .purging draft) :
    (after E request s call ending).store.databases = s.store.databases ∧
      (after E request s call ending).store.vaults draft.target.kms =
        (submit (T.deleteKey draft.keyName) ending (s.store.vaults draft.target.kms)).1 := by
  obtain ⟨_, _, _, _, material, nonce, created, _⟩ := prepares
  simp only [after, Calls.next, at_, created, requestSection, createSection, Store.onVault,
    Function.update_self, true_and]

theorem purge_gone (prepares : Prepares routing (request call) draft)
    (at_ : s.phase call = .purging draft)
    (present : T.lookup (s.store.vaults draft.target.kms) draft.keyName = some entry)
    (gone : T.lookup ((after E request s call ending).store.vaults draft.target.kms) draft.keyName = none) :
    ending ≠ .aborted ∧ entry.deletionAllowed = true := by
  rw [(purge_store E ending prepares at_).2] at gone
  have kept : entry.deletionAllowed = false →
      T.lookup (T.deleteKey draft.keyName (s.store.vaults draft.target.kms)).1 draft.keyName =
        some entry := by
    intro refused
    rw [T.deleted, Function.update_self, present]
    simp [refused]
  cases ending with
  | aborted =>
    simp only [submit, present] at gone
    cases gone
  | acknowledged | unacknowledged =>
    refine ⟨by simp, ?_⟩
    cases allowed : entry.deletionAllowed with
    | true => rfl
    | false =>
      simp only [submit, kept allowed] at gone
      cases gone

theorem Intact.after (distinct : Distinct request) (inv : Intact E routing request s)
    (begun : s.phase call ≠ .called) (spares : Spares request s (.resume call ending)) :
    Intact E routing request (Pii.after E request s call ending) := by
  have later := section_later E distinct inv.sound call ending
  have effect := requestSection_effect (E := E) (request call) (s.phase call) ending s.store
  refine ⟨section_sound distinct inv.sound, fun other => ?_,
    fun name id mapping' stored active unrequested => ?_⟩
  · by_cases same : other = call
    · subst same
      rw [Pii.after, Calls.next_self]
      exact KeySound.self inv.sound begun (inv.keys other)
    · rw [Pii.after, Calls.next_other same]
      exact KeySound.other distinct inv.sound same (inv.keys other)
  have before : ∀ place, ¬ Requested request (Pii.after E request s call ending) place id →
      ¬ Requested request s place id :=
    fun place unrequested requested => unrequested (requested.after begun)
  rcases (effect.databases name).row id mapping' stored with ⟨mapping, found, follows⟩ |
    ⟨draft, ciphertext, inserting, place, named, rfl, legal⟩
  · rw [follows.jurisdiction] at unrequested
    have unrequested := before _ unrequested
    obtain ⟨creator, draft, creates, rfl, rfl, located, keyed, holds, sealed_, legal⟩ :=
      inv.rows name id mapping found (follows.active active) unrequested
    rw [located] at unrequested
    refine ⟨creator, draft, creates.later later, rfl, rfl, follows.jurisdiction.trans located,
      follows.keyName.trans keyed, holds.of_stays fun entry present => ?_, follows.ciphertext ▸ sealed_,
      legal⟩
    rcases key_stays distinct inv.sound call ending creates.prepares present with kept |
      ⟨gone, ⟨_, _, _, requested⟩ | ⟨rfl, at_⟩⟩
    · exact kept
    · exact absurd requested unrequested
    · obtain ⟨arrived, allowed⟩ := purge_gone creates.prepares at_ present gone
      simp only [Spares, at_] at spares
      have requested := spares arrived ⟨entry, present, allowed⟩ mapping found (follows.active active)
      rw [located] at requested
      exact absurd requested unrequested
  · have here := inv.sound.calls call
    have held := inv.keys call
    rw [inserting] at here held
    subst place named
    refine ⟨call, draft, ⟨here, ?_⟩, rfl, rfl, rfl, rfl, held.1.of_stays fun entry present => ?_, held.2,
      legal⟩
    · obtain ⟨_, _, _, _, material, nonce, created, _⟩ := here
      simp only [Pii.after, Calls.next_self, inserting, created, requestSection, createSection]
      split <;> rfl
    · rcases key_stays distinct inv.sound call ending here present with kept |
        ⟨_, ⟨_, at_, _⟩ | ⟨_, at_⟩⟩
      · exact kept
      · rw [inserting] at at_
        cases at_
      · rw [inserting] at at_
        cases at_

theorem Intact.moved (inv : Intact E routing request s)
    (kept : (s.phase call).inserted = true → phase.inserted = true) (begun : phase ≠ .called)
    (sound : CallSound routing request s call phase)
    (key : KeySound routing (request call) s.store phase) :
    Intact E routing request (s.next call s.store phase) := by
  have later : Later routing request s (s.next call s.store phase) := moved_later kept
  refine ⟨moved_sound inv.sound kept sound, fun other => ?_,
    fun name id mapping stored active unrequested => ?_⟩
  · by_cases same : other = call
    · subst same
      rw [Calls.next_self]
      exact key
    · rw [Calls.next_other same]
      exact inv.keys other
  · obtain ⟨creator, draft, creates, rest⟩ := inv.rows name id mapping stored active
      fun requested => unrequested (requested.next s.store begun)
    exact ⟨creator, draft, creates.later later, rest⟩

omit [DecidableEq ι] in
theorem enter_key {call : Request T} (held : KeySound routing call store .called) :
    KeySound routing call store (enter routing call) := by
  cases call with
  | create jurisdiction attributes identitySuffix keySuffix material nonce =>
    simp only [enter]
    split
    · rename_i draft prepared
      exact held draft ⟨_, _, _, _, _, _, rfl, prepared⟩
    · trivial
  | get jurisdiction id | delete jurisdiction id requestId =>
    simp only [enter]
    split
    · trivial
    split <;> trivial

theorem step_intact (distinct : Distinct request) (inv : Intact E routing request s) (event : Event ι)
    (spares : Spares request s event) : Intact E routing request (step E routing request s event) := by
  cases event with
  | crash => exact inv.moved (fun _ => rfl) nofun trivial trivial
  | resume call =>
    by_cases called : s.phase call = .called
    · rw [step_enter called]
      refine inv.moved (fun inserted => ?_) (enter_begun _) (enter_sound call) (enter_key ?_)
      · rw [called] at inserted
        exact absurd inserted Bool.false_ne_true
      · have held := inv.keys call
        rwa [called] at held
    · rw [step_resume called]
      exact inv.after distinct called spares

theorem spares_of_retained (distinct : Distinct request) (inv : Sound routing request s) {event : Event ι}
    (retained : Retained E routing request (step E routing request s event)) :
    Spares request s event := by
  cases event with
  | crash => trivial
  | resume call ending =>
    unfold Spares
    dsimp only
    split
    · rename_i draft at_
      rintro arrived ⟨entry, present, allowed⟩ mapping stored active
      by_contra unrequested
      have prepares : Prepares routing (request call) draft := inv.at at_
      obtain ⟨_, _, _, _, material, nonce, created, _⟩ := id prepares
      have begun : s.phase call ≠ .called := by
        rw [at_]
        exact nofun
      rw [step_resume begun] at retained
      obtain ⟨databases, vault⟩ := purge_store E ending prepares at_
      have gone : T.lookup ((after E request s call ending).store.vaults draft.target.kms)
          draft.keyName = none := by
        have erased : T.lookup (T.deleteKey draft.keyName (s.store.vaults draft.target.kms)).1
            draft.keyName = none := by
          rw [T.deleted, Function.update_self,
            show T.lookup (s.store.vaults draft.target.kms) draft.keyName = some entry from present]
          simp [allowed]
        rw [vault]
        cases ending with
        | aborted => exact absurd rfl arrived
        | acknowledged => exact erased
        | unacknowledged => exact erased
      have still : ¬ Requested request (after E request s call ending) mapping.jurisdiction
          draft.identityId := by
        rintro ⟨deleter, requestId, deletes, begun'⟩
        have other : deleter ≠ call := by
          rintro rfl
          rw [created] at deletes
          cases deletes
        rw [after, Calls.next_other other] at begun'
        exact unrequested ⟨deleter, requestId, deletes, begun'⟩
      obtain ⟨creator, _, draft', creation, named, present', _⟩ :=
        retained draft.target.database draft.identityId mapping (by rw [databases]; exact stored) active
          still
      cases distinct.identity prepares creation.prepares named.symm
      cases prepares.unique creation.prepares
      rw [gone] at present'
      cases present'
    · trivial

omit [DecidableEq ι] in
theorem initial_intact : Intact E routing request (initial : System T ι) :=
  ⟨initial_sound, fun _ _ _ => T.lookup_empty _, fun _ _ _ stored => (nomatch stored)⟩

/-- In every run of the three calls, with crashes and lost answers, active mappings whose
deletion was not requested keep their keys and are read as they were given exactly when no
cleanup of a Create deletes the key of an active mapping. -/
theorem active_mappings_retained_iff (E : Engine) (T : Transit) (documented : T.Documented)
    (routing : Routing) (request : ι → Request T) (distinct : Distinct request)
    (events : List (Event ι)) :
    Along (step E routing request)
        (fun s event => Retained E routing request (step E routing request s event)) initial events ↔
      Along (step E routing request) (Spares request) initial events := by
  refine along_iff _ (Intact E routing request) ?_ ?_ events initial_intact (along_true _ _ _)
  · intro s event inv _
    exact ⟨spares_of_retained distinct inv.sound, fun spares =>
      (step_intact distinct inv event spares).retained documented⟩
  · intro s event inv _ spares
    exact step_intact distinct inv event spares

theorem sampleTransit_documented : sampleTransit.Documented where
  decrypts _ _ _ _ := if_pos rfl

def singleRequest (_ : Fin 1) : Request sampleTransit := sampleCreate "1" "2" 1

theorem singleRequest_distinct : Distinct singleRequest := fun _ _ _ _ _ => Subsingleton.elim _ _

/-- The mapping is stored; and the answer to the INSERT is lost, but the DELETE of the key does
not arrive. -/
theorem sample_mapping_retained :
    sampleTransit.Documented ∧ Distinct singleRequest ∧
      ∀ events ∈ [resumes 0 4,
          resumes 0 3 ++ [.resume 0 .unacknowledged, .resume 0 .acknowledged, .resume 0 .aborted]],
        Along (step sampleEngine sampleRouting singleRequest) (fun s event =>
          Retained sampleEngine sampleRouting singleRequest
            (step sampleEngine sampleRouting singleRequest s event)) initial events := by
  refine ⟨sampleTransit_documented, singleRequest_distinct, fun events member =>
    (active_mappings_retained_iff sampleEngine sampleTransit sampleTransit_documented sampleRouting
      singleRequest singleRequest_distinct events).mpr ?_⟩
  rcases List.mem_pair.mp member with rfl | rfl
  · exact ⟨trivial, trivial, trivial, trivial, trivial⟩
  · exact ⟨trivial, trivial, trivial, trivial, trivial, fun arrived => absurd rfl arrived, trivial⟩

/-- The answer to the INSERT is lost, and Create cleans up. -/
def lostEvents : List (Event (Fin 1)) :=
  resumes 0 3 ++ [.resume 0 .unacknowledged] ++ resumes 0 2

/-- The mapping was stored and is active, nobody asked for its deletion, and its key is
destroyed. -/
theorem lost_insert_destroys_live_key :
    sampleTransit.Documented ∧ Distinct singleRequest ∧
      (let s := run (step sampleEngine sampleRouting singleRequest) initial lostEvents;
        ((s.store.databases (ascii "kz-db")).mappings.lookup (ascii "pty_1")).map
            Mapping.state = some .active ∧
          ¬ Requested singleRequest s (ascii "KZ") (ascii "pty_1") ∧
          (sampleTransit.lookup (s.store.vaults (ascii "kz-kms")) (ascii "pii-2")).isSome = false) := by
  refine ⟨sampleTransit_documented, singleRequest_distinct, by decide +kernel, ?_, by decide +kernel⟩
  rintro ⟨_, _, deletes, _⟩
  cases deletes

end PaymentPlatform.Pii
