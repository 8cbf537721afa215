import PaymentPlatform.Pii.Effects

/-! Every mapping and every key belongs to one Create; what the calls know about them holds
over whole runs. -/

namespace PaymentPlatform.Pii

open Framing Ledger Serial

variable {E : Engine} {T : Transit} {ι : Type} {routing : Routing}
  {request : ι → Request T} {s s' : System T ι}
variable {jurisdiction keyName id requestId : Bytes} {draft draft' : Draft} {phase : Phase}
  {target : Target}

variable {identityId : Bytes} {ending : Ending} {call call' : ι}

def Prepares (routing : Routing) (request : Request T) (draft : Draft) : Prop :=
  ∃ jurisdiction attributes identitySuffix keySuffix material nonce,
    request = .create jurisdiction attributes identitySuffix keySuffix material nonce ∧
    prepare routing jurisdiction attributes identitySuffix keySuffix = .ok draft

def Request.draws : Request T → List Bytes
  | .create _ _ identitySuffix keySuffix _ _ => identitySuffix.toList ++ keySuffix.toList
  | _ => []

/-- The generator draws no suffix for two calls. -/
def Distinct (request : ι → Request T) : Prop :=
  ∀ call call' suffix, suffix ∈ (request call).draws → suffix ∈ (request call').draws → call = call'

theorem prepare_ok {attributes : Option (Table Bytes Bytes)}
    {identitySuffix keySuffix : Option Bytes}
    (prepared : prepare routing jurisdiction attributes identitySuffix keySuffix = .ok draft) :
    ∃ map identity key, attributes = some map ∧ identitySuffix = some identity ∧ keySuffix = some key ∧
      routing.target jurisdiction = .ok draft.target ∧ draft.jurisdiction = jurisdiction ∧
      draft.identityId = ascii "pty_" ++ identity ∧ draft.keyName = ascii "pii-" ++ key ∧
      validKeyName draft.keyName = true ∧ draft.plaintext = Json.write (Json.textMap map) := by
  simp only [prepare, steps_ok] at prepared
  obtain ⟨_, _, map, rfl, target, routed, identity, rfl, key, rfl, _, _, _, ⟨valid, _⟩, rfl⟩ := prepared
  exact ⟨map, identity, key, rfl, rfl, rfl, routed, rfl, rfl, rfl, valid, rfl⟩

theorem Prepares.drawn {call : Request T} (prepares : Prepares routing call draft) :
    ∃ identity key, identity ∈ call.draws ∧ key ∈ call.draws ∧
      draft.identityId = ascii "pty_" ++ identity ∧ draft.keyName = ascii "pii-" ++ key := by
  obtain ⟨_, _, _, _, _, _, rfl, prepared⟩ := prepares
  obtain ⟨_, identity, key, _, rfl, rfl, _, _, named, keyed, _⟩ := prepare_ok prepared
  exact ⟨identity, key, by simp [Request.draws], by simp [Request.draws], named, keyed⟩

theorem Prepares.unique {call : Request T} (prepares : Prepares routing call draft)
    (prepares' : Prepares routing call draft') : draft = draft' := by
  obtain ⟨_, _, _, _, _, _, rfl, prepared⟩ := prepares
  obtain ⟨_, _, _, _, _, _, same, prepared'⟩ := prepares'
  cases same
  rw [prepared] at prepared'
  exact Except.ok.inj prepared'

theorem Distinct.identity (distinct : Distinct request)
    (prepares : Prepares routing (request call) draft)
    (prepares' : Prepares routing (request call') draft')
    (same : draft.identityId = draft'.identityId) : call = call' := by
  obtain ⟨identity, _, drawn, _, named, _⟩ := prepares.drawn
  obtain ⟨identity', _, drawn', _, named', _⟩ := prepares'.drawn
  rw [named, named'] at same
  exact distinct call call' identity drawn (List.append_cancel_left same ▸ drawn')

theorem Distinct.key (distinct : Distinct request)
    (prepares : Prepares routing (request call) draft)
    (prepares' : Prepares routing (request call') draft') (same : draft.keyName = draft'.keyName) :
    call = call' := by
  obtain ⟨_, key, _, drawn, _, keyed⟩ := prepares.drawn
  obtain ⟨_, key', _, drawn', _, keyed'⟩ := prepares'.drawn
  rw [keyed, keyed'] at same
  exact distinct call call' key drawn (List.append_cancel_left same ▸ drawn')

def Phase.inserted : Phase → Bool
  | .called | .ensuring _ | .encrypting _ | .inserting .. => false
  | _ => true

structure Creates (routing : Routing) (request : ι → Request T) (s : System T ι) (call : ι)
    (draft : Draft) : Prop where
  prepares : Prepares routing (request call) draft
  inserted : (s.phase call).inserted = true

def Erased (routing : Routing) (request : ι → Request T) (s : System T ι)
    (jurisdiction identityId : Bytes) : Prop :=
  ∃ call draft, Creates routing request s call draft ∧ draft.jurisdiction = jurisdiction ∧
    draft.identityId = identityId ∧
    (∀ name, (s.store.databases name).mappings.lookup identityId = none) ∧
    T.lookup (s.store.vaults draft.target.kms) draft.keyName = none

def Keyed (routing : Routing) (request : ι → Request T) (s : System T ι)
    (jurisdiction identityId keyName : Bytes) : Prop :=
  ∃ call draft, Creates routing request s call draft ∧ draft.jurisdiction = jurisdiction ∧
    draft.identityId = identityId ∧ draft.keyName = keyName

def Deletes (routing : Routing) (request : Request T) (jurisdiction identityId requestId : Bytes)
    (target : Target) : Prop :=
  request = .delete jurisdiction identityId requestId ∧ routing.target jurisdiction = .ok target

def CallSound (routing : Routing) (request : ι → Request T) (s : System T ι) (call : ι) : Phase → Prop
  | .ensuring draft | .encrypting draft | .inserting draft _ | .cleaning draft | .purging draft =>
    Prepares routing (request call) draft
  | .marking target | .lookingUp target => ∃ jurisdiction identityId requestId,
    Deletes routing (request call) jurisdiction identityId requestId target
  | .allowing target keyName | .destroying target keyName => ∃ jurisdiction identityId requestId,
    Deletes routing (request call) jurisdiction identityId requestId target ∧
      Keyed routing request s jurisdiction identityId keyName
  | .erasing target => ∃ jurisdiction identityId requestId keyName,
    Deletes routing (request call) jurisdiction identityId requestId target ∧
      Keyed routing request s jurisdiction identityId keyName ∧
      T.lookup (s.store.vaults target.kms) keyName = none
  | _ => True

structure Sound (routing : Routing) (request : ι → Request T) (s : System T ι) : Prop where
  rows : ∀ name id mapping, (s.store.databases name).mappings.lookup id = some mapping →
    ∃ call draft, Creates routing request s call draft ∧ name = draft.target.database ∧
      id = draft.identityId ∧ mapping.jurisdiction = draft.jurisdiction ∧
      mapping.vaultKeyName = draft.keyName
  calls : ∀ call, CallSound routing request s call (s.phase call)

/-- Mappings and keys of calls whose INSERT is over do not come back. -/
structure Later (routing : Routing) (request : ι → Request T) (s s' : System T ι) : Prop where
  inserted : ∀ call, (s.phase call).inserted = true → (s'.phase call).inserted = true
  rows : ∀ call draft, Creates routing request s call draft → ∀ name,
    (s.store.databases name).mappings.lookup draft.identityId = none →
    (s'.store.databases name).mappings.lookup draft.identityId = none
  keys : ∀ call draft, Creates routing request s call draft → ∀ name,
    T.lookup (s.store.vaults name) draft.keyName = none →
    T.lookup (s'.store.vaults name) draft.keyName = none

theorem Creates.later (later : Later routing request s s')
    (creates : Creates routing request s call draft) : Creates routing request s' call draft :=
  ⟨creates.prepares, later.inserted call creates.inserted⟩

theorem Keyed.later (later : Later routing request s s')
    (keyed : Keyed routing request s jurisdiction identityId keyName) :
    Keyed routing request s' jurisdiction identityId keyName := by
  obtain ⟨call, draft, creates, same⟩ := keyed
  exact ⟨call, draft, creates.later later, same⟩

theorem Erased.later (later : Later routing request s s')
    (erased : Erased routing request s jurisdiction identityId) :
    Erased routing request s' jurisdiction identityId := by
  obtain ⟨call, draft, creates, located, rfl, gone, destroyed⟩ := erased
  exact ⟨call, draft, creates.later later, located, rfl,
    fun name => later.rows call draft creates name (gone name),
    later.keys call draft creates _ destroyed⟩

theorem CallSound.later (later : Later routing request s s')
    (sound : CallSound routing request s call phase) : CallSound routing request s' call phase := by
  unfold CallSound at sound ⊢
  split at sound <;> try exact sound
  · obtain ⟨jurisdiction, id, requestId, deletes, keyed⟩ := sound
    exact ⟨jurisdiction, id, requestId, deletes, keyed.later later⟩
  · obtain ⟨jurisdiction, id, requestId, deletes, keyed⟩ := sound
    exact ⟨jurisdiction, id, requestId, deletes, keyed.later later⟩
  · obtain ⟨jurisdiction, id, requestId, _, deletes, ⟨creator, draft, creates, same⟩, absent⟩ := sound
    obtain ⟨located, named, rfl⟩ := same
    exact ⟨jurisdiction, id, requestId, _, deletes,
      ⟨creator, draft, creates.later later, located, named, rfl⟩,
      later.keys creator draft creates _ absent⟩

theorem enter_sound (call : ι) : CallSound routing request s call (enter routing (request call)) := by
  unfold enter
  split
  · rename_i created
    split
    · rename_i prepared
      exact ⟨_, _, _, _, _, _, created, prepared⟩
    · trivial
  · split
    · trivial
    split <;> trivial
  · rename_i deleted
    split
    · trivial
    split
    · rename_i routed
      exact ⟨_, _, _, deleted, routed⟩
    · trivial

theorem createSection_sound (prepares : Prepares routing (request call) draft)
    (at_ : phase = .ensuring draft ∨ phase = .encrypting draft ∨
      (∃ ciphertext, phase = .inserting draft ciphertext) ∨ phase = .cleaning draft ∨
      phase = .purging draft) (material : T.Key) (nonce : Nat) (ending : Ending) (store : Store T) :
    CallSound routing request s call (createSection E material nonce phase ending store).2 := by
  rcases at_ with rfl | rfl | ⟨ciphertext, rfl⟩ | rfl | rfl
  · simp only [createSection]
    split
    · exact prepares
    · trivial
  · simp only [createSection]
    split
    · split
      · trivial
      · exact prepares
    · trivial
  · simp only [createSection]
    split
    · trivial
    · exact prepares
  · simp only [createSection]
    split
    · exact prepares
    · trivial
  · trivial

theorem get_sound (reads : phase = .reading target ∨ ∃ mapping, phase = .opening target mapping) :
    CallSound routing request s' call (requestSection E (request call) phase ending s.store).2 := by
  cases request call with
  | get =>
    rcases reads with rfl | ⟨mapping, rfl⟩
    · simp only [requestSection, getSection]
      split
      · split <;> trivial
      · trivial
      · trivial
    · simp only [requestSection, getSection]
      split
      · trivial
      · simp only [decodeMapping]
        split
        · split <;> trivial
        · trivial
  | create _ _ _ _ _ _ | delete _ _ _ => rcases reads with rfl | ⟨mapping, rfl⟩ <;> trivial

variable [DecidableEq ι]

section

variable (inserted : phase.inserted = true)
include inserted

theorem createSection_inserted (material : T.Key) (nonce : Nat)
    (ending : Ending) (store : Store T) :
    (createSection E material nonce phase ending store).2.inserted = true := by
  cases phase with
  | called => exact inserted
  | ensuring => exact absurd inserted Bool.false_ne_true
  | encrypting => exact absurd inserted Bool.false_ne_true
  | inserting => exact absurd inserted Bool.false_ne_true
  | cleaning =>
    simp only [createSection]
    split <;> rfl
  | _ => rfl

theorem getSection_inserted (jurisdiction identityId : Bytes) (ending : Ending) (store : Store T) :
    (getSection E jurisdiction identityId phase ending store).2.inserted = true := by
  cases phase with
  | reading =>
    simp only [getSection]
    split
    · split <;> rfl
    · rfl
    · rfl
  | opening =>
    simp only [getSection]
    split
    · rfl
    · simp only [decodeMapping]
      split
      · split <;> rfl
      · rfl
  | _ => exact inserted

theorem deleteSection_inserted
    (jurisdiction identityId requestId : Bytes) (ending : Ending) (store : Store T) :
    (deleteSection E jurisdiction identityId requestId phase ending store).2.inserted = true := by
  cases phase with
  | marking =>
    simp only [deleteSection]
    split
    · split <;> rfl
    · rfl
    · rfl
  | allowing target keyName | destroying target keyName | lookingUp target =>
    simp only [deleteSection]
    split <;> rfl
  | erasing =>
    simp only [deleteSection]
    split <;> rfl
  | _ => exact inserted

theorem requestSection_inserted {call : Request T} (ending : Ending) (store : Store T) :
    (requestSection E call phase ending store).2.inserted = true := by
  cases call with
  | create _ _ _ _ material nonce => exact createSection_inserted inserted material nonce ending store
  | get jurisdiction identityId => exact getSection_inserted inserted jurisdiction identityId ending store
  | delete jurisdiction identityId requestId =>
    exact deleteSection_inserted inserted jurisdiction identityId requestId ending store

end

def after (E : Engine) (request : ι → Request T) (s : System T ι) (call : ι) (ending : Ending) :
    System T ι :=
  let answer := requestSection E (request call) (s.phase call) ending s.store
  s.next call answer.1 answer.2

omit [DecidableEq ι] in
theorem Sound.at (inv : Sound routing request s) (at_ : s.phase call = phase) :
    CallSound routing request s call phase :=
  at_ ▸ inv.calls call

theorem section_later (E : Engine) (distinct : Distinct request) (inv : Sound routing request s)
    (call : ι) (ending : Ending) : Later routing request s (after E request s call ending) := by
  have effect := requestSection_effect (E := E) (request call) (s.phase call) ending s.store
  have here := inv.calls call
  refine ⟨fun other inserted => ?_, fun creator draft creates name absent => ?_,
    fun creator draft creates name absent => ?_⟩
  · by_cases same : other = call
    · subst same
      rw [after, Calls.next_self]
      exact requestSection_inserted inserted ending s.store
    · rw [after, Calls.next_other same]
      exact inserted
  · cases stored : ((requestSection E (request call) (s.phase call) ending s.store).1.databases
        name).mappings.lookup draft.identityId with
    | none => exact stored
    | some mapping' =>
      rcases (effect.databases name).row _ _ stored with ⟨mapping, found, _⟩ |
        ⟨draft', ciphertext, inserting, _, same, _⟩
      · rw [absent] at found
        cases found
      · rw [inserting] at here
        cases distinct.identity creates.prepares here same
        have early := creates.inserted
        rw [inserting] at early
        exact absurd early Bool.false_ne_true
  · cases stored : T.lookup ((requestSection E (request call) (s.phase call) ending s.store).1.vaults
        name) draft.keyName with
    | none => exact stored
    | some entry' =>
      rcases (effect.vaults name).key _ _ stored with ⟨entry, found, _⟩ | ⟨draft', ensuring, _, same, _⟩
      · rw [absent] at found
        cases found
      · rw [ensuring] at here
        cases distinct.key creates.prepares here same
        have early := creates.inserted
        rw [ensuring] at early
        exact absurd early Bool.false_ne_true

theorem Prepares.routed {call : Request T} (prepares : Prepares routing call draft) :
    routing.target draft.jurisdiction = .ok draft.target := by
  obtain ⟨_, _, _, _, _, _, rfl, prepared⟩ := prepares
  obtain ⟨_, _, _, _, _, _, routed, located, _⟩ := prepare_ok prepared
  rw [located]
  exact routed

theorem erased_after (distinct : Distinct request) (inv : Sound routing request s)
    (at_ : s.phase call = .erasing target)
    (deletes : Deletes routing (request call) jurisdiction id requestId target)
    (keyed : Keyed routing request s jurisdiction id keyName)
    (absent : T.lookup (s.store.vaults target.kms) keyName = none)
    (gone : ((after E request s call ending).store.databases target.database).mappings.lookup id = none) :
    Erased routing request (after E request s call ending) jurisdiction id := by
  have later := section_later E distinct inv call ending
  have effect := requestSection_effect (E := E) (request call) (s.phase call) ending s.store
  obtain ⟨creator, draft, creates, rfl, rfl, rfl⟩ := keyed
  have stores : draft.target = target :=
    Except.ok.inj (creates.prepares.routed.symm.trans deletes.2)
  refine ⟨creator, draft, creates.later later, rfl, rfl, fun name => ?_,
    later.keys creator draft creates _ (stores ▸ absent)⟩
  cases stored : ((after E request s call ending).store.databases name).mappings.lookup
      draft.identityId with
  | none => rfl
  | some mapping' =>
    rcases (effect.databases name).row _ _ stored with ⟨mapping, found, _⟩ | ⟨_, _, inserting, _⟩
    · obtain ⟨creator', draft', creates', here, same, _⟩ := inv.rows name _ mapping found
      cases distinct.identity creates.prepares creates'.prepares same
      cases creates.prepares.unique creates'.prepares
      rw [here, stores, gone] at stored
      cases stored
    · rw [at_] at inserting
      cases inserting

theorem markPending_returned {db : Database}
    (returned : (markPending E jurisdiction id requestId db).2 = some (some keyName)) :
    ∃ mapping, db.mappings.lookup id = some mapping ∧ mapping.jurisdiction = jurisdiction ∧
      mapping.vaultKeyName = keyName := by
  unfold markPending at returned
  split at returned
  · split at returned
    · cases returned
    · rename_i mapping found
      split at returned
      · cases returned
        exact ⟨mapping, (row_some found).1, (row_some found).2, rfl⟩
      · cases returned
  · cases returned

theorem eraseMapping_committed {db : Database}
    (committed : (eraseMapping E jurisdiction id requestId db).2 = .committed) :
    (eraseMapping E jurisdiction id requestId db).1.mappings.lookup id = none := by
  unfold eraseMapping at committed ⊢
  split
  · rename_i legal
    rw [if_pos legal] at committed
    split
    · rename_i missing
      rw [missing] at committed
      cases committed
    · rename_i mapping found
      rw [found] at committed
      dsimp only at committed
      split
      · exact AList.lookup_erase _ _
      · rename_i other
        rw [if_neg other] at committed
        cases committed
  · rename_i illegal
    rw [if_neg illegal] at committed
    cases committed

section Call

variable (distinct : Distinct request)
  (inv : Sound routing request s) {call : ι} {ending : Ending}
include distinct inv

theorem mark_sound (at_ : s.phase call = .marking target) :
    CallSound routing request (after E request s call ending) call
      (requestSection E (request call) (.marking target) ending s.store).2 := by
  have later := section_later E distinct inv call ending
  obtain ⟨jurisdiction, id, requestId, deletes, routed⟩ := inv.at at_
  simp only [deletes, requestSection, deleteSection]
  split
  · rename_i keyName returned
    split
    · obtain ⟨_, answered⟩ := onDatabase_answered returned
      obtain ⟨mapping, found, located, rfl⟩ := markPending_returned answered
      obtain ⟨creator, draft, creates, _, rfl, place, key⟩ := inv.rows _ _ mapping found
      have keyed : Keyed routing request s jurisdiction draft.identityId mapping.vaultKeyName :=
        ⟨creator, draft, creates, place.symm.trans located, rfl, key.symm⟩
      exact ⟨jurisdiction, _, requestId, ⟨deletes, routed⟩, keyed.later later⟩
    · trivial
  · exact ⟨jurisdiction, id, requestId, deletes, routed⟩
  · trivial

theorem allow_sound (at_ : s.phase call = .allowing target keyName) :
    CallSound routing request (after E request s call ending) call
      (requestSection E (request call) (.allowing target keyName) ending s.store).2 := by
  have later := section_later E distinct inv call ending
  obtain ⟨jurisdiction, id, requestId, deletes, keyed⟩ := inv.at at_
  simp only [deletes.1, requestSection, deleteSection]
  split
  · exact ⟨jurisdiction, id, requestId, deletes, keyed.later later⟩
  · trivial

theorem destroy_sound (at_ : s.phase call = .destroying target keyName) :
    CallSound routing request (after E request s call ending) call
      (requestSection E (request call) (.destroying target keyName) ending s.store).2 := by
  have later := section_later E distinct inv call ending
  obtain ⟨jurisdiction, id, requestId, deletes, keyed⟩ := inv.at at_
  have store : (after E request s call ending).store =
      (s.store.onVault target.kms (T.deleteKey keyName) ending).1 := by
    simp only [after, Calls.next, at_, deletes.1, requestSection, deleteSection]
  simp only [deletes.1, requestSection, deleteSection]
  split
  · rename_i accepted
    refine ⟨jurisdiction, id, requestId, keyName, deletes, keyed.later later, ?_⟩
    rw [store]
    cases answer : (s.store.onVault target.kms (T.deleteKey keyName) ending).2 with
    | none =>
      rw [answer] at accepted
      cases accepted
    | some =>
      obtain ⟨same, answered⟩ := onVault_answered answer
      rw [answer, ← answered] at accepted
      rw [same]
      exact deleteKey_destroyed accepted
  · trivial

theorem erase_completes (at_ : s.phase call = .erasing target)
    (deletes : request call = .delete jurisdiction id requestId) (arrived : ending ≠ .aborted)
    (committed : (eraseMapping E jurisdiction id requestId
      (s.store.databases target.database)).2 = .committed) :
    Erased routing request (after E request s call ending) jurisdiction id := by
  obtain ⟨_, _, _, keyName, ⟨deletes', routed⟩, keyed, absent⟩ := inv.at at_
  rw [deletes] at deletes'
  cases deletes'
  refine erased_after distinct inv at_ ⟨deletes, routed⟩ keyed absent ?_
  simp only [after, Calls.next, at_, deletes, requestSection, deleteSection, Store.onDatabase,
    Function.update_self]
  cases ending with
  | aborted => exact absurd rfl arrived
  | acknowledged | unacknowledged => exact eraseMapping_committed committed

theorem section_call : CallSound routing request (after E request s call ending) call
    (requestSection E (request call) (s.phase call) ending s.store).2 := by
  have later := section_later E distinct inv call ending
  have here := inv.calls call
  have creates : ∀ draft, Prepares routing (request call) draft →
      (s.phase call = .ensuring draft ∨ s.phase call = .encrypting draft ∨
        (∃ ciphertext, s.phase call = .inserting draft ciphertext) ∨ s.phase call = .cleaning draft ∨
        s.phase call = .purging draft) → CallSound routing request (after E request s call ending) call
        (requestSection E (request call) (s.phase call) ending s.store).2 := by
    rintro draft prepares at_
    obtain ⟨_, _, _, _, material, nonce, created, _⟩ := id prepares
    generalize (after E request s call ending) = s' at *
    rw [created]
    exact createSection_sound prepares at_ material nonce ending s.store
  cases at_ : s.phase call with
  | ensuring draft =>
    exact at_ ▸ creates draft (by rw [at_] at here; exact here) (.inl at_)
  | encrypting draft =>
    exact at_ ▸ creates draft (by rw [at_] at here; exact here) (.inr (.inl at_))
  | inserting draft ciphertext =>
    exact at_ ▸ creates draft (by rw [at_] at here; exact here) (.inr (.inr (.inl ⟨ciphertext, at_⟩)))
  | cleaning draft =>
    exact at_ ▸ creates draft (by rw [at_] at here; exact here) (.inr (.inr (.inr (.inl at_))))
  | purging draft =>
    exact at_ ▸ creates draft (by rw [at_] at here; exact here) (.inr (.inr (.inr (.inr at_))))
  | marking => exact mark_sound distinct inv at_
  | allowing => exact allow_sound distinct inv at_
  | destroying => exact destroy_sound distinct inv at_
  | erasing =>
    obtain ⟨_, _, _, _, deletes, _⟩ := inv.at at_
    simp only [deletes.1, requestSection, deleteSection]
    split <;> trivial
  | lookingUp =>
    obtain ⟨_, _, _, deletes, _⟩ := inv.at at_
    simp only [deletes, requestSection, deleteSection]
    split <;> trivial
  | reading => exact get_sound (.inl rfl)
  | opening target mapping => exact get_sound (.inr ⟨mapping, rfl⟩)
  | explaining => cases request call <;> trivial
  | called | deleted | created _ | found _ | failed _ | crashed => cases request call <;> trivial

theorem section_sound : Sound routing request (after E request s call ending) := by
  have later := section_later E distinct inv call ending
  have effect := requestSection_effect (E := E) (request call) (s.phase call) ending s.store
  refine ⟨fun name id mapping' stored => ?_, fun other => ?_⟩
  · rcases (effect.databases name).row id mapping' stored with ⟨mapping, found, follows⟩ |
      ⟨draft, ciphertext, inserting, place, named, rfl, _⟩
    · obtain ⟨creator, draft, creates, place, named, located, key⟩ := inv.rows name id mapping found
      exact ⟨creator, draft, creates.later later, place, named, follows.jurisdiction.trans located,
        follows.keyName.trans key⟩
    · have prepares : Prepares routing (request call) draft := inv.at inserting
      refine ⟨call, draft, ⟨prepares, ?_⟩, place, named, rfl, rfl⟩
      obtain ⟨_, _, _, _, material, nonce, created, _⟩ := prepares
      simp only [after, Calls.next_self, inserting, created, requestSection, createSection]
      split <;> rfl
  · by_cases same : other = call
    · subst same
      simp only [after, Calls.next_self]
      exact section_call distinct inv
    · simp only [after, Calls.next_other same]
      exact (inv.calls other).later later

end Call

theorem moved_later (kept : (s.phase call).inserted = true → phase.inserted = true) :
    Later routing request s (s.next call s.store phase) := by
  refine ⟨fun other inserted => ?_, fun _ _ _ _ absent => absent, fun _ _ _ _ absent => absent⟩
  by_cases same : other = call
  · subst same
    rw [Calls.next_self]
    exact kept inserted
  · rw [Calls.next_other same]
    exact inserted

theorem moved_sound (inv : Sound routing request s)
    (kept : (s.phase call).inserted = true → phase.inserted = true)
    (sound : CallSound routing request s call phase) :
    Sound routing request (s.next call s.store phase) := by
  have later : Later routing request s (s.next call s.store phase) := moved_later kept
  refine ⟨fun name id mapping stored => ?_, fun other => ?_⟩
  · obtain ⟨creator, draft, creates, same⟩ := inv.rows name id mapping stored
    exact ⟨creator, draft, creates.later later, same⟩
  · by_cases same : other = call
    · subst same
      rw [Calls.next_self]
      exact sound.later later
    · rw [Calls.next_other same]
      exact (inv.calls other).later later


theorem step_resume (begun : s.phase call ≠ .called) (ending : Ending) :
    step E routing request s (.resume call ending) = after E request s call ending := by
  unfold step after
  dsimp only
  split
  · contradiction
  · rfl

theorem step_enter (called : s.phase call = .called) (ending : Ending) :
    step E routing request s (.resume call ending) =
      s.next call s.store (enter routing (request call)) := by
  simp only [step, called]

theorem step_later (distinct : Distinct request) (inv : Sound routing request s) (event : Event ι) :
    Later routing request s (step E routing request s event) := by
  cases event with
  | crash => exact moved_later fun _ => rfl
  | resume call ending =>
    by_cases called : s.phase call = .called
    · rw [step_enter called]
      refine moved_later fun inserted => ?_
      rw [called] at inserted
      exact absurd inserted Bool.false_ne_true
    · rw [step_resume called]
      exact section_later E distinct inv call ending

theorem step_sound (distinct : Distinct request) (inv : Sound routing request s) (event : Event ι) :
    Sound routing request (step E routing request s event) := by
  cases event with
  | crash => exact moved_sound inv (fun _ => rfl) trivial
  | resume call =>
    by_cases called : s.phase call = .called
    · rw [step_enter called]
      refine moved_sound inv (fun inserted => ?_) (enter_sound call)
      rw [called] at inserted
      exact absurd inserted Bool.false_ne_true
    · rw [step_resume called]
      exact section_sound distinct inv

omit [DecidableEq ι] in
theorem initial_sound : Sound routing request (initial : System T ι) :=
  ⟨fun _ _ _ stored => (nomatch stored), fun _ => trivial⟩

theorem run_sound (distinct : Distinct request)
    (inv : Sound routing request s) (events : List (Event ι)) :
    Sound routing request (run (step E routing request) s events) :=
  run_preserves _ (Sound routing request) (fun _ event sound => step_sound distinct sound event)
    events inv

theorem run_erased (distinct : Distinct request) (inv : Sound routing request s)
    (erased : Erased routing request s jurisdiction id) (events : List (Event ι)) :
    Erased routing request (run (step E routing request) s events) jurisdiction id := by
  have both := run_preserves (step E routing request)
    (fun s => Sound routing request s ∧ Erased routing request s jurisdiction id)
    (fun s event held => ⟨step_sound distinct held.1 event,
      held.2.later (step_later distinct held.1 event)⟩) events ⟨inv, erased⟩
  exact both.2

end PaymentPlatform.Pii
