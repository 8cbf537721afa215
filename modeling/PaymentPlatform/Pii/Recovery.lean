import PaymentPlatform.Pii.Deletion

/-! RequestDeletion again after an attempt that stopped anywhere. DestroyKey asks for
deletion_allowed before it deletes, and a key that is gone fails that request: the retry ends
well unless the first attempt stopped between the key and the mapping. -/

namespace PaymentPlatform.Pii

open Framing Ledger Serial

/-- The arguments of RequestDeletion, with the stores and the key they lead to. -/
structure Deletion where
  jurisdiction : Bytes
  id : Bytes
  requestId : Bytes
  target : Target
  keyName : Bytes

namespace Deletion

section Attempts

variable (E : Engine) {T : Transit} (routing : Routing) (d : Deletion)

def next (phase : Phase) (ending : Ending) (store : Store T) : Store T × Phase :=
  deleteSection E d.jurisdiction d.id d.requestId phase ending store

def proceed : List Ending → Store T × Phase → Store T × Phase
  | [], point => point
  | ending :: rest, (store, phase) => proceed rest (d.next E phase ending store)

def attempt (endings : List Ending) (store : Store T) : Store T × Phase :=
  d.proceed E endings (store, enter routing (.delete d.jurisdiction d.id d.requestId : Request T))

def retry (store : Store T) : Store T × Phase :=
  d.attempt E routing (List.replicate 4 .acknowledged) store

def db (store : Store T) : Database := store.databases d.target.database

def vault (store : Store T) : T.Vault := store.vaults d.target.kms

end Attempts

/-- From the DELETE of the key on: it arrives, and the transaction on the mapping does not. -/
def betweenStores : List Ending → Bool
  | .unacknowledged :: _ => true
  | [.acknowledged] | .acknowledged :: .aborted :: _ => true
  | _ => false

/-- The call stops after the key is destroyed and before its mapping is deleted. -/
def stopsBetweenStores : List Ending → Bool
  | .acknowledged :: .acknowledged :: rest => betweenStores rest
  | _ => false

structure Held (E : Engine) {T : Transit} (routing : Routing) (d : Deletion) (mapping : Mapping)
    (store : Store T) : Prop where
  named : d.jurisdiction ≠ [] ∧ d.id ≠ []
  routed : routing.target d.jurisdiction = .ok d.target
  texts : texts E [d.id, d.jurisdiction] = true
  row : (d.db store).row d.jurisdiction d.id = some mapping
  keyed : mapping.vaultKeyName = d.keyName
  valid : validKeyName d.keyName = true
  key : T.lookup (d.vault store) d.keyName ≠ none

/-- The request id is a text, and no other one has taken the deletion over. -/
def Admitted (E : Engine) (d : Deletion) (mapping : Mapping) : Prop :=
  d.requestId ≠ [] ∧ E.acceptsText d.requestId = true ∧
    (mapping.state = .active ∨ mapping.deletionRequestId = some d.requestId)

variable {E : Engine} {T : Transit} {routing : Routing} {d : Deletion} {mapping : Mapping}
variable {store : Store T} {db : Database} {vault : T.Vault}
variable {endings : List Ending} {failure : Failure} {phase : Phase}

/-- The request may go on with the deletion of the mapping. -/
def Owned (d : Deletion) (db : Database) : Prop :=
  ∃ mapping, db.row d.jurisdiction d.id = some mapping ∧ mapping.vaultKeyName = d.keyName ∧
    (mapping.state = .active ∨ mapping.deletionRequestId = some d.requestId)

def Fenced (d : Deletion) (db : Database) : Prop :=
  ∃ mapping, db.row d.jurisdiction d.id = some mapping ∧ mapping.vaultKeyName = d.keyName ∧
    mapping.deletionRequestId = some d.requestId

def Receipted (d : Deletion) (db : Database) : Prop :=
  db.mappings.lookup d.id = none ∧ (db.receipts.lookup d.requestId).isSome = true

def Allowed (d : Deletion) (vault : T.Vault) : Prop :=
  ∃ entry, T.lookup vault d.keyName = some entry ∧ entry.deletionAllowed = true

theorem Fenced.owned (fenced : d.Fenced db) : d.Owned db := by
  obtain ⟨mapping, row, key, fence⟩ := fenced
  exact ⟨mapping, row, key, .inr fence⟩

theorem Allowed.present (allowed : d.Allowed vault) : T.lookup vault d.keyName ≠ none := by
  obtain ⟨entry, found, -⟩ := allowed
  simp [found]

theorem markPending_owned (legal : texts E [d.id, d.jurisdiction, d.requestId] = true)
    (owned : d.Owned db) :
    (markPending E d.jurisdiction d.id d.requestId db).2 = some (some d.keyName) ∧
      d.Fenced (markPending E d.jurisdiction d.id d.requestId db).1 := by
  obtain ⟨mapping, row, key, owner⟩ := owned
  rw [markPending, if_pos legal, row]
  simp only [if_pos owner]
  refine ⟨by rw [key], mapping.pending d.requestId, ?_, key, ?_⟩
  · simp [Database.row, Database.setMappings, Mapping.pending, (row_some row).2]
  · simp only [Mapping.pending]
    split
    · rfl
    · exact owner.resolve_left ‹_›

theorem eraseMapping_fenced (legal : texts E [d.id, d.jurisdiction, d.requestId] = true)
    (fenced : d.Fenced db) : (eraseMapping E d.jurisdiction d.id d.requestId db).2 = .committed ∧
      d.Receipted (eraseMapping E d.jurisdiction d.id d.requestId db).1 := by
  obtain ⟨mapping, row, -, fence⟩ := fenced
  rw [eraseMapping, if_pos legal, row]
  simp only [if_pos fence]
  refine ⟨trivial, AList.lookup_erase _ _, ?_⟩
  cases known : db.receipts.lookup d.requestId with
  | none => simp
  | some => simp [known]

theorem allowDeletion_present (present : T.lookup vault d.keyName ≠ none) :
    succeeds (some (T.allowDeletion d.keyName vault).2) = true ∧
      d.Allowed (T.allowDeletion d.keyName vault).1 := by
  obtain ⟨entry, found⟩ := Option.ne_none_iff_exists'.mp present
  refine ⟨T.allowed_present _ _ present, { entry with deletionAllowed := true }, ?_, rfl⟩
  rw [T.allowed, Function.update_self, found]
  rfl

theorem deleteKey_allowed (allowed : d.Allowed vault) :
    destroyed (some (T.deleteKey d.keyName vault).2) = true ∧
      T.lookup (T.deleteKey d.keyName vault).1 d.keyName = none := by
  obtain ⟨entry, found, permitted⟩ := allowed
  have accepted := (T.deleted_present _ _ entry found).trans permitted
  exact ⟨accepted, deleteKey_destroyed accepted⟩

theorem proceed_failed : d.proceed E endings (store, .failed failure) = (store, .failed failure) := by
  induction endings with
  | nil => rfl
  | cons ending rest ih => exact ih

theorem proceed_deleted : d.proceed E endings (store, .deleted) = (store, .deleted) := by
  induction endings with
  | nil => rfl
  | cons ending rest ih => exact ih

/- One request: it may not arrive, and then it fails without a change. -/

/-- What a request leaves that leads to this store unless it is aborted. -/
def Sends (d : Deletion) (E : Engine) (phase : Phase) (ending : Ending) (store : Store T)
    (after : Phase) (failure : Failure) (reached : Store T → Prop) : Prop :=
  ∃ store', d.next E phase ending store =
      (store', if ending = .acknowledged then after else .failed failure) ∧
    if ending = .aborted then store' = store else reached store'

theorem marking_sends (ending : Ending) (legal : texts E [d.id, d.jurisdiction, d.requestId] = true)
    (valid : validKeyName d.keyName = true) (owned : d.Owned (d.db store)) :
    d.Sends E (.marking d.target) ending store (.allowing d.target d.keyName) .markPending
      fun store' => d.vault store' = d.vault store ∧ d.Fenced (d.db store') := by
  obtain ⟨answer, fenced⟩ := markPending_owned legal owned
  simp only [Deletion.db] at answer fenced
  cases ending <;>
    simp [Sends, next, deleteSection, Store.onDatabase, submit, answer, valid, fenced,
      Deletion.db, Deletion.vault]

theorem allowing_sends (E : Engine) (ending : Ending) (present : T.lookup (d.vault store) d.keyName ≠ none) :
    d.Sends E (.allowing d.target d.keyName) ending store (.destroying d.target d.keyName)
      .allowDeletion fun store' => d.db store' = d.db store ∧ d.Allowed (d.vault store') := by
  obtain ⟨answer, allowed⟩ := allowDeletion_present present
  simp only [Deletion.vault] at answer allowed
  cases ending <;>
    simp [Sends, next, deleteSection, Store.onVault, submit, answer, allowed,
      Deletion.db, Deletion.vault]

theorem destroying_sends (E : Engine) (ending : Ending) (allowed : d.Allowed (d.vault store)) :
    d.Sends E (.destroying d.target d.keyName) ending store (.erasing d.target) .destroyKey
      fun store' => d.db store' = d.db store ∧ T.lookup (d.vault store') d.keyName = none := by
  obtain ⟨answer, gone⟩ := deleteKey_allowed allowed
  simp only [Deletion.vault] at answer gone
  cases ending <;>
    simp [Sends, next, deleteSection, Store.onVault, submit, answer, gone,
      Deletion.db, Deletion.vault]

theorem erasing_sends (ending : Ending) (legal : texts E [d.id, d.jurisdiction, d.requestId] = true)
    (fenced : d.Fenced (d.db store)) :
    d.Sends E (.erasing d.target) ending store .deleted .transaction
      fun store' => d.vault store' = d.vault store ∧ d.Receipted (d.db store') := by
  obtain ⟨answer, receipted⟩ := eraseMapping_fenced legal fenced
  simp only [Deletion.db] at answer receipted
  cases ending <;>
    simp [Sends, next, deleteSection, Store.onDatabase, submit, answer, receipted,
      Deletion.db, Deletion.vault]

def Open (d : Deletion) (store : Store T) : Prop :=
  d.Owned (d.db store) ∧ T.lookup (d.vault store) d.keyName ≠ none

def Stuck (d : Deletion) (store : Store T) : Prop :=
  d.Owned (d.db store) ∧ T.lookup (d.vault store) d.keyName = none

def Finished (d : Deletion) (store : Store T) : Prop :=
  d.Receipted (d.db store) ∧ T.lookup (d.vault store) d.keyName = none

def Leaves (d : Deletion) (between : Bool) (store : Store T) : Prop :=
  if between then d.Stuck store else d.Open store ∨ d.Finished store

/-- A call whose next request fails or goes on. -/
theorem Sends.leaves {ending : Ending} {after : Phase} {reached : Store T → Prop}
    (P : Store T → Prop) (sends : d.Sends E phase ending store after failure reached)
    (aborted : ending = .aborted → P store)
    (unheard : ∀ store', ending = .unacknowledged → reached store' → P store')
    (heard : ∀ store', ending = .acknowledged → reached store' →
      P (d.proceed E endings (store', after)).1) :
    P (d.proceed E (ending :: endings) (store, phase)).1 := by
  obtain ⟨store', here, result⟩ := sends
  rw [proceed, here]
  cases ending with
  | aborted =>
    obtain rfl : store' = store := result
    rw [if_neg (by decide), proceed_failed]
    exact aborted rfl
  | unacknowledged =>
    rw [if_neg (by decide), proceed_failed]
    exact unheard store' rfl result
  | acknowledged => exact heard store' rfl result

section Legal

variable (legal : texts E [d.id, d.jurisdiction, d.requestId] = true)
include legal

theorem erasing_leaves (fenced : d.Fenced (d.db store))
    (gone : T.lookup (d.vault store) d.keyName = none) :
    d.Leaves (betweenStores (.acknowledged :: endings))
      (d.proceed E endings (store, .erasing d.target)).1 := by
  rcases endings with _ | ⟨ending, rest⟩
  · exact ⟨fenced.owned, gone⟩
  refine (erasing_sends ending legal fenced).leaves _ ?_ ?_ ?_
  · rintro rfl
    exact ⟨fenced.owned, gone⟩
  · rintro store' rfl ⟨kept, receipted⟩
    exact .inr ⟨receipted, kept ▸ gone⟩
  · rintro store' rfl ⟨kept, receipted⟩
    rw [proceed_deleted]
    exact .inr ⟨receipted, kept ▸ gone⟩

theorem destroying_leaves (fenced : d.Fenced (d.db store)) (allowed : d.Allowed (d.vault store)) :
    d.Leaves (betweenStores endings)
      (d.proceed E endings (store, .destroying d.target d.keyName)).1 := by
  rcases endings with _ | ⟨ending, rest⟩
  · exact .inl ⟨fenced.owned, allowed.present⟩
  refine (destroying_sends E ending allowed).leaves _ ?_ ?_ ?_
  · rintro rfl
    exact .inl ⟨fenced.owned, allowed.present⟩
  · rintro store' rfl ⟨kept, gone⟩
    exact ⟨kept ▸ fenced.owned, gone⟩
  · rintro store' rfl ⟨kept, gone⟩
    exact erasing_leaves legal (kept ▸ fenced) gone

theorem allowing_leaves (fenced : d.Fenced (d.db store))
    (present : T.lookup (d.vault store) d.keyName ≠ none) :
    d.Leaves (stopsBetweenStores (.acknowledged :: endings))
      (d.proceed E endings (store, .allowing d.target d.keyName)).1 := by
  rcases endings with _ | ⟨ending, rest⟩
  · exact .inl ⟨fenced.owned, present⟩
  refine (allowing_sends E ending present).leaves _ ?_ ?_ ?_
  · rintro rfl
    exact .inl ⟨fenced.owned, present⟩
  · rintro store' rfl ⟨kept, allowed⟩
    exact .inl ⟨kept ▸ fenced.owned, allowed.present⟩
  · rintro store' rfl ⟨kept, allowed⟩
    exact destroying_leaves legal (kept ▸ fenced) allowed

theorem marking_leaves (endings : List Ending) (valid : validKeyName d.keyName = true)
    (waiting : d.Open store) :
    d.Leaves (stopsBetweenStores endings) (d.proceed E endings (store, .marking d.target)).1 := by
  rcases endings with _ | ⟨ending, rest⟩
  · exact .inl waiting
  refine (marking_sends ending legal valid waiting.1).leaves _ ?_ ?_ ?_
  · rintro rfl
    exact .inl waiting
  · rintro store' rfl ⟨kept, fenced⟩
    exact .inl ⟨fenced.owned, kept ▸ waiting.2⟩
  · rintro store' rfl ⟨kept, fenced⟩
    exact allowing_leaves legal fenced (kept ▸ waiting.2)

end Legal

section Retry

variable (named : d.jurisdiction ≠ [] ∧ d.id ≠ [])
  (routed : routing.target d.jurisdiction = .ok d.target) (given : d.requestId ≠ [])
include named routed given

theorem attempt_eq :
    d.attempt E routing endings store = d.proceed E endings (store, .marking d.target) := by
  simp [attempt, enter, named.1, named.2, given, routed]

variable (legal : texts E [d.id, d.jurisdiction, d.requestId] = true)
include legal

theorem retry_open (valid : validKeyName d.keyName = true) (waiting : d.Open store) :
    (d.retry E routing store).2 = .deleted ∧ d.Finished (d.retry E routing store).1 := by
  obtain ⟨first, marked, kept, fenced⟩ := marking_sends .acknowledged legal valid waiting.1
  obtain ⟨second, allows, kept', allowed⟩ := allowing_sends E .acknowledged (kept ▸ waiting.2)
  obtain ⟨third, destroys, kept'', gone⟩ := destroying_sends E .acknowledged allowed
  obtain ⟨last, erases, same, receipted⟩ :=
    erasing_sends .acknowledged legal (kept'' ▸ kept' ▸ fenced)
  rw [retry, attempt_eq named routed given]
  simp only [List.replicate, proceed, marked, allows, destroys, erases, if_pos]
  exact ⟨trivial, receipted, same ▸ gone⟩

theorem retry_stuck (missing : T.missingOnConfig = 404) (valid : validKeyName d.keyName = true)
    (stuck : d.Stuck store) : (d.retry E routing store).2 = .failed .allowDeletion := by
  obtain ⟨first, marked, kept, -⟩ := marking_sends .acknowledged legal valid stuck.1
  obtain ⟨second, refused⟩ : ∃ second, d.next E (.allowing d.target d.keyName) .acknowledged first =
      (second, .failed .allowDeletion) := by
    have gone : T.lookup (d.vault first) d.keyName = none := kept ▸ stuck.2
    simp only [Deletion.vault] at gone
    simp [next, deleteSection, Store.onVault, submit, T.allowed_missing _ _ gone, missing, succeeds]
  rw [retry, attempt_eq named routed given]
  simp only [List.replicate, proceed, marked, if_pos, refused]
  rfl

theorem retry_finished (finished : d.Finished store) :
    d.retry E routing store = (store, .deleted) := by
  obtain ⟨⟨mapped, receipt⟩, -⟩ := finished
  simp only [Deletion.db] at mapped receipt
  have unmarked : d.next E (.marking d.target) .acknowledged store = (store, .lookingUp d.target) := by
    simp [next, deleteSection, Store.onDatabase, submit, markPending, legal, Database.row, mapped]
  have found : d.next E (.lookingUp d.target) .acknowledged store = (store, .deleted) := by
    have text : texts E [d.requestId] = true := by
      simp only [texts, List.all_cons, Bool.and_eq_true] at legal ⊢
      exact legal.2.2
    simp [next, deleteSection, Store.onDatabase, submit, hasReceipt, text, receipt]
  rw [retry, attempt_eq named routed given]
  simp only [List.replicate, proceed, unmarked, found]
  rfl

end Retry

def Refusing (d : Deletion) : Phase → Prop
  | .marking target | .lookingUp target | .explaining target => target = d.target
  | .failed _ | .deleted => True
  | _ => False

section Refused

variable (refused : texts E [d.id, d.jurisdiction, d.requestId] = false ∨
  ¬ (mapping.state = .active ∨ mapping.deletionRequestId = some d.requestId))
include refused

theorem markPending_refused (row : db.row d.jurisdiction d.id = some mapping) :
    markPending E d.jurisdiction d.id d.requestId db = (db, none) ∨
      markPending E d.jurisdiction d.id d.requestId db = (db, some none) := by
  unfold markPending
  rcases refused with illegal | other
  · simp [illegal]
  · rw [row]
    simp only [if_neg other]
    split
    · exact .inr rfl
    · exact .inl rfl

theorem next_refused (ending : Ending)
    (row : (d.db store).row d.jurisdiction d.id = some mapping) (refusing : d.Refusing phase) :
    (d.db (d.next E phase ending store).1).row d.jurisdiction d.id = some mapping ∧
      d.Refusing (d.next E phase ending store).2 := by
  simp only [Deletion.db] at row ⊢
  cases phase with
  | marking target =>
    obtain rfl : target = d.target := refusing
    rcases markPending_refused refused row with same | same
    · cases ending <;> simp [next, deleteSection, Store.onDatabase, submit, same, row, Refusing]
    · cases ending <;> simp [next, deleteSection, Store.onDatabase, submit, same, row, Refusing]
  | lookingUp target =>
    obtain rfl : target = d.target := refusing
    refine ⟨by cases ending <;> simp [next, deleteSection, Store.onDatabase, submit, hasReceipt, row],
      ?_⟩
    simp only [next, deleteSection]
    split
    · trivial
    · rfl
  | explaining target =>
    obtain rfl : target = d.target := refusing
    cases ending <;>
      simp [next, deleteSection, Store.onDatabase, submit, ownedByAnother, row, Refusing]
  | failed => exact ⟨row, trivial⟩
  | deleted => exact ⟨row, trivial⟩
  | _ => cases refusing

theorem proceed_refused (row : (d.db store).row d.jurisdiction d.id = some mapping)
    (refusing : d.Refusing phase) :
    (d.db (d.proceed E endings (store, phase)).1).row d.jurisdiction d.id = some mapping := by
  induction endings generalizing store phase with
  | nil => exact row
  | cons ending rest ih =>
    obtain ⟨row, refusing⟩ := next_refused refused ending row refusing
    exact ih row refusing

end Refused

theorem attempt_refused (endings : List Ending)
    (routed : routing.target d.jurisdiction = .ok d.target) (refused : ¬ d.Admitted E mapping)
    (row : (d.db store).row d.jurisdiction d.id = some mapping) :
    (d.db (d.attempt E routing endings store).1).row d.jurisdiction d.id = some mapping := by
  unfold attempt enter
  simp only [routed]
  split
  · rwa [proceed_failed]
  rename_i given
  refine proceed_refused ?_ row rfl
  by_cases text : E.acceptsText d.requestId = true
  · exact .inr fun owner => refused ⟨fun empty => given (.inr (.inr empty)), text, owner⟩
  · left
    simp [texts, text]

/-- After an attempt that stopped anywhere, RequestDeletion without faults returns nil with
the key and the mapping gone if and only if the request owns the deletion and the attempt did
not stop between the two. -/
theorem retry_completes_iff (E : Engine) (T : Transit) (routing : Routing)
    (missing : T.missingOnConfig = 404 ∧ T.missingOnDelete = 404) (d : Deletion)
    (mapping : Mapping) (store : Store T) (held : d.Held E routing mapping store)
    (endings : List Ending) :
    (let stopped := (d.attempt E routing endings store).1
      let retried := d.retry E routing stopped
      retried.2 = .deleted ∧ (d.db retried.1).mappings.lookup d.id = none ∧
        T.lookup (d.vault retried.1) d.keyName = none) ↔
      d.Admitted E mapping ∧ stopsBetweenStores endings = false := by
  have readable := held.texts
  obtain ⟨named, routed, _, row, keyed, valid, key⟩ := held
  by_cases admitted : d.Admitted E mapping
  · obtain ⟨given, text, owner⟩ := admitted
    have legal : texts E [d.id, d.jurisdiction, d.requestId] = true := by
      simp only [texts, List.all_cons, List.all_nil, Bool.and_true, Bool.and_eq_true] at readable ⊢
      exact ⟨readable.1, readable.2, text⟩
    have left := marking_leaves legal endings valid ⟨⟨mapping, row, keyed, owner⟩, key⟩
    rw [← attempt_eq named routed given] at left
    cases between : stopsBetweenStores endings with
    | true =>
      rw [between] at left
      have failed := retry_stuck named routed given legal missing.1 valid left
      simp [failed]
    | false =>
      rw [between] at left
      refine iff_of_true ?_ ⟨⟨given, text, owner⟩, rfl⟩
      rcases left with waiting | finished
      · obtain ⟨returned, ⟨mapped, -⟩, gone⟩ := retry_open named routed given legal valid waiting
        exact ⟨returned, mapped, gone⟩
      · simp only [retry_finished named routed given legal finished]
        exact ⟨trivial, finished.1.1, finished.2⟩
  · have kept := attempt_refused (List.replicate 4 .acknowledged) routed admitted
      (attempt_refused endings routed admitted row)
    refine iff_of_false ?_ fun both => admitted both.1
    rintro ⟨_, mapped, _⟩
    rw [retry, (row_some kept).1] at mapped
    cases mapped

def sampleStore : Store sampleTransit :=
  (run (step sampleEngine sampleRouting sampleRequests) initial (sampleEvents.take 4)).store

def sampleDeletion : Deletion :=
  ⟨ascii "KZ", ascii "pty_1", ascii "r1", ⟨ascii "kz-db", ascii "kz-kms"⟩, ascii "pii-2"⟩

def sampleMapping : Mapping where
  jurisdiction := ascii "KZ"
  vaultKeyName := ascii "pii-2"
  ciphertext := 118 :: 1 :: ascii "\x7b\"name\":\"A\"\x7d"
  state := .active
  deletionRequestId := none

theorem sampleStore_held :
    sampleDeletion.Held sampleEngine sampleRouting sampleMapping sampleStore where
  named := by decide
  routed := by decide
  texts := by decide
  row := by decide +kernel
  keyed := rfl
  valid := by decide
  key := by
    have present : (sampleTransit.lookup (sampleDeletion.vault sampleStore) sampleDeletion.keyName).isSome = true := by
      decide +kernel
    exact Option.isSome_iff_ne_none.mp present

/-- The DELETE of the key does not arrive, or the COMMIT is not heard. -/
theorem sample_retry_completes :
    sampleDeletion.Held sampleEngine sampleRouting sampleMapping sampleStore ∧
    ∀ endings ∈ [[.acknowledged, .acknowledged, .aborted],
      [.acknowledged, .acknowledged, .acknowledged, .unacknowledged]],
      (sampleDeletion.retry sampleEngine sampleRouting
        (sampleDeletion.attempt sampleEngine sampleRouting endings sampleStore).1).2 = .deleted := by
  refine ⟨sampleStore_held, fun endings member => ?_⟩
  refine ((retry_completes_iff sampleEngine sampleTransit sampleRouting ⟨rfl, rfl⟩ _ _ _
    sampleStore_held endings).mpr ⟨⟨by decide, by decide, .inl rfl⟩, ?_⟩).1
  revert endings
  decide

/-- The answer to the key's DELETE is lost: the mapping stays pending, and the retry fails. -/
theorem lost_destroy_answer_blocks_retry :
    sampleDeletion.Held sampleEngine sampleRouting sampleMapping sampleStore ∧
      (let stopped := (sampleDeletion.attempt sampleEngine sampleRouting
          [.acknowledged, .acknowledged, .unacknowledged] sampleStore).1
        let retried := sampleDeletion.retry sampleEngine sampleRouting stopped
        retried.2 ≠ .deleted ∧
          ((sampleDeletion.db retried.1).mappings.lookup (ascii "pty_1")).isSome ∧
          (sampleTransit.lookup (sampleDeletion.vault retried.1) (ascii "pii-2")).isNone) := by
  refine ⟨sampleStore_held, ?_⟩
  decide +kernel

end Deletion

end PaymentPlatform.Pii
