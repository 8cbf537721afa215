import PaymentPlatform.Pii.Ownership

/-! A deletion that reports success has destroyed the key and deleted the mapping, unless
the receipt of another identity answered for it. -/

namespace PaymentPlatform.Pii

open Framing Ledger Serial

variable {E : Engine} {T : Transit} {ι : Type} {routing : Routing} {request : ι → Request T}
  {s : System T ι}

variable {id jurisdiction : Bytes} {event : Event ι} {phase : Phase} {store : Store T}

def Phase.blind : Phase → Bool
  | .called | .reading _ | .failed _ | .crashed => true
  | _ => false

theorem enter_get_blind (jurisdiction id : Bytes) :
    (enter routing (.get jurisdiction id : Request T)).blind = true := by
  simp only [enter]
  split
  · rfl
  split <;> rfl

theorem getSection_blind (blind : phase.blind = true)
    (absent : ∀ name, (store.databases name).mappings.lookup id = none)
    (ending : Ending) : (getSection E jurisdiction id phase ending store).2.blind = true := by
  cases phase with
  | reading target =>
    simp only [getSection]
    split
    · rename_i mapping answer
      obtain ⟨_, selected⟩ := onDatabase_answered answer
      simp only [selectMapping, Database.row, absent, Option.filter_none] at selected
      split at selected
      · cases selected
      · cases selected
    · rfl
    · rfl
  | called => rfl
  | failed => rfl
  | crashed => rfl
  | _ => exact absurd blind Bool.false_ne_true

variable [DecidableEq ι]

theorem step_blind {reader : ι}
    (reads : request reader = .get jurisdiction id) (blind : (s.phase reader).blind = true)
    (absent : ∀ name, (s.store.databases name).mappings.lookup id = none) (event : Event ι) :
    ((step E routing request s event).phase reader).blind = true := by
  cases event with
  | crash call =>
    by_cases same : reader = call
    · subst same
      simp only [step, Calls.next_self]
      rfl
    · simpa only [step, Calls.next_other same] using blind
  | resume call ending =>
    by_cases same : reader = call
    · subst same
      by_cases called : s.phase reader = .called
      · rw [step_enter called, Calls.next_self, reads]
        exact enter_get_blind jurisdiction id
      · rw [step_resume called, after, Calls.next_self, reads]
        exact getSection_blind blind absent ending
    · by_cases called : s.phase call = .called
      · rw [step_enter called, Calls.next_other same]
        exact blind
      · rw [step_resume called, after, Calls.next_other same]
        exact blind

/-- Erased for good, and a Get that begins later does not find the identity. -/
def Gone (E : Engine) (routing : Routing) (request : ι → Request T) (s : System T ι)
    (jurisdiction id : Bytes) : Prop :=
  ∀ more, let s' := run (step E routing request) s more
    Erased routing request s' jurisdiction id ∧
      ∀ reader jurisdiction', request reader = .get jurisdiction' id → s.phase reader = .called →
        ∀ identity, s'.phase reader ≠ .found identity

/-- Whenever RequestDeletion has returned nil, its identity is gone. -/
def Complete (E : Engine) (routing : Routing) (request : ι → Request T) (s : System T ι) : Prop :=
  ∀ call jurisdiction id requestId, request call = .delete jurisdiction id requestId →
    s.phase call = .deleted → Gone E routing request s jurisdiction id

/-- A receipt answers a deletion only when the identity is erased already. -/
def Earned (E : Engine) (routing : Routing) (request : ι → Request T) (s : System T ι)
    (event : Event ι) : Prop :=
  ∀ call target jurisdiction id requestId, event = .resume call .acknowledged →
    s.phase call = .lookingUp target → request call = .delete jurisdiction id requestId →
    (hasReceipt E requestId (s.store.databases target.database)).2 = true →
    Erased routing request s jurisdiction id

def Done (routing : Routing) (request : ι → Request T) (s : System T ι) : Prop :=
  ∀ call jurisdiction id requestId, request call = .delete jurisdiction id requestId →
    s.phase call = .deleted → Erased routing request s jurisdiction id

variable {jurisdiction id requestId : Bytes}

theorem Erased.gone (distinct : Distinct request) (inv : Sound routing request s)
    (erased : Erased routing request s jurisdiction id) : Gone E routing request s jurisdiction id := by
  intro more
  refine ⟨run_erased distinct inv erased more, fun reader jurisdiction' reads called identity found => ?_⟩
  have held := run_preserves (step E routing request)
    (fun s => (Sound routing request s ∧ Erased routing request s jurisdiction id) ∧
      (s.phase reader).blind = true)
    (fun s event held => by
      obtain ⟨⟨sound, erased⟩, blind⟩ := held
      have absent : ∀ name, (s.store.databases name).mappings.lookup id = none := by
        obtain ⟨_, _, _, _, _, absent, _⟩ := erased
        exact absent
      exact ⟨⟨step_sound distinct sound event, erased.later (step_later distinct sound event)⟩,
        step_blind reads blind absent event⟩)
    more ⟨⟨inv, erased⟩, by rw [called]; rfl⟩
  have blind := held.2
  rw [found] at blind
  exact absurd blind Bool.false_ne_true

theorem complete_iff_done (distinct : Distinct request) (inv : Sound routing request s) :
    Complete E routing request s ↔ Done routing request s :=
  ⟨fun complete call j id r deletes returned => (complete call j id r deletes returned []).1,
    fun done call j id r deletes returned => (done call j id r deletes returned).gone distinct inv⟩

omit [DecidableEq ι] in
theorem enter_deletes : enter routing (.delete jurisdiction id requestId : Request T) ≠ .deleted := by
  simp only [enter]
  split
  · exact nofun
  · split <;> exact nofun

omit [DecidableEq ι] in
theorem deleteSection_deleted {ending : Ending}
    (returned : (deleteSection E jurisdiction id requestId phase ending store).2 = .deleted) :
    phase = .deleted ∨
    (∃ target, phase = .erasing target ∧ ending ≠ .aborted ∧ (eraseMapping E jurisdiction id requestId
      (store.databases target.database)).2 = .committed) ∨
    ∃ target, phase = .lookingUp target ∧ ending = .acknowledged ∧
      (hasReceipt E requestId (store.databases target.database)).2 = true := by
  cases phase with
  | deleted => exact .inl rfl
  | erasing target =>
    refine .inr (.inl ⟨target, rfl, ?_⟩)
    simp only [deleteSection] at returned
    split at returned
    · rename_i answer
      refine ⟨?_, (onDatabase_answered answer).2⟩
      rintro rfl
      cases answer
    · cases returned
    · cases returned
  | lookingUp target =>
    refine .inr (.inr ⟨target, rfl, ?_⟩)
    simp only [deleteSection] at returned
    split at returned
    · rename_i answer
      refine ⟨?_, (onDatabase_answered answer).2⟩
      cases ending with
      | acknowledged => rfl
      | unacknowledged | aborted => cases answer
    · cases returned
  | marking =>
    simp only [deleteSection] at returned
    (repeat' split at returned) <;> cases returned
  | allowing target keyName | destroying target keyName =>
    simp only [deleteSection] at returned
    split at returned <;> cases returned
  | _ => cases returned

theorem Done.step (distinct : Distinct request) (inv : Sound routing request s)
    (done : Done routing request s) (earned : Earned E routing request s event) :
    Done routing request (Pii.step E routing request s event) := by
  intro call jurisdiction id requestId deletes returned
  have later : Later routing request s (Pii.step E routing request s event) :=
    step_later distinct inv event
  have kept : s.phase call = .deleted →
      Erased routing request (Pii.step E routing request s event) jurisdiction id :=
    fun before => (done call jurisdiction id requestId deletes before).later later
  cases event with
  | crash other =>
    by_cases same : call = other
    · subst same
      simp only [Pii.step, Calls.next_self] at returned
      cases returned
    · simp only [Pii.step, Calls.next_other same] at returned
      exact kept returned
  | resume other =>
    by_cases called : s.phase other = .called
    · rw [step_enter called] at returned
      by_cases same : call = other
      · subst same
        rw [Calls.next_self, deletes] at returned
        exact absurd returned enter_deletes
      · rw [Calls.next_other same] at returned
        exact kept returned
    · rw [step_resume called, after] at returned
      by_cases same : call = other
      · subst same
        rw [Calls.next_self, deletes] at returned
        rcases deleteSection_deleted returned with before | ⟨target, at_, arrived, committed⟩ |
          ⟨target, at_, rfl, found⟩
        · exact kept before
        · rw [step_resume called]
          exact erase_completes distinct inv at_ deletes arrived committed
        · exact (earned call target jurisdiction id requestId rfl at_ deletes found).later later
      · rw [Calls.next_other same] at returned
        exact kept returned

theorem Done.earned (done : Done routing request (Pii.step E routing request s event)) :
    Earned E routing request s event := by
  rintro call target jurisdiction id requestId rfl at_ deletes found
  have begun : s.phase call ≠ .called := by
    rw [at_]
    exact nofun
  -- the lookup changes nothing but the phase of its own call, which creates nothing
  have looked : Pii.step E routing request s (.resume call .acknowledged) =
      s.next call s.store .deleted := by
    rw [step_resume begun, after]
    simp only [at_, deletes, requestSection, deleteSection, Store.onDatabase, submit, found, if_true]
    simp only [hasReceipt, Function.update_eq_self]
  rw [looked] at done
  obtain ⟨creator, draft, creates, rest⟩ := done call jurisdiction id requestId deletes (by
    rw [Calls.next_self])
  have other : creator ≠ call := by
    rintro rfl
    obtain ⟨_, _, _, _, _, _, created, _⟩ := creates.prepares
    rw [deletes] at created
    cases created
  have inserted := creates.inserted
  rw [Calls.next_other other] at inserted
  exact ⟨creator, draft, ⟨creates.prepares, inserted⟩, rest⟩

/-- In every run, all deletions that return nil have erased their identities, for good,
exactly when every receipt that answers a deletion answers for an identity that is erased
already; and it is, once a deletion of the identity itself has committed. -/
theorem deletions_erase_iff (E : Engine) (T : Transit) (routing : Routing) (request : ι → Request T)
    (distinct : Distinct request) :
    (∀ events, Along (step E routing request)
        (fun s event => Complete E routing request (step E routing request s event)) initial events ↔
      Along (step E routing request) (Earned E routing request) initial events) ∧
    ∀ earlier later call ending target jurisdiction id requestId,
      let s := run (step E routing request) initial earlier
      request call = .delete jurisdiction id requestId → s.phase call = .erasing target →
      ending ≠ .aborted → (eraseMapping E jurisdiction id requestId
        (s.store.databases target.database)).2 = .committed →
      Erased routing request
        (run (step E routing request) initial (earlier ++ .resume call ending :: later)) jurisdiction id := by
  refine ⟨fun events => along_iff _ (fun s => Sound routing request s ∧ Done routing request s) ?_ ?_
    events ⟨initial_sound, nofun⟩ (along_true _ _ _), ?_⟩
  · intro s event inv _
    rw [complete_iff_done distinct (step_sound distinct inv.1 event)]
    exact ⟨Done.earned, inv.2.step distinct inv.1⟩
  · intro s event inv _ earned
    exact ⟨step_sound distinct inv.1 event, inv.2.step distinct inv.1 earned⟩
  · intro earlier later call ending target jurisdiction id requestId s deletes at_ arrived committed
    have inv : Sound routing request s := run_sound distinct initial_sound earlier
    have begun : s.phase call ≠ .called := by
      rw [at_]
      exact nofun
    rw [run_append]
    refine run_erased distinct (step_sound distinct inv _) ?_ later
    rw [step_resume begun]
    exact erase_completes distinct inv at_ deletes arrived committed

instance (phase : Phase) : Decidable (phase = .deleted) :=
  decidable_of_iff ((match phase with | .deleted => true | _ => false) = true) (by cases phase <;> simp)

/-- Keys are bytes, which the texts carry. -/
def sampleTransit : Transit where
  Key := UInt8
  Vault := Table Bytes (KeyEntry UInt8)
  empty := ∅
  lookup vault name := vault.lookup name
  createKey name key vault := (vault.insert name ((vault.lookup name).getD ⟨key, false⟩), 200)
  encryptText name _ _ text vault := (vault, (vault.lookup name).map fun entry => 118 :: entry.material :: text)
  decryptText name _ ciphertext vault := (vault, (vault.lookup name).bind fun entry =>
    if ciphertext[1]? = some entry.material then some (ciphertext.drop 2) else none)
  allowDeletion name vault := match vault.lookup name with
    | none => (vault, 404)
    | some entry => (vault.insert name { entry with deletionAllowed := true }, 200)
  deleteKey name vault := match vault.lookup name with
    | none => (vault, 404)
    | some entry => if entry.deletionAllowed then (vault.erase name, 204) else (vault, 400)
  encipher key _ _ text := 118 :: key :: text
  decipher key _ ciphertext := if ciphertext[1]? = some key then some (ciphertext.drop 2) else none
  missingOnConfig := 404
  missingOnDelete := 404
  lookup_empty _ := rfl
  created name key vault := by
    funext other
    by_cases same : other = name <;> simp [same, AList.lookup_insert_if]
  encrypted _ _ _ _ _ := ⟨rfl, rfl⟩
  decrypted _ _ _ _ := ⟨rfl, rfl⟩
  allowed name vault := by
    funext other
    rcases eq_or_ne other name with rfl | different <;> cases known : vault.lookup _ <;>
      simp_all
  allowed_present name vault present := by
    cases known : vault.lookup name <;> simp_all [succeeds]
  allowed_missing name vault missing := by simp [missing]
  deleted name vault := by
    funext other
    cases known : vault.lookup name with
    | none => rcases eq_or_ne other name with rfl | different <;> simp_all
    | some entry =>
      cases allowed : entry.deletionAllowed <;> rcases eq_or_ne other name with rfl | different <;>
        simp_all [Option.filter_some, AList.lookup_erase, AList.lookup_erase_ne]
  deleted_present name vault entry present := by
    cases allowed : entry.deletionAllowed <;> simp [present, allowed, succeeds, destroyed]
  deleted_missing name vault missing := by simp [missing]

instance (phase : Phase) (target : Target) : Decidable (phase = .erasing target) :=
  decidable_of_iff ((match phase with | .erasing other => decide (other = target) | _ => false) = true)
    (by cases phase <;> simp)

def sampleRouting : Routing where
  database jurisdiction := if jurisdiction = ascii "KZ" then some (ascii "kz-db") else none
  regional jurisdiction := if jurisdiction = ascii "KZ" then some (ascii "kz-kms") else none

def sampleAttributes : Table Bytes Bytes := (∅ : Table Bytes Bytes).insert (ascii "name") (ascii "A")

def sampleCreate (suffix keySuffix : String) (key : UInt8) : Request sampleTransit :=
  .create (ascii "KZ") (some sampleAttributes) (some (ascii suffix)) (some (ascii keySuffix)) key 0

def resumes {ι : Type} (call : ι) (times : Nat) : List (Event ι) :=
  List.replicate times (.resume call .acknowledged)

/-- One request id for two active identities, and a retry of the second deletion. -/
def sampleRequests : Fin 5 → Request sampleTransit
  | 0 => sampleCreate "1" "2" 1
  | 1 => sampleCreate "3" "4" 2
  | 2 => .delete (ascii "KZ") (ascii "pty_1") (ascii "r1")
  | 3 => .delete (ascii "KZ") (ascii "pty_3") (ascii "r1")
  | 4 => .delete (ascii "KZ") (ascii "pty_3") (ascii "r1")

def sampleEvents : List (Event (Fin 5)) :=
  resumes 0 4 ++ resumes 1 4 ++ resumes 2 5 ++ resumes 3 4

def Event.looksUp (s : System sampleTransit (Fin 5)) : Event (Fin 5) → Bool
  | .resume call _ => match s.phase call with
    | .lookingUp _ => true
    | _ => false
  | .crash _ => false

theorem sample_deletion_erases :
    Distinct sampleRequests ∧
      Along (step sampleEngine sampleRouting sampleRequests) (fun s event =>
        Complete sampleEngine sampleRouting sampleRequests
          (step sampleEngine sampleRouting sampleRequests s event)) initial
        (sampleEvents ++ (resumes 3 1 ++ resumes 4 2) ++ resumes 4 1) ∧
      ∀ call ∈ [2, 3, 4], (run (step sampleEngine sampleRouting sampleRequests) initial
        (sampleEvents ++ (resumes 3 1 ++ resumes 4 2) ++ resumes 4 1)).phase call = .deleted := by
  have distinct : Distinct sampleRequests := by
    unfold Distinct
    decide
  obtain ⟨iff, own⟩ := deletions_erase_iff sampleEngine sampleTransit sampleRouting sampleRequests distinct
  refine ⟨distinct, (iff _).mpr ?_, by decide +kernel⟩
  rw [along_append]
  refine ⟨?_, ?_, trivial⟩
  · -- until the retry no deletion looks a receipt up
    have quiet : Along (step sampleEngine sampleRouting sampleRequests)
        (fun s event => event.looksUp s = false) initial
        (sampleEvents ++ (resumes 3 1 ++ resumes 4 2)) := by decide +kernel
    refine along_mono ?_ _ quiet
    rintro s _ silent call target _ _ _ rfl at_ _ _
    simp only [Event.looksUp, at_] at silent
    cases silent
  · rintro call target jurisdiction id requestId same at_ deletes _
    cases same
    cases deletes
    exact own sampleEvents (resumes 4 2) 3 .acknowledged ⟨ascii "kz-db", ascii "kz-kms"⟩ _ _ _ rfl
      (by decide +kernel) nofun (by decide +kernel)

/-- The request id of the first identity's deletion is used for the second identity, whose
own deletion has crashed. -/
def reusedRequests : Fin 5 → Request sampleTransit
  | 0 => sampleCreate "1" "2" 1
  | 1 => sampleCreate "3" "4" 2
  | 2 => .delete (ascii "KZ") (ascii "pty_1") (ascii "r1")
  | 3 => .delete (ascii "KZ") (ascii "pty_3") (ascii "r2")
  | 4 => .delete (ascii "KZ") (ascii "pty_3") (ascii "r1")

def reusedEvents : List (Event (Fin 5)) :=
  resumes 0 4 ++ resumes 1 4 ++ resumes 2 5 ++ resumes 3 2 ++ [.crash 3] ++ resumes 4 3

theorem reused_request_deletes_nothing :
    Distinct reusedRequests ∧
      (let s := run (step sampleEngine sampleRouting reusedRequests) initial reusedEvents;
        s.phase 4 = .deleted ∧
          ((s.store.databases (ascii "kz-db")).mappings.lookup (ascii "pty_3")).isSome ∧
          (sampleTransit.lookup (s.store.vaults (ascii "kz-kms")) (ascii "pii-4")).isSome) := by
  refine ⟨?_, by decide +kernel⟩
  unfold Distinct
  decide

end PaymentPlatform.Pii
