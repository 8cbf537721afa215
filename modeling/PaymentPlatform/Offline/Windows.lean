import PaymentPlatform.Offline.Steps

/-! The validity windows of closure keys: a key of a domain is valid from its
activation until its termination. Windows are derived from two append-only tables,
and the invariant below is what their guards keep. -/

namespace PaymentPlatform.Offline

open Framing Ledger Serial

variable {E : Engine}
variable {st st' : Tables} {domain keyId expected : Bytes} {epoch : Int}
  {reason : KeyTerminationReason} {answer : Bool}

/-- The key that the domain activated at an epoch is valid at another one. -/
structure ValidAt (st : Tables) (domain : Bytes) (activated : Int) (keyId : Bytes) (epoch : Int) :
    Prop where
  key : st.keyActivations.lookup (domain, activated) = some keyId
  active : activated ≤ epoch
  unterminated : openAt st domain keyId epoch = true

def EvidenceRow.Supported (st : Tables) (evidence : EvidenceRow) : Prop :=
  ∃ activated, ValidAt st evidence.acceptanceDomain activated evidence.keyId
    evidence.closedSettlementEpoch

structure Windows (st : Tables) : Prop where
  /-- A termination ends a window that has begun. -/
  begun : ∀ domain keyId row, st.keyTerminations.lookup (domain, keyId) = some row →
    ∃ activated, st.keyActivations.lookup (domain, activated) = some keyId ∧
      activated < row.terminatedEpoch
  /-- The window of an earlier key is expired when a later one begins. -/
  ended : ∀ domain earlier later keyId other,
    st.keyActivations.lookup (domain, earlier) = some keyId →
    st.keyActivations.lookup (domain, later) = some other → earlier < later →
    openAt st domain keyId later = false
  named : ∀ key other keyId, st.keyActivations.lookup key = some keyId →
    st.keyActivations.lookup other = some keyId → key = other
  evidence : ∀ hash row, st.closureEvidence.lookup hash = some row → row.Supported st

theorem openAt_eq_false : openAt st domain keyId epoch = false ↔
      ∃ row, st.keyTerminations.lookup (domain, keyId) = some row ∧ row.terminatedEpoch ≤ epoch := by
  unfold openAt
  cases st.keyTerminations.lookup (domain, keyId) <;> simp

theorem openAt_later {later : Int} (expired : openAt st domain keyId epoch = false)
    (after : epoch ≤ later) : openAt st domain keyId later = false := by
  obtain ⟨row, found, bound⟩ := openAt_eq_false.mp expired
  exact openAt_eq_false.mpr ⟨row, found, by omega⟩

theorem Windows.unique (windows : Windows st) {a b : Int} {other : Bytes}
    (left : ValidAt st domain a keyId epoch) (right : ValidAt st domain b other epoch) :
    a = b ∧ keyId = other := by
  rcases lt_trichotomy a b with before | same | after
  · have expired := openAt_later (windows.ended domain a b keyId other left.key right.key before)
      right.active
    rw [left.unterminated] at expired
    cases expired
  · subst same
    have key := left.key.symm.trans right.key
    exact ⟨rfl, Option.some.inj key⟩
  · have expired := openAt_later (windows.ended domain b a other keyId right.key left.key after)
      left.active
    rw [right.unterminated] at expired
    cases expired

theorem ValidAt.insertActivation (done : insertActivation domain keyId epoch st = .ok st')
    {other : Bytes} {a : Int} {k : Bytes} {moment : Int} (valid : ValidAt st other a k moment) :
    ValidAt st' other a k moment := by
  obtain ⟨_, _, fresh, _, rfl⟩ := insertActivation_ok done
  exact ⟨AList.lookup_insert_fresh fresh keyId valid.key, valid.active, valid.unterminated⟩

theorem Windows.insertActivation (windows : Windows st)
    (done : insertActivation domain keyId epoch st = .ok st') : Windows st' := by
  have evidence : ∀ hash row, st.closureEvidence.lookup hash = some row → row.Supported st' := by
    intro hash row found
    obtain ⟨activated, valid⟩ := windows.evidence hash row found
    exact ⟨activated, valid.insertActivation done⟩
  obtain ⟨_, closed, fresh, unused, rfl⟩ := insertActivation_ok done
  -- every window of the domain is expired at the new epoch, so it began before
  have before : ∀ a k, st.keyActivations.lookup (domain, a) = some k → a < epoch := by
    intro a k stored
    obtain ⟨row, terminated, bound⟩ := openAt_eq_false.mp (closed (domain, a) k stored rfl)
    obtain ⟨a', stored', started⟩ := windows.begun domain k row terminated
    have same : a = a' := congrArg Prod.snd (windows.named _ _ k stored stored')
    omega
  refine ⟨?_, ?_, ?_, evidence⟩
  · intro other k row terminated
    obtain ⟨activated, stored, started⟩ := windows.begun other k row terminated
    exact ⟨activated, AList.lookup_insert_fresh fresh keyId stored, started⟩
  · intro other earlier later k l first second order
    rw [AList.lookup_insert_if] at first second
    split at first
    · rename_i new
      obtain ⟨rfl, rfl⟩ := Prod.mk.inj new
      rw [if_neg (by simp; omega)] at second
      have := before later l second
      omega
    · split at second
      · rename_i new
        obtain ⟨rfl, rfl⟩ := Prod.mk.inj new
        exact closed (other, earlier) k first rfl
      · exact windows.ended other earlier later k l first second order
  · intro key other k first second
    rw [AList.lookup_insert_if] at first second
    split at first <;> split at second
    · rename_i new new'
      exact new.trans new'.symm
    · cases first
      exact absurd rfl (unused other _ second)
    · cases second
      exact absurd rfl (unused key _ first)
    · exact windows.named key other k first second

theorem activationOf_some {activated : Int} (found : activationOf st domain keyId = some activated) :
    st.keyActivations.lookup (domain, activated) = some keyId := by
  simp only [activationOf, Option.map_eq_some_iff] at found
  obtain ⟨⟨⟨d, a⟩, k⟩, first, rfl⟩ := found
  have member := List.mem_of_find?_eq_some first
  have selected := List.find?_some first
  simp only [Bool.and_eq_true, decide_eq_true_eq] at selected
  obtain ⟨rfl, rfl⟩ := selected
  exact (AList.mem_rows _ _ _).mp member

theorem openAt_insertTermination (done : insertTermination domain keyId epoch reason st = .ok st')
    (other k : Bytes) (moment : Int) : openAt st' other k moment =
      if (other, k) = (domain, keyId) then decide (moment < epoch) else openAt st other k moment := by
  obtain ⟨_, _, _, _, _, _, rfl⟩ := insertTermination_ok done
  simp only [openAt, AList.lookup_insert_if]
  split <;> simp

theorem Windows.insertTermination (windows : Windows st)
    (done : insertTermination domain keyId epoch reason st = .ok st') : Windows st' := by
  have opened := openAt_insertTermination done
  obtain ⟨activated, known, after, _, unused, fresh, rfl⟩ := insertTermination_ok done
  refine ⟨?_, ?_, windows.named, ?_⟩
  · intro other k row terminated
    rw [AList.lookup_insert_if] at terminated
    split at terminated
    · rename_i here
      obtain ⟨rfl, rfl⟩ := Prod.mk.inj here
      cases terminated
      exact ⟨activated, activationOf_some known, after⟩
    · exact windows.begun other k row terminated
  · intro other earlier later k l first second order
    have expired := windows.ended other earlier later k l first second order
    rw [opened]
    split
    · rename_i here
      obtain ⟨rfl, rfl⟩ := Prod.mk.inj here
      obtain ⟨row, terminated, _⟩ := openAt_eq_false.mp expired
      rw [fresh] at terminated
      cases terminated
    · exact expired
  · intro hash row found
    obtain ⟨a, key, active, unterminated⟩ := windows.evidence hash row found
    refine ⟨a, key, active, ?_⟩
    rw [opened]
    split
    · rename_i here
      obtain ⟨same, same'⟩ := Prod.mk.inj here
      exact decide_eq_true (unused hash row found same same')
    · exact unterminated

theorem validKeys_pos (valid : 0 < validKeys st domain keyId epoch) :
    ∃ activated, ValidAt st domain activated keyId epoch := by
  obtain ⟨⟨⟨d, a⟩, k⟩, member⟩ := List.exists_mem_of_length_pos valid
  simp only [activationsAt, List.mem_filter, Bool.and_eq_true, decide_eq_true_eq,
    AList.mem_rows] at member
  obtain ⟨⟨stored, ⟨rfl, active⟩, unterminated⟩, rfl⟩ := member
  exact ⟨a, stored, active, unterminated⟩

/-- What the domain procedures and closures read and write. -/
structure SameHistory (st st' : Tables) : Prop where
  domains : st'.acceptanceDomains = st.acceptanceDomains
  activations : st'.keyActivations = st.keyActivations
  terminations : st'.keyTerminations = st.keyTerminations
  evidence : st'.closureEvidence = st.closureEvidence

theorem SameHistory.supported (same : SameHistory st st') {row : EvidenceRow}
    (supported : row.Supported st) : row.Supported st' := by
  obtain ⟨a, key, active, unterminated⟩ := supported
  refine ⟨a, by rw [same.activations]; exact key, active, ?_⟩
  simpa only [openAt, same.terminations] using unterminated

theorem Windows.same (windows : Windows st) (same : SameHistory st st') : Windows st' := by
  refine ⟨?_, ?_, ?_, ?_⟩
  · simpa only [same.terminations, same.activations] using windows.begun
  · simpa only [openAt, same.terminations, same.activations] using windows.ended
  · simpa only [same.activations] using windows.named
  · intro hash row found
    rw [same.evidence] at found
    exact same.supported (windows.evidence hash row found)

theorem Windows.insertEvidence {db db' : Database E} (windows : Windows db.offline) {hash : Digest}
    {evidence : EvidenceRow} {inserted : Bool}
    (done : insertEvidence hash evidence db = .ok (db', inserted)) : Windows db'.offline := by
  obtain ⟨valid, ⟨rfl, _⟩ | ⟨_, rfl⟩⟩ := insertEvidence_ok done
  · exact windows
  · refine ⟨windows.begun, windows.ended, windows.named, ?_⟩
    intro other row found
    have supported : row.Supported db.offline := by
      rw [AList.lookup_insert_if] at found
      split at found
      · cases found
        exact validKeys_pos (by omega)
      · exact windows.evidence other row found
    obtain ⟨a, key, active, unterminated⟩ := supported
    exact ⟨a, key, active, unterminated⟩

/-- The procedures of acceptance domains; `elsewhere` is any transaction that does not
write the four tables of their history. -/
inductive DomainCommand (E : Engine) where
  | configure (domain keyId : Bytes) (first : Int) (last : Option Int)
  | rotate (domain expected new : Bytes) (epoch : Int) (reason : KeyTerminationReason)
  | terminate (domain expected : Bytes) (epoch : Int) (reason : KeyTerminationReason)
  | recordClosure (allowanceId : Bytes) (hash : Digest) (evidence : EvidenceRow)
  | elsewhere (other : Database E)

def domainStep (db : Database E) : DomainCommand E → Database E
  | .configure domain keyId first last =>
    overOffline (configureOfflineAcceptanceDomain E domain keyId first last) db
  | .rotate domain expected new epoch reason =>
    overOffline (rotateOfflineAcceptanceDomainKey E domain expected new epoch reason) db
  | .terminate domain expected epoch reason =>
    overOffline (terminateOfflineAcceptanceDomainKey E domain expected epoch reason) db
  | .recordClosure allowanceId hash evidence =>
    commit (recordOfflineDomainClosure allowanceId hash evidence) db
  | .elsewhere other =>
    { other with
      offline := { other.offline with
        acceptanceDomains := db.offline.acceptanceDomains
        keyActivations := db.offline.keyActivations
        keyTerminations := db.offline.keyTerminations
        closureEvidence := db.offline.closureEvidence } }

structure Appends (st st' : Tables) : Prop where
  domains : ∀ domain row, st.acceptanceDomains.lookup domain = some row →
    st'.acceptanceDomains.lookup domain = some row
  activations : ∀ key keyId, st.keyActivations.lookup key = some keyId →
    st'.keyActivations.lookup key = some keyId
  terminations : ∀ key row, st.keyTerminations.lookup key = some row →
    st'.keyTerminations.lookup key = some row
  evidence : ∀ hash row, st.closureEvidence.lookup hash = some row →
    st'.closureEvidence.lookup hash = some row

theorem Appends.refl (st : Tables) : Appends st st :=
  ⟨fun _ _ h => h, fun _ _ h => h, fun _ _ h => h, fun _ _ h => h⟩

theorem Appends.trans {st'' : Tables} (left : Appends st st') (right : Appends st' st'') :
    Appends st st'' :=
  ⟨fun d r h => right.domains d r (left.domains d r h),
    fun k v h => right.activations k v (left.activations k v h),
    fun k r h => right.terminations k r (left.terminations k r h),
    fun k r h => right.evidence k r (left.evidence k r h)⟩

/-- A step keeps the invariant and only adds to the history. -/
structure Advances (st st' : Tables) : Prop where
  windows : Windows st → Windows st'
  appends : Appends st st'

theorem Advances.refl (st : Tables) : Advances st st := ⟨id, Appends.refl st⟩

theorem Advances.trans {st'' : Tables} (left : Advances st st') (right : Advances st' st'') :
    Advances st st'' :=
  ⟨right.windows ∘ left.windows, left.appends.trans right.appends⟩

theorem insertActivation_advances (done : insertActivation domain keyId epoch st = .ok st') :
    Advances st st' := by
  refine ⟨fun windows => windows.insertActivation done, ?_⟩
  obtain ⟨_, _, fresh, _, rfl⟩ := insertActivation_ok done
  exact { Appends.refl st with
    activations := fun _ _ found => AList.lookup_insert_fresh fresh keyId found }

theorem insertTermination_advances (done : insertTermination domain keyId epoch reason st = .ok st') :
    Advances st st' := by
  refine ⟨fun windows => windows.insertTermination done, ?_⟩
  obtain ⟨_, _, _, _, _, fresh, rfl⟩ := insertTermination_ok done
  exact { Appends.refl st with
    terminations := fun _ _ found => AList.lookup_insert_fresh fresh _ found }

theorem configure_advances {first : Int} {last : Option Int}
    (done : configureOfflineAcceptanceDomain E domain keyId first last st = .ok (st', answer)) :
    Advances st st' := by
  rcases configureOfflineAcceptanceDomain_ok done with ⟨rfl, _⟩ | ⟨fresh, _, activated⟩
  · exact Advances.refl _
  · have opened : Advances st { st with
        acceptanceDomains := st.acceptanceDomains.insert domain ⟨keyId, first, last⟩ } :=
      ⟨fun windows => ⟨windows.begun, windows.ended, windows.named, fun hash row found =>
          let ⟨a, key, active, unterminated⟩ := windows.evidence hash row found
          ⟨a, key, active, unterminated⟩⟩,
        { Appends.refl st with
          domains := fun _ _ found => AList.lookup_insert_fresh fresh _ found }⟩
    exact opened.trans (insertActivation_advances activated)

theorem rotate_advances {new : Bytes}
    (done : rotateOfflineAcceptanceDomainKey E domain expected new epoch reason st =
      .ok (st', answer)) : Advances st st' := by
  rcases rotateOfflineAcceptanceDomainKey_ok done with ⟨rfl, _⟩ | ⟨_, mid, terminated, activated⟩
  · exact Advances.refl _
  · exact (insertTermination_advances terminated).trans (insertActivation_advances activated)

theorem terminate_advances
    (done : terminateOfflineAcceptanceDomainKey E domain expected epoch reason st =
      .ok (st', answer)) : Advances st st' := by
  rcases terminateOfflineAcceptanceDomainKey_ok done with ⟨rfl, _⟩ | ⟨_, terminated⟩
  · exact Advances.refl _
  · exact insertTermination_advances terminated

theorem recordClosure_advances {db db' : Database E} {id : Bytes} {hash : Digest}
    {evidence : EvidenceRow}
    (done : recordOfflineDomainClosure id hash evidence db = .ok (db', answer)) :
    Advances db.offline db'.offline := by
  obtain ⟨_, mid, inserted, recorded, linked⟩ := recordOfflineDomainClosure_ok done
  have first : Advances db.offline mid.offline := by
    refine ⟨fun windows => windows.insertEvidence recorded, ?_⟩
    obtain ⟨_, ⟨rfl, _⟩ | ⟨fresh, rfl⟩⟩ := insertEvidence_ok recorded
    · exact Appends.refl _
    · exact { Appends.refl db.offline with
        evidence := fun _ _ found => AList.lookup_insert_fresh fresh _ found }
  have second : Advances mid.offline db'.offline := by
    obtain ⟨rfl, _⟩ | ⟨_, rfl⟩ := linked
    · exact Advances.refl _
    · exact ⟨fun windows => windows.same ⟨rfl, rfl, rfl, rfl⟩,
        fun _ _ h => h, fun _ _ h => h, fun _ _ h => h, fun _ _ h => h⟩
  exact first.trans second

theorem domainStep_advances (db : Database E) (command : DomainCommand E) :
    Advances db.offline (domainStep db command).offline := by
  cases command with
  | configure =>
    exact commit_preserves _ (Advances db.offline) (Advances.refl _) fun _ _ done =>
      configure_advances done
  | rotate =>
    exact commit_preserves _ (Advances db.offline) (Advances.refl _) fun _ _ done =>
      rotate_advances done
  | terminate =>
    exact commit_preserves _ (Advances db.offline) (Advances.refl _) fun _ _ done =>
      terminate_advances done
  | recordClosure =>
    exact commit_preserves _ (fun db' => Advances db.offline db'.offline) (Advances.refl _)
      fun _ _ done => recordClosure_advances done
  | elsewhere =>
    exact ⟨fun windows => windows.same ⟨rfl, rfl, rfl, rfl⟩,
      fun _ _ h => h, fun _ _ h => h, fun _ _ h => h, fun _ _ h => h⟩

theorem domainRun_advances (db : Database E) (commands : List (DomainCommand E)) :
    Advances db.offline (run domainStep db commands).offline :=
  run_preserves domainStep (fun db' => Advances db.offline db'.offline)
    (fun db' command advanced => advanced.trans (domainStep_advances db' command)) commands
    (Advances.refl _)

theorem rotate_repeated {later : Tables} {new : Bytes}
    (done : rotateOfflineAcceptanceDomainKey E domain expected new epoch reason st =
      .ok (st', true)) (appended : Appends st' later) :
    rotateOfflineAcceptanceDomainKey E domain expected new epoch reason later =
      .ok (later, false) := by
  have applied := rotateOfflineAcceptanceDomainKey_ok done
  simp only [rotateOfflineAcceptanceDomainKey, steps_ok] at done
  obtain ⟨_, accepted, _, valid, _, configured, _⟩ := done
  simp only [Bool.true_eq_false, and_false, true_and, false_or] at applied
  obtain ⟨mid, terminated, activated⟩ := applied
  obtain ⟨row, known⟩ := Option.isSome_iff_exists.mp configured
  have kept := ((insertTermination_advances terminated).trans
    (insertActivation_advances activated)).appends
  have domainRow := appended.domains domain row (kept.domains domain row known)
  obtain ⟨_, _, _, _, rfl⟩ := insertActivation_ok activated
  obtain ⟨_, _, _, _, _, _, rfl⟩ := insertTermination_ok terminated
  have ended := appended.terminations (domain, expected) ⟨epoch, reason⟩ (by simp)
  have begun := appended.activations (domain, epoch) new (by simp)
  simp only [rotateOfflineAcceptanceDomainKey, steps_ok]
  refine ⟨(), accepted, (), valid, (), by simp [domainRow], ?_⟩
  rw [if_pos ⟨ended, begun⟩]
  rfl

theorem terminate_repeated {later : Tables}
    (done : terminateOfflineAcceptanceDomainKey E domain expected epoch reason st =
      .ok (st', true)) (appended : Appends st' later) :
    terminateOfflineAcceptanceDomainKey E domain expected epoch reason later =
      .ok (later, false) := by
  have applied := terminateOfflineAcceptanceDomainKey_ok done
  simp only [terminateOfflineAcceptanceDomainKey, steps_ok] at done
  obtain ⟨_, accepted, _, positive, _, configured, _⟩ := done
  simp only [Bool.true_eq_false, and_false, true_and, false_or] at applied
  obtain ⟨row, known⟩ := Option.isSome_iff_exists.mp configured
  have kept := (insertTermination_advances applied).appends
  have domainRow := appended.domains domain row (kept.domains domain row known)
  obtain ⟨_, _, _, _, _, _, rfl⟩ := insertTermination_ok applied
  have ended := appended.terminations (domain, expected) ⟨epoch, reason⟩ (by simp)
  simp only [terminateOfflineAcceptanceDomainKey, steps_ok]
  refine ⟨(), accepted, (), positive, (), by simp [domainRow], ?_⟩
  simp [ended]
  rfl

def withoutDomains (db : Database E) : Database E :=
  { db with
    offline := { db.offline with
      acceptanceDomains := ∅
      keyActivations := ∅
      keyTerminations := ∅
      closureEvidence := ∅ } }

theorem withoutDomains_windows (db : Database E) : Windows (withoutDomains db).offline := by
  refine ⟨?_, ?_, ?_, ?_⟩ <;> (simp [withoutDomains])

/-- In every state reached by calls of the domain and closure procedures: at most one
key of a domain is valid at any epoch; a key id belongs to one domain; recorded
evidence is, and stays, supported by a valid key; and a rotation or termination that
was applied is answered with false and changes nothing when it is repeated later. -/
theorem key_windows_are_disjoint (db : Database E) (commands : List (DomainCommand E)) :
    let reached := run domainStep (withoutDomains db) commands
    (∀ domain a b keyId other epoch, ValidAt reached.offline domain a keyId epoch →
        ValidAt reached.offline domain b other epoch → a = b ∧ keyId = other) ∧
      (∀ key other keyId, reached.offline.keyActivations.lookup key = some keyId →
        reached.offline.keyActivations.lookup other = some keyId → key.1 = other.1) ∧
      (∀ hash evidence, reached.offline.closureEvidence.lookup hash = some evidence →
        ∀ later, evidence.Supported (run domainStep reached later).offline) ∧
      (∀ domain expected new epoch reason st', rotateOfflineAcceptanceDomainKey E domain expected
          new epoch reason reached.offline = .ok (st', true) →
        ∀ later, let after := (run domainStep { reached with offline := st' } later).offline
          rotateOfflineAcceptanceDomainKey E domain expected new epoch reason after =
            .ok (after, false)) ∧
      (∀ domain expected epoch reason st', terminateOfflineAcceptanceDomainKey E domain expected
          epoch reason reached.offline = .ok (st', true) →
        ∀ later, let after := (run domainStep { reached with offline := st' } later).offline
          terminateOfflineAcceptanceDomainKey E domain expected epoch reason after =
            .ok (after, false)) := by
  intro reached
  have windows : Windows reached.offline :=
    (domainRun_advances (withoutDomains db) commands).windows (withoutDomains_windows db)
  refine ⟨fun _ _ _ _ _ _ => windows.unique, ?_, ?_, ?_, ?_⟩
  · intro key other keyId first second
    rw [windows.named key other keyId first second]
  · intro hash evidence found later
    have advanced := domainRun_advances reached later
    exact (advanced.windows windows).evidence hash evidence
      (advanced.appends.evidence hash evidence found)
  · intro domain expected new epoch reason st' done later
    exact rotate_repeated done (domainRun_advances { reached with offline := st' } later).appends
  · intro domain expected epoch reason st' done later
    exact terminate_repeated done (domainRun_advances { reached with offline := st' } later).appends

end PaymentPlatform.Offline
