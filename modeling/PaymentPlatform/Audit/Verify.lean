import PaymentPlatform.Ledger.EntryFraming
import PaymentPlatform.Lib.HashChain

/-! VerifyRange of internal/audit/verifier.go and MerkleRoot of merkle.go. The
verifier sees a list of transactions and the hash before it; what it accepts is
determined, field by field, by the last entry hash. -/

namespace PaymentPlatform.Audit

open Framing Serial Ledger

variable {previous : Digest} {E : Engine} {index n : Nat}

/-- ledger.Transaction without its status, which no check here reads. -/
structure Transaction where
  request : PostRequest
  sequenceNo : Int64
  prevHash : Digest
  entryHash : Digest
  deriving DecidableEq

structure Range where
  bookId : Bytes
  first : Int64
  last : Int64
  expectedPrev : Digest
  deriving DecidableEq

variable {r requested : Range}

structure Verification where
  bookId : Bytes
  first : Int64
  last : Int64
  count : Nat
  lastHash : Digest
  merkle : Digest
  deriving DecidableEq

inductive AuditError where
  | emptyRange
  | rangeMismatch
  | sequenceGap (expected actual : Int64)
  | previousHash (sequenceNo : Int64)
  | entry (sequenceNo : Int64) (failure : Failure)
  | entryHash (sequenceNo : Int64)
  deriving DecidableEq

def merkleNodeDomain : Bytes := ascii "payment-platform/merkle-node/v1" ++ [0]

def merkleNode (E : Engine) (left right : Digest) (index : Nat) : Digest :=
  E.sha256 (merkleNodeDomain ++ (left.val ++ (right.val ++ bigEndian 8 index)))

/-- One level up; an odd final node is paired with itself. -/
def merkleLevel (E : Engine) : Nat → List Digest → List Digest
  | _, [] => []
  | index, [node] => [merkleNode E node node index]
  | index, left :: right :: rest => merkleNode E left right index :: merkleLevel E (index + 1) rest

theorem merkleLevel_length (E : Engine) (index : Nat) (level : List Digest) :
    (merkleLevel E index level).length = (level.length + 1) / 2 := by
  induction index, level using merkleLevel.induct with
  | case1 => rfl
  | case2 => simp [merkleLevel]
  | case3 index left right rest ih =>
    simp only [merkleLevel, List.length_cons, ih]
    omega

def merkleRoot (E : Engine) : List Digest → Digest
  | [] => E.sha256 (ascii "payment-platform/merkle-empty/v1" ++ [0])
  | [root] => root
  | left :: right :: rest => merkleRoot E (merkleLevel E 0 (left :: right :: rest))
termination_by level => level.length
decreasing_by
  simp only [merkleLevel_length, List.length_cons]
  omega

/-- The loop over the transactions: the hash after the last one, and the leaves. -/
def verifyFrom (E : Engine) (requested : Range) :
    Nat → Digest → List Transaction → Except AuditError (Digest × List Digest)
  | _, previous, [] => .ok (previous, [])
  | index, previous, tx :: rest => do
    let expected := requested.first + Int64.ofNat index
    require (tx.request.bookId = requested.bookId ∧ tx.sequenceNo = expected)
      (.sequenceGap expected tx.sequenceNo)
    require (tx.prevHash = previous) (.previousHash tx.sequenceNo)
    let calculated ← (hashEntry E previous tx.sequenceNo.toInt tx.request).mapError
      (.entry tx.sequenceNo)
    require (calculated = tx.entryHash) (.entryHash tx.sequenceNo)
    let (last, leaves) ← verifyFrom E requested (index + 1) tx.entryHash rest
    return (last, tx.entryHash :: leaves)

def verifyRange (E : Engine) (requested : Range) (transactions : List Transaction) :
    Except AuditError Verification :=
  match transactions with
  | [] => .error .emptyRange
  | head :: rest => do
    require (head.sequenceNo = requested.first ∧
        ((head :: rest).getLast (List.cons_ne_nil _ _)).sequenceNo = requested.last ∧
        ((head :: rest).length : Int) = (requested.last - requested.first + 1).toInt)
      .rangeMismatch
    let (lastHash, leaves) ← verifyFrom E requested 0 requested.expectedPrev (head :: rest)
    return {
      bookId := requested.bookId
      first := requested.first
      last := requested.last
      count := (head :: rest).length
      lastHash := lastHash
      merkle := merkleRoot E leaves }

def Hashes (first : Int64) (n : Nat) (previous : Digest) (tx : Transaction) (bytes : Bytes) :
    Prop :=
  tx.prevHash = previous ∧ tx.sequenceNo = first + Int64.ofNat n ∧
    entryBytes previous tx.sequenceNo.toInt tx.request = .ok bytes

theorem verifyFrom_leads {last : Digest} {transactions : List Transaction} {leaves : List Digest}
    (accepted : verifyFrom E requested index previous transactions = .ok (last, leaves)) :
    HashChain.Leads E.sha256 (Hashes requested.first) index previous transactions last := by
  induction transactions generalizing index previous leaves with
  | nil =>
    cases accepted
    exact .nil _ _
  | cons tx rest ih =>
    simp only [verifyFrom, steps_ok] at accepted
    obtain ⟨_, ⟨_, sequence⟩, _, linked, calculated, hashed, _, same, ⟨next, others⟩, accepted,
      rfl, _⟩ := accepted
    cases entry : hashEntry E previous tx.sequenceNo.toInt tx.request with
    | error => simp [entry] at hashed
    | ok =>
      simp only [entry, Except.ok.injEq] at hashed
      obtain ⟨bytes, written, made⟩ := hashEntry_ok.mp entry
      apply HashChain.Leads.cons ⟨linked, sequence, written⟩
      rw [made, hashed, same]
      exact ih accepted

theorem verifyRange_leads {transactions : List Transaction}
    {result : Verification} (accepted : verifyRange E requested transactions = .ok result) :
    HashChain.Leads E.sha256 (Hashes requested.first) 0 requested.expectedPrev transactions
      result.lastHash := by
  unfold verifyRange at accepted
  split at accepted
  · contradiction
  · simp only [steps_ok] at accepted
    obtain ⟨_, _, ⟨last, leaves⟩, accepted, rfl⟩ := accepted
    exact verifyFrom_leads accepted

def hashedInputs (transactions : List Transaction) : Set Bytes :=
  { bytes | ∃ tx ∈ transactions,
    entryBytes tx.prevHash tx.sequenceNo.toInt tx.request = .ok bytes }

theorem Hashes.mem_inputs {first : Int64} {tx : Transaction}
    {bytes : Bytes} {transactions : List Transaction} (member : tx ∈ transactions)
    (hashes : Hashes first n previous tx bytes) : bytes ∈ hashedInputs transactions := by
  obtain ⟨rfl, _, written⟩ := hashes
  exact ⟨tx, member, written⟩

/-- Two accepted lists from the same first sequence, with the same length and the
same last entry hash, start from the same previous hash and agree transaction by
transaction in every hashed field, where SHA-256 has no collision among the
strings hashed for them. -/
theorem accepted_ranges_agree (E : Engine) (r s : Range) (first : r.first = s.first)
    (xs ys : List Transaction) (v w : Verification) (hx : verifyRange E r xs = .ok v)
    (hy : verifyRange E s ys = .ok w) (last : v.lastHash = w.lastHash)
    (length : xs.length = ys.length)
    (free : Set.InjOn E.sha256 (hashedInputs xs ∪ hashedInputs ys)) :
    r.expectedPrev = s.expectedPrev ∧
      List.Forall₂ (fun x y => SameFields x.request y.request) xs ys := by
  have left := verifyRange_leads hx
  have right := verifyRange_leads hy
  rw [last, first] at left
  refine left.commits free ?_ length ?_ ?_ right
  · rintro n d d' x y bytes ⟨_, _, written⟩ ⟨_, _, written'⟩
    exact entryBytes_inj written written'
  · intro n d x bytes member hashes
    exact .inl (hashes.mem_inputs member)
  · intro n d y bytes member hashes
    exact .inr (hashes.mem_inputs member)

/-- The loop reads of a range the book and the number of its first entry. -/
theorem verifyFrom_shift {s : Range} (book : s.bookId = r.bookId)
    (first : s.first = r.first + Int64.ofNat n) (xs : List Transaction) (index : Nat)
    (previous : Digest) :
    verifyFrom E s index previous xs = verifyFrom E r (n + index) previous xs := by
  induction xs generalizing index previous with
  | nil => rfl
  | cons x rest ih =>
    simp only [verifyFrom, ih, book, first, Int64.ofNat_add, Int64.add_assoc, Nat.add_assoc]

theorem verifyFrom_append {middle last : Digest}
    {xs ys : List Transaction} {left right : List Digest}
    (hx : verifyFrom E r index previous xs = .ok (middle, left))
    (hy : verifyFrom E r (xs.length + index) middle ys = .ok (last, right)) :
    verifyFrom E r index previous (xs ++ ys) = .ok (last, left ++ right) := by
  induction xs generalizing index previous left with
  | nil =>
    obtain ⟨rfl, rfl⟩ := Prod.mk.inj (Except.ok.inj hx)
    simpa using hy
  | cons x rest ih =>
    simp only [verifyFrom, steps_ok, List.cons_append] at hx ⊢
    obtain ⟨_, place, _, linked, digest, hashed, _, same, ⟨_, leaves⟩, accepted, rfl, rfl⟩ := hx
    rw [List.length_cons, Nat.add_assoc, Nat.add_comm 1] at hy
    exact ⟨(), place, (), linked, digest, hashed, (), same, _, ih accepted hy, rfl, rfl⟩

/-- Two accepted ranges of a book that meet, the second from the last hash of the first, are
accepted as one: a chain of checkpoints stands for the whole range it covers. -/
theorem adjacent_ranges_compose (E : Engine) (r s : Range) (book : s.bookId = r.bookId)
    (next : s.first = r.last + 1) (xs ys : List Transaction) (v w : Verification)
    (hx : verifyRange E r xs = .ok v) (hy : verifyRange E s ys = .ok w)
    (linked : s.expectedPrev = v.lastHash) (bounded : xs.length + ys.length < 2 ^ 63) :
    ∃ whole, verifyRange E { r with last := s.last } (xs ++ ys) = .ok whole ∧
      whole.lastHash = w.lastHash ∧ whole.count = v.count + w.count := by
  cases xs with
  | nil => cases hx
  | cons x xs =>
    cases ys with
    | nil => cases hy
    | cons =>
      simp only [verifyRange, steps_ok] at hx hy
      obtain ⟨_, ⟨first, _, count⟩, ⟨middle, left⟩, front, rfl⟩ := hx
      obtain ⟨_, ⟨_, last, count'⟩, ⟨_, right⟩, back, rfl⟩ := hy
      have length : Int64.ofNat (x :: xs).length = r.last - r.first + 1 := by
        rw [← Int64.ofInt_eq_ofNat, count, Int64.ofInt_toInt]
      have total : s.last - r.first + 1 = (r.last - r.first + 1) + (s.last - s.first + 1) := by grind
      rw [linked, verifyFrom_shift book (n := (x :: xs).length) (by grind)] at back
      have joined := (verifyFrom_shift (r := r) (s := { r with last := s.last }) (n := 0) rfl
        (by simp) _ 0 r.expectedPrev).trans (verifyFrom_append front back)
      refine ⟨_, bind_ok.2 ⟨(), require_ok.2 ⟨first, ?_, ?_⟩, bind_ok.2 ⟨_, joined, rfl⟩⟩, rfl, ?_⟩
      · simpa using last
      · rw [total, Int64.toInt_add, ← count, ← count', Int.bmod_eq_of_le (by omega) (by omega)]
        simp only [List.length_cons, List.append_eq, List.length_append]
        omega
      · simp only [List.length_cons, List.append_eq, List.length_append]
        omega

/- Two deposits, with their metadata left out or written as an empty object. -/

def sampleEntry (metadata memo : Bytes) : Transaction :=
  { request :=
      { transactionId := ascii "t1"
        bookId := ascii "book"
        operationId := ascii "operation"
        effectId := ascii "effect"
        kind := ascii "DEPOSIT"
        referenceTransactionId := none
        postingRuleVersion := ascii "v1"
        schemaVersion := 1
        requestHash := zeroDigest
        metadata := metadata
        lines := [⟨ascii "cash", ascii "KZT", Side.debit.text, 5, []⟩,
          ⟨ascii "alice", ascii "KZT", Side.credit.text, 5, memo⟩] }
    sequenceNo := 1
    prevHash := zeroDigest
    entryHash := sampleEngine.sha256
      (frameLine 1 ⟨ascii "alice", ascii "KZT", Side.credit.text, 5, memo⟩) }

def sampleEntries (metadata : Bytes) : List Transaction :=
  let first := sampleEntry metadata (ascii "salary")
  [first, { sampleEntry metadata (ascii "bonus") with sequenceNo := 2, prevHash := first.entryHash }]

def sampleRange : Range := ⟨ascii "book", 1, 2, zeroDigest⟩

def sampleVerification : Verification :=
  ⟨ascii "book", 1, 2, 2, (sampleEntry [] (ascii "bonus")).entryHash,
    merkleRoot sampleEngine ((sampleEntries []).map (·.entryHash))⟩

theorem sampleEntries_accepted : ∀ metadata ∈ [[], ascii "\x7b \x7d"],
    verifyRange sampleEngine sampleRange (sampleEntries metadata) = .ok sampleVerification := by
  have walked : ∀ metadata ∈ [[], ascii "\x7b \x7d"],
      verifyFrom sampleEngine sampleRange 0 zeroDigest (sampleEntries metadata) =
        .ok (sampleVerification.lastHash, (sampleEntries []).map (·.entryHash)) := by
    decide +kernel
  intro metadata member
  simp only [verifyRange, sampleEntries, steps_ok]
  exact ⟨(), ⟨rfl, rfl, rfl⟩, _, walked metadata member, rfl⟩

theorem sample_ranges_agree :
    ∃ v w, verifyRange sampleEngine sampleRange (sampleEntries []) = .ok v ∧
      verifyRange sampleEngine sampleRange (sampleEntries (ascii "\x7b \x7d")) = .ok w ∧
      List.Forall₂ (fun x y => SameFields x.request y.request) (sampleEntries [])
        (sampleEntries (ascii "\x7b \x7d")) := by
  -- two strings are hashed for either list, and their digests differ
  have apart : ∀ x ∈ sampleEntries [] ++ sampleEntries (ascii "\x7b \x7d"),
      ∀ y ∈ sampleEntries [] ++ sampleEntries (ascii "\x7b \x7d"), x.entryHash = y.entryHash →
        entryBytes x.prevHash x.sequenceNo.toInt x.request =
          entryBytes y.prevHash y.sequenceNo.toInt y.request := by decide +kernel
  have digest : ∀ x ∈ sampleEntries [] ++ sampleEntries (ascii "\x7b \x7d"),
      (entryBytes x.prevHash x.sequenceNo.toInt x.request).map sampleEngine.sha256 =
        .ok x.entryHash := by decide +kernel
  have hashed : ∀ bytes ∈ hashedInputs (sampleEntries []) ∪
      hashedInputs (sampleEntries (ascii "\x7b \x7d")),
      ∃ x ∈ sampleEntries [] ++ sampleEntries (ascii "\x7b \x7d"),
        entryBytes x.prevHash x.sequenceNo.toInt x.request = .ok bytes ∧
          sampleEngine.sha256 bytes = x.entryHash := by
    intro bytes member
    obtain ⟨x, inside, written⟩ : ∃ x ∈ sampleEntries [] ++ sampleEntries (ascii "\x7b \x7d"),
        entryBytes x.prevHash x.sequenceNo.toInt x.request = .ok bytes := by
      rcases member with ⟨x, inside, written⟩ | ⟨x, inside, written⟩
      · exact ⟨x, List.mem_append_left _ inside, written⟩
      · exact ⟨x, List.mem_append_right _ inside, written⟩
    have same := digest x inside
    rw [written] at same
    exact ⟨x, inside, written, Except.ok.inj same⟩
  have left := sampleEntries_accepted [] (by simp)
  have right := sampleEntries_accepted (ascii "\x7b \x7d") (by simp)
  refine ⟨_, _, left, right, (accepted_ranges_agree sampleEngine sampleRange sampleRange rfl _ _ _ _
    left right rfl rfl ?_).2⟩
  intro b hb c hc same
  obtain ⟨x, first, written, hash⟩ := hashed b hb
  obtain ⟨y, second, written', hash'⟩ := hashed c hc
  have equal := apart x first y second (hash.symm.trans (same.trans hash'))
  exact Except.ok.inj (written.symm.trans (equal.trans written'))

theorem sample_ranges_compose :
    ∃ whole, verifyRange sampleEngine sampleRange (sampleEntries []) = .ok whole ∧
      whole.lastHash = (sampleEntry [] (ascii "bonus")).entryHash ∧ whole.count = 2 := by
  exact adjacent_ranges_compose sampleEngine { sampleRange with last := 1 }
    ⟨ascii "book", 2, 2, (sampleEntry [] (ascii "salary")).entryHash⟩ rfl rfl
    [sampleEntry [] (ascii "salary")] (sampleEntries []).tail
    ⟨ascii "book", 1, 1, 1, (sampleEntry [] (ascii "salary")).entryHash,
      (sampleEntry [] (ascii "salary")).entryHash⟩
    ⟨ascii "book", 2, 2, 1, (sampleEntry [] (ascii "bonus")).entryHash,
      (sampleEntry [] (ascii "bonus")).entryHash⟩ (by decide +kernel) (by decide +kernel) rfl
    (by decide)

end PaymentPlatform.Audit
