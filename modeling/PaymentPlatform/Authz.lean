import PaymentPlatform.Lib.Spaces
import PaymentPlatform.Provisioning.Service

/-! internal/authz/service.go, and what internal/api/payment.go asks of it: which
accounts a principal may use in a book. -/

namespace PaymentPlatform.Authz

open Framing Ledger Serial

variable {E : Engine}

structure AccountPermission where
  accountId : Bytes
  permission : Bytes
  deriving DecidableEq

structure Request where
  principal : Bytes
  bookId : Bytes
  accounts : List AccountPermission
  deriving DecidableEq

inductive Failure where
  | denied
  | evaluate (error : SqlError)
  deriving DecidableEq, Repr

def AccountPermission.trimmed (item : AccountPermission) : AccountPermission :=
  ⟨trimSpace item.accountId, trimSpace item.permission⟩

def distinct : List AccountPermission → List AccountPermission →
    Except Failure (List AccountPermission)
  | seen, [] => .ok seen
  | seen, item :: rest => do
    let current := item.trimmed
    require (current.accountId ≠ [] ∧ current.permission ≠ []) .denied
    if current ∈ seen then distinct seen rest else distinct (seen ++ [current]) rest

def granted (db : Database E) (principal bookId : Bytes) (item : AccountPermission) : Bool :=
  db.capabilities.rows.any fun e =>
    e.2.principalId = principal && e.2.bookId = bookId && e.2.accountId = item.accountId &&
      Provisioning.permissionText e.2.permission = item.permission && db.unrevoked e.1

def authorize (request : Request) (db : Database E) : Except Failure Unit := do
  require (request.principal ≠ [] ∧ request.bookId ≠ [] ∧ request.accounts ≠ []) .denied
  let distinct ← distinct [] request.accounts
  require (∀ text ∈ [request.principal, request.bookId] ++
      distinct.flatMap (fun item => [item.accountId, item.permission]), E.acceptsText text = true)
    (.evaluate .invalidText)
  let allowed := (distinct.filter (granted db request.principal request.bookId)).length
  require (allowed = distinct.length) .denied

/-- What api.Authorize asks for a hold, with the accounts it then passes to the payment as
they came. -/
def holdPermissions (payerAccountId payerHeldAccountId merchantAccountId : Bytes) :
    List AccountPermission :=
  [⟨payerAccountId, Provisioning.permissionText .authorizePayerAvailable⟩,
    ⟨payerHeldAccountId, Provisioning.permissionText .authorizePayerHeld⟩,
    ⟨merchantAccountId, Provisioning.permissionText .authorizeMerchant⟩]

variable {db : Database E} {request : Request} {item : AccountPermission}

def HasCapability (db : Database E) (principal bookId : Bytes) (item : AccountPermission) : Prop :=
  ∃ id row, db.capabilities.lookup id = some row ∧ db.revocations.lookup id = none ∧
    row.principalId = principal ∧ row.bookId = bookId ∧ row.accountId = item.accountId ∧
    Provisioning.permissionText row.permission = item.permission

theorem granted_iff {principal bookId : Bytes} :
    granted db principal bookId item = true ↔ HasCapability db principal bookId item := by
  unfold granted
  rw [List.any_eq_true]
  constructor
  · rintro ⟨⟨id, row⟩, member, fits⟩
    simp only [Bool.and_eq_true, decide_eq_true_eq, Database.unrevoked, Option.isNone_iff_eq_none]
      at fits
    obtain ⟨⟨⟨⟨principals, books⟩, accounts⟩, permissions⟩, kept⟩ := fits
    exact ⟨id, row, (AList.mem_rows _ _ _).mp member, kept, principals, books, accounts, permissions⟩
  · rintro ⟨id, row, found, kept, principals, books, accounts, permissions⟩
    refine ⟨(id, row), (AList.mem_rows _ _ _).mpr found, ?_⟩
    simp only [Bool.and_eq_true, decide_eq_true_eq, Database.unrevoked, Option.isNone_iff_eq_none]
    exact ⟨⟨⟨⟨principals, books⟩, accounts⟩, permissions⟩, kept⟩

theorem distinct_covers {seen found items : List AccountPermission}
    (done : distinct seen items = .ok found) :
    (∀ item ∈ seen, item ∈ found) ∧ ∀ item ∈ items, item.trimmed ∈ found := by
  induction items generalizing seen with
  | nil =>
    cases Except.ok.inj done
    exact ⟨fun _ member => member, by simp⟩
  | cons item rest ih =>
    simp only [distinct, steps_ok] at done
    obtain ⟨_, _, later⟩ := done
    split at later
    · rename_i known
      obtain ⟨kept, others⟩ := ih later
      exact ⟨kept, List.forall_mem_cons.mpr ⟨kept _ known, others⟩⟩
    · obtain ⟨kept, others⟩ := ih later
      refine ⟨fun pair member => kept pair (List.mem_append_left _ member), ?_⟩
      exact List.forall_mem_cons.mpr
        ⟨kept _ (List.mem_append_right _ (List.mem_singleton_self _)), others⟩

theorem authorize_trimmed (authorized : authorize request db = .ok ()) : ∀ item ∈ request.accounts,
      HasCapability db request.principal request.bookId item.trimmed := by
  simp only [authorize, steps_ok] at authorized
  obtain ⟨_, _, pairs, found, _, _, counted⟩ := authorized
  intro item member
  have listed := (distinct_covers found).2 item member
  have every := List.length_filter_eq_length_iff.mp counted
  exact granted_iff.mp (every _ listed)

/-- Where Authorize answers nil, every requested pair has its own capability just when
those do that carry spaces around their account or permission: the check was about what
is left without them, and the operation uses them as they came. -/
theorem authorization_is_exact_iff (request : Request) (db : Database E)
    (authorized : authorize request db = .ok ()) :
    (∀ item ∈ request.accounts, HasCapability db request.principal request.bookId item) ↔
      ∀ item ∈ request.accounts, item.trimmed ≠ item →
        HasCapability db request.principal request.bookId item := by
  constructor
  · intro covered item member _
    exact covered item member
  · intro spaced item member
    by_cases same : item.trimmed = item
    · rw [← same]
      exact authorize_trimmed authorized item member
    · exact spaced item member same

def entitled : Database Provisioning.rollingEngine :=
  { Provisioning.vacant (ascii "KZT") with
    capabilities := ((((∅ : Table Bytes CapabilityRow).insert (ascii "c1")
      ⟨ascii "p", ascii "book", ascii "payer", .authorizePayerAvailable⟩).insert (ascii "c2")
      ⟨ascii "p", ascii "book", ascii "held", .authorizePayerHeld⟩).insert (ascii "c3")
      ⟨ascii "p", ascii "book", ascii "merchant", .authorizeMerchant⟩) }

def holdOf (payer : String) : Request :=
  ⟨ascii "p", ascii "book", holdPermissions (ascii payer) (ascii "held") (ascii "merchant")⟩

theorem sample_authorization_is_exact :
    authorize (holdOf "payer") entitled = .ok () ∧
    ∀ item ∈ (holdOf "payer").accounts, HasCapability entitled (ascii "p") (ascii "book") item := by
  have allowed : authorize (holdOf "payer") entitled = .ok () := by decide +kernel
  have trimmed : ∀ item ∈ (holdOf "payer").accounts, item.trimmed = item := by decide +kernel
  exact ⟨allowed, (authorization_is_exact_iff (holdOf "payer") entitled allowed).mpr
    fun item member differs => absurd (trimmed item member) differs⟩

/-- The hold of an account with a space in front of its name is allowed by the capability
for the account without it. -/
theorem spaced_account_authorized :
    authorize (holdOf " payer") entitled = .ok () ∧
    ∃ item ∈ (holdOf " payer").accounts, item.accountId = ascii " payer" ∧
      ¬ HasCapability entitled (ascii "p") (ascii "book") item := by
  refine ⟨by decide +kernel, ⟨ascii " payer", ascii "AUTHORIZE_PAYER_AVAILABLE"⟩, by decide +kernel,
    rfl, ?_⟩
  rw [← granted_iff]
  decide +kernel

end PaymentPlatform.Authz
