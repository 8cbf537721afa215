import PaymentPlatform.Escrow.Types

/-! internal/escrow/effects.go: the local authority mutations, each recorded by
an effect receipt, and CreateAuthority. -/

namespace PaymentPlatform.Escrow

open Framing Ledger Serial

variable {E : Engine}

def writeEffectField (value : Bytes) : Bytes := bigEndian 8 value.length ++ value

def effectFields (kind : EffectKind) (request : EffectRequest) : List Bytes :=
  [kind.text, request.effectId, request.accountId, request.assetId, request.region,
    decimal request.amount]

def effectBytes (kind : EffectKind) (request : EffectRequest) : Bytes :=
  ascii "payment-platform/escrow-effect/v1" ++ ([0] ++
    (effectFields kind request).flatMap writeEffectField)

def hashEffect (E : Engine) (kind : EffectKind) (request : EffectRequest) : Digest :=
  E.sha256 (effectBytes kind request)

def receiptRow (kind : EffectKind) (request : EffectRequest) (hash : Digest) : EffectReceiptRow :=
  { effectKind := kind
    accountId := request.accountId
    assetId := request.assetId
    region := request.region
    amount := request.amount
    requestHash := hash }

/-- INSERT INTO escrow_effect_receipts ... ON CONFLICT (effect_id) DO NOTHING;
none when the effect already has a receipt. -/
def insertReceipt (E : Engine) (kind : EffectKind) (request : EffectRequest) (hash : Digest)
    (st : Tables) : Except SqlError (Option Tables) := do
  acceptsAll E [request.effectId, request.accountId, request.assetId, request.region]
  require (fitsDecimal38 request.amount) .outOfRange
  require (1 ≤ charLength request.effectId ∧ charLength request.effectId ≤ 512 ∧
    0 < request.amount) (.violates .check)
  if (st.effectReceipts.lookup request.effectId).isSome then return none
  else do
    require ((st.authorities.lookup (request.accountId, request.assetId)).isSome)
      (.violates .foreignKey)
    return some { st with
      effectReceipts := st.effectReceipts.insert request.effectId (receiptRow kind request hash) }

theorem insertReceipt_none {kind : EffectKind} {request : EffectRequest} {hash : Digest}
    {st : Tables} (inserted : insertReceipt E kind request hash st = .ok none) :
    st.effectReceipts.lookup request.effectId ≠ none := by
  simp only [insertReceipt, steps_ok] at inserted
  obtain ⟨_, _, _, _, _, _, inserted⟩ := inserted
  split at inserted
  · rename_i present
    rintro absent
    simp [absent] at present
  · simp only [steps_ok, reduceCtorEq, and_false, exists_false] at inserted

def applyEffect (kind : EffectKind) (request : EffectRequest)
    (mutate : Tables → Except Failure Tables) (st : Tables) :
    Except Failure (Tables × EffectReceipt) := do
  request.validate
  let hash := hashEffect E kind request
  let inserted ← executed (insertReceipt E kind request hash st)
  match inserted with
  | none =>
    let stored ← expect (st.effectReceipts.lookup request.effectId) .noRows
    require (stored = receiptRow kind request hash) .effectConflict
    return (st, ⟨request.effectId, kind, hash, true⟩)
  | some st =>
    let st ← mutate st
    return (st, ⟨request.effectId, kind, hash, false⟩)

def allocateInTx (request : EffectRequest) (st : Tables) :
    Except Failure (Tables × EffectReceipt) :=
  applyEffect (E := E) .effectAllocate request (fun st => do
    let updated ← executed (lowerUnallocated request.accountId request.assetId request.amount st)
    let st ← expect updated .insufficientRights
    executed (upsertRights E request.accountId request.assetId request.region request.amount st)) st

/-- What a caller raises when a statement of an effect fails or matches no row. -/
structure MoveErrors (ε : Type) where
  statement : SqlError → ε
  insufficientRights : ε
  authorityInconsistent : ε
  regionalMissing : ε
  authorityMissing : ε

def moveRights {ε : Type} (errors : MoveErrors ε) (kind : EffectKind) (request : EffectRequest)
    (st : Tables) : Except ε Tables :=
  match kind with
  | .effectSpend => do
    let lowered ← (lowerRights request.accountId request.assetId request.region request.amount
      st).mapError errors.statement
    let st ← expect lowered errors.insufficientRights
    let lowered ← (lowerTotal request.accountId request.assetId request.amount
      st).mapError errors.statement
    expect lowered errors.authorityInconsistent
  | _ => do
    let raised ← (raiseRights request.accountId request.assetId request.region request.amount
      st).mapError errors.statement
    let st ← expect raised errors.regionalMissing
    let raised ← (raiseTotal request.accountId request.assetId request.amount
      st).mapError errors.statement
    expect raised errors.authorityMissing

def effectErrors : MoveErrors Failure :=
  ⟨.database, .insufficientRights, .authorityInconsistent, .invalidArgument, .authorityDisappeared⟩

def spendInTx (request : EffectRequest) : Tables → Except Failure (Tables × EffectReceipt) :=
  applyEffect (E := E) .effectSpend request (moveRights effectErrors .effectSpend request)

def returnInTx (request : EffectRequest) : Tables → Except Failure (Tables × EffectReceipt) :=
  applyEffect (E := E) .effectReturn request (moveRights effectErrors .effectReturn request)

/-- CreateAuthority; an existing row must have the very same total. -/
def createAuthority (E : Engine) (accountId assetId : Bytes) (total : Int) (st : Tables) :
    Except Failure (Tables × Unit) := do
  require (accountId ≠ [] ∧ assetId ≠ [] ∧ 0 ≤ total) .invalidArgument
  match st.authorities.lookup (accountId, assetId) with
  | none =>
    executed (acceptsAll E [accountId, assetId])
    let st ← executed (writeAuthority (accountId, assetId) ⟨total, total, 0⟩ st)
    return (st, ())
  | some stored =>
    require (stored.totalAuthority = total) .authorityConflict
    return (st, ())

end PaymentPlatform.Escrow
