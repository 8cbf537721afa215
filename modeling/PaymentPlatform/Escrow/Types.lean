import PaymentPlatform.Ledger.Hash

/-! The spending-rights tables (migrations 003, 012 and 013) with their CHECK
and FOREIGN KEY constraints, and the requests of internal/escrow/types.go. The
columns that migration 013 left nullable for older rows are always written by
the code modelled here. -/

namespace PaymentPlatform

open Framing

def charLength (text : Bytes) : Nat :=
  (text.filter fun b => b < 128 || 192 ≤ b).length

theorem charLength_le (text : Bytes) : charLength text ≤ text.length :=
  List.length_filter_le _ _

namespace Escrow

open Ledger Serial

inductive EffectKind where
  | effectAllocate
  | effectSpend
  | effectReturn
  deriving DecidableEq, Repr

def EffectKind.text : EffectKind → Bytes
  | .effectAllocate => ascii "ALLOCATE"
  | .effectSpend => ascii "SPEND"
  | .effectReturn => ascii "RETURN"

structure EffectRequest where
  effectId : Bytes
  accountId : Bytes
  assetId : Bytes
  region : Bytes
  amount : Int
  deriving DecidableEq

structure EffectReceipt where
  effectId : Bytes
  kind : EffectKind
  requestHash : Digest
  duplicate : Bool
  deriving DecidableEq

structure TransferRequest where
  transferId : Bytes
  accountId : Bytes
  assetId : Bytes
  sourceRegion : Bytes
  destinationRegion : Bytes
  sourceLegalEntityId : Bytes
  destinationLegalEntityId : Bytes
  amount : Int
  deriving DecidableEq

structure AuthorityRow where
  totalAuthority : Int
  unallocated : Int
  version : Int
  deriving DecidableEq

structure RightsRow where
  available : Int
  version : Int
  deriving DecidableEq

structure EffectReceiptRow where
  effectKind : EffectKind
  accountId : Bytes
  assetId : Bytes
  region : Bytes
  amount : Int
  requestHash : Digest
  deriving DecidableEq

inductive TransferStatus where
  | inTransit
  | acknowledged
  deriving DecidableEq, Repr

structure StoredReceipt where
  payload : Bytes
  signature : Bytes
  hash : Digest
  destinationWatermark : Int
  keyId : Bytes
  keyEpoch : Int
  deriving DecidableEq

structure TransferRow where
  accountId : Bytes
  assetId : Bytes
  sourceRegion : Bytes
  destinationRegion : Bytes
  sourceLegalEntityId : Bytes
  destinationLegalEntityId : Bytes
  amount : Int
  sourceEpoch : Int
  keyId : Bytes
  sourceKeyEpoch : Int
  certificatePayload : Bytes
  certificateSig : Option Bytes
  status : TransferStatus
  receipt : Option StoredReceipt
  deriving DecidableEq

structure ConsumedRow where
  accountId : Bytes
  assetId : Bytes
  sourceRegion : Bytes
  destinationRegion : Bytes
  amount : Int
  payloadHash : Digest
  sourceLegalEntityId : Bytes
  sourceKeyEpoch : Int
  sourceEpoch : Int
  destinationLegalEntityId : Bytes
  destinationKeyId : Bytes
  destinationKeyEpoch : Int
  destinationWatermark : Int
  receiptPayload : Bytes
  receiptSig : Option Bytes
  deriving DecidableEq

structure Issuance where
  sourceLegalEntityId : Bytes
  sourceRegion : Bytes
  sourceKeyEpoch : Int
  accountId : Bytes
  assetId : Bytes
  sourceEpoch : Int
  deriving DecidableEq

structure Tables where
  /-- By account and asset. -/
  authorities : Table (Bytes × Bytes) AuthorityRow
  /-- By account, asset and region. -/
  regionalRights : Table (Bytes × Bytes × Bytes) RightsRow
  effectReceipts : Table Bytes EffectReceiptRow
  transfers : Table Bytes TransferRow
  consumedCertificates : Table Bytes ConsumedRow
  /-- next_watermark by destination legal entity and region. -/
  consumptionWatermarks : Table (Bytes × Bytes) Int
  transferLocks : Table Bytes Unit
  issuanceLocks : Table Issuance Unit

inductive SqlError where
  | outOfRange
  | invalidText
  | violates (constraint : Constraint)
  | invalidTransferTransition
  | receiptAppendOnly
  deriving DecidableEq, Repr

inductive Failure where
  | invalidArgument
  | insufficientRights
  | certificateInvalid
  | certificateConflict
  | consumptionReceiptInvalid
  | authorityConflict
  | effectConflict
  | consumptionProofMissing
  | authorityInconsistent
  | authorityDisappeared
  | transferCorrupt
  | noRows
  | amountOverflow
  | database (error : SqlError)
  deriving DecidableEq, Repr

/-- mapEffectDatabaseError: a missing authority row reads as missing rights. -/
def mapEffectDatabaseError : Failure → Failure
  | .database (.violates .foreignKey) => .insufficientRights
  | failure => failure

def executed {α : Type} (result : Except SqlError α) : Except Failure α :=
  result.mapError Failure.database

@[simp] theorem executed_ok {α : Type} {result : Except SqlError α} {a : α} :
    executed result = .ok a ↔ result = .ok a := by
  simp [executed]

def acceptsAll (E : Engine) (texts : List Bytes) : Except SqlError Unit :=
  require (∀ text ∈ texts, E.acceptsText text = true) .invalidText

def EffectRequest.validate (request : EffectRequest) : Except Failure Unit :=
  require (request.effectId ≠ [] ∧ request.effectId.length ≤ 512 ∧ request.accountId ≠ [] ∧
    request.assetId ≠ [] ∧ request.region ≠ [] ∧ 0 < request.amount) .invalidArgument

def AuthorityRow.Storable (row : AuthorityRow) : Prop :=
  fitsDecimal38 row.totalAuthority ∧ fitsDecimal38 row.unallocated ∧ row.version ≤ maxInt8
  deriving Decidable

def AuthorityRow.Checked (row : AuthorityRow) : Prop :=
  0 ≤ row.totalAuthority ∧ 0 ≤ row.unallocated ∧ 0 ≤ row.version ∧
    row.unallocated ≤ row.totalAuthority
  deriving Decidable

def writeAuthority (key : Bytes × Bytes) (row : AuthorityRow) (st : Tables) :
    Except SqlError Tables := do
  require row.Storable .outOfRange
  require row.Checked (.violates .check)
  return { st with authorities := st.authorities.insert key row }

def RightsRow.Storable (row : RightsRow) : Prop :=
  fitsDecimal38 row.available ∧ row.version ≤ maxInt8
  deriving Decidable

def RightsRow.Checked (row : RightsRow) : Prop := 0 ≤ row.available ∧ 0 ≤ row.version
  deriving Decidable

def writeRights (key : Bytes × Bytes × Bytes) (row : RightsRow) (st : Tables) :
    Except SqlError Tables := do
  require row.Storable .outOfRange
  require row.Checked (.violates .check)
  require ((st.authorities.lookup (key.1, key.2.1)).isSome) (.violates .foreignKey)
  return { st with regionalRights := st.regionalRights.insert key row }

/-- UPDATE escrow_authorities SET ... WHERE key AND condition; none when no row
is affected. -/
def updateAuthority (key : Bytes × Bytes) (condition : AuthorityRow → Bool)
    (change : AuthorityRow → AuthorityRow) (st : Tables) : Except SqlError (Option Tables) :=
  match st.authorities.lookup key with
  | none => .ok none
  | some row =>
    if condition row then do
      let st ← writeAuthority key { change row with version := row.version + 1 } st
      return some st
    else .ok none

/-- UPDATE escrow_regional_rights SET ... WHERE key AND condition. -/
def updateRights (key : Bytes × Bytes × Bytes) (condition : RightsRow → Bool)
    (change : RightsRow → RightsRow) (st : Tables) : Except SqlError (Option Tables) :=
  match st.regionalRights.lookup key with
  | none => .ok none
  | some row =>
    if condition row then do
      let st ← writeRights key { change row with version := row.version + 1 } st
      return some st
    else .ok none

def lowerUnallocated (accountId assetId : Bytes) (amount : Int) :
    Tables → Except SqlError (Option Tables) :=
  updateAuthority (accountId, assetId) (fun row => amount ≤ row.unallocated)
    (fun row => { row with unallocated := row.unallocated - amount })

def lowerTotal (accountId assetId : Bytes) (amount : Int) :
    Tables → Except SqlError (Option Tables) :=
  updateAuthority (accountId, assetId) (fun row => amount ≤ row.totalAuthority)
    (fun row => { row with totalAuthority := row.totalAuthority - amount })

def raiseTotal (accountId assetId : Bytes) (amount : Int) :
    Tables → Except SqlError (Option Tables) :=
  updateAuthority (accountId, assetId) (fun _ => true)
    (fun row => { row with totalAuthority := row.totalAuthority + amount })

def lowerRights (accountId assetId region : Bytes) (amount : Int) :
    Tables → Except SqlError (Option Tables) :=
  updateRights (accountId, assetId, region) (fun row => amount ≤ row.available)
    (fun row => { row with available := row.available - amount })

def raiseRights (accountId assetId region : Bytes) (amount : Int) :
    Tables → Except SqlError (Option Tables) :=
  updateRights (accountId, assetId, region) (fun _ => true)
    (fun row => { row with available := row.available + amount })

/-- INSERT INTO escrow_regional_rights ... ON CONFLICT DO UPDATE adds the amount. -/
def upsertRights (E : Engine) (accountId assetId region : Bytes) (amount : Int) (st : Tables) :
    Except SqlError Tables := do
  acceptsAll E [accountId, assetId, region]
  require (fitsDecimal38 amount) .outOfRange
  match st.regionalRights.lookup (accountId, assetId, region) with
  | none => writeRights (accountId, assetId, region) ⟨amount, 0⟩ st
  | some row =>
    writeRights (accountId, assetId, region) ⟨row.available + amount, row.version + 1⟩ st

end Escrow

end PaymentPlatform
