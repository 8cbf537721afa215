import PaymentPlatform.Escrow.Effects
import PaymentPlatform.Ledger.Service

/-! The payment lifecycle (internal/payment/state.go), its requests, and the
tables payment_operations, holds, payment_capture_financials and
payment_effects (migrations 001, 014 and 021) with the constraints and triggers
that guard every write to them. -/

namespace PaymentPlatform.Payment

open Framing Ledger Serial

inductive State where
  | created
  | authorized
  | held
  | partiallyCaptured
  | captured
  | settled
  | partiallyRefunded
  | refunded
  | reversed
  | disputed
  | chargedBack
  | failed
  | unknown
  deriving DecidableEq, Repr

def State.text : State → Bytes
  | .created => ascii "CREATED"
  | .authorized => ascii "AUTHORIZED"
  | .held => ascii "HELD"
  | .partiallyCaptured => ascii "PARTIALLY_CAPTURED"
  | .captured => ascii "CAPTURED"
  | .settled => ascii "SETTLED"
  | .partiallyRefunded => ascii "PARTIALLY_REFUNDED"
  | .refunded => ascii "REFUNDED"
  | .reversed => ascii "REVERSED"
  | .disputed => ascii "DISPUTED"
  | .chargedBack => ascii "CHARGED_BACK"
  | .failed => ascii "FAILED"
  | .unknown => ascii "UNKNOWN"

/-- The rows of payment_state_transition_allowed. -/
def transitions : State → List State
  | .created => [.authorized, .held, .failed, .unknown]
  | .authorized => [.held, .captured, .reversed, .failed, .unknown]
  | .held => [.partiallyCaptured, .captured, .reversed, .unknown]
  | .partiallyCaptured => [.captured, .reversed, .unknown]
  | .captured => [.settled, .partiallyRefunded, .refunded, .disputed, .chargedBack, .unknown]
  | .settled => [.partiallyRefunded, .refunded, .disputed, .chargedBack]
  | .partiallyRefunded => [.refunded, .disputed, .chargedBack]
  | .disputed => [.chargedBack, .settled, .partiallyRefunded, .refunded]
  | .unknown => [.authorized, .held, .captured, .settled, .failed, .reversed]
  | .refunded | .reversed | .chargedBack | .failed => []

def canTransition (source target : State) : Bool :=
  source = target || (transitions source).contains target

inductive HoldState where
  | active
  | partiallyCaptured
  | captured
  | released
  deriving DecidableEq, Repr

inductive EffectKind where
  | hold
  | capture
  | release
  | reversal
  | refund
  | chargeback
  | fee
  | tax
  | cashback
  deriving DecidableEq, Repr

def EffectKind.text : EffectKind → Bytes
  | .hold => ascii "HOLD"
  | .capture => ascii "CAPTURE"
  | .release => ascii "RELEASE"
  | .reversal => ascii "REVERSAL"
  | .refund => ascii "REFUND"
  | .chargeback => ascii "CHARGEBACK"
  | .fee => ascii "FEE"
  | .tax => ascii "TAX"
  | .cashback => ascii "CASHBACK"

structure PaymentRow where
  idempotencyScope : Bytes
  idempotencyKey : Bytes
  assetId : Bytes
  customerAvailableAccountId : Bytes
  customerHeldAccountId : Bytes
  merchantAccountId : Bytes
  authorityRegion : Option Bytes
  state : State
  authorizedAtoms : Int
  capturedAtoms : Int
  releasedAtoms : Int
  refundedAtoms : Int
  chargedBackAtoms : Int
  feeAtoms : Int
  taxAtoms : Int
  cashbackAtoms : Int
  cashbackRuleAtoms : Int
  cashbackReversedAtoms : Int
  version : Int
  deriving DecidableEq

structure HoldRow where
  holdId : Bytes
  authorizationTransactionId : Bytes
  authorizationAtoms : Int
  capturedAtoms : Int
  releasedAtoms : Int
  state : HoldState
  version : Int
  deriving DecidableEq

structure CaptureRow where
  paymentId : Bytes
  captureEffectId : Bytes
  capturedAtoms : Int
  expectedCashbackAtoms : Int
  refundedAtoms : Int
  chargedBackAtoms : Int
  cashbackReversedAtoms : Int
  version : Int
  deriving DecidableEq

structure EffectRow where
  paymentId : Bytes
  effectKind : EffectKind
  amountAtoms : Int
  ledgerTransactionId : Bytes
  originalTransactionId : Option Bytes
  deriving DecidableEq

structure Tables where
  paymentOperations : Table Bytes PaymentRow
  /-- By payment_id, which is UNIQUE in holds. -/
  holds : Table Bytes HoldRow
  captureFinancials : Table Bytes CaptureRow
  effects : Table Bytes EffectRow
  effectRequestReceipts : Table Bytes Digest

inductive SqlError where
  | intentUnbound
  | invalidStateTransition (source target : State)
  | paymentImmutable
  | holdImmutable
  | holdTerminal
  | captureImmutable
  | invalidDraft
  | crossesBoundary
  | noPaymentAuthority
  | holdTemplate
  | captureTemplate
  | cashbackTemplate
  | holdReturnTemplate
  | captureReturnTemplate
  | returnDebitUnauthorized
  | invalidEffectRequest
  | effectConflict
  | notOneDraft
  | unlinkedJournal
  | lifecycleMismatch
  | invalidEscrowRequest
  | escrowHashMismatch
  | escrowEffectConflict
  | escrowUnlinked
  | escrowInsufficientRights
  | escrowAuthorityInconsistent
  | escrowRegionalMissing
  | escrowAuthorityMissing
  | ledger (error : Ledger.SqlError)
  | escrow (error : Escrow.SqlError)
  deriving DecidableEq, Repr

/-- The unique_violation and other constraint errors of a plain statement. -/
def SqlError.violates (constraint : Constraint) : SqlError := .ledger (.violates constraint)

def SqlError.outOfRange : SqlError := .ledger .outOfRange

inductive ClaimFailure where
  | invalidRequest
  | keyConflict
  | inProgress
  | lostClaim
  deriving DecidableEq, Repr

inductive Failure where
  | invalidTransition (detail : String)
  | invalidRequest
  | assetMismatch
  | foreignCapture
  | paymentNotFound
  | overCapture
  | overRefund
  | cashbackRule
  | amountOverflow
  | cachedFailure (code : Bytes)
  | corruptResponse
  | idempotency (failure : ClaimFailure)
  | ledger (failure : Ledger.Failure)
  | escrow (failure : Escrow.Failure)
  | database (error : SqlError)
  deriving DecidableEq, Repr

/-- MapPostingError: what the ledger raised reads as the ledger's own error. -/
def mapPostingError : SqlError → Failure
  | .ledger error => .ledger (mapDatabaseError error)
  | error => .database error

/-- The sentinels that applyPaymentEffect derives from the message. -/
def mapEscrowError : SqlError → Failure
  | .escrowInsufficientRights => .escrow .insufficientRights
  | .escrowEffectConflict => .escrow .effectConflict
  | .invalidEscrowRequest => .escrow .invalidArgument
  | error => .database error

def addAmounts (a b : Int) : Except Failure Int := do
  require (fitsDecimal38 (a + b)) .amountOverflow
  return a + b

def captureState (authorized captured released : Int) : Except Failure State := do
  let used := captured + released
  require (fitsDecimal38 used ∧ used ≤ authorized) .overCapture
  return if used = authorized ∧ 0 < captured then .captured else .partiallyCaptured

def refundState (captured refunded chargedBack : Int) : Except Failure State := do
  let returned := refunded + chargedBack
  require (fitsDecimal38 returned ∧ returned ≤ captured) .overRefund
  if returned = captured then
    return if 0 < chargedBack ∧ refunded = 0 then .chargedBack else .refunded
  else return .partiallyRefunded

/-- The two states a release leaves, of the payment and of its hold. -/
def releaseState (authorized captured released : Int) : State × HoldState :=
  if captured + released = authorized then
    if captured = 0 then (.reversed, .released) else (.captured, .captured)
  else if 0 < captured then (.partiallyCaptured, .partiallyCaptured)
  else (.held, .active)

def PaymentRow.Storable (row : PaymentRow) : Prop :=
  (∀ atoms ∈ [row.authorizedAtoms, row.capturedAtoms, row.releasedAtoms, row.refundedAtoms,
    row.chargedBackAtoms, row.feeAtoms, row.taxAtoms, row.cashbackAtoms, row.cashbackRuleAtoms,
    row.cashbackReversedAtoms], fitsDecimal38 atoms) ∧ row.version ≤ maxInt8
  deriving Decidable

def PaymentRow.Checked (row : PaymentRow) : Prop :=
  0 < row.authorizedAtoms ∧ 0 ≤ row.capturedAtoms ∧ 0 ≤ row.releasedAtoms ∧
    0 ≤ row.refundedAtoms ∧ 0 ≤ row.chargedBackAtoms ∧ 0 ≤ row.feeAtoms ∧ 0 ≤ row.taxAtoms ∧
    0 ≤ row.cashbackAtoms ∧ 0 ≤ row.cashbackRuleAtoms ∧ 0 ≤ row.cashbackReversedAtoms ∧
    0 ≤ row.version ∧
    row.capturedAtoms + row.releasedAtoms ≤ row.authorizedAtoms ∧
    row.refundedAtoms + row.chargedBackAtoms ≤ row.capturedAtoms ∧
    row.feeAtoms + row.taxAtoms ≤ row.capturedAtoms ∧
    row.cashbackAtoms ≤ row.cashbackRuleAtoms
  deriving Decidable

/-- What validate_payment_update requires beside the transition. -/
def PaymentRow.Continues (old new : PaymentRow) : Prop :=
  old.idempotencyScope = new.idempotencyScope ∧ old.idempotencyKey = new.idempotencyKey ∧
    old.assetId = new.assetId ∧
    old.customerAvailableAccountId = new.customerAvailableAccountId ∧
    old.customerHeldAccountId = new.customerHeldAccountId ∧
    old.merchantAccountId = new.merchantAccountId ∧ old.authorityRegion = new.authorityRegion ∧
    old.authorizedAtoms = new.authorizedAtoms ∧ old.capturedAtoms ≤ new.capturedAtoms ∧
    old.releasedAtoms ≤ new.releasedAtoms ∧ old.refundedAtoms ≤ new.refundedAtoms ∧
    old.chargedBackAtoms ≤ new.chargedBackAtoms ∧ old.feeAtoms ≤ new.feeAtoms ∧
    old.taxAtoms ≤ new.taxAtoms ∧ old.cashbackAtoms ≤ new.cashbackAtoms ∧
    old.cashbackReversedAtoms ≤ new.cashbackReversedAtoms ∧
    old.cashbackRuleAtoms = new.cashbackRuleAtoms ∧ new.version = old.version + 1
  deriving Decidable

/-- UPDATE payment_operations ... WHERE payment_id AND condition; none when no
row is affected. -/
def updatePayment (paymentId : Bytes) (condition : PaymentRow → Bool)
    (change : PaymentRow → PaymentRow) (st : Tables) : Except SqlError (Option Tables) :=
  match st.paymentOperations.lookup paymentId with
  | none => .ok none
  | some old =>
    if condition old then do
      let new := { change old with version := old.version + 1 }
      require new.Storable .outOfRange
      require (canTransition old.state new.state = true)
        (.invalidStateTransition old.state new.state)
      require (old.Continues new) .paymentImmutable
      require new.Checked (.violates .check)
      return some { st with paymentOperations := st.paymentOperations.insert paymentId new }
    else .ok none

def HoldRow.Storable (row : HoldRow) : Prop :=
  fitsDecimal38 row.authorizationAtoms ∧ fitsDecimal38 row.capturedAtoms ∧
    fitsDecimal38 row.releasedAtoms ∧ row.version ≤ maxInt8
  deriving Decidable

def HoldRow.Checked (row : HoldRow) : Prop :=
  0 < row.authorizationAtoms ∧ 0 ≤ row.capturedAtoms ∧ 0 ≤ row.releasedAtoms ∧ 0 ≤ row.version ∧
    row.capturedAtoms + row.releasedAtoms ≤ row.authorizationAtoms
  deriving Decidable

/-- The first condition of validate_hold_update. -/
def HoldRow.Continues (old new : HoldRow) : Prop :=
  old.holdId = new.holdId ∧ old.authorizationTransactionId = new.authorizationTransactionId ∧
    old.authorizationAtoms = new.authorizationAtoms ∧ old.capturedAtoms ≤ new.capturedAtoms ∧
    old.releasedAtoms ≤ new.releasedAtoms ∧ new.version = old.version + 1
  deriving Decidable

def updateHold (paymentId : Bytes) (change : HoldRow → HoldRow) (st : Tables) :
    Except SqlError (Option Tables) :=
  match st.holds.lookup paymentId with
  | none => .ok none
  | some old => do
    let new := { change old with version := old.version + 1 }
    require new.Storable .outOfRange
    require (old.Continues new) .holdImmutable
    require (old.state ≠ .captured ∧ old.state ≠ .released) .holdTerminal
    require new.Checked (.violates .check)
    return some { st with holds := st.holds.insert paymentId new }

def CaptureRow.Storable (row : CaptureRow) : Prop :=
  fitsDecimal38 row.capturedAtoms ∧ fitsDecimal38 row.expectedCashbackAtoms ∧
    fitsDecimal38 row.refundedAtoms ∧ fitsDecimal38 row.chargedBackAtoms ∧
    fitsDecimal38 row.cashbackReversedAtoms ∧ row.version ≤ maxInt8
  deriving Decidable

def CaptureRow.Checked (row : CaptureRow) : Prop :=
  0 < row.capturedAtoms ∧ 0 ≤ row.expectedCashbackAtoms ∧ 0 ≤ row.refundedAtoms ∧
    0 ≤ row.chargedBackAtoms ∧ 0 ≤ row.cashbackReversedAtoms ∧ 0 ≤ row.version ∧
    row.refundedAtoms + row.chargedBackAtoms ≤ row.capturedAtoms
  deriving Decidable

/-- The condition of validate_payment_capture_financial_update. -/
def CaptureRow.Continues (old new : CaptureRow) : Prop :=
  old.paymentId = new.paymentId ∧ old.captureEffectId = new.captureEffectId ∧
    old.capturedAtoms = new.capturedAtoms ∧
    old.expectedCashbackAtoms = new.expectedCashbackAtoms ∧
    old.refundedAtoms ≤ new.refundedAtoms ∧ old.chargedBackAtoms ≤ new.chargedBackAtoms ∧
    old.cashbackReversedAtoms ≤ new.cashbackReversedAtoms ∧ new.version = old.version + 1 ∧
    ¬ (new.refundedAtoms = old.refundedAtoms ∧ new.chargedBackAtoms = old.chargedBackAtoms ∧
      new.cashbackReversedAtoms = old.cashbackReversedAtoms)
  deriving Decidable

/-- UPDATE payment_capture_financials ... WHERE capture_transaction_id AND condition. -/
def updateCapture (captureTransactionId : Bytes) (condition : CaptureRow → Bool)
    (change : CaptureRow → CaptureRow) (st : Tables) : Except SqlError (Option Tables) :=
  match st.captureFinancials.lookup captureTransactionId with
  | none => .ok none
  | some old =>
    if condition old then do
      let new := { change old with version := old.version + 1 }
      require new.Storable .outOfRange
      require (old.Continues new) .captureImmutable
      require new.Checked (.violates .check)
      return some { st with captureFinancials := st.captureFinancials.insert captureTransactionId new }
    else .ok none

def captureTotal (st : Tables) (paymentId : Bytes) (column : CaptureRow → Int) : Int :=
  st.captureFinancials.total fun _ row => if row.paymentId = paymentId then column row else 0

def effectTotal (st : Tables) (paymentId : Bytes) (select : EffectRow → Bool) : Int :=
  st.effects.total fun _ row =>
    if row.paymentId = paymentId ∧ select row = true then row.amountAtoms else 0

end PaymentPlatform.Payment
