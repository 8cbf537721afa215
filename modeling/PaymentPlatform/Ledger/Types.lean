import PaymentPlatform.Lib.JsonRoundTrip
import PaymentPlatform.Lib.Serial
import PaymentPlatform.Lib.Table

/-! The journal's requests, rows and tables (internal/ledger/types.go, migrations
001, 002, 008, 017 and 021), and PostRequest.Validate. Go strings are byte
strings. Timestamps are left out: nothing here reads them. -/

namespace PaymentPlatform

open Framing Serial

/-- A Go [32]byte, and a BYTES column whose CHECK fixes its length to 32. -/
def Digest := { bytes : Bytes // bytes.length = 32 }

instance : DecidableEq Digest := inferInstanceAs (DecidableEq { bytes : Bytes // bytes.length = 32 })

def zeroDigest : Digest := ⟨List.replicate 32 0, rfl⟩

/-- What lies outside the repository: SHA-256, the texts the database accepts
as STRING, and its JSONB values with the operator ->> and the text they are
read back as. -/
structure Engine where
  sha256 : Bytes → Digest
  acceptsText : Bytes → Bool
  Jsonb : Type
  decideJsonb : DecidableEq Jsonb
  parseJsonb : Bytes → Option Jsonb
  textField : Jsonb → Bytes → Option Bytes
  jsonbText : Jsonb → Bytes

instance (E : Engine) : DecidableEq E.Jsonb := E.decideJsonb

/-- Samples of three calls number them. -/
instance sampleCalls : NeZero 3 := ⟨by decide⟩

/-- An engine to evaluate the model with: the digest keeps the last 32 bytes. -/
def sampleEngine : Engine where
  sha256 bytes := ⟨(bytes.reverse ++ List.replicate 32 0).take 32, by simp⟩
  acceptsText text := text.all (· < 128)
  Jsonb := Bytes
  decideJsonb := inferInstance
  parseJsonb := some
  textField value name :=
    match Json.parse value with
    | some (.object members) =>
      match members.find (Json.text name) with
      | some (.string text) => some (Json.utf8 text)
      | _ => none
    | _ => none
  jsonbText value := value

/-- INT8 arithmetic raises beyond this value. -/
def maxInt8 : Int := 2 ^ 63 - 1

namespace Ledger

inductive Side where
  | debit
  | credit
  deriving DecidableEq, Repr

def Side.text : Side → Bytes
  | .debit => ascii "DEBIT"
  | .credit => ascii "CREDIT"

def Side.ofText (text : Bytes) : Option Side :=
  if text = Side.debit.text then some .debit
  else if text = Side.credit.text then some .credit
  else none

theorem Side.ofText_text (side : Side) : Side.ofText side.text = some side := by
  cases side <;> decide

theorem Side.text_of_ofText {text : Bytes} {side : Side} (known : Side.ofText text = some side) :
    text = side.text := by
  unfold Side.ofText at known
  split at known
  · cases known
    assumption
  · split at known
    · cases known
      assumption
    · contradiction

def maxAtomicDigits : Nat := 38

def fitsDecimal38 (value : Int) : Prop := value.natAbs < 10 ^ maxAtomicDigits
  deriving Decidable

structure Line where
  accountId : Bytes
  assetId : Bytes
  side : Bytes
  amountAtoms : Int
  memo : Bytes
  deriving DecidableEq

structure PostRequest where
  transactionId : Bytes
  bookId : Bytes
  operationId : Bytes
  effectId : Bytes
  kind : Bytes
  referenceTransactionId : Option Bytes
  postingRuleVersion : Bytes
  schemaVersion : Int64
  requestHash : Digest
  metadata : Bytes
  lines : List Line
  deriving DecidableEq

structure Receipt where
  transactionId : Bytes
  bookId : Bytes
  operationId : Bytes
  effectId : Bytes
  sequenceNo : Int
  entryHash : Digest
  duplicate : Bool
  deriving DecidableEq

structure Book where
  bookId : Bytes
  legalEntityId : Bytes
  jurisdiction : Bytes
  genesisHash : Digest
  deriving DecidableEq

structure Account where
  accountId : Bytes
  bookId : Bytes
  assetId : Bytes
  accountType : Bytes
  normalSide : Bytes
  enforceSpendLimit : Bool
  creditLimitAtoms : Int
  deriving DecidableEq

inductive Status where
  | draft
  | posted
  deriving DecidableEq, Repr

structure AssetRow where
  displayCode : Bytes
  atomicScale : Int
  deriving DecidableEq

structure BookRow where
  legalEntityId : Bytes
  jurisdiction : Bytes
  nextSequenceNo : Int
  lastEntryHash : Digest
  deriving DecidableEq

structure AccountRow where
  bookId : Bytes
  assetId : Bytes
  accountType : Bytes
  normalSide : Side
  enforceSpendLimit : Bool
  creditLimitAtoms : Int
  deriving DecidableEq

structure BalanceRow where
  debitAtoms : Int
  creditAtoms : Int
  currentBalanceAtoms : Int
  lastSequenceNo : Int
  deriving DecidableEq

structure TransactionRow (E : Engine) where
  bookId : Bytes
  operationId : Bytes
  effectId : Bytes
  transactionKind : Bytes
  referenceTransactionId : Option Bytes
  postingRuleVersion : Bytes
  schemaVersion : Int
  requestHash : Digest
  metadata : E.Jsonb
  canonicalMetadata : Option Bytes
  status : Status
  sequenceNo : Int
  prevHash : Digest
  entryHash : Digest
  paymentTemplateVerified : Bool
  deriving DecidableEq

structure LineRow where
  accountId : Bytes
  assetId : Bytes
  side : Side
  amountAtoms : Int
  memo : Bytes
  deriving DecidableEq

inductive ReferencePhase where
  | expanded
  | shadowing
  | verified
  | cutover
  | contracted
  deriving DecidableEq, Repr

structure ReferenceRow where
  referenceType : Bytes
  referenceId : Bytes
  sourceSchemaVersion : Int
  deriving DecidableEq

structure Tables (E : Engine) where
  assets : Table Bytes AssetRow
  books : Table Bytes BookRow
  accounts : Table Bytes AccountRow
  accountBalances : Table Bytes BalanceRow
  transactions : Table Bytes (TransactionRow E)
  lines : Table (Bytes × Int) LineRow
  referencesShadow : Table Bytes ReferenceRow
  /-- Phase of the 'ledger-reference-v2' row of reference_migration_control. -/
  referencePhase : Option ReferencePhase

inductive Constraint where
  | primaryKey
  | foreignKey
  | check
  | unique
  deriving DecidableEq, Repr

inductive SqlError where
  | linesOnlyOnDraft
  | differentBook
  | assetMismatch
  | twoLines
  | notBalanced
  | accountMismatch
  | notContiguous
  | metadataMissing
  | metadataMismatch
  | hashMismatch
  | compareAndSwap
  | exceedsBalance
  | invalidText
  | invalidJson
  | outOfRange
  | violates (constraint : Constraint)
  deriving DecidableEq, Repr

inductive Failure where
  | invalidPosting (detail : String)
  | invalidLine (lineNo : Nat) (detail : String)
  | unbalanced (assetId : Bytes) (debit credit : Int)
  | amountOverflow (assetId : Bytes)
  | effectConflict
  | accountNotFound
  | insufficientFunds
  | crossBook
  | assetMismatch
  | noRows
  | fieldExceedsUint32
  | effectNotPosted
  | effectNotExposed
  | notOneRow
  | database (error : SqlError)
  deriving DecidableEq, Repr

/-- mapDatabaseError: messages and code 23505 to the sentinels of the package. -/
def mapDatabaseError : SqlError → Failure
  | .exceedsBalance => .insufficientFunds
  | .differentBook => .crossBook
  | .assetMismatch => .assetMismatch
  | .violates .primaryKey => .effectConflict
  | .violates .unique => .effectConflict
  | error => .database error

def validId (value : Bytes) : Prop := value ≠ [] ∧ value.length ≤ 512
  deriving Decidable

/-- CanonicalJSON: an absent value is the empty object. -/
def canonicalJson (raw : Bytes) : Option Bytes :=
  if raw = [] then some (ascii "\x7b\x7d") else (Json.parse raw).map Json.write

theorem canonicalJson_idem {raw canonical : Bytes} (made : canonicalJson raw = some canonical) :
    canonicalJson canonical = some canonical := by
  unfold canonicalJson at made
  split at made
  · cases made
    decide
  · obtain ⟨value, parsed, rfl⟩ := Option.map_eq_some_iff.mp made
    have legal := Json.parse_legal parsed
    rw [canonicalJson, if_neg (Json.write_ne_nil legal), Json.parse_write legal]
    rfl

structure Totals where
  debit : Int
  credit : Int
  deriving DecidableEq

def Totals.add (totals : Totals) (line : Line) : Totals :=
  if line.side = Side.debit.text then { totals with debit := totals.debit + line.amountAtoms }
  else { totals with credit := totals.credit + line.amountAtoms }

def validateLine (perAsset : Table Bytes Totals) (index : Nat) (line : Line) :
    Except Failure (Table Bytes Totals) := do
  require (validId line.accountId ∧ validId line.assetId)
    (.invalidLine (index + 1) "has missing account or asset")
  require (line.side = Side.debit.text ∨ line.side = Side.credit.text)
    (.invalidLine (index + 1) "has invalid side")
  require (0 < line.amountAtoms ∧ fitsDecimal38 line.amountAtoms)
    (.invalidLine (index + 1) "amount must be positive")
  let totals := ((perAsset.lookup line.assetId).getD ⟨0, 0⟩).add line
  require (fitsDecimal38 totals.debit ∧ fitsDecimal38 totals.credit) (.amountOverflow line.assetId)
  return perAsset.insert line.assetId totals

def validateLines : Nat → Table Bytes Totals → List Line → Except Failure (Table Bytes Totals)
  | _, perAsset, [] => .ok perAsset
  | index, perAsset, line :: rest => do
    let perAsset ← validateLine perAsset index line
    validateLines (index + 1) perAsset rest

/-- The first unbalanced asset is reported; Go's map order picks any of them. -/
def checkBalanced (perAsset : Table Bytes Totals) : Except Failure Unit :=
  match perAsset.rows.find? (fun e => e.2.debit ≠ e.2.credit) with
  | some (assetId, totals) => .error (.unbalanced assetId totals.debit totals.credit)
  | none => .ok ()

def PostRequest.validate (r : PostRequest) : Except Failure Unit := do
  require (validId r.transactionId ∧ validId r.bookId ∧ validId r.operationId ∧
      validId r.effectId ∧ r.kind ≠ [] ∧ r.postingRuleVersion ≠ [])
    (.invalidPosting "required transaction header is missing")
  require (0 < r.schemaVersion.toInt) (.invalidPosting "schema version must be positive")
  require (∀ reference ∈ r.referenceTransactionId, validId reference)
    (.invalidPosting "invalid reference transaction id")
  require (2 ≤ r.lines.length) (.invalidPosting "at least two lines are required")
  let _ ← expect (canonicalJson r.metadata) (.invalidPosting "metadata")
  let perAsset ← validateLines 0 ∅ r.lines
  checkBalanced perAsset

def Book.validate (b : Book) : Except Failure Unit :=
  require (validId b.bookId ∧ validId b.legalEntityId ∧ b.jurisdiction ≠ [])
    (.invalidPosting "invalid book")

def Account.validate (a : Account) : Except Failure Unit := do
  require (validId a.accountId ∧ validId a.bookId ∧ validId a.assetId ∧ a.accountType ≠ [])
    (.invalidPosting "invalid account")
  require (a.normalSide = Side.debit.text ∨ a.normalSide = Side.credit.text)
    (.invalidPosting "invalid account normal side")
  require (0 ≤ a.creditLimitAtoms ∧ fitsDecimal38 a.creditLimitAtoms)
    (.invalidPosting "negative credit limit")

end Ledger

end PaymentPlatform
