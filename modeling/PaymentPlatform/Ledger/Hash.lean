import PaymentPlatform.Ledger.Types

/-! The bytes of the ledger-entry/v1 hash: as HashEntry writes them
(internal/ledger/hash.go) and as finalize_ledger_transaction rebuilds them
from the stored rows (migration 018). -/

namespace PaymentPlatform.Ledger

open Framing Serial

def ledgerHashDomain : Bytes := ascii "payment-platform/ledger-entry/v1" ++ [0]

def writeUint32 (v : Nat) : Bytes := bigEndian 4 v

def writeInt64 (v : Int) : Bytes := bigEndian 8 (v % 2 ^ 64).toNat

def writeBytes (value : Bytes) : Except Failure Bytes := do
  require (value.length ≤ 2 ^ 32 - 1) .fieldExceedsUint32
  return writeUint32 value.length ++ value

def writeFields : List Bytes → Except Failure Bytes
  | [] => .ok []
  | field :: rest => do
    let first ← writeBytes field
    let others ← writeFields rest
    return first ++ others

def writeReference : Option Bytes → Except Failure Bytes
  | none => .ok [0]
  | some reference => do
    let field ← writeBytes reference
    return 1 :: field

def writeLine (index : Nat) (line : Line) : Except Failure Bytes := do
  let fields ← writeFields [line.accountId, line.assetId, line.side, line.memo]
  let amount ← writeBytes (decimal line.amountAtoms)
  return writeInt64 (index + 1) ++ (fields ++ amount)

def writeLines : Nat → List Line → Except Failure Bytes
  | _, [] => .ok []
  | index, line :: rest => do
    let first ← writeLine index line
    let others ← writeLines (index + 1) rest
    return first ++ others

def entryBytes (prevHash : Digest) (sequenceNo : Int) (request : PostRequest) :
    Except Failure Bytes := do
  require (0 < sequenceNo) (.invalidPosting "sequence must be positive")
  request.validate
  let metadata ← expect (canonicalJson request.metadata) (.invalidPosting "metadata")
  let header ← writeFields [request.transactionId, request.bookId, request.operationId,
    request.effectId, request.kind, request.postingRuleVersion]
  let reference ← writeReference request.referenceTransactionId
  let canonical ← writeBytes metadata
  let lines ← writeLines 0 request.lines
  return ledgerHashDomain ++ (prevHash.val ++ (writeInt64 sequenceNo ++ (header ++
    (writeInt64 request.schemaVersion.toInt ++ (reference ++ (request.requestHash.val ++
    (canonical ++ (writeUint32 request.lines.length ++ lines))))))))

def hashEntry (E : Engine) (prevHash : Digest) (sequenceNo : Int) (request : PostRequest) :
    Except Failure Digest := do
  let canonical ← entryBytes prevHash sequenceNo request
  return E.sha256 canonical

def genesisHash (E : Engine) (bookId : Bytes) : Digest :=
  E.sha256 (ascii "payment-platform/ledger-genesis/v1" ++ ([0] ++ bookId))

def ledgerHashUint32 (value : Nat) : Option Bytes :=
  decodeHex (lpad (toHex value) 8 48)

/-- to_hex writes a negative INT8 in two's complement. -/
def ledgerHashInt64 (value : Int) : Option Bytes :=
  decodeHex (lpad (toHex (value % 2 ^ 64).toNat) 16 48)

def ledgerHashLengthPrefixed (value : Bytes) : Option Bytes := do
  let length ← ledgerHashUint32 value.length
  return length ++ value

def lineFrame (lineNo : Int) (line : LineRow) : Option Bytes := do
  let number ← ledgerHashInt64 lineNo
  let account ← ledgerHashLengthPrefixed line.accountId
  let asset ← ledgerHashLengthPrefixed line.assetId
  let side ← ledgerHashLengthPrefixed line.side.text
  let memo ← ledgerHashLengthPrefixed line.memo
  let amount ← ledgerHashLengthPrefixed (decimal line.amountAtoms)
  return number ++ (account ++ (asset ++ (side ++ (memo ++ amount))))

def orderByLineNo (lines : List (Int × LineRow)) : List (Int × LineRow) :=
  lines.insertionSort fun a b => a.1 ≤ b.1

/-- string_agg of the hexadecimal frames, decoded once. -/
def canonicalLineBytes (lines : List (Int × LineRow)) : Option Bytes := do
  let frames ← (orderByLineNo lines).mapM fun e => lineFrame e.1 e.2
  decodeHex (frames.flatMap encodeHex)

def referenceFrame : Option Bytes → Option Bytes
  | none => decodeHex (ascii "00")
  | some reference => do
    let flag ← decodeHex (ascii "01")
    let field ← ledgerHashLengthPrefixed reference
    return flag ++ field

def canonicalHashInput {E : Engine} (transactionId : Bytes) (row : TransactionRow E)
    (canonicalMetadata : Bytes) (lines : List (Int × LineRow)) : Option Bytes := do
  let domain ← decodeHex
    (ascii "7061796d656e742d706c6174666f726d2f6c65646765722d656e7472792f763100")
  let sequence ← ledgerHashInt64 row.sequenceNo
  let transactionField ← ledgerHashLengthPrefixed transactionId
  let book ← ledgerHashLengthPrefixed row.bookId
  let operation ← ledgerHashLengthPrefixed row.operationId
  let effect ← ledgerHashLengthPrefixed row.effectId
  let kind ← ledgerHashLengthPrefixed row.transactionKind
  let rule ← ledgerHashLengthPrefixed row.postingRuleVersion
  let schema ← ledgerHashInt64 row.schemaVersion
  let reference ← referenceFrame row.referenceTransactionId
  let metadata ← ledgerHashLengthPrefixed canonicalMetadata
  let count ← ledgerHashUint32 lines.length
  let lineBytes ← canonicalLineBytes lines
  return domain ++ (row.prevHash.val ++ (sequence ++ (transactionField ++ (book ++ (operation ++
    (effect ++ (kind ++ (rule ++ (schema ++ (reference ++ (row.requestHash.val ++ (metadata ++
    (count ++ lineBytes)))))))))))))

end PaymentPlatform.Ledger
