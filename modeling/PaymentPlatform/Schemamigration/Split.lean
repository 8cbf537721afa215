import PaymentPlatform.Ledger.Types
import PaymentPlatform.Lib.Spaces

/-! Split of internal/schemamigration/split.go, and the lexemes its loop goes through. -/

namespace PaymentPlatform.Schemamigration

open Framing

/- Lexical predicates. The bytes before a position are given last one first. -/

def letter (b : UInt8) : Bool := (97 ≤ b && b ≤ 122) || (65 ≤ b && b ≤ 90)

def digit (b : UInt8) : Bool := 48 ≤ b && b ≤ 57

def identifierByte (b : UInt8) : Bool :=
  letter b || digit b || b == 95 || b == 36 || 128 ≤ b

def afterIdentifier (before : Bytes) : Bool := before.head?.any identifierByte

def escapeStringPrefix : Bytes → Bool
  | [] => false
  | b :: before => (b == 101 || b == 69) && !afterIdentifier before ||
    b == 38 && before.head?.any (fun u => u == 117 || u == 85) && !afterIdentifier before.tail

/-- The rest of a dollar tag; its name does not begin with a digit. -/
def readTagName (first : Bool) : Bytes → Option Bytes
  | [] => none
  | b :: rest =>
    if b = 36 then some [36]
    else if letter b || (digit b && !first) || b == 95 then
      (readTagName false rest).map (b :: ·)
    else none

def readDollarTag : Bytes → Option Bytes
  | 36 :: rest => (readTagName true rest).map (36 :: ·)
  | _ => none

/-- The flags of the loop; `quoted` is inSingle with its escapes or inDouble, and `block` has
its depth less one. -/
inductive Mode where
  | plain
  | line
  | block (depth : Nat)
  | dollar (tag : Bytes)
  | quoted (quote : UInt8) (escapes : Bool)
  deriving DecidableEq

/-- One iteration at a byte: the flags after it, and how many more bytes it takes. -/
def advance (before : Bytes) (mode : Mode) (b : UInt8) (rest : Bytes) : Mode × Nat :=
  match mode with
  | .line => (if b = 10 then .plain else .line, 0)
  | .block depth =>
    if b = 47 ∧ rest.head? = some 42 then (.block (depth + 1), 1)
    else if b = 42 ∧ rest.head? = some 47 then
      (match depth with | 0 => .plain | depth + 1 => .block depth, 1)
    else (.block depth, 0)
  | .dollar tag =>
    if tag.isPrefixOf (b :: rest) then (.plain, tag.length - 1) else (.dollar tag, 0)
  | .quoted quote escapes =>
    if escapes = true ∧ b = 92 ∧ rest ≠ [] then (.quoted quote escapes, 1)
    else if b = quote then
      if rest.head? = some quote then (.quoted quote escapes, 1) else (.plain, 0)
    else (.quoted quote escapes, 0)
  | .plain =>
    if b = 45 ∧ rest.head? = some 45 then (.line, 1)
    else if b = 47 ∧ rest.head? = some 42 then (.block 0, 1)
    else if b = 39 then (.quoted 39 (escapeStringPrefix before), 0)
    else if b = 34 then (.quoted 34 false, 0)
    else if b = 36 ∧ afterIdentifier before = false then
      match readDollarTag (b :: rest) with
      | some tag => (.dollar tag, tag.length - 1)
      | none => (.plain, 0)
    else (.plain, 0)

structure Statement where
  ordinal : Nat
  contents : Bytes
  checksum : Digest
  deriving DecidableEq

inductive Failure where
  | unterminated
  | noStatements
  deriving DecidableEq, Repr

variable (E : Engine)

def appendStatement (result : List Statement) (raw : Bytes) : List Statement :=
  let statement := trimSpace raw
  if statement = [] then result
  else result ++ [⟨result.length + 1, statement, E.sha256 statement⟩]

/-- The bytes behind the index, those since `start`, and the statements so far. -/
structure Cursor where
  before : Bytes
  raw : Bytes
  result : List Statement

def Cursor.push (cursor : Cursor) (text : Bytes) : Cursor :=
  { cursor with before := text.reverse ++ cursor.before, raw := cursor.raw ++ text }

def Cursor.cut (cursor : Cursor) : Cursor :=
  { cursor with raw := [], result := appendStatement E cursor.result cursor.raw }

def finish (mode : Mode) (cursor : Cursor) : Except Failure (List Statement) :=
  if mode = .plain ∨ mode = .line then
    let result := (cursor.cut E).result
    if result = [] then .error .noStatements else .ok result
  else .error .unterminated

def scan (mode : Mode) (skip : Nat) (cursor : Cursor) : Bytes → Except Failure (List Statement)
  | [] => finish E mode cursor
  | b :: rest =>
    match skip with
    | skip + 1 => scan mode skip (cursor.push [b]) rest
    | 0 =>
      let next := advance cursor.before mode b rest
      let cursor := cursor.push [b]
      scan next.1 next.2 (if mode = .plain ∧ b = 59 then cursor.cut E else cursor) rest

def split (contents : Bytes) : Except Failure (List Statement) := scan E .plain 0 ⟨[], [], []⟩ contents

end PaymentPlatform.Schemamigration
