import PaymentPlatform.Idgen.Identifier
import PaymentPlatform.Ledger.Types

/-! internal/idgen/generator.go over id_issuers (migrations 005 and 010): blocks of
counters reserved in a transaction, cached by a generator and lost with it. Any
number of generators and processes interleave. -/

namespace PaymentPlatform.Idgen

open Framing Serial

structure IssuerRow where
  incarnation : Int
  nextCounter : Int
  retired : Bool
  deriving DecidableEq

/-- The CHECK constraints and the range of INT8. -/
def IssuerRow.Checked (row : IssuerRow) : Prop :=
  0 < row.incarnation ∧ row.incarnation ≤ maxInt8 ∧ 0 < row.nextCounter ∧
    row.nextCounter ≤ maxInt8
  deriving Decidable

abbrev Issuers := Table Bytes IssuerRow

inductive Failure where
  | issuerRequired
  | blockSizeNotPositive
  | issuerMissingOrRetired
  | immutableIdentity
  | invalidBlock
  | database
  deriving DecidableEq, Repr

def enforceMonotonicUpdate (old new : IssuerRow) : Except Failure Unit :=
  require (new.incarnation = old.incarnation ∧ new.retired = old.retired ∧
    old.nextCounter < new.nextCounter ∧ new.nextCounter - old.nextCounter ≤ 1000000)
    .immutableIdentity

def insertIssuer (issuer : Bytes) (row : IssuerRow) (st : Issuers) :
    Except Failure (Issuers × Unit) := do
  require (st.lookup issuer = none) .database
  require row.Checked .database
  pure (st.insert issuer row, ())

def updateIssuer (issuer : Bytes) (new : IssuerRow) (st : Issuers) :
    Except Failure (Issuers × Unit) := do
  let old ← expect (st.lookup issuer) .issuerMissingOrRetired
  enforceMonotonicUpdate old new
  require new.Checked .database
  pure (st.insert issuer new, ())

structure CounterBlock where
  incarnation : Int
  first : Int
  last : Int
  deriving DecidableEq

def CounterBlock.Valid (block : CounterBlock) : Prop :=
  0 < block.incarnation ∧ 0 < block.first ∧ block.first ≤ block.last
  deriving Decidable

def reserveBlock (issuer : Bytes) (blockSize : Int) (st : Issuers) :
    Except Failure (Issuers × CounterBlock) := do
  let row ← expect (st.lookup issuer) .issuerMissingOrRetired
  require (row.retired = false) .issuerMissingOrRetired
  let next := { row with nextCounter := row.nextCounter + blockSize }
  enforceMonotonicUpdate row next
  require next.Checked .database
  let candidate := ⟨next.incarnation, next.nextCounter - blockSize, next.nextCounter - 1⟩
  require candidate.Valid .invalidBlock
  pure (st.insert issuer next, candidate)

/-- A generator in memory; `next` and `last` bound the block it has cached, and zero
is no valid next counter. The counters stay below 2^63, so next++ does not wrap. -/
structure Generator where
  issuer : Bytes
  blockSize : Int
  incarnation : Int
  next : Int
  last : Int
  deriving DecidableEq

def newGenerator (issuer : Bytes) (blockSize : Int) : Except Failure Generator := do
  require (issuer ≠ []) .issuerRequired
  require (0 < blockSize) .blockSizeNotPositive
  pure ⟨issuer, blockSize, 0, 0, 0⟩

def Generator.exhausted (g : Generator) : Prop := g.next = 0 ∨ g.last < g.next
  deriving Decidable

def uint64 (v : Int) : Fin (2 ^ 64) :=
  ⟨(v % 2 ^ 64).toNat, by omega⟩

structure Issued where
  issuer : Bytes
  incarnation : Int
  counter : Int
  deriving DecidableEq

def Issued.text (id : Issued) : Bytes :=
  (Identifier.mk id.issuer (uint64 id.incarnation) (uint64 id.counter)).text

def Generator.current (g : Generator) : Issued := ⟨g.issuer, g.incarnation, g.next⟩

/-- allocate, with the block of a reservation whose commit was acknowledged. -/
def Generator.cache (g : Generator) (block : CounterBlock) : Except Failure Generator := do
  require block.Valid .invalidBlock
  pure { g with incarnation := block.incarnation, next := block.first, last := block.last }

/-- What becomes of a reservation: an abort leaves the counter, a lost
acknowledgement of the commit burns the block. -/
inductive Delivery where
  | aborted
  | lost
  | acknowledged
  deriving DecidableEq, Repr

structure World where
  issuers : Issuers
  generators : List Generator
  returned : List Bytes
  deriving DecidableEq

/-- The end of Next: the generator's current counter is returned and passed. -/
def emit (w : World) (index : Nat) (g : Generator) : World :=
  { w with
    generators := w.generators.set index { g with next := g.next + 1 }
    returned := w.returned ++ [g.current.text] }

/-- Next on one generator; its mutex makes the call one step for this generator, and
the reservation is its only access to what others share. -/
def nextStep (index : Nat) (delivery : Delivery) (w : World) : World :=
  match w.generators[index]? with
  | none => w
  | some g =>
    if g.exhausted then
      match reserveBlock g.issuer g.blockSize w.issuers, delivery with
      | .error _, _ => w
      | .ok _, .aborted => w
      | .ok (st, _), .lost => { w with issuers := st }
      | .ok (st, block), .acknowledged =>
        match g.cache block with
        | .error _ => { w with issuers := st }
        | .ok g => emit { w with issuers := st } index g
    else emit w index g

inductive Command where
  | insertIssuer (issuer : Bytes) (row : IssuerRow)
  | updateIssuer (issuer : Bytes) (row : IssuerRow)
  | new (issuer : Bytes) (blockSize : Int)
  | next (index : Nat) (delivery : Delivery)
  deriving DecidableEq

/-- A restart is a new generator; the old one is not called again. -/
def step (w : World) : Command → World
  | .insertIssuer issuer row =>
    { w with issuers := commit (insertIssuer issuer row) w.issuers }
  | .updateIssuer issuer row =>
    { w with issuers := commit (updateIssuer issuer row) w.issuers }
  | .new issuer blockSize =>
    match newGenerator issuer blockSize with
    | .ok g => { w with generators := w.generators ++ [g] }
    | .error _ => w
  | .next index delivery => nextStep index delivery w

def World.empty : World := ⟨∅, [], []⟩

end PaymentPlatform.Idgen
