import PaymentPlatform.Ledger.Types
import PaymentPlatform.Lib.JsonMaps
import PaymentPlatform.Pii.Vault

/-! internal/pii/service.go over migration 004: Create, Get and RequestDeletion by their
statements and key-store requests. -/

namespace PaymentPlatform.Pii

open Framing Ledger Serial

inductive Failure where
  | notConfigured
  | deletionIncomplete
  | noDatabase (jurisdiction : Bytes)
  | noKms (jurisdiction : Bytes)
  | generator
  | emptyId
  | invalidKeyName
  | ensureKey
  | encrypt
  | storeMapping
  | query
  | decrypt
  | decode
  | markPending
  | allowDeletion
  | destroyKey
  | lostFence
  | transaction
  | identityDeleted
  | deletionInProgress
  deriving DecidableEq, Repr

inductive MappingState where
  | active
  | deletionPending
  deriving DecidableEq, Repr

structure Mapping where
  jurisdiction : Bytes
  vaultKeyName : Bytes
  ciphertext : Bytes
  state : MappingState
  deletionRequestId : Option Bytes
  deriving DecidableEq

structure Database where
  mappings : Table Bytes Mapping
  /-- The jurisdiction of each receipt; its result is always the same text. -/
  receipts : Table Bytes Bytes

def Database.empty : Database := ⟨∅, ∅⟩

def Database.setMappings (db : Database) (mappings : Table Bytes Mapping) : Database :=
  { db with mappings := mappings }

variable (E : Engine)

def texts (parameters : List Bytes) : Bool := parameters.all E.acceptsText

/-- INSERT INTO pii.identity_mappings: whether the row was stored. -/
def insertMapping (identityId : Bytes) (mapping : Mapping) (db : Database) : Database × Bool :=
  if texts E [identityId, mapping.jurisdiction, mapping.vaultKeyName, mapping.ciphertext] ∧
      db.mappings.lookup identityId = none ∧
      db.mappings.rows.all (fun e => e.2.vaultKeyName ≠ mapping.vaultKeyName) then
    (db.setMappings (db.mappings.insert identityId mapping), true)
  else (db, false)

def Database.row (db : Database) (jurisdiction identityId : Bytes) : Option Mapping :=
  (db.mappings.lookup identityId).filter fun mapping => mapping.jurisdiction = jurisdiction

def selectMapping (jurisdiction identityId : Bytes) (db : Database) :
    Database × Option (Option Mapping) :=
  (db, if texts E [identityId, jurisdiction] then some (db.row jurisdiction identityId) else none)

def Mapping.pending (mapping : Mapping) (requestId : Bytes) : Mapping :=
  { mapping with
    state := .deletionPending
    deletionRequestId := if mapping.state = .active then some requestId else mapping.deletionRequestId }

/-- The UPDATE of RequestDeletion with the key name it returns. -/
def markPending (jurisdiction identityId requestId : Bytes) (db : Database) :
    Database × Option (Option Bytes) :=
  if texts E [identityId, jurisdiction, requestId] then
    match db.row jurisdiction identityId with
    | none => (db, some none)
    | some mapping =>
      if mapping.state = .active ∨ mapping.deletionRequestId = some requestId then
        (db.setMappings (db.mappings.insert identityId (mapping.pending requestId)),
          some (some mapping.vaultKeyName))
      else (db, some none)
  else (db, none)

inductive Erasure where
  | committed
  | refused
  | lostFence
  deriving DecidableEq

/-- The transaction that deletes the mapping and writes the receipt. -/
def eraseMapping (jurisdiction identityId requestId : Bytes) (db : Database) : Database × Erasure :=
  if texts E [identityId, jurisdiction, requestId] then
    match db.row jurisdiction identityId with
    | none => (db, .lostFence)
    | some mapping =>
      if mapping.deletionRequestId = some requestId then
        let receipts := match db.receipts.lookup requestId with
          | some _ => db.receipts
          | none => db.receipts.insert requestId jurisdiction
        (⟨db.mappings.erase identityId, receipts⟩, .committed)
      else (db, .lostFence)
  else (db, .refused)

def hasReceipt (requestId : Bytes) (db : Database) : Database × Bool :=
  (db, texts E [requestId] && (db.receipts.lookup requestId).isSome)

/-- The last SELECT of RequestDeletion: the mapping is pending for another request. -/
def ownedByAnother (jurisdiction identityId requestId : Bytes) (db : Database) : Database × Bool :=
  (db, texts E [identityId, jurisdiction] && (db.row jurisdiction identityId).any fun mapping =>
    mapping.state = .deletionPending && mapping.deletionRequestId.getD [] ≠ requestId)

/-- RegionalDB and Regional, by the names of databases and key stores. -/
structure Routing where
  database : Bytes → Option Bytes
  regional : Bytes → Option Bytes

structure Identity where
  identityId : Bytes
  jurisdiction : Bytes
  attributes : Table Bytes Bytes

/-- A call with its arguments and, for Create, with what the generator and Vault draw for
it. -/
inductive Request (T : Transit) where
  | create (jurisdiction : Bytes) (attributes : Option (Table Bytes Bytes))
      (identitySuffix keySuffix : Option Bytes) (material : T.Key) (nonce : Nat)
  | get (jurisdiction identityId : Bytes)
  | delete (jurisdiction identityId requestId : Bytes)

structure Target where
  database : Bytes
  kms : Bytes
  deriving DecidableEq

def Routing.target (routing : Routing) (jurisdiction : Bytes) : Except Failure Target := do
  let database ← expect (routing.database jurisdiction) (.noDatabase jurisdiction)
  let kms ← expect (routing.regional jurisdiction) (.noKms jurisdiction)
  return ⟨database, kms⟩

def associatedData (jurisdiction identityId : Bytes) : Bytes := jurisdiction ++ 0 :: identityId

structure Draft where
  target : Target
  jurisdiction : Bytes
  identityId : Bytes
  keyName : Bytes
  plaintext : Bytes

def Draft.context (draft : Draft) : Bytes := associatedData draft.jurisdiction draft.identityId

def Draft.mapping (draft : Draft) (ciphertext : Bytes) : Mapping :=
  ⟨draft.jurisdiction, draft.keyName, ciphertext, .active, none⟩

/-- Create up to its first request, with the checks of Encrypt. -/
def prepare (routing : Routing) (jurisdiction : Bytes) (attributes : Option (Table Bytes Bytes))
    (identitySuffix keySuffix : Option Bytes) : Except Failure Draft := do
  require (jurisdiction ≠ []) .notConfigured
  let attributes ← expect attributes .notConfigured
  let target ← routing.target jurisdiction
  let identitySuffix ← expect identitySuffix .generator
  let keySuffix ← expect keySuffix .generator
  require (identitySuffix ≠ [] ∧ keySuffix ≠ []) .emptyId
  let keyName := ascii "pii-" ++ keySuffix
  let plaintext := Json.write (Json.textMap attributes)
  require (validKeyName keyName = true ∧ plaintext ≠ []) .invalidKeyName
  return ⟨target, jurisdiction, ascii "pty_" ++ identitySuffix, keyName, plaintext⟩

inductive Phase where
  | called
  | ensuring (draft : Draft)
  | encrypting (draft : Draft)
  | inserting (draft : Draft) (ciphertext : Bytes)
  | cleaning (draft : Draft)
  | purging (draft : Draft)
  | created (identityId : Bytes)
  | reading (target : Target)
  | opening (target : Target) (mapping : Mapping)
  | found (identity : Identity)
  | marking (target : Target)
  | allowing (target : Target) (keyName : Bytes)
  | destroying (target : Target) (keyName : Bytes)
  | erasing (target : Target)
  | lookingUp (target : Target)
  | explaining (target : Target)
  | deleted
  | failed (failure : Failure)
  | crashed

structure Store (T : Transit) where
  databases : Bytes → Database
  vaults : Bytes → T.Vault

variable {E} {T : Transit} {α : Type}

def Store.onDatabase (name : Bytes) (statement : Database → Database × α) (ending : Ending)
    (store : Store T) : Store T × Option α :=
  let answer := submit statement ending (store.databases name)
  ({ store with databases := Function.update store.databases name answer.1 }, answer.2)

def Store.onVault (name : Bytes) (request : T.Vault → T.Vault × α) (ending : Ending)
    (store : Store T) : Store T × Option α :=
  let answer := submit request ending (store.vaults name)
  ({ store with vaults := Function.update store.vaults name answer.1 }, answer.2)

variable (E)

def enter (routing : Routing) : Request T → Phase
  | .create jurisdiction attributes identitySuffix keySuffix _ _ =>
    match prepare routing jurisdiction attributes identitySuffix keySuffix with
    | .ok draft => .ensuring draft
    | .error failure => .failed failure
  | .get jurisdiction identityId =>
    if jurisdiction = [] ∨ identityId = [] then .failed .notConfigured
    else match routing.target jurisdiction with
    | .ok target => .reading target
    | .error failure => .failed failure
  | .delete jurisdiction identityId requestId =>
    if jurisdiction = [] ∨ identityId = [] ∨ requestId = [] then .failed .deletionIncomplete
    else match routing.target jurisdiction with
    | .ok target => .marking target
    | .error failure => .failed failure

def createSection (material : T.Key) (nonce : Nat) (phase : Phase) (ending : Ending)
    (store : Store T) : Store T × Phase :=
  match phase with
  | .ensuring draft =>
    let answer := store.onVault draft.target.kms (T.createKey draft.keyName material) ending
    (answer.1, if succeeds answer.2 then .encrypting draft else .failed .ensureKey)
  | .encrypting draft =>
    let answer := store.onVault draft.target.kms
      (T.encryptText draft.keyName nonce draft.context draft.plaintext) ending
    (answer.1, match answer.2 with
      | some (some ciphertext) =>
        if ciphertext = [] then .failed .encrypt else .inserting draft ciphertext
      | _ => .failed .encrypt)
  | .inserting draft ciphertext =>
    let answer := store.onDatabase draft.target.database
      (insertMapping E draft.identityId (draft.mapping ciphertext)) ending
    (answer.1, if answer.2 = some true then .created draft.identityId else .cleaning draft)
  -- the key of a mapping that was not stored
  | .cleaning draft =>
    let answer := store.onVault draft.target.kms (T.allowDeletion draft.keyName) ending
    (answer.1, if succeeds answer.2 then .purging draft else .failed .storeMapping)
  | .purging draft =>
    let answer := store.onVault draft.target.kms (T.deleteKey draft.keyName) ending
    (answer.1, .failed .storeMapping)
  | phase => (store, phase)

def decodeMapping (identityId : Bytes) (mapping : Mapping) (plaintext : Option (Option Bytes)) : Phase :=
  match plaintext with
  | some (some text) =>
    match Json.unmarshalTextMap text with
    | some attributes => .found ⟨identityId, mapping.jurisdiction, attributes⟩
    | none => .failed .decode
  | _ => .failed .decrypt

def getSection (jurisdiction identityId : Bytes) (phase : Phase) (ending : Ending)
    (store : Store T) : Store T × Phase :=
  match phase with
  | .reading target =>
    let answer := store.onDatabase target.database (selectMapping E jurisdiction identityId) ending
    (answer.1, match answer.2 with
      | some (some (some mapping)) =>
        if mapping.state ≠ .active then .failed .identityDeleted else .opening target mapping
      | some (some none) => .failed .identityDeleted
      | _ => .failed .query)
  | .opening target mapping =>
    if validKeyName mapping.vaultKeyName = false ∨ mapping.ciphertext = [] then
      (store, .failed .decrypt)
    else
      let answer := store.onVault target.kms (T.decryptText mapping.vaultKeyName
        (associatedData mapping.jurisdiction identityId) mapping.ciphertext) ending
      (answer.1, decodeMapping identityId mapping answer.2)
  | phase => (store, phase)

def deleteSection (jurisdiction identityId requestId : Bytes) (phase : Phase) (ending : Ending)
    (store : Store T) : Store T × Phase :=
  match phase with
  | .marking target =>
    let answer := store.onDatabase target.database
      (markPending E jurisdiction identityId requestId) ending
    (answer.1, match answer.2 with
      | some (some (some keyName)) =>
        if validKeyName keyName then .allowing target keyName else .failed .invalidKeyName
      | some (some none) => .lookingUp target
      | _ => .failed .markPending)
  | .allowing target keyName =>
    let answer := store.onVault target.kms (T.allowDeletion keyName) ending
    (answer.1, if succeeds answer.2 then .destroying target keyName else .failed .allowDeletion)
  | .destroying target keyName =>
    let answer := store.onVault target.kms (T.deleteKey keyName) ending
    (answer.1, if destroyed answer.2 then .erasing target else .failed .destroyKey)
  | .erasing target =>
    let answer := store.onDatabase target.database
      (eraseMapping E jurisdiction identityId requestId) ending
    (answer.1, match answer.2 with
      | some .committed => .deleted
      | some .lostFence => .failed .lostFence
      | _ => .failed .transaction)
  | .lookingUp target =>
    let answer := store.onDatabase target.database (hasReceipt E requestId) ending
    (answer.1, if answer.2 = some true then .deleted else .explaining target)
  | .explaining target =>
    let answer := store.onDatabase target.database
      (ownedByAnother E jurisdiction identityId requestId) ending
    (answer.1, .failed (if answer.2 = some true then .deletionInProgress else .identityDeleted))
  | phase => (store, phase)

def requestSection (request : Request T) (phase : Phase) (ending : Ending) (store : Store T) :
    Store T × Phase :=
  match request with
  | .create _ _ _ _ material nonce => createSection E material nonce phase ending store
  | .get jurisdiction identityId => getSection E jurisdiction identityId phase ending store
  | .delete jurisdiction identityId requestId =>
    deleteSection E jurisdiction identityId requestId phase ending store

section Runs

variable {ι : Type} [DecidableEq ι] (routing : Routing) (request : ι → Request T)

abbrev System (T : Transit) (ι : Type) : Type := Calls (Store T) Phase ι

inductive Event (ι : Type) where
  | resume (call : ι) (ending : Ending)
  /-- The process of the call stops. -/
  | crash (call : ι)

def step (s : System T ι) : Event ι → System T ι
  | .crash call => s.next call s.store .crashed
  | .resume call ending =>
    match s.phase call with
    | .called => s.next call s.store (enter routing (request call))
    | phase =>
      let answer := requestSection E (request call) phase ending s.store
      s.next call answer.1 answer.2

def initial : System T ι := ⟨⟨fun _ => .empty, fun _ => T.empty⟩, fun _ => .called⟩

end Runs

end PaymentPlatform.Pii
