import Chttp.Lib.CString
import Chttp.Server.Buffer
import Mathlib.Data.UInt

/-!
# The session store

Sessions live in a fixed array of records behind a mutex.  A request binds a
record by its index, generation and identifier, works on a private snapshot of
the entries, and writes the snapshot back when it finishes.  In between, the
record may be given to another session.

Every function here is one critical section with the private work around it.
The clock, the random source and the outcome of setting the cookie are inputs.

Two numbers of a record and of a context are bookkeeping which no function
reads: which session it is about, and how often the record has changed hands.
-/

namespace Chttp.Server

open Lib

/-- What the store reads of the configuration. -/
structure SessionConfig where
  sessionEntryCapacity : Nat
  maxSessionKeyBytes : Nat
  maxSessionValueBytes : Nat
  sessionIdleTimeoutMs : UInt32
  deriving DecidableEq, Repr

/-- `chttp_session_entry` in use; `session` is the session of its writer. -/
structure SessionEntry where
  key : CString
  value : CString
  session : Nat
  deriving DecidableEq, Repr

/-- The slots for entries; `none` is not used. -/
abbrev SessionEntries := List (Option SessionEntry)

/-- The slot holds an entry for a key. -/
def holdsKey (key : CString) (slot : Option SessionEntry) : Bool :=
  slot.any fun entry => entry.key = key

namespace SessionEntries

variable (entries : SessionEntries)

/-- `chttp_session_entries_clear`. -/
def clear : SessionEntries := entries.map fun _ => none

/-- The loop of `chttp_session_get`. -/
def get (key : CString) : Option SessionEntry :=
  (entries.find? (holdsKey key)).join

/-- The loop of `chttp_session_set`. -/
def put (entry : SessionEntry) : Option SessionEntries :=
  match entries.findIdx? (holdsKey entry.key) with
  | some index => some (entries.set index (some entry))
  | none =>
    match entries.findIdx? Option.isNone with
    | some index => some (entries.set index (some entry))
    | none => none

/-- The loop of `chttp_session_remove`. -/
def drop (key : CString) : Option SessionEntries :=
  match entries.findIdx? (holdsKey key) with
  | some index => some (entries.set index none)
  | none => none

end SessionEntries

/-- `chttp_session_record`. -/
structure SessionRecord where
  used : Bool
  id : Bytes
  expiresAtMs : UInt64
  generation : UInt32
  entries : SessionEntries
  session : Nat
  changes : Nat
  deriving DecidableEq, Repr

/-- `chttp_session_context`. -/
structure SessionContext where
  record : Option Nat
  recordGeneration : UInt32
  id : Bytes
  snapshot : SessionEntries
  created : Bool
  invalidated : Bool
  dirty : Bool
  session : Nat
  changes : Nat
  deriving DecidableEq, Repr

/-- The records, and how many sessions there have been. -/
structure SessionStore where
  config : SessionConfig
  records : List SessionRecord
  sessions : Nat
  deriving DecidableEq, Repr

/-- `chttp_session_generation_next`. -/
def generationNext (generation : UInt32) : UInt32 :=
  if generation + 1 = 0 then 1 else generation + 1

/-- `chttp_session_record_clear`. -/
def SessionRecord.clear (record : SessionRecord) : SessionRecord :=
  { record with
    used := false
    id := []
    expiresAtMs := 0
    generation := generationNext record.generation
    entries := record.entries.clear
    changes := record.changes + 1 }

variable (record : SessionRecord)

/-- A record for a new session. -/
def SessionRecord.assign (id : Bytes) (expiresAtMs : UInt64) (session : Nat) :
    SessionRecord where
  used := true
  id := id
  expiresAtMs := expiresAtMs
  generation := generationNext record.generation
  entries := record.entries.clear
  session := session
  changes := record.changes + 1

/-- The record of a session with another identifier. -/
def SessionRecord.rename (id : Bytes) (expiresAtMs : UInt64) : SessionRecord :=
  { record with
    id := id
    expiresAtMs := expiresAtMs
    generation := generationNext record.generation
    changes := record.changes + 1 }

/-- The record of a session which was used. -/
def SessionRecord.renew (entries : SessionEntries) (expiresAtMs : UInt64) :
    SessionRecord :=
  { record with entries := entries, expiresAtMs := expiresAtMs }

variable (config : SessionConfig)

/-- `chttp_session_expiry`. -/
def SessionConfig.expiry (nowMs : UInt64) : UInt64 :=
  if 0xffffffffffffffff - nowMs.toNat < config.sessionIdleTimeoutMs.toNat then
    0xffffffffffffffff
  else
    nowMs + config.sessionIdleTimeoutMs.toUInt64

-- The octets of the identifier are looked at, not all that there are.
/-- `chttp_session_hex_id`. -/
def sessionHexId (id : Bytes) : Bool := id.length = 32 ∧ id.all fun byte =>
      (48 ≤ byte ∧ byte ≤ 57) ∨ (97 ≤ byte ∧ byte ≤ 102) ∨
        (65 ≤ byte ∧ byte ≤ 70)

/-- A digit of an identifier. -/
def hexDigit (digit : UInt8) : UInt8 :=
  if digit < 10 then 48 + digit else 87 + digit

/-- The text of random bytes. -/
def sessionIdText (random : Vector UInt8 16) : Bytes :=
  random.toList.flatMap fun (byte : UInt8) =>
    [hexDigit (byte >>> 4), hexDigit (byte &&& 0x0f)]

/-- `cmeta_platform_secure_random`, attempt by attempt. -/
abbrev RandomSource := Nat → Status × Vector UInt8 16

namespace SessionContext

/-- `chttp_session_context_reset`. -/
def reset : SessionContext where
  record := none
  recordGeneration := 0
  id := []
  snapshot := List.replicate config.sessionEntryCapacity none
  created := false
  invalidated := false
  dirty := false
  session := 0
  changes := 0

variable (context : SessionContext) (index : Nat) (record : SessionRecord)

/-- Forget the record. -/
def unbind : SessionContext :=
  { context with record := none, recordGeneration := 0, id := [] }

/-- Refer to a record. -/
def bind : SessionContext :=
  { context with
    record := some index
    recordGeneration := record.generation
    id := record.id
    session := record.session
    changes := record.changes }

/-- Refer to a record, with a snapshot of its entries. -/
def follow : SessionContext :=
  { context.bind index record with snapshot := record.entries }

/-- Refer to a record which the request has just renamed. -/
def rebind : SessionContext :=
  { context.bind index record with created := true }

/-- Refer to a record which the request has just got. -/
def enter : SessionContext :=
  { context.bind index record with
    snapshot := context.snapshot.clear
    created := true
    invalidated := false
    dirty := false }

/-- The entries which the request leaves behind. -/
def written (entries : SessionEntries) : SessionEntries :=
  if context.dirty then context.snapshot else entries

/-- `chttp_session_get`. -/
def get (key : CString) : Option SessionEntry :=
  if context.record = none ∨ context.invalidated then
    none
  else
    context.snapshot.get key

end SessionContext

namespace SessionStore

variable (store : SessionStore) (context : SessionContext)

/-- `chttp_session_store_init`, and `calloc`. -/
def init (sessionCapacity : Nat) : SessionStore where
  config := config
  records := List.replicate sessionCapacity
      { used := false
        id := []
        expiresAtMs := 0
        generation := 0
        entries := List.replicate config.sessionEntryCapacity none
        session := 0
        changes := 0 }
  sessions := 0

/-- Replace a record. -/
def put (index : Nat) (record : SessionRecord) : SessionStore :=
  { store with records := store.records.set index record }

variable (nowMs : UInt64)

/-- `chttp_session_expire_locked`. -/
def expire : SessionStore :=
  { store with
    records := store.records.map fun record =>
      if record.used ∧ record.expiresAtMs ≤ nowMs then
        record.clear
      else
        record }

/-- `chttp_session_record_matches`: the record, if it does. -/
def matching : Option (Nat × SessionRecord) :=
  match context.record with
  | none => none
  | some index =>
    match store.records[index]? with
    | none => none
    | some record =>
      if record.used ∧ record.generation = context.recordGeneration ∧
        record.id = context.id then
        some (index, record)
      else
        none

/-- The record in use with an identifier. -/
def find (id : Bytes) : Option (Nat × SessionRecord) :=
  match store.records.findIdx? fun record => record.used && record.id == id with
  | none => none
  | some index =>
    match store.records[index]? with
    | none => none
    | some record => some (index, record)

/-- `chttp_session_request_begin`, with the value of the cookie if there is
one. -/
def requestBegin (cookie : Option Bytes) (nowMs : UInt64) :
    SessionStore × SessionContext :=
  let context := SessionContext.reset store.config
  if store.records = [] then
    (store, context)
  else
    match cookie with
    | none => (store, context)
    | some id =>
      if sessionHexId id then
        let store := store.expire nowMs
        match store.find id with
        | none => (store, context)
        | some (index, record) =>
          let record := record.renew record.entries (store.config.expiry nowMs)
          (store.put index record, context.follow index record)
      else
        (store, context)

/-- `chttp_session_id_exists_locked`. -/
def idExists (id : Bytes) : Bool :=
  store.records.any fun record => record.used && record.id == id

/-- The loop of `chttp_session_generate_id_locked`; attempts are numbered by
how many are left. -/
def generateId (store : SessionStore) (random : RandomSource) :
    Nat → Except Status Bytes
  | 0 => .error .ealready
  | attempts + 1 =>
    if (random attempts).1 ≠ .ok then
      .error (random attempts).1
    else if store.idExists (sessionIdText (random attempts).2) then
      store.generateId random attempts
    else
      .ok (sessionIdText (random attempts).2)

/-- `CHTTP_SESSION_ID_ATTEMPTS`. -/
def idAttempts : Nat := 8

/-- A free record. -/
def free : Option (Nat × SessionRecord) :=
  match store.records.findIdx? fun record => !record.used with
  | none => none
  | some index =>
    match store.records[index]? with
    | none => none
    | some record => some (index, record)

/-- `chttp_session_create`. -/
def create (random : RandomSource) : Status × SessionStore × SessionContext :=
  let store := store.expire nowMs
  match store.free with
  | none => (.enobufs, store, context)
  | some (index, record) =>
    match store.generateId random idAttempts with
    | .error status => (status, store, context)
    | .ok id =>
      let record := record.assign id (store.config.expiry nowMs) store.sessions
      (.ok, { store.put index record with sessions := store.sessions + 1 },
        context.enter index record)

/-- The rest of `chttp_session_set`, on the snapshot. -/
def write (key value : CString) : Status × SessionStore × SessionContext :=
  match context.snapshot.put ⟨key, value, context.session⟩ with
  | none => (.enobufs, store, context)
  | some snapshot =>
    (.ok, store, { context with snapshot := snapshot, dirty := true })

/-- `chttp_session_set`. -/
def set (key value : CString) (nowMs : UInt64) (random : RandomSource) :
    Status × SessionStore × SessionContext :=
  if key.bytes = [] ∨ context.invalidated then
    (.einval, store, context)
  else if store.config.maxSessionKeyBytes < key.length ∨
      store.config.maxSessionValueBytes < value.length then
    (.emsgsize, store, context)
  else if context.record = none then
    match store.create context nowMs random with
    | (.ok, store, context) => store.write context key value
    | refused => refused
  else
    store.write context key value

/-- `chttp_session_remove`. -/
def remove (key : CString) : Status × SessionStore × SessionContext :=
  if key.bytes = [] ∨ context.invalidated then
    (.einval, store, context)
  else if context.record = none then
    (.enoent, store, context)
  else
    match context.snapshot.drop key with
    | none => (.enoent, store, context)
    | some snapshot =>
      (.ok, store, { context with snapshot := snapshot, dirty := true })

/-- `chttp_session_clear`. -/
def clear (store : SessionStore) (context : SessionContext) :
    Status × SessionStore × SessionContext :=
  if context.invalidated then
    (.einval, store, context)
  else if context.record = none then
    (.ok, store, context)
  else
    (.ok, store,
      { context with snapshot := context.snapshot.clear, dirty := true })

/-- `chttp_session_regenerate`. -/
def regenerate (random : RandomSource) :
    Status × SessionStore × SessionContext :=
  if context.invalidated then
    (.einval, store, context)
  else if context.record = none then
    store.create context nowMs random
  else
    match store.matching context with
    | none => (.enoent, store, context)
    | some (index, record) =>
      match store.generateId random idAttempts with
      | .error status => (status, store, context)
      | .ok id =>
        let record := record.rename id (store.config.expiry nowMs)
        (.ok, store.put index record, context.rebind index record)

/-- Clear the record of a context, unless another session has it. -/
def clearMatching : SessionStore :=
  match store.matching context with
  | none => store
  | some (index, record) => store.put index record.clear

/-- `chttp_session_invalidate`. -/
def invalidate : Status × SessionStore × SessionContext :=
  (.ok, store.clearMatching context,
    { context.unbind with
      snapshot := context.snapshot.clear
      created := false
      invalidated := true
      dirty := false })

/-- `chttp_session_discard_created`. -/
def discardCreated : SessionStore × SessionContext :=
  if context.created = false ∨ context.record = none then
    (store, context)
  else
    (store.clearMatching context,
      { context.unbind with created := false, dirty := false })

/-- The cookie which `chttp_session_request_finish` has to set. -/
inductive Publication where
  | nothing
  | removal
  | identifier (id : Bytes)
  deriving DecidableEq, Repr

/-- `chttp_session_request_finish` until it sets the cookie. -/
def commit : Publication × SessionStore × SessionContext :=
  if store.records = [] then
    (.nothing, store, context)
  else if context.invalidated then
    (.removal, store, context)
  else if context.record = none then
    (.nothing, store, context)
  else
    match store.matching context with
    | none =>
      (.removal, store,
        { context.unbind with
          invalidated := true, created := false, dirty := false })
    | some (index, record) =>
      let record := record.renew (context.written record.entries)
        (store.config.expiry nowMs)
      (.identifier record.id, store.put index record, context)

/-- `chttp_session_request_finish` from the cookie on; `status` is the outcome
of setting it. -/
def publish (status : Status) :
    Publication → Status × SessionStore × SessionContext
  | .nothing => (.ok, store, context)
  | .removal => (status, store, context)
  | .identifier _ =>
    if status = .ok then
      (.ok, store, { context with created := false, dirty := false })
    else if context.created then
      (status, store.discardCreated context)
    else
      (status, store, context)

/-- `chttp_session_request_finish`, alone. -/
def requestFinish (status : Status) : Status × SessionStore × SessionContext :=
  match store.commit context nowMs with
  | (publication, store, context) => store.publish context status publication

/-- `chttp_session_request_abort`. -/
def requestAbort : SessionStore × SessionContext :=
  if store.records = [] then
    (store, context)
  else
    match store.discardCreated context with
    | (store, context) => (store, { context.unbind with dirty := false })

end SessionStore

end Chttp.Server
