import ObjectVolume.Store.Basic
import ObjectVolume.Store.KeyMap
/-!
# An object store in memory

Buckets keep one version of each object, or all of them. Faults can be armed: keys whose deletion is
refused, listings that break off, bulk deletions that do not work, removals that take time. The
store counts the calls it receives.

| here | there |
| --- | --- |
| `Memory`, `Bucket`, `Version` | `MemoryStore`, `Bucket`, `Version` |
| `Faults`, `BulkBehavior`, `Counters` | `Faults`, `BulkBehavior`, `Counters` |
| `createVersionedBucket`, `seed` | `MemoryStore.with_versioned_bucket`, `MemoryStore.with_objects` |
| `takeVersionId` | `MemoryStore.next_version_id` |
| `delete` | `MemoryStore.delete_unit` |
| `Bucket.refs` | `MemoryStore.snapshot` |
| `takeListingFault` | `MemoryStore.take_listing_fault` |
| `list`, `events`, `pageSize` | `MemoryStore.list_objects`, `LIST_PAGE_SIZE` |
| `bulkRequest`, `chunks`, `batchSize` | `MemoryStore.remove_objects`, `BULK_BATCH_SIZE` |
| `startRemoval`, `endRemoval` | `MemoryStore.remove_object` |
| `makeBucket`, `put`, `get`, `removeBucket` | `MemoryStore.make_bucket`, `put_object`, `get_object`, `remove_bucket` |
-/
namespace ObjectVolume.Store

/-- A stored version; one without data marks the object as deleted. -/
structure Version where
  id : Option String
  data : Option ByteArray

structure Bucket where
  region : String := ""
  versioned : Bool := false
  /-- The versions of each key, oldest first. -/
  objects : KeyMap (List Version) := .empty

/-- How bulk deletions are answered. -/
inductive BulkBehavior where
  | supported
  /-- Every request fails as a whole. -/
  | unsupported
  /-- Every object is refused. -/
  | rejectAll
  deriving DecidableEq, Repr

structure Faults where
  bulk : BulkBehavior := .supported
  /-- Keys whose deletion is refused. -/
  failingKeys : List String := []
  /-- How many of the next listings break off. -/
  failingListings : Nat := 0
  /-- How many objects these deliver before. -/
  deliveredBefore : Nat := 0
  /-- How long each single removal takes, in milliseconds. -/
  removalDelay : Nat := 0

structure Counters where
  listings : Nat := 0
  bulkRequests : Nat := 0
  removals : Nat := 0
  bucketRemovals : Nat := 0
  /-- Single removals that have started and not ended. -/
  inFlight : Nat := 0
  maxInFlight : Nat := 0

structure Memory where
  buckets : KeyMap Bucket := .empty
  faults : Faults := {}
  counters : Counters := {}
  /-- Number of the next version. -/
  nextVersion : Nat := 0

namespace Bucket

/-- All versions, in the order of their keys. -/
def versions (b : Bucket) : List Version :=
  b.objects.values.flatten

/-- The data of the newest version, unless that marks the object as deleted. -/
def current (b : Bucket) (key : String) : Option ByteArray :=
  ((b.objects.find? key).bind (·.getLast?)).bind (·.data)

/-- The versions of a key; none if there is no such key. -/
def versionsOf (b : Bucket) (key : String) : List Version :=
  (b.objects.find? key).getD []

/-- Replaces the versions of a key; without any, the key goes. -/
def setVersions (b : Bucket) (key : String) (vs : List Version) : Bucket :=
  { b with objects := if vs.isEmpty then b.objects.erase key else b.objects.insert key vs }

/-- References to all versions of the keys that start with `scope`. -/
def refs (b : Bucket) (scope : String) : List ObjectRef :=
  (b.objects.withPrefix scope).flatMap fun (key, vs) => vs.map fun v => ⟨key, v.id⟩

end Bucket

namespace Memory

def setBucket (m : Memory) (name : String) (b : Bucket) : Memory :=
  { m with buckets := m.buckets.insert name b }

/-- The id of the next version of a bucket, and the store with that id used up. Buckets that keep one
version need no ids. -/
def takeVersionId (m : Memory) (b : Bucket) : Option String × Memory :=
  if b.versioned then
    (some ("v" ++ toString m.nextVersion), { m with nextVersion := m.nextVersion + 1 })
  else (none, m)

/-! ## Set-up -/

/-- Creates an empty bucket that keeps all versions, instead of any bucket of that name. -/
def createVersionedBucket (m : Memory) (name : String) : Memory :=
  m.setBucket name { versioned := true }

/-- Puts empty objects into a bucket, which is created if it is missing. Older versions of the keys
are dropped. -/
def seed (m : Memory) (name : String) (keys : List String) : Memory :=
  let place (m : Memory) (key : String) : Memory :=
    let b := (m.buckets.find? name).getD {}
    let (id, m) := m.takeVersionId b
    m.setBucket name { b with objects := b.objects.insert key [⟨id, some .empty⟩] }
  keys.foldl place (m.setBucket name ((m.buckets.find? name).getD {}))

/-! ## Deleting -/

/-- Deletes one version, or the only one, or marks an object as deleted. Objects that do not exist
count as deleted. -/
def delete (m : Memory) (name : String) (ref : ObjectRef) : Except StoreProblem Unit × Memory :=
  if m.faults.failingKeys.contains ref.key then (.error (.accessDenied ref.key), m)
  else
    match m.buckets.find? name with
    | none => (.error (.noSuchBucket name), m)
    | some b =>
      let vs := b.versionsOf ref.key
      match ref.version with
      | some id =>
        let kept := vs.filter (·.id != some id)
        (.ok (), if vs.isEmpty then m else m.setBucket name (b.setVersions ref.key kept))
      | none =>
        if b.versioned then
          let (id, m) := m.takeVersionId b
          (.ok (), m.setBucket name (b.setVersions ref.key (vs ++ [⟨id, none⟩])))
        else (.ok (), m.setBucket name (b.setVersions ref.key []))

/-- Deletes references one after the other, and gives those that could not be deleted. -/
def deleteAll (m : Memory) (name : String) : List ObjectRef → List DeleteFailure × Memory
  | [] => ([], m)
  | ref :: rest =>
    let (result, m) := m.delete name ref
    let (failures, m) := m.deleteAll name rest
    match result with
    | .ok () => (failures, m)
    | .error p => (.object ref (Error.backend p).message :: failures, m)

/-! ## Listing -/

/-- Objects on a page of a listing. -/
def pageSize : Nat := 100

/-- The events of a listing from its `i`-th object on. An armed listing breaks off before the object
with number `breaksAt`, or at its end. -/
def events (breaksAt : Option Nat) (i : Nat) : List ObjectRef → List Event
  | [] => if breaksAt.isSome then [.failed (.backend .listingInterrupted)] else []
  | ref :: rest =>
    if breaksAt = some i then [.failed (.backend .listingInterrupted)]
    else
      let rest := Event.found ref :: events breaksAt (i + 1) rest
      if i > 0 ∧ i % pageSize = 0 then .pause :: rest else rest

/-- Where the next listing breaks off, if one is armed. -/
def takeListingFault (m : Memory) : Option Nat × Memory :=
  if m.faults.failingListings = 0 then (none, m)
  else
    (some m.faults.deliveredBefore,
      { m with faults := { m.faults with failingListings := m.faults.failingListings - 1 } })

/-- Lists the versions of the keys that start with `scope`. -/
def list (m : Memory) (name scope : String) : List Event × Memory :=
  let m := { m with counters := { m.counters with listings := m.counters.listings + 1 } }
  let (breaksAt, m) := m.takeListingFault
  match m.buckets.find? name with
  | none => ([.failed (.backend (.noSuchBucket name))], m)
  | some b => (events breaksAt 0 (b.refs scope), m)

/-! ## Calls -/

/-- Objects in a bulk request. -/
def batchSize : Nat := 1000

/-- `xs` in groups of `n`, all but the last of them full. -/
def chunks {α : Type} (n : Nat) (xs : List α) : List (List α) :=
  if _h : n = 0 ∨ xs = [] then []
  else xs.take n :: chunks n (xs.drop n)
termination_by xs.length
decreasing_by
  have := List.length_pos_iff.2 fun e => _h (.inr e)
  simp only [List.length_drop]
  omega

/-- One request of a bulk deletion. -/
def bulkRequest (m : Memory) (name : String) (batch : List ObjectRef) :
    List DeleteFailure × Memory :=
  let m := { m with counters := { m.counters with bulkRequests := m.counters.bulkRequests + 1 } }
  match m.faults.bulk with
  | .supported => m.deleteAll name batch
  | .unsupported => ([.request (.backend .bulkDeleteNotImplemented)], m)
  | .rejectAll => (batch.map (.object · "AccessDenied"), m)

/-- Requests for references that are all at hand. -/
def bulkRequests (m : Memory) (name : String) : List (List ObjectRef) → List DeleteFailure × Memory
  | [] => ([], m)
  | batch :: rest =>
    let (failures, m) := m.bulkRequest name batch
    let (later, m) := m.bulkRequests name rest
    (failures ++ later, m)

/-- Takes references that have come in together, in requests of limited size. -/
def takeBatch (m : Memory) (name : String) (refs : List ObjectRef) : List DeleteFailure × Memory :=
  m.bulkRequests name (chunks batchSize refs)

def makeBucket (m : Memory) (name region : String) : Except StoreProblem Unit × Memory :=
  if m.buckets.contains name then (.error (.bucketAlreadyOwned name), m)
  else (.ok (), m.setBucket name { region })

/-- Stores an object: a new version, or instead of the only one. -/
def put (m : Memory) (name key : String) (data : ByteArray) : Except StoreProblem Unit × Memory :=
  match m.buckets.find? name with
  | none => (.error (.noSuchBucket name), m)
  | some b =>
    let (id, m) := m.takeVersionId b
    let older := if b.versioned then b.versionsOf key else []
    (.ok (), m.setBucket name (b.setVersions key (older ++ [⟨id, some data⟩])))

def object? (m : Memory) (name key : String) : Option ByteArray :=
  (m.buckets.find? name).bind (·.current key)

def get (m : Memory) (name key : String) : Except StoreProblem ByteArray :=
  match m.object? name key with
  | some data => .ok data
  | none => .error (.noSuchKey name key)

/-- Removes an empty bucket. -/
def removeBucket (m : Memory) (name : String) : Except StoreProblem Unit × Memory :=
  let m :=
    { m with counters := { m.counters with bucketRemovals := m.counters.bucketRemovals + 1 } }
  match m.buckets.find? name with
  | none => (.error (.noSuchBucket name), m)
  | some b =>
    if b.objects.isEmpty then (.ok (), { m with buckets := m.buckets.erase name })
    else (.error (.bucketNotEmpty name), m)

def startRemoval (m : Memory) : Memory :=
  let inFlight := m.counters.inFlight + 1
  { m with
    counters := { m.counters with
      removals := m.counters.removals + 1
      inFlight
      maxInFlight := max m.counters.maxInFlight inFlight } }

def endRemoval (m : Memory) (name : String) (ref : ObjectRef) : Except StoreProblem Unit × Memory :=
  let (result, m) := m.delete name ref
  (result, { m with counters := { m.counters with inFlight := m.counters.inFlight - 1 } })

end Memory

/-- A result of a call that always ends. -/
def Reply.ofExcept {α : Type} : Except StoreProblem α → Reply α
  | .ok a => .done a
  | .error p => .failed (.backend p)

/-- The store in memory as an object store. -/
def memory : Store Memory where
  bucketExists bucket m := (.done (m.buckets.contains bucket), m)
  makeBucket bucket region m := (m.makeBucket bucket region).map .ofExcept id
  putObject bucket key data m := (m.put bucket key data).map .ofExcept id
  getObject bucket key m := (.ofExcept (m.get bucket key), m)
  listObjects bucket scope m := m.list bucket scope
  takeBatch request batch m := m.takeBatch request.bucket batch
  endBulk _ m := ([], m)
  startRemoval _ _ m := m.startRemoval
  endRemoval bucket ref m := (m.endRemoval bucket ref).map .ofExcept id
  removalTime m := some m.faults.removalDelay
  removeBucket bucket m := (m.removeBucket bucket).map .ofExcept id

end ObjectVolume.Store
