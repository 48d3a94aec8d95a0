import ObjectVolume.Operation
/-!
# The bulk pass of an eviction

A reader goes through a listing and sends what it finds to a bulk deletion, except for the
references to the marker of the prefix, which it holds back. What has been sent waits in a queue
until the deletion takes it. `Pass` is the state of both, with one function for each step that they
take on their own: `Pass.read`, `Pass.finish`, `Pass.pull` and `Pass.note`.

| here | there |
| --- | --- |
| `run` | `EvictionOperations.bulk_delete` |
| `Outcome`, `Pass.outcome` | `BulkOutcome`, and the order in which `bulk_delete` looks at what went wrong |
| `Reader`, `Pass.read` | its producer task |
| `Pass.queue`, `Pass.pull` | its channel, and the stream of units that is made of it |
| `Pass.note` | what it does with each `DeleteFailure` |
-/
namespace ObjectVolume.Eviction.Bulk

/-- Where the reader of the listing is. -/
inductive Reader where
  | reading
  /-- The listing has ended, or has broken off with an error that was sent on. -/
  | ended
  | died (message : String)
  deriving DecidableEq

structure Pass where
  reader : Reader := .reading
  /-- Sent by the reader and not yet taken. -/
  queue : List (Except Error ObjectRef) := []
  /-- References to the marker. -/
  held : List ObjectRef := []
  /-- The error that ended the references to be deleted. -/
  listingError : Option Error := none
  /-- Objects that were refused. -/
  failed : Nat := 0
  /-- The first request that failed as a whole. -/
  requestError : Option Error := none

namespace Pass

/-- The reader handles one event of the listing. Pauses and cancellations are not its business. -/
def read (marker : Option String) (p : Pass) : Store.Event → Pass
  | .found ref =>
    if marker = some ref.key then { p with held := p.held ++ [ref] }
    else { p with queue := p.queue ++ [.ok ref] }
  | .failed e => { p with reader := .ended, queue := p.queue ++ [.error e] }
  | .died message => { p with reader := .died message }
  | .pause | .cancels _ => p

/-- The reader has come to the end of the listing. -/
def finish (p : Pass) : Pass :=
  { p with reader := .ended }

/-- The deletion takes the reference at the front of the queue. An error there ends what it gets. -/
def pull (p : Pass) : Option ObjectRef × Pass :=
  match p.listingError, p.queue with
  | none, .ok ref :: rest => (some ref, { p with queue := rest })
  | none, .error e :: rest => (none, { p with queue := rest, listingError := some e })
  | _, _ => (none, p)

/-- Takes references one after the other as long as there are any. -/
def pullQueue : List (Except Error ObjectRef) → Pass → List ObjectRef × Pass
  | [], p => ([], p)
  | _ :: rest, p =>
    match p.pull with
    | (none, p) => ([], p)
    | (some ref, p) =>
      let (refs, p) := pullQueue rest p
      (ref :: refs, p)

/-- Everything that can be taken now. -/
def pullReady (p : Pass) : List ObjectRef × Pass :=
  pullQueue p.queue p

/-- A failure is reported. -/
def note (p : Pass) : DeleteFailure → Pass
  | .object _ _ => { p with failed := p.failed + 1 }
  | .request e => { p with requestError := p.requestError <|> some e }

def noteAll (p : Pass) (failures : List DeleteFailure) : Pass :=
  failures.foldl note p

end Pass

/-- How a bulk pass ends. -/
inductive Outcome where
  /-- Everything that was listed is deleted, but for the references held back. -/
  | completed (held : List ObjectRef)
  /-- Objects may not have been listed. -/
  | listingFailed (e : Error)
  | requestFailed (e : Error)
  | objectsFailed (failed : Nat)

/-- An error of the listing outweighs a failed request, which outweighs refused objects. -/
def Pass.outcome (p : Pass) : Outcome :=
  match p.listingError, p.requestError with
  | some e, _ => .listingFailed e
  | none, some e => .requestFailed e
  | none, none =>
    if p.failed > 0 then .objectsFailed p.failed
    else match p.reader with
      | .died message => .listingFailed (.backend (.listingTaskDied message))
      | .reading | .ended => .completed p.held

/-! ## Running the pass -/

variable {σ : Type}

/-- Hands what has been read to the store, if there is anything. -/
def handOver (S : Store σ) (request : Store.BulkRequest) (p : Pass) : Operation σ Pass := do
  let (refs, p) := p.pullReady
  if refs.isEmpty then return p
  return p.noteAll (← Operation.onStore (S.takeBatch request refs))

/-- Goes through the events of a listing; at the end of each page, and of the listing, what has been
read is handed over. -/
def drive (S : Store σ) (request : Store.BulkRequest) (marker : Option String) :
    List Store.Event → Pass → Operation σ Pass
  | [], p => handOver S request p.finish
  | .pause :: rest, p => do
    let p ← handOver S request p
    Operation.wait 0
    drive S request marker rest p
  | .cancels _ :: _, _ => do
    Operation.cancel
    throw .interrupted
  | .found ref :: rest, p => drive S request marker rest (p.read marker (.found ref))
  | .failed e :: _, p => handOver S request (p.read marker (.failed e))
  | .died message :: _, p => handOver S request (p.read marker (.died message))

/-- Deletes what a listing of `scope` finds, but for the objects keyed `marker`. -/
def run (S : Store σ) (bucket scope : String) (marker : Option String) : Operation σ Outcome := do
  let request : Store.BulkRequest := ⟨bucket, true⟩
  let events ← Operation.onStore (S.listObjects bucket scope)
  Operation.wait 0
  let p ← drive S request marker events {}
  let p := p.noteAll (← Operation.onStore (S.endBulk request))
  return p.outcome

end ObjectVolume.Eviction.Bulk
