import ObjectVolume.Eviction.Tally
import ObjectVolume.Operation
/-!
# The single pass of an eviction

The objects of a listing are deleted one by one, with a bounded number of removals in flight. Each
removal holds one of `limit` permits from its dispatch to its end. `Pass` is the state of all of
them, with one function for each step: `Pass.hold`, `Pass.dispatch`, `Pass.start`, `Pass.settle` and
`Pass.reap`.

| here | there |
| --- | --- |
| `run` | `EvictionOperations.parallel_delete` |
| `drive` | its loop over the listing |
| `startAll`, `endAll` | its workers, at their first turn and at their last |
| `finishRound` | waiting for a permit, or for `join_next` |
| `maxPermits` | `Semaphore.MAX_PERMITS` |
-/
namespace ObjectVolume.Eviction.Single

variable {σ : Type}

/-- Starts removals in the order in which they were dispatched. -/
def startAll (S : Store σ) (bucket : String) : List ObjectRef → Pass → Operation σ Pass
  | [], p => return p
  | ref :: rest, p => do
    Operation.onStore fun s => ((), S.startRemoval bucket ref s)
    startAll S bucket rest p.start

/-- Ends removals in the order in which they were started. One that cancels the client and never
ends keeps its permit. -/
def endAll (S : Store σ) (bucket : String) : List ObjectRef → Pass → Operation σ Pass
  | [], p => return p
  | ref :: rest, p => do
    match ← Operation.onStore (S.endRemoval bucket ref) with
    | .done _ => endAll S bucket rest (p.settle ref .done)
    | .failed _ => endAll S bucket rest (p.settle ref .failed)
    | .died _ => endAll S bucket rest (p.settle ref .died)
    | .cancels (some _) =>
      Operation.cancel
      endAll S bucket rest (p.settle ref .done)
    | .cancels none =>
      Operation.cancel
      endAll S bucket rest p

/-- Waits until all removals that have been dispatched are over. -/
def finishRound (S : Store σ) (bucket : String) (p : Pass) : Operation σ Pass := do
  let p ← startAll S bucket p.dispatched p
  Operation.wait ((S.removalTime (← get).store).getD 0)
  let p ← endAll S bucket p.running p
  Operation.checkpoint
  return p.reap

/-- Goes through the events of a listing. A reference that finds no permit waits for the removals in
flight. -/
def drive (S : Store σ) (bucket : String) (marker : Option String) :
    List Store.Event → Pass → Operation σ Pass
  | [], p => return p
  | .pause :: rest, p => do
    let p ← startAll S bucket p.dispatched p
    Operation.wait 0
    drive S bucket marker rest p
  | .cancels stalls :: rest, p => do
    Operation.cancel
    if stalls then
      let _ ← startAll S bucket p.dispatched p
      throw .interrupted
    else drive S bucket marker rest p
  | .found ref :: rest, p => do
    if marker = some ref.key then drive S bucket marker rest (p.hold ref)
    else
      let p ← if p.free = 0 then finishRound S bucket p else pure p
      drive S bucket marker rest (p.dispatch ref).reap
  | .failed e :: _, p => return p.breakOff e
  | .died message :: _, _ => throw (.died message)

/-- Greatest number of permits that can be handed out. -/
def maxPermits : Nat := UInt64.size / 8 - 1

/-- Deletes what a listing of `scope` finds, but for the objects keyed `marker`, with at most `limit`
removals in flight. All removals are over when it ends. -/
def run (S : Store σ) (limit : Nat) (bucket scope : String) (marker : Option String) :
    Operation σ (Tally × List ObjectRef) := do
  if limit > maxPermits then throw (.died "a semaphore may not have more than MAX_PERMITS permits")
  let events ← Operation.onStore (S.listObjects bucket scope)
  let p ← drive S bucket marker events { free := limit }
  let p ← if p.inFlight = 0 then pure p else finishRound S bucket p
  match p.listingError with
  | some e => Operation.fail e
  | none => return (p.tally, p.held)

end ObjectVolume.Eviction.Single
