import ObjectVolume.Eviction.Bulk
import ObjectVolume.Eviction.Single
import ObjectVolume.Prefix
/-!
# Eviction

Evicting a scope deletes every object in it, by a bulk pass and, if that leaves anything, by a
single pass over a listing of its own. The marker of a prefix, and the bucket, go last, and only
after a pass that has deleted everything else.

| here | there |
| --- | --- |
| `evict` | `EvictionOperations.evict`, where `fallBack` begins after the bulk pass |
| `removeObjects` | the loop of `remove_prefix` over the units that were held back |
| `removePrefix`, `removeBucket` | `EvictionOperations.remove_prefix`, `EvictionOperations.remove_bucket` |
-/
namespace ObjectVolume.Eviction

variable {σ : Type}

/-- The single pass after a bulk pass that has failed with `primary`. -/
def fallBack (S : Store σ) (limit : Nat) (bucket scope : String) (marker : Option String)
    (primary : Error) : Operation σ (List ObjectRef) := do
  let attempt : Operation σ (Except Error (Tally × List ObjectRef)) :=
    tryCatch (Except.ok <$> Single.run S limit bucket scope marker) fun
      | .failed e => pure (.error e)
      | stop => throw stop
  match ← attempt with
  | .error e => Operation.fail (.eviction primary e)
  | .ok (tally, held) =>
    if tally.isComplete then return held
    else
      let fallback : Error := .partialEviction bucket scope tally.failed tally.attempted
      Operation.fail (.eviction primary fallback)

/-- Deletes everything in a scope but the objects keyed `marker`; gives the references to these that
the pass which succeeded has listed. -/
def evict (S : Store σ) (limit : Nat) (bucket scope : String) (marker : Option String) :
    Operation σ (List ObjectRef) := do
  match ← Bulk.run S bucket scope marker with
  | .completed held => return held
  | .listingFailed e => fallBack S limit bucket scope marker e
  | .requestFailed e => fallBack S limit bucket scope marker e
  | .objectsFailed failed => fallBack S limit bucket scope marker (.bulkDelete bucket scope failed)

/-- Removes one object. -/
def removeObject (S : Store σ) (bucket : String) (ref : ObjectRef) : Operation σ Unit := do
  Operation.onStore fun s => ((), S.startRemoval bucket ref s)
  match S.removalTime (← get).store with
  | some ms => Operation.wait ms
  | none => pure ()
  Operation.call (S.endRemoval bucket ref)

/-- Removes objects one after the other, up to the first that cannot be removed. -/
def removeObjects (S : Store σ) (bucket : String) : List ObjectRef → Operation σ Unit
  | [] => return
  | ref :: rest => do
    removeObject S bucket ref
    removeObjects S bucket rest

/-- Deletes every object below a prefix, then the versions of its marker. For the root this empties
the bucket. -/
def removePrefix (S : Store σ) (limit : Nat) (bucket root : String) : Operation σ Unit := do
  let marker := if Prefix.isRoot root then none else some (Prefix.marker root)
  let held ← evict S limit bucket (Prefix.scope root) marker
  removeObjects S bucket held

/-- Deletes every object of a bucket, then the bucket. -/
def removeBucket (S : Store σ) (limit : Nat) (bucket : String) : Operation σ Unit := do
  let _ ← evict S limit bucket "" none
  Operation.call (S.removeBucket bucket)

end ObjectVolume.Eviction
