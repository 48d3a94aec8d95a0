import ObjectVolume.Error
import ObjectVolume.ObjectRef
/-!
# Object stores

An object store is given by how it answers each call. Calls that take time come in parts, because
others may run in between: a listing delivers its events one by one, a bulk deletion takes its
references in batches, and a single removal has a start and an end.

| here | there |
| --- | --- |
| `Store` | `ObjectStore` |
| `Event` | the items of its `list_objects` |
| `takeBatch`, `endBulk` | its `remove_objects`, for each batch of units and at the end of them |
| `startRemoval`, `endRemoval` | its `remove_object`, before and after it waits |
| `DeleteFailure` | `DeleteFailure` |
-/
namespace ObjectVolume

/-- A deletion that a bulk deletion reports as not done. -/
inductive DeleteFailure where
  /-- One object is refused. -/
  | object (ref : ObjectRef) (message : String)
  /-- A whole request failed. -/
  | request (error : Error)
  deriving DecidableEq

def DeleteFailure.message : DeleteFailure → String
  | object ref message => ref.text ++ ": " ++ message
  | request error => "request failed: " ++ error.message

namespace Store

/-- How a call ends. -/
inductive Reply (α : Type) where
  | done (a : α)
  | failed (e : Error)
  /-- The call dies with a message. -/
  | died (message : String)
  /-- The client is cancelled during the call, which then ends well, or never if there is no
  answer. -/
  | cancels (answer : Option α)

/-- What a listing delivers next. -/
inductive Event where
  | found (ref : ObjectRef)
  | failed (e : Error)
  /-- The listing dies with a message. -/
  | died (message : String)
  /-- The end of a page: others may run before the next one. -/
  | pause
  /-- The client is cancelled; if the listing then stalls, nothing follows. -/
  | cancels (stalls : Bool)

/-- What a bulk deletion is told besides its references. -/
structure BulkRequest where
  bucket : String
  /-- Objects under governance retention are deleted too. -/
  bypassGovernance : Bool

end Store

/-- An object store whose contents and history are a value of type `σ`. -/
structure Store (σ : Type) where
  bucketExists (bucket : String) : σ → Store.Reply Bool × σ
  makeBucket (bucket region : String) : σ → Store.Reply Unit × σ
  putObject (bucket key : String) (data : ByteArray) : σ → Store.Reply Unit × σ
  getObject (bucket key : String) : σ → Store.Reply ByteArray × σ
  /-- The events of a listing of the keys that start with `scope`. -/
  listObjects (bucket scope : String) : σ → List Store.Event × σ
  /-- Takes the references that have come in since the last batch; there is at least one. -/
  takeBatch (request : Store.BulkRequest) (batch : List ObjectRef) : σ → List DeleteFailure × σ
  /-- No more references come in. -/
  endBulk (request : Store.BulkRequest) : σ → List DeleteFailure × σ
  /-- A single removal starts. -/
  startRemoval (bucket : String) (ref : ObjectRef) : σ → σ
  /-- A single removal that has been started ends. -/
  endRemoval (bucket : String) (ref : ObjectRef) : σ → Store.Reply Unit × σ
  /-- How long a removal that starts now takes, in milliseconds; none if it never waits. -/
  removalTime : σ → Option Nat
  removeBucket (bucket : String) : σ → Store.Reply Unit × σ

end ObjectVolume
