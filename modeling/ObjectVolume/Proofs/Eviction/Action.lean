import ObjectVolume.Eviction.Single
import ObjectVolume.Proofs.Eviction.Listing
/-!
# What an eviction does, step by step

The tasks of an eviction (the reader of a listing, the bulk deletion, the dispatcher of single
removals and the removals themselves) take their steps in any order. `Action` says what a step has to
do with the store; the step relations of the two passes and of the whole call carry it as a label.
-/
namespace ObjectVolume.Eviction

open Store (Event Reply)

/-- What happens in one step. -/
inductive Action where
  /-- A listing is asked for, which will deliver these events. -/
  | list (events : List Event)
  /-- The listing delivers an event. -/
  | read (event : Event)
  /-- The listing has come to its end. -/
  | readEnd
  /-- References are handed to the bulk deletion, which reports failures. -/
  | request (refs : List ObjectRef) (failures : List DeleteFailure)
  /-- The bulk deletion ends, with the last failures it reports. -/
  | endBulk (failures : List DeleteFailure)
  /-- A removal of the single pass starts. -/
  | start (ref : ObjectRef)
  /-- A removal of the single pass ends. -/
  | finish (ref : ObjectRef) (reply : Reply Unit)
  /-- A removal of a version of the marker starts. -/
  | startMarker (ref : ObjectRef)
  /-- A removal of a version of the marker ends. -/
  | finishMarker (ref : ObjectRef) (reply : Reply Unit)
  /-- The bucket is removed. -/
  | removeBucket (reply : Reply Unit)
  /-- The call ends because the client is cancelled. -/
  | abort
  /-- Something that the store does not notice. -/
  | inner

/-- The references that a step hands to the bulk deletion. -/
def Action.requested : Action → List ObjectRef
  | request refs _ => refs
  | _ => []

/-- The failures that the bulk deletion reports in a step. -/
def Action.reported : Action → List DeleteFailure
  | request _ failures | endBulk failures => failures
  | _ => []

/-- A pass at work: the store, the token of the client, what the listing has yet to deliver, and the
state of the pass. -/
structure Underway (σ π : Type) where
  store : σ
  token : Token
  rest : List Event
  pass : π

end ObjectVolume.Eviction

namespace ObjectVolume.Store.Reply

open Eviction (Single.Ending)

variable {α : Type}

/-- The token of the client after a reply. -/
def tokenAfter (token : Token) : Reply α → Token
  | cancels _ => token.cancel
  | _ => token

/-- How a removal with this reply ends; not at all if it stalls. -/
def ending : Reply Unit → Option Single.Ending
  | done _ | cancels (some _) => some .done
  | failed _ => some .failed
  | died _ => some .died
  | cancels none => none

/-- The store has done what it was asked. -/
def succeeds (reply : Reply Unit) : Prop :=
  reply.ending = some .done

end ObjectVolume.Store.Reply
