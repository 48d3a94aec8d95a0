import ObjectVolume.Store.Basic
/-!
# A store that answers by a script

For trying out operations against any behaviour of a store: each call is answered as the script
says, and the calls are kept in the order in which they came.
-/
namespace ObjectVolume.Store

/-- How a scripted call goes. -/
inductive Reaction where
  | succeed
  | fail (e : Error)
  | die (message : String)
  /-- The client is cancelled; the call then succeeds, or never ends if it stalls. -/
  | cancel (stalls : Bool)

/-- The answer of a call that returns `a` if it succeeds. -/
def Reaction.reply {α : Type} (r : Reaction) (a : α) : Reply α :=
  match r with
  | succeed => .done a
  | fail e => .failed e
  | die message => .died message
  | cancel stalls => .cancels (if stalls then none else some a)

/-- What a bulk deletion reports of one reference. -/
inductive BulkReaction where
  | refuse (message : String)
  | failRequest (e : Error)

structure Script where
  /-- The reaction to all calls but deletions and listings. -/
  answer : Reaction := .succeed
  bucketExists : Bool := false
  data : ByteArray := .empty
  /-- The events of the listings, first to last; listings after these are empty. -/
  listings : List (List Event) := []
  /-- What is reported of the references in bulk deletions; nothing of those not found here. -/
  bulk : ObjectRef → Option BulkReaction := fun _ => none
  /-- An error reported at the end of bulk deletions. -/
  bulkEnd : Option Error := none
  /-- The reactions to single removals. -/
  removal : ObjectRef → Reaction := fun _ => .succeed

/-- A call that a store has received. -/
inductive Call where
  | bucketExists (bucket : String)
  | makeBucket (bucket region : String)
  | putObject (bucket key : String) (data : ByteArray)
  | getObject (bucket key : String)
  | listObjects (bucket scope : String)
  | removeObjects (request : BulkRequest) (refs : List ObjectRef)
  | removeObject (bucket : String) (ref : ObjectRef)
  | removeBucket (bucket : String)

structure Scripted where
  script : Script
  /-- The calls so far, in order. -/
  calls : List Call := []
  /-- Listings so far. -/
  listed : Nat := 0
  /-- References that the present bulk deletion has taken. -/
  taken : List ObjectRef := []

namespace Scripted

def record (s : Scripted) (c : Call) : Scripted :=
  { s with calls := s.calls ++ [c] }

def failure? (s : Script) (ref : ObjectRef) : Option DeleteFailure :=
  (s.bulk ref).map fun
    | .refuse message => .object ref message
    | .failRequest e => .request e

end Scripted

/-- The scripted store as an object store. -/
def scripted : Store Scripted where
  bucketExists bucket s := (s.script.answer.reply s.script.bucketExists, s.record (.bucketExists bucket))
  makeBucket bucket region s := (s.script.answer.reply (), s.record (.makeBucket bucket region))
  putObject bucket key data s := (s.script.answer.reply (), s.record (.putObject bucket key data))
  getObject bucket key s := (s.script.answer.reply s.script.data, s.record (.getObject bucket key))
  listObjects bucket scope s :=
    ((s.script.listings[s.listed]?).getD [],
      { s.record (.listObjects bucket scope) with listed := s.listed + 1 })
  takeBatch _ batch s :=
    (batch.filterMap (Scripted.failure? s.script), { s with taken := s.taken ++ batch })
  endBulk request s :=
    (s.script.bulkEnd.toList.map .request,
      { s.record (.removeObjects request s.taken) with taken := [] })
  startRemoval bucket ref s := s.record (.removeObject bucket ref)
  endRemoval _ ref s := ((s.script.removal ref).reply (), s)
  removalTime _ := none
  removeBucket bucket s := (s.script.answer.reply (), s.record (.removeBucket bucket))

end ObjectVolume.Store
