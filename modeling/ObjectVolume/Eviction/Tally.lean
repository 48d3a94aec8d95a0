import ObjectVolume.Error
import ObjectVolume.ObjectRef
/-!
# The state of a single pass

What a pass that deletes one object after the other keeps count of: the permits that its removals hold,
and how many of them it has started and have failed. `Single.Pass` has one function for each step of it.

| here | there |
| --- | --- |
| `Tally` | `EvictionReport` |
| `Tally.isComplete`, `Tally.deleted` | `EvictionReport.is_complete`, `EvictionReport.deleted` |
| `Pass.free`, `Pass.dispatch` | the `Semaphore` of `parallel_delete`, and where it spawns a worker |
| `Pass.settle` | the end of a worker |
| `Pass.reap` | `try_join_next` and `join_next` |
-/
namespace ObjectVolume.Eviction

/-! ## Counts -/

/-- How many deletions a pass has started, and how many of them failed. -/
structure Tally where
  attempted : Nat
  failed : Nat
  deriving DecidableEq, Repr

namespace Tally

def none : Tally := ⟨0, 0⟩

/-- Every deletion succeeded. -/
def isComplete (t : Tally) : Bool :=
  t.failed == 0

/-- Deletions that succeeded; nothing if more are said to have failed than were started. -/
def deleted (t : Tally) : Nat :=
  t.attempted - t.failed

end Tally

/-! ## Permits and removals -/

namespace Single

structure Pass where
  /-- Permits that no removal holds. -/
  free : Nat
  /-- Dispatched, but not started yet. -/
  dispatched : List ObjectRef := []
  /-- Started, and not ended yet. -/
  running : List ObjectRef := []
  /-- Removals that have died and not been counted yet. -/
  dead : Nat := 0
  tally : Tally := .none
  /-- References to the marker. -/
  held : List ObjectRef := []
  listingError : Option Error := none

/-- How a removal ends. -/
inductive Ending where
  | done
  | failed
  | died
  deriving DecidableEq

namespace Pass

/-- Removals that hold a permit. -/
def inFlight (p : Pass) : Nat :=
  p.dispatched.length + p.running.length

def hold (p : Pass) (ref : ObjectRef) : Pass :=
  { p with held := p.held ++ [ref] }

/-- Counts the removals that have died as failed. -/
def reap (p : Pass) : Pass :=
  { p with dead := 0, tally := { p.tally with failed := p.tally.failed + p.dead } }

/-- Gives a free permit to a removal of `ref`. -/
def dispatch (p : Pass) (ref : ObjectRef) : Pass :=
  { p with
    free := p.free - 1
    dispatched := p.dispatched ++ [ref]
    tally := { p.tally with attempted := p.tally.attempted + 1 } }

/-- The first of the dispatched removals starts. -/
def start (p : Pass) : Pass :=
  { p with dispatched := p.dispatched.drop 1, running := p.running ++ p.dispatched.take 1 }

/-- A running removal of `ref` ends and gives its permit back. -/
def settle (p : Pass) (ref : ObjectRef) (ending : Ending) : Pass :=
  let p := { p with free := p.free + 1, running := p.running.erase ref }
  match ending with
  | .done => p
  | .failed => { p with tally := { p.tally with failed := p.tally.failed + 1 } }
  | .died => { p with dead := p.dead + 1 }

/-- The listing has broken off. -/
def breakOff (p : Pass) (e : Error) : Pass :=
  { p with listingError := some e }

end Pass

end Single

end ObjectVolume.Eviction
