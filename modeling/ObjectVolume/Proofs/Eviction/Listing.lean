import ObjectVolume.Store.Basic
import ObjectVolume.Store.Memory
/-!
# What a listing delivers

A listing finds references and then ends, breaks off with an error or dies (`found`, `listingEnd`).
What it finds is split into references to the marker, which are held back, and all others, which are
deleted (`heldBack`, `toDelete`).
-/
namespace ObjectVolume.Eviction

open Store (Event)

/-- The references that a listing finds before it ends, breaks off or dies. -/
def found : List Event → List ObjectRef
  | [] => []
  | .found ref :: rest => ref :: found rest
  | .failed _ :: _ | .died _ :: _ => []
  | .pause :: rest | .cancels _ :: rest => found rest

/-- How a listing comes to its end. -/
inductive ListingEnd where
  | whole
  | failed (e : Error)
  | died (message : String)
  deriving DecidableEq

def listingEnd : List Event → ListingEnd
  | [] => .whole
  | .failed e :: _ => .failed e
  | .died message :: _ => .died message
  | .found _ :: rest | .pause :: rest | .cancels _ :: rest => listingEnd rest

/-- The references to the marker. -/
def heldBack (marker : Option String) (refs : List ObjectRef) : List ObjectRef :=
  refs.filter fun ref => decide (marker = some ref.key)

/-- The references to anything but the marker. -/
def toDelete (marker : Option String) (refs : List ObjectRef) : List ObjectRef :=
  refs.filter fun ref => decide (marker ≠ some ref.key)

variable {marker : Option String} {ref : ObjectRef} {refs : List ObjectRef}

theorem mem_heldBack : ref ∈ heldBack marker refs ↔ ref ∈ refs ∧ marker = some ref.key := by
  simp [heldBack]

theorem mem_toDelete : ref ∈ toDelete marker refs ↔ ref ∈ refs ∧ marker ≠ some ref.key := by
  simp [toDelete]

@[simp]
theorem heldBack_nil (marker : Option String) : heldBack marker [] = [] := rfl

@[simp]
theorem toDelete_nil (marker : Option String) : toDelete marker [] = [] := rfl

theorem heldBack_cons_marker (h : marker = some ref.key) :
    heldBack marker (ref :: refs) = ref :: heldBack marker refs :=
  List.filter_cons_of_pos (decide_eq_true h)

theorem heldBack_cons_other (h : marker ≠ some ref.key) :
    heldBack marker (ref :: refs) = heldBack marker refs :=
  List.filter_cons_of_neg (by simpa using h)

theorem toDelete_cons_marker (h : marker = some ref.key) :
    toDelete marker (ref :: refs) = toDelete marker refs :=
  List.filter_cons_of_neg (by simpa using h)

theorem toDelete_cons_other (h : marker ≠ some ref.key) :
    toDelete marker (ref :: refs) = ref :: toDelete marker refs :=
  List.filter_cons_of_pos (decide_eq_true h)

theorem heldBack_none (refs : List ObjectRef) : heldBack none refs = [] := by
  simp [heldBack]

theorem toDelete_none (refs : List ObjectRef) : toDelete none refs = refs := by
  simp [toDelete]

/-! ## Listings of the store in memory -/

/-- Where a listing in memory breaks off, it does so with the same error. -/
theorem listingEnd_events (breaksAt : Option Nat) (i : Nat) (refs : List ObjectRef) :
    listingEnd (Store.Memory.events breaksAt i refs) =
      if breaksAt.isSome then .failed (.backend .listingInterrupted) else .whole := by
  induction refs generalizing i with
  | nil => cases breaksAt <;> rfl
  | cons ref rest ih =>
    unfold Store.Memory.events
    split
    next h => subst h; rfl
    next => simp only []; split <;> exact ih (i + 1)

theorem found_events_none (i : Nat) (refs : List ObjectRef) :
    found (Store.Memory.events none i refs) = refs := by
  induction refs generalizing i with
  | nil => rfl
  | cons ref rest ih =>
    unfold Store.Memory.events
    rw [if_neg (by simp)]
    simp only []
    split <;> simp [found, ih]

theorem found_events_some {n i : Nat} (h : i ≤ n) (refs : List ObjectRef) :
    found (Store.Memory.events (some n) i refs) = refs.take (n - i) := by
  induction refs generalizing i with
  | nil => simp [Store.Memory.events, found]
  | cons ref rest ih =>
    unfold Store.Memory.events
    split
    next hi =>
      have : n - i = 0 := by simp at hi; omega
      simp [this, found]
    next hi =>
      have hne : n ≠ i := fun e => hi (e ▸ rfl)
      have hsub : n - i = n - (i + 1) + 1 := by omega
      simp only []
      split <;> simp [found, ih (show i + 1 ≤ n by omega), hsub]

/-- A listing in memory neither dies nor cancels the client. -/
def Calm (events : List Event) : Prop :=
  ∀ e ∈ events, (∀ message, e ≠ .died message) ∧ ∀ stalls, e ≠ .cancels stalls

theorem calm_events (breaksAt : Option Nat) (i : Nat) (refs : List ObjectRef) :
    Calm (Store.Memory.events breaksAt i refs) := by
  induction refs generalizing i with
  | nil => cases breaksAt <;> simp [Store.Memory.events, Calm]
  | cons ref rest ih =>
    have hfound : Calm (.found ref :: Store.Memory.events breaksAt (i + 1) rest) := by
      intro e he
      rcases List.mem_cons.1 he with rfl | he
      · simp
      · exact ih (i + 1) e he
    unfold Store.Memory.events
    split
    · simp [Calm]
    simp only []
    split
    · intro e he
      rcases List.mem_cons.1 he with rfl | he
      · simp
      · exact hfound e he
    · exact hfound

theorem calm_list (m : Store.Memory) (name scope : String) : Calm (m.list name scope).1 := by
  unfold Store.Memory.list
  dsimp only
  split
  · simp [Calm]
  · exact calm_events _ _ _

end ObjectVolume.Eviction
