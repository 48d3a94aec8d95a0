import ObjectVolume.Proofs.Operation
import ObjectVolume.Proofs.Store.Reachable
/-!
# Calls of the store in memory

A call on behalf of a client that is not cancelled ends as the store answers it. What it does to the
objects of the store is told by `Memory.object?`, which is what a later call would find.
-/
namespace ObjectVolume

open Store (Memory memory Reply)

/-! ## How a call ends -/

namespace Operation

variable {σ α : Type} {w : World σ}

/-- A call that always answers, on behalf of a client that is not cancelled. -/
theorem outcome_cancellable_call {f : σ → Reply α × σ} {r : Except StoreProblem α} {s : σ}
    (live : w.token.isCancelled = false) (h : f w.store = (.ofExcept r, s)) :
    (cancellable (call f)).outcome w =
      (r.mapError fun p => .failed (.backend p), { w with store := s }) := by
  unfold cancellable
  rw [outcome_bind]
  simp only [outcome_get, live, Bool.false_eq_true, if_false]
  rw [outcome_tryCatch, call, outcome_bind, outcome_onStore, h]
  cases r <;> rfl

end Operation

namespace Session

variable {σ α : Type}

/-- A session's call ends as the store answers it, and changes nothing but the store. -/
theorem run_call (s : Session σ) (alarm : Option Moment) {f : σ → Reply α × σ}
    {r : Except StoreProblem α} {s' : σ} (live : s.client.token.isCancelled = false)
    (h : f s.store = (.ofExcept r, s')) :
    s.run alarm (Operation.cancellable (Operation.call f)) =
      (match r with | .ok a => .done a | .error p => .failed (.backend p), { s with store := s' }) := by
  unfold run
  rw [Operation.outcome_cancellable_call live h]
  cases r <;> rfl

/-- A call that has succeeded was answered with success. -/
theorem of_run_call {s s' : Session σ} {alarm : Option Moment} {f : σ → Reply α × σ}
    {r : Except StoreProblem α × σ} {a : α} (live : s.client.token.isCancelled = false)
    (hf : f s.store = r.map .ofExcept id)
    (h : s.run alarm (Operation.cancellable (Operation.call f)) = (.done a, s')) :
    ∃ m, r = (.ok a, m) ∧ s' = { s with store := m } := by
  obtain ⟨r, m⟩ := r
  rw [run_call s alarm live hf] at h
  cases r with
  | error p => cases (Prod.mk.inj h).1
  | ok b =>
    obtain ⟨hdone, rfl⟩ := Prod.mk.inj h
    cases hdone
    exact ⟨m, rfl, rfl⟩

end Session

/-! ## What a call does to the objects -/

namespace Store

/-- A new version of a key is the current one; other keys keep theirs. -/
theorem Bucket.current_setVersions (b : Bucket) (key k : String) (older : List Version)
    (id : Option String) (data : ByteArray) :
    (b.setVersions key (older ++ [⟨id, some data⟩])).current k =
      if key = k then some data else b.current k := by
  unfold current
  rw [find?_setVersions]
  by_cases hk : key = k
  · simp [hk, entry]
  · rw [if_neg hk, if_neg (Ne.symm hk)]

namespace Memory

variable {m m' : Memory} {name key : String}

theorem makeBucket_memory (m : Memory) (name region : String) :
    memory.makeBucket name region m = (m.makeBucket name region).map .ofExcept id := rfl

theorem putObject_memory (m : Memory) (name key : String) (data : ByteArray) :
    memory.putObject name key data m = (m.put name key data).map .ofExcept id := rfl

theorem buckets_takeVersionId (m : Memory) (b : Bucket) :
    (m.takeVersionId b).2.buckets = m.buckets := by
  unfold takeVersionId
  split <;> rfl

theorem object?_setBucket (m : Memory) (name : String) (bucket : Bucket) (b k : String) :
    (m.setBucket name bucket).object? b k = if name = b then bucket.current k else m.object? b k := by
  unfold object? setBucket
  by_cases hb : name = b
  · subst hb
    simp
  · simp only [KeyMap.find?_insert_of_ne _ _ hb, if_neg hb]

/-- A new object is found at its key; all others stay as they were. -/
theorem object?_put {data : ByteArray} (h : m.put name key data = (.ok (), m')) (b k : String) :
    m'.object? b k = if name = b ∧ key = k then some data else m.object? b k := by
  unfold put at h
  split at h
  · cases h
  next bucket hbucket =>
    have hbuckets := buckets_takeVersionId m bucket
    generalize m.takeVersionId bucket = taken at h hbuckets
    obtain ⟨id, m₁⟩ := taken
    obtain ⟨-, rfl⟩ := Prod.mk.inj h
    rw [object?_setBucket, Bucket.current_setVersions]
    by_cases hb : name = b
    · subst hb
      by_cases hk : key = k
      · simp [hk]
      · simp [hk, object?, hbucket]
    · have hsame : m₁.buckets = m.buckets := hbuckets
      simp [hb, object?, hsame]

/-- A new bucket holds nothing. -/
theorem object?_makeBucket {region : String} (h : m.makeBucket name region = (.ok (), m'))
    (b k : String) : m'.object? b k = m.object? b k := by
  unfold makeBucket at h
  split at h
  · cases h
  next hnew =>
    obtain ⟨-, rfl⟩ := Prod.mk.inj h
    rw [object?_setBucket]
    by_cases hb : name = b
    · subst hb
      have hnone : m.buckets.find? name = none := by simpa [KeyMap.contains] using hnew
      simp [object?, hnone, Bucket.current]
    · rw [if_neg hb]

end Memory

end Store

end ObjectVolume
