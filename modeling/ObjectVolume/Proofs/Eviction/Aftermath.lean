import ObjectVolume.Proofs.Eviction.Success
/-!
# After an eviction

What a session can rely on once an eviction of the store in memory has answered: the store is one that
calls lead to, the client is no more cancelled than before, and after a success the target is evicted.
The number of permits does not matter for that: a call with more of them than can be handed out either
dies or never needs any.
-/
namespace ObjectVolume

namespace Eviction

open Store (Memory memory)

/-! ## The store -/

theorem reachable_takeBatch {m : Memory} (h : m.Reachable) (name : String) (refs : List ObjectRef) :
    (m.takeBatch name refs).2.Reachable := by
  unfold Memory.takeBatch
  generalize Memory.chunks Memory.batchSize refs = batches
  induction batches generalizing m with
  | nil => exact h
  | cons batch batches ih => exact ih (h.bulkRequest name batch)

variable {c : Call} {x y : State Memory} {a : Action} {t : List Action}

theorem Bulk.Step.reachable {request : Store.BulkRequest} {marker : Option String}
    {x y : Underway Memory Bulk.Pass} (h : Bulk.Step memory request marker x a y)
    (hx : x.store.Reachable) : y.store.Reachable := by
  cases h with
  | pull n pulled some => exact reachable_takeBatch hx _ _
  | _ => exact hx

theorem Single.Step.reachable {bucket : String} {marker : Option String}
    {x y : Underway Memory Single.Pass} (h : Single.Step memory bucket marker x a y)
    (hx : x.store.Reachable) : y.store.Reachable := by
  cases h with
  | start ref dispatched => exact hx.startRemoval
  | finish ref running ends => exact hx.endRemoval bucket ref
  | stall ref running stalls => exact hx.endRemoval bucket ref
  | _ => exact hx

theorem Step.reachable (h : Step memory c x a y) (hx : x.store.Reachable) : y.store.Reachable := by
  cases h with
  | begin => exact hx.list _ _
  | bulk step => exact step.reachable hx
  | fallBack => exact hx.list _ _
  | single step => exact step.reachable hx
  | startMarker => exact hx.startRemoval
  | finishMarker => exact hx.endRemoval _ _
  | removeBucket => exact hx.removeBucket _
  | _ => exact hx

/-- **Reachability.** A call makes of a store only what other calls might have made of it. -/
theorem Run.reachable {outside : Bool} (h : Run memory c outside x t y) (hx : x.store.Reachable) :
    y.store.Reachable := by
  induction h with
  | refl => exact hx
  | step _ hs ih => exact hs.reachable ih
  | cancel _ _ _ ih => exact ih

/-! ## Any number of permits -/

/-- The same call with a single permit. -/
def Call.withOnePermit (c : Call) : Call :=
  { c with limit := 1 }

/-- The single pass is at work. -/
def Stage.IsSingle : Stage → Prop
  | .single _ _ _ => True
  | _ => False

theorem not_isSingle_afterPass (c : Call) (held : List ObjectRef) :
    ¬ (c.afterPass held).IsSingle := by
  unfold Call.afterPass
  split <;> exact id

theorem not_isSingle_afterBulk (c : Call) (outcome : Bulk.Outcome) :
    ¬ (c.afterBulk outcome).IsSingle := by
  cases outcome with
  | completed held => exact not_isSingle_afterPass c held
  | _ => exact id

variable {σ : Type} {S : Store σ}

/-- Without permits to hand out, a step that is not the last one takes none. -/
theorem Step.withOnePermit {x y : State σ} (exceeds : c.limit > Single.maxPermits)
    (h : Step S c x a y) (hx : ¬ x.stage.IsSingle) :
    (∃ message, y.stage = .answered (.died message)) ∨
      (Step S c.withOnePermit x a y ∧ ¬ y.stage.IsSingle) := by
  cases h with
  | begin running => exact .inr ⟨.begin running, id⟩
  | bulk step => exact .inr ⟨.bulk step, id⟩
  | endBulk exhausted => exact .inr ⟨.endBulk exhausted, not_isSingle_afterBulk c _⟩
  | fallBack fits => exact absurd fits (Nat.not_le_of_gt exceeds)
  | tooManyPermits => exact .inl ⟨_, rfl⟩
  | single => exact absurd trivial hx
  | die => exact absurd trivial hx
  | endSingle => exact absurd trivial hx
  | noMarker => exact .inr ⟨.noMarker, id⟩
  | startMarker => exact .inr ⟨.startMarker, id⟩
  | @finishMarker s token ref held =>
    refine .inr ⟨.finishMarker, ?_⟩
    unfold afterRemoval
    split
    · split <;> exact id
    · split <;> exact id
    all_goals exact id
  | @removeBucket s token =>
    refine .inr ⟨.removeBucket, ?_⟩
    unfold afterClosing
    split <;> exact id
  | abort cancelled open_ => exact .inr ⟨.abort cancelled open_, id⟩

/-- **Too many permits.** A call that asks for more permits than there are dies, or takes the steps of
a call with one permit. -/
theorem Run.withOnePermit {outside : Bool} {x y : State σ} (exceeds : c.limit > Single.maxPermits)
    (h : Run S c outside x t y) (hx : x.stage = .called) :
    (∃ message, y.stage = .answered (.died message)) ∨
      (Run S c.withOnePermit outside x t y ∧ ¬ y.stage.IsSingle) := by
  induction h with
  | refl =>
    refine .inr ⟨.refl _, ?_⟩
    rw [hx]
    exact id
  | step _ hs ih =>
    rcases ih with ⟨message, hdied⟩ | ⟨hrun, hstage⟩
    · exact absurd hdied (hs.stage_ne_answered _)
    · rcases hs.withOnePermit exceeds hstage with hdied | ⟨hs, hstage⟩
      · exact .inl hdied
      · exact .inr ⟨.step hrun hs, hstage⟩
  | cancel allowed _ hc ih =>
    rcases ih with hdied | ⟨hrun, hstage⟩
    · exact .inl hdied
    · exact .inr ⟨.cancel allowed hrun hc, hstage⟩

/-- A run that succeeds without cancellations evicts its target and leaves the token alone. -/
theorem evicted_of_run {token : Token} {m : Memory} (hs : m.Sound)
    (live : token.isCancelled = false) (h : Run memory c false ⟨m, token, .called⟩ t y)
    (hy : y.stage = .answered (.done ())) :
    (m.buckets.find? c.bucket).isSome = true ∧
      Evicted m.buckets c.bucket c.target y.store.buckets ∧ y.token = token := by
  have hlimited (c' : Call) (hmax : c'.limit ≤ Single.maxPermits)
      (h : Run memory c' false ⟨m, token, .called⟩ t y) :
      (m.buckets.find? c'.bucket).isSome = true ∧
        Evicted m.buckets c'.bucket c'.target y.store.buckets ∧ y.token = token := by
    have hverdict := verdict_of_run hs hmax live h hy
    obtain ⟨hiff, hevicted⟩ := verdict_done_iff (c := c') hs
    rw [← hverdict] at hiff hevicted
    obtain ⟨b, hb, -⟩ := hiff.1 rfl
    exact ⟨by simp [hb], hevicted rfl, ((onCourse_start hs c' token).run hs hmax h).2 rfl⟩
  by_cases hmax : c.limit ≤ Single.maxPermits
  · exact hlimited c hmax h
  · rcases h.withOnePermit (Nat.lt_of_not_le hmax) rfl with ⟨message, hdied⟩ | ⟨hrun, -⟩
    · rw [hy] at hdied
      cases hdied
    · have hone : c.withOnePermit.limit ≤ Single.maxPermits := by
        change 1 ≤ Single.maxPermits
        decide
      exact hlimited c.withOnePermit hone hrun

/-! ## What is found after it -/

/-- What is evicted is not found any more; all other objects stay as they were. -/
theorem Evicted.object?_eq {m m' : Memory} {name root : String}
    (h : Evicted m.buckets name (.below root) m'.buckets)
    (hname : (m.buckets.find? name).isSome = true) (b k : String) :
    m'.object? b k =
      if name = b ∧ (Prefix.scope root).toList <+: k.toList then none else m.object? b k := by
  unfold Memory.object?
  by_cases hb : name = b
  · subst hb
    obtain ⟨bucket, hbucket⟩ := Option.isSome_iff_exists.1 hname
    obtain ⟨bucket', hbucket', -, -, hobjects⟩ := h.emptied bucket hbucket
    rw [hbucket, hbucket']
    simp only [Option.bind_some, Store.Bucket.current, hobjects]
    by_cases hk : (Prefix.scope root).toList <+: k.toList
    · have hcovers : (Target.below root).Covers k := hk
      simp [hcovers, hk]
    · have hcovers : ¬ (Target.below root).Covers k := hk
      simp [hcovers, hk]
  · rw [h.others b (Ne.symm hb), if_neg fun hboth => hb hboth.1]

end Eviction

namespace Session

open Eviction
open Store (Memory memory)

/-- Operations leave all of the client as it is but the token. -/
theorem client_run {σ α : Type} (s : Session σ) (alarm : Option Moment) (op : Operation σ α) :
    (s.run alarm op).2.client = { s.client with token := (s.run alarm op).2.client.token } := by
  unfold run
  rcases op.outcome { store := s.store, token := s.client.token, alarm } with ⟨stop | a, w⟩
  · cases stop <;> rfl
  · rfl

/-- **After a success.** -/
theorem evicted_of_done {s : Session Memory} (reachable : s.store.Reachable)
    (live : s.client.token.isCancelled = false)
    (some_permit : 1 ≤ s.client.config.parallelism.toNat) {bucket : String} {target : Target}
    (hdone : (s.evict memory none bucket target).1 = .done ()) :
    (s.evict memory none bucket target).2.store.Reachable ∧
      (s.evict memory none bucket target).2.client = s.client ∧
      (s.store.buckets.find? bucket).isSome = true ∧
      Evicted s.store.buckets bucket target (s.evict memory none bucket target).2.store.buckets := by
  obtain ⟨t, hrun⟩ := s.run_evict (S := memory) none bucket target some_permit
  rw [hdone] at hrun
  obtain ⟨hbucket, hevicted, htoken⟩ := evicted_of_run reachable.sound live hrun rfl
  have hclient := s.client_run none (target.operation memory s.client.config bucket)
  rw [show (s.run none _).2.client.token = _ from htoken] at hclient
  exact ⟨hrun.reachable reachable, hclient, hbucket, hevicted⟩

end Session

end ObjectVolume
