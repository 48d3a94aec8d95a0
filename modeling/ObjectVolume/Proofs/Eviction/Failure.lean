import ObjectVolume.Proofs.Eviction.Contents
/-!
# What failed evictions leave, and report

An eviction of the store in memory that fails has deleted nothing but what it could delete in its
scope, and never a version of the marker. Its error counts what is left: what was refused, of what the
bulk pass had left behind.
-/
namespace ObjectVolume

namespace Eviction

open Store (Memory memory KeyMap Bucket Event)
open Store.Memory (Lost)

/-- References to what a target covers, but for the versions of the marker. -/
def Target.objects (target : Target) (b : Bucket) : List ObjectRef :=
  toDelete target.marker (b.refs target.scope)

/-- Nothing is lost but versions of covered keys, and none whose deletion is refused nor any of the
marker. -/
structure Unharmed (m : Memory) (bucket : String) (target : Target) (after : KeyMap Bucket) :
    Prop where
  spared : Spared m.buckets bucket target after
  guarded : ∀ b b', m.buckets.find? bucket = some b → after.find? bucket = some b' →
    ∀ key, m.refuses key = true ∨ target.marker = some key →
      b'.objects.find? key = b.objects.find? key

/-- How an error tells what is left of a bucket `b`, which has become `b'`. `Left` says of a store that
the bulk pass has left it. -/
inductive Explained (m : Memory) (bucket : String) (target : Target) (Left : Memory → Prop)
    (b b' : Bucket) : Error → Prop
  /-- Both passes have failed: the marker is left and what was refused. -/
  | passes {primary failed total left bl} (reached : Left left)
      (leaves : left.buckets.find? bucket = some bl)
      (counts_failed : failed = (m.refused (target.objects b)).length)
      (counts_total : total = (target.objects bl).length) (some_failed : 1 ≤ failed)
      (of_total : failed ≤ total)
      (remains : ∀ key, target.Covers key → b'.objects.find? key =
        if target.marker = some key ∨ m.refuses key = true then b.objects.find? key else none) :
      Explained m bucket target Left b b'
        (.eviction primary (.partialEviction bucket target.scope failed total))
  /-- A pass was clean: only the marker is left, which is refused. -/
  | marker {root key} (below : target = .below root) (isMarker : target.marker = some key)
      (remains : ∀ k, target.Covers k →
        b'.objects.find? k = if k = key then b.objects.find? k else none) :
      Explained m bucket target Left b b' (.backend (.accessDenied key))

variable {m : Memory} {c : Call} {gone : List ObjectRef} {b : Bucket}

/-! ## What the verdict leaves -/

theorem unharmed_without (hs : m.Sound) (hg : gone ⊆ m.deletable (c.doomed m)) :
    Unharmed m c.bucket c.target (m.without c.bucket gone).buckets := by
  have hlisted : gone ⊆ c.listed m := by
    intro ref hm
    exact (Call.mem_doomed.1 (Memory.mem_deletable.1 (hg hm)).1).1
  refine ⟨spared_without hs hlisted, ?_⟩
  intro b b' hb hb' key hkey
  rw [Memory.find?_without_self hb] at hb'
  cases hb'
  apply (hs _ _ hb).find?_without_kept
  intro v _ hm
  obtain ⟨hdoomed, hrefuses⟩ := Memory.mem_deletable.1 (hg hm)
  rcases hkey with hkey | hkey
  · simp [hkey] at hrefuses
  · exact (Call.mem_doomed.1 hdoomed).2 hkey

/-- Once all that could be deleted is gone, the marker is left and what was refused. -/
theorem find?_without_doomed (hs : m.Sound) (hb : m.buckets.find? c.bucket = some b) {key : String}
    (hkey : c.target.Covers key) :
    (b.without (m.deletable (c.doomed m))).objects.find? key =
      if c.target.marker = some key ∨ m.refuses key = true then b.objects.find? key else none := by
  split
  next h =>
    apply (hs _ _ hb).find?_without_kept
    intro v _ hm
    obtain ⟨hdoomed, hrefuses⟩ := Memory.mem_deletable.1 hm
    rcases h with h | h
    · exact (Call.mem_doomed.1 hdoomed).2 h
    · simp [h] at hrefuses
  next h =>
    obtain ⟨hmarker, hrefuses⟩ := not_or.1 h
    apply (hs _ _ hb).find?_without_gone
    intro v hv
    rw [Memory.mem_deletable]
    constructor
    · exact Call.mem_doomed.2 ⟨(mem_listed_iff hb).2 ⟨hkey, v, hv, rfl⟩, hmarker⟩
    · simpa using hrefuses

theorem doomed_eq (hb : m.buckets.find? c.bucket = some b) : c.doomed m = c.target.objects b := by
  rw [Call.doomed, Call.listed_eq hb]
  rfl

/-- What the bulk pass leaves behind is what the single pass takes. -/
theorem singleTaken_eq_objects (hb : m.buckets.find? c.bucket = some b)
    (harmed : m.faults.failingListings ≤ 1) :
    c.singleTaken m = c.target.objects (b.without (c.bulkGone m)) := by
  have hzero : m.faults.failingListings - 1 = 0 := by omega
  simp only [Call.singleTaken, Memory.delivered, hzero, if_true, Call.leftBehind, Call.listed_eq hb]
  rw [Target.objects, Bucket.refs_without]
  rfl

theorem unharmed_of_verdict {e : Error} {after : KeyMap Bucket} (hs : m.Sound)
    (h : (.failed e, after) = c.verdict m) : Unharmed m c.bucket c.target after := by
  unfold Call.verdict at h
  cases hi : c.interruption m (m.faults.failingListings - 1) with
  | some interruption =>
    simp only [hi, Prod.mk.injEq] at h
    rw [h.2]
    apply unharmed_without hs
    intro ref hm
    rcases List.mem_append.1 hm with hm | hm
    · exact Call.bulkGone_subset hm
    · obtain ⟨htaken, hrefuses⟩ := Memory.mem_deletable.1 hm
      exact Memory.mem_deletable.2 ⟨Call.singleTaken_subset htaken, hrefuses⟩
  | none =>
    by_cases hdoomed : m.refused (c.doomed m) = []
    · simp only [hi, hdoomed, if_true, Call.lastVerdict] at h
      split at h
      next => cases h
      next => cases h
      next =>
        rw [(Prod.mk.inj h).2]
        apply unharmed_without hs
        rw [(Clean.mk hi hdoomed).deletable_doomed]
        exact List.Subset.refl _
    · simp only [hi, hdoomed, if_false, Prod.mk.injEq] at h
      rw [h.2]
      exact unharmed_without hs (List.Subset.refl _)

theorem Clean.explained_of_verdict {Left : Memory → Prop} {e : Error} {after : KeyMap Bucket}
    (clean : Clean m c) (hs : m.Sound) (hb : m.buckets.find? c.bucket = some b)
    (h : (.failed e, after) = c.verdict m) :
    ∃ b', after.find? c.bucket = some b' ∧ Explained m c.bucket c.target Left b b' e := by
  simp only [Call.verdict, clean.listing, clean.doomed, if_true, Call.lastVerdict] at h
  split at h
  next => cases h
  next => cases h
  next root ref _ htarget hrefused =>
    obtain ⟨he, rfl⟩ := Prod.mk.inj h
    cases he
    have hmem : ref ∈ m.refused (c.markers m) := hrefused ▸ List.mem_cons_self
    have hmarker : c.marker = some ref.key := (Call.mem_markers.1 (Memory.mem_refused.1 hmem).1).2
    refine ⟨_, Memory.find?_without_self hb, .marker htarget hmarker ?_⟩
    intro key hkey
    split
    next hk =>
      apply (hs _ _ hb).find?_without_kept
      intro v _ hm
      exact (Call.mem_doomed.1 hm).2 (hk ▸ hmarker)
    next hk =>
      apply (hs _ _ hb).find?_without_gone
      intro v hv
      rw [Call.mem_doomed]
      constructor
      · exact (mem_listed_iff hb).2 ⟨hkey, v, hv, rfl⟩
      · intro hm
        exact hk (Option.some.inj (hm.symm.trans hmarker))

/-- Both passes have failed: the counts of the error are those of the bucket. -/
theorem explained_of_refused {Left : Memory → Prop} {left : Memory} {armed : Nat} {e : Error}
    {after : KeyMap Bucket} (hs : m.Sound) (hb : m.buckets.find? c.bucket = some b)
    (harmed : m.faults.failingListings ≤ 1) (refused : m.refused (c.doomed m) ≠ [])
    (reached : Left left) (lost : Lost m c.bucket (c.bulkGone m) armed left)
    (h : (.failed e, after) = c.verdict m) :
    ∃ b', after.find? c.bucket = some b' ∧ Explained m c.bucket c.target Left b b' e := by
  have hi : c.interruption m (m.faults.failingListings - 1) = none :=
    (Call.interruption_eq_none_iff hb).2 (by omega)
  simp only [Call.verdict, hi, refused, if_false] at h
  obtain ⟨he, rfl⟩ := Prod.mk.inj h
  cases he
  have hsome : 1 ≤ (m.refused (c.doomed m)).length := List.length_pos_iff.2 refused
  have hle : (m.refused (c.doomed m)).length ≤ (c.singleTaken m).length := by
    rw [← Call.refused_singleTaken hi]
    exact List.length_filter_le _ _
  have hleaves : left.buckets.find? c.bucket = some (b.without (c.bulkGone m)) := by
    rw [lost.buckets]
    exact Memory.find?_without_self hb
  refine ⟨_, Memory.find?_without_self hb, ?_⟩
  refine .passes reached hleaves ?_ ?_ hsome hle ?_
  · rw [doomed_eq hb]
  · rw [singleTaken_eq_objects hb harmed]
  · intro key hkey
    exact find?_without_doomed hs hb hkey

/-! ## What the bulk pass leaves -/

/-- On the way from `x` to `y` the bulk pass has failed, and has left the store `left`. -/
def LeftByBulk {σ : Type} (S : Store σ) (c : Call) (x : State σ) (t : List Action) (y : State σ)
    (left : σ) : Prop :=
  ∃ u u' token primary, t = u ++ u' ∧ Run S c false x u ⟨left, token, .between primary⟩ ∧
    Run S c false ⟨left, token, .between primary⟩ u' y

theorem LeftByBulk.step {σ : Type} {S : Store σ} {x y z : State σ} {t : List Action} {a : Action}
    {left : σ} (h : LeftByBulk S c x t y left) (hs : Step S c y a z) :
    LeftByBulk S c x (t ++ [a]) z left := by
  obtain ⟨u, u', token, primary, rfl, hu, hu'⟩ := h
  exact ⟨u, u' ++ [a], token, primary, List.append_assoc _ _ _, hu, .step hu' hs⟩

/-- What comes after a bulk pass tells whether it was clean. -/
theorem OnCourse.between_or_clean {token : Token} {left : Memory} {outcome : Bulk.Outcome}
    (h : OnCourse m c ⟨left, token, c.afterBulk outcome⟩) :
    (∃ primary armed, c.afterBulk outcome = .between primary ∧
        Lost m c.bucket (c.bulkGone m) armed left) ∨ Clean m c := by
  have hnext : (∃ primary, c.afterBulk outcome = .between primary) ∨
      (∃ held, c.afterBulk outcome = .removing held) ∨ c.afterBulk outcome = .closing := by
    unfold Call.afterBulk Call.afterPass
    cases outcome <;> cases c.target <;> simp
  rcases hnext with ⟨primary, hb⟩ | ⟨held, hr⟩ | hc
  · rw [hb] at h
    cases h with
    | between lost => exact .inl ⟨_, _, hb, lost⟩
  · rw [hr] at h
    cases h with
    | removing clean => exact .inr clean
  · rw [hc] at h
    cases h with
    | closing clean => exact .inr clean

/-- A bulk pass leaves what it has not deleted, or was clean, or is not over. -/
theorem left_or_clean {token : Token} {t : List Action} {y : State Memory} (hs : m.Sound)
    (hmax : c.limit ≤ Single.maxPermits) (live : token.isCancelled = false)
    (h : Run memory c false ⟨m, token, .called⟩ t y) :
    (∃ left armed, LeftByBulk memory c ⟨m, token, .called⟩ t y left ∧
        Lost m c.bucket (c.bulkGone m) armed left) ∨
      Clean m c ∨ y.stage = .called ∨ ∃ rest p, y.stage = .bulk rest p := by
  induction h with
  | refl => exact .inr (.inr (.inl rfl))
  | cancel allowed => cases allowed
  | @step y z t a hrun hstep ih =>
    obtain ⟨hcourse, htoken⟩ := (onCourse_start hs c token).run hs hmax hrun
    obtain ⟨hnext, -⟩ := hcourse.step hs hmax hstep
    have hlive : y.token.isCancelled = false := by rw [htoken rfl]; exact live
    rcases ih with ⟨left, armed, hleft, hlost⟩ | hclean | hcalled | ⟨rest, p, hbulk⟩
    · exact .inl ⟨left, armed, hleft.step hstep, hlost⟩
    · exact .inr (.inl hclean)
    · cases hstep with
      | begin => exact .inr (.inr (.inr ⟨_, _, rfl⟩))
      | abort cancelled => simp [hlive] at cancelled
      | _ => cases hcalled
    · cases hstep with
      | bulk => exact .inr (.inr (.inr ⟨_, _, rfl⟩))
      | abort cancelled => simp [hlive] at cancelled
      | endBulk exhausted =>
        rcases hnext.between_or_clean with ⟨primary, armed, hstage, hlost⟩ | hclean
        · have hend := hrun.step (.endBulk exhausted)
          rw [hstage] at hend ⊢
          exact .inl ⟨_, armed, ⟨_, [], _, primary, (List.append_nil _).symm, hend, .refl _⟩, hlost⟩
        · exact .inr (.inl hclean)
      | _ => cases hbulk

/-- What a failed eviction of `m` leaves, and what its error says of it. -/
structure Accounted (m : Memory) (bucket : String) (target : Target) (Left : Memory → Prop)
    (e : Error) (after : KeyMap Bucket) : Prop where
  unharmed : Unharmed m bucket target after
  explained : ∀ b, m.buckets.find? bucket = some b → m.faults.failingListings ≤ 1 →
    ∃ b', after.find? bucket = some b' ∧ Explained m bucket target Left b b' e

/-- **Failure.** Whatever the order of its steps, a call that fails accounts for what it leaves. -/
theorem accounted_of_run {token : Token} {t : List Action} {y : State Memory} {e : Error}
    (hs : m.Sound) (hmax : c.limit ≤ Single.maxPermits) (live : token.isCancelled = false)
    (h : Run memory c false ⟨m, token, .called⟩ t y) (ha : y.stage = .answered (.failed e)) :
    Accounted m c.bucket c.target (LeftByBulk memory c ⟨m, token, .called⟩ t y) e
      y.store.buckets := by
  have hverdict := verdict_of_run hs hmax live h ha
  refine ⟨unharmed_of_verdict hs hverdict, ?_⟩
  intro b hb harmed
  have hlisting : c.interruption m (m.faults.failingListings - 1) = none :=
    (Call.interruption_eq_none_iff hb).2 (by omega)
  by_cases hdoomed : m.refused (c.doomed m) = []
  · exact (Clean.mk hlisting hdoomed).explained_of_verdict hs hb hverdict
  · rcases left_or_clean hs hmax live h with ⟨left, armed, hleft, hlost⟩ | hclean | hcalled |
      ⟨rest, p, hbulk⟩
    · exact explained_of_refused hs hb harmed hdoomed hleft hlost hverdict
    · exact absurd hclean.doomed hdoomed
    · rw [ha] at hcalled
      cases hcalled
    · rw [ha] at hbulk
      cases hbulk

end Eviction

namespace Session

open Eviction
open Store (Memory memory)

/-- **Failures of evictions.** A call that fails has deleted nothing but what it could delete in its
scope, and never a version of the marker. With at most one listing that breaks off, its error counts
what is left and what the bulk pass had left, or it is the refusal to delete the marker. The operation
of the client is such a call. -/
theorem evict_accounts (s : Session Memory) (reachable : s.store.Reachable)
    (live : s.client.token.isCancelled = false)
    (some_permit : 1 ≤ s.client.config.parallelism.toNat)
    (permits : s.client.config.parallelism.toNat ≤ Single.maxPermits) (bucket : String)
    (target : Target) :
    (∀ t y e, Run memory (s.call bucket target) false ⟨s.store, s.client.token, .called⟩ t y →
      y.stage = .answered (.failed e) →
      Accounted s.store bucket target
        (LeftByBulk memory (s.call bucket target) ⟨s.store, s.client.token, .called⟩ t y) e
        y.store.buckets) ∧
    ∀ e, (s.evict memory none bucket target).1 = .failed e → ∃ t y,
      Run memory (s.call bucket target) false ⟨s.store, s.client.token, .called⟩ t y ∧
      y.store = (s.evict memory none bucket target).2.store ∧ y.stage = .answered (.failed e) ∧
      Accounted s.store bucket target
        (LeftByBulk memory (s.call bucket target) ⟨s.store, s.client.token, .called⟩ t y) e
        (s.evict memory none bucket target).2.store.buckets := by
  have haccounted {t y e} (h : Run memory (s.call bucket target) false
      ⟨s.store, s.client.token, .called⟩ t y) (ha : y.stage = .answered (.failed e)) :=
    accounted_of_run reachable.sound permits live h ha
  constructor
  · intro t y e h ha
    exact haccounted h ha
  intro e he
  obtain ⟨t, hrun⟩ := s.run_evict none bucket target some_permit
  have hstage : Stage.answered (s.evict memory none bucket target).1 = .answered (.failed e) := by
    rw [he]
  exact ⟨t, _, hrun, rfl, hstage, haccounted hrun hstage⟩

/-- The volume, where one object cannot be deleted. -/
def guarded : Session Memory :=
  { volumeSession with store := { volumeStore with faults := { failingKeys := ["vol/a"] } } }

theorem guarded_reachable : guarded.store.Reachable :=
  .arm _ volumeStore_reachable

theorem evict_accounts_guarded : ∃ Left : Memory → Prop,
    (guarded.evict memory none "data" (.below "vol")).1 =
        .failed (.eviction (.bulkDelete "data" "vol/" 2) (.partialEviction "data" "vol/" 2 2)) ∧
      Accounted guarded.store "data" (.below "vol") Left
        (.eviction (.bulkDelete "data" "vol/" 2) (.partialEviction "data" "vol/" 2 2))
        (guarded.evict memory none "data" (.below "vol")).2.store.buckets := by
  have hfails : (guarded.evict memory none "data" (.below "vol")).1 =
      .failed (.eviction (.bulkDelete "data" "vol/" 2) (.partialEviction "data" "vol/" 2 2)) := by
    decide +kernel
  obtain ⟨t, y, -, -, -, haccounted⟩ :=
    (evict_accounts guarded guarded_reachable rfl (by decide) (by decide) "data" (.below "vol")).2 _
      hfails
  exact ⟨_, hfails, haccounted⟩

end Session

end ObjectVolume
