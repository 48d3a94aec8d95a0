import ObjectVolume.Config
import ObjectVolume.Proofs.Eviction.Failure
import ObjectVolume.Proofs.Store.Gauge
/-!
# Evictions that ask for too many permits

A valid configuration may allow for more removals at a time than there can be permits. Its evictions
die where the bulk pass fails, and only there (`evict_dies_iff`): the single pass dies before it lists
anything, so that nothing is gone but what the bulk pass has deleted. No other eviction dies.
-/
namespace ObjectVolume

namespace Eviction

open Store (Memory memory Bucket)
open Store.Memory (Lost)

/-! ## When the bulk pass fails -/

/-- The key has versions that are to be deleted by the passes. -/
structure Target.Dooms (target : Target) (b : Bucket) (key : String) : Prop where
  covered : target.Covers key
  other : target.marker ≠ some key
  stored : b.versionsOf key ≠ []

/-- The bulk pass over a target fails. -/
inductive BulkFails (m : Memory) (bucket : String) (target : Target) : Prop
  | missing (missing : m.buckets.find? bucket = none)
  /-- Its listing breaks off. -/
  | listing (armed : 0 < m.faults.failingListings)
  /-- A request fails as a whole. -/
  | request {b key} (found : m.buckets.find? bucket = some b) (dooms : target.Dooms b key)
      (unsupported : m.faults.bulk = .unsupported)
  /-- A version is refused. -/
  | refusal {b key} (found : m.buckets.find? bucket = some b) (dooms : target.Dooms b key)
      (refused : m.faults.bulk = .rejectAll ∨
        m.faults.bulk = .supported ∧ key ∈ m.faults.failingKeys)

variable {m m' : Memory} {c : Call} {x y : State Memory} {a : Action} {b : Bucket} {key : String}

theorem dooms_of_mem_doomed (hb : m.buckets.find? c.bucket = some b) {ref : ObjectRef}
    (h : ref ∈ c.doomed m) : c.target.Dooms b ref.key := by
  obtain ⟨hlisted, hmarker⟩ := Call.mem_doomed.1 h
  obtain ⟨hkey, v, hv, -⟩ := (mem_listed_iff hb).1 hlisted
  exact ⟨hkey, hmarker, List.ne_nil_of_mem hv⟩

theorem Target.Dooms.exists_mem_doomed (h : c.target.Dooms b key)
    (hb : m.buckets.find? c.bucket = some b) : ∃ ref ∈ c.doomed m, ref.key = key := by
  obtain ⟨v, hv⟩ := List.exists_mem_of_ne_nil _ h.stored
  exact ⟨⟨key, v.id⟩, Call.mem_doomed.2 ⟨(mem_listed_iff hb).2 ⟨h.covered, v, hv, rfl⟩, h.other⟩, rfl⟩

theorem BulkFails.not_clean (h : BulkFails m c.bucket c.target) : ¬ BulkClean m c := by
  intro hclean
  obtain ⟨hzero, b', hb'⟩ := Call.interruption_eq_none hclean.listing
  cases h with
  | missing missing => simp [missing] at hb'
  | listing armed => omega
  | request found dooms unsupported =>
    obtain ⟨ref, hm, -⟩ := dooms.exists_mem_doomed found
    have hrequests := hclean.requests
    simp [Memory.bulkError?, unsupported, List.ne_nil_of_mem hm] at hrequests
  | refusal found dooms refused =>
    obtain ⟨ref, hm, rfl⟩ := dooms.exists_mem_doomed found
    have hobjects := hclean.objects
    rcases refused with hreject | ⟨hsupported, hfails⟩
    · simp [Memory.bulkRefused, hreject, List.ne_nil_of_mem hm] at hobjects
    · have hrefused : ref ∈ m.refused (c.doomed m) :=
        Memory.mem_refused.2 ⟨hm, by simpa [Memory.refuses] using hfails⟩
      simp [Memory.bulkRefused, hsupported, List.ne_nil_of_mem hrefused] at hobjects

theorem bulkClean_of_not_fails (h : ¬ BulkFails m c.bucket c.target) : BulkClean m c := by
  obtain ⟨b, hb⟩ : ∃ b, m.buckets.find? c.bucket = some b := by
    cases hfind : m.buckets.find? c.bucket with
    | none => exact absurd (.missing hfind) h
    | some b => exact ⟨b, rfl⟩
  have hzero : m.faults.failingListings = 0 :=
    Nat.eq_zero_of_not_pos fun harmed => h (.listing harmed)
  refine ⟨(Call.interruption_eq_none_iff hb).2 hzero, ?_, ?_⟩
  · unfold Memory.bulkError?
    rw [if_neg]
    rintro ⟨hunsupported, hne⟩
    obtain ⟨ref, hm⟩ := List.exists_mem_of_ne_nil _ hne
    exact h (.request hb (dooms_of_mem_doomed hb hm) hunsupported)
  · unfold Memory.bulkRefused
    cases hbulk : m.faults.bulk with
    | unsupported => rfl
    | supported =>
      refine List.length_eq_zero_iff.2 (List.eq_nil_iff_forall_not_mem.2 fun ref hm => ?_)
      obtain ⟨hdoomed, hrefuses⟩ := Memory.mem_refused.1 hm
      exact h (.refusal hb (dooms_of_mem_doomed hb hdoomed)
        (.inr ⟨hbulk, by simpa [Memory.refuses] using hrefuses⟩))
    | rejectAll =>
      refine List.length_eq_zero_iff.2 (List.eq_nil_iff_forall_not_mem.2 fun ref hm => ?_)
      exact h (.refusal hb (dooms_of_mem_doomed hb hm) (.inl hbulk))

theorem bulkFails_iff : BulkFails m c.bucket c.target ↔ ¬ BulkClean m c :=
  ⟨BulkFails.not_clean, fun h => Classical.byContradiction fun hf => h (bulkClean_of_not_fails hf)⟩

/-! ## A call that asks for too many permits -/

/-- One listing has been made, and no single removal nor the removal of a bucket has been asked for. -/
structure OneListing (m m' : Memory) : Prop where
  listings : m'.counters.listings = m.counters.listings + 1
  removals : m'.counters.removals = m.counters.removals
  bucketRemovals : m'.counters.bucketRemovals = m.counters.bucketRemovals

theorem oneListing_list (m : Memory) (c : Call) :
    OneListing m (memory.listObjects c.bucket c.scope m).2 := by
  have hcounters : (memory.listObjects c.bucket c.scope m).2.counters = _ :=
    Memory.counters_list m c.bucket c.scope
  constructor <;> rw [hcounters]

theorem OneListing.takeBatch (h : OneListing m m') (name : String) (refs : List ObjectRef) :
    OneListing m (m'.takeBatch name refs).2 := by
  have hcounters := Memory.counters_takeBatch m' name refs
  constructor
  · rw [hcounters]
    exact h.listings
  · rw [hcounters]
    exact h.removals
  · rw [hcounters]
    exact h.bucketRemovals

theorem OneListing.step_bulk {x y : Underway Memory Bulk.Pass} (h : OneListing m x.store)
    (hstep : Bulk.Step memory c.request c.marker x a y) : OneListing m y.store := by
  cases hstep with
  | pull => exact h.takeBatch _ _
  | _ => exact h

/-- A pass was clean, or the call has answered. -/
def Stage.IsLast : Stage → Prop
  | removing _ | awaiting _ _ | closing | answered _ => True
  | _ => False

/-- What holds of a call on the store `m` that asks for too many permits, stage by stage. -/
inductive Overtaxed (m : Memory) (c : Call) : State Memory → Prop
  | called {token} : Overtaxed m c ⟨m, token, .called⟩
  | bulk {m' token rest p} (course : OnCourse m c ⟨m', token, .bulk rest p⟩)
      (listed : OneListing m m') : Overtaxed m c ⟨m', token, .bulk rest p⟩
  | between {m' token primary armed} (failed : ¬ BulkClean m c) (listed : OneListing m m')
      (lost : Lost m c.bucket (c.bulkGone m) armed m') : Overtaxed m c ⟨m', token, .between primary⟩
  | died {m' token message armed} (failed : ¬ BulkClean m c) (listed : OneListing m m')
      (lost : Lost m c.bucket (c.bulkGone m) armed m') :
      Overtaxed m c ⟨m', token, .answered (.died message)⟩
  | last {z : State Memory} (clean : BulkClean m c) (course : OnCourse m c z)
      (last : z.stage.IsLast) : Overtaxed m c z

theorem isLast_afterPass (held : List ObjectRef) : (c.afterPass held).IsLast := by
  unfold Call.afterPass
  cases c.target <;> trivial

theorem isLast_afterRemoval (ref : ObjectRef) (held : List ObjectRef) (reply : Store.Reply Unit) :
    (afterRemoval ref held reply).IsLast := by
  unfold afterRemoval
  split
  · split <;> trivial
  · split <;> trivial
  all_goals trivial

theorem isLast_afterClosing (reply : Store.Reply Unit) : (afterClosing reply).IsLast := by
  unfold afterClosing
  split <;> trivial

/-- What goes last stays last. -/
theorem Step.isLast (h : Step memory c x a y) (hx : x.stage.IsLast) : y.stage.IsLast := by
  cases h with
  | finishMarker => exact isLast_afterRemoval _ _ _
  | removeBucket => exact isLast_afterClosing _
  | noMarker | startMarker | abort => trivial
  | _ => exact hx.elim

/-- **A step of a call that asks for too many permits.** -/
theorem Overtaxed.step (hs : m.Sound) (exceeds : Single.maxPermits < c.limit) (h : Overtaxed m c x)
    (live : x.token.isCancelled = false) (hstep : Step memory c x a y) :
    Overtaxed m c y ∧ ¬ a.Stalls ∧ y.token = x.token := by
  cases h with
  | called =>
    cases hstep with
    | begin => exact ⟨.bulk (.begin (Lost.refl hs c.bucket)) (oneListing_list m c), id, rfl⟩
    | abort cancelled => simp [live] at cancelled
  | @bulk m' token rest p course listed =>
    cases hstep with
    | bulk step =>
      obtain ⟨hcourse, hgoes, htoken⟩ := course.step_bulk hs step
      exact ⟨.bulk hcourse (listed.step_bulk step), hgoes, htoken⟩
    | endBulk exhausted =>
      refine ⟨?_, id, rfl⟩
      have hnext : OnCourse m c ⟨m', token, c.afterBulk p.outcome⟩ := course.endBulk hs exhausted
      show Overtaxed m c ⟨m', token, c.afterBulk p.outcome⟩
      obtain ⟨lost, ⟨hclean, hcompleted⟩ | ⟨hfailed, hbetween⟩⟩ := course.outcome_of_bulk exhausted
      · rw [hcompleted] at hnext ⊢
        exact .last hclean hnext (isLast_afterPass _)
      · rw [hbetween]
        exact .between hfailed listed lost
    | abort cancelled => simp [live] at cancelled
  | between failed listed lost =>
    cases hstep with
    | fallBack fits => exact absurd fits (Nat.not_le_of_gt exceeds)
    | tooManyPermits => exact ⟨.died failed listed lost, id, rfl⟩
    | abort cancelled => simp [live] at cancelled
  | died => exact absurd rfl (hstep.stage_ne_answered _)
  | last clean course last =>
    have hfits : ∀ primary, x.stage = .between primary → c.limit ≤ Single.maxPermits := by
      intro primary hstage
      rw [hstage] at last
      exact last.elim
    obtain ⟨hcourse, hgoes, htoken⟩ := course.step_of_fits hs hfits hstep
    exact ⟨.last clean hcourse (hstep.isLast last), hgoes, htoken⟩

theorem Overtaxed.permits (h : Overtaxed m c x) : x.stage.Permits c.limit := by
  cases h with
  | last _ course _ => exact course.permits
  | _ => trivial

/-! ## Answers -/

/-- What is left of a store by a call that dies for want of permits: nothing is gone but what the bulk
pass has deleted. -/
structure Unbegun (m : Memory) (bucket : String) (target : Target) (m' : Memory) : Prop where
  listed : OneListing m m'
  kept : ∀ b, m.buckets.find? bucket = some b → ∃ b', m'.buckets.find? bucket = some b' ∧
    ∀ key, target.marker = some key → b'.versionsOf key = b.versionsOf key
  unharmed : Unharmed m bucket target m'.buckets

theorem unbegun_of_lost {armed : Nat} (hs : m.Sound) (listed : OneListing m m')
    (lost : Lost m c.bucket (c.bulkGone m) armed m') : Unbegun m c.bucket c.target m' := by
  have hunharmed : Unharmed m c.bucket c.target m'.buckets := by
    rw [lost.buckets]
    exact unharmed_without hs Call.bulkGone_subset
  refine ⟨listed, ?_, hunharmed⟩
  intro b hb
  obtain ⟨b', hb', -⟩ := hunharmed.spared.kept b hb
  refine ⟨b', hb', fun key hkey => ?_⟩
  rw [Bucket.versionsOf, Bucket.versionsOf, hunharmed.guarded b b' hb hb' key (.inr hkey)]

theorem verdict_ne_died (c : Call) (m : Memory) (message : String) :
    (c.verdict m).1 ≠ .died message := by
  unfold Call.verdict Call.lastVerdict
  split
  · simp
  split
  · split <;> simp
  · simp

theorem Overtaxed.answer {answer : Outcome Unit} (hs : m.Sound) (h : Overtaxed m c x) (ha : x.stage = .answered answer) :
    ((∃ message, answer = .died message) ↔ ¬ BulkClean m c) ∧
      ((∃ message, answer = .died message) → Unbegun m c.bucket c.target x.store) := by
  cases h with
  | called | bulk | between => cases ha
  | died failed listed lost =>
    cases ha
    exact ⟨iff_of_true ⟨_, rfl⟩ failed, fun _ => unbegun_of_lost hs listed lost⟩
  | last clean course last =>
    have hlives : ¬ ∃ message, answer = .died message := by
      rintro ⟨message, rfl⟩
      rcases course.answer ha with hverdict | ⟨hcancelled, -⟩
      · exact verdict_ne_died c m message (congrArg Prod.fst hverdict).symm
      · cases hcancelled
    exact ⟨iff_of_false hlives fun hfailed => hfailed clean, fun hdied => absurd hdied hlives⟩

/-- How a call that is not cancelled may end. -/
def MayDie (m : Memory) (c : Call) (answer : Outcome Unit) (m' : Memory) : Prop :=
  ((∃ message, answer = .died message) ↔
    Single.maxPermits < c.limit ∧ BulkFails m c.bucket c.target) ∧
  ((∃ message, answer = .died message) → Unbegun m c.bucket c.target m')

/-- **Death.** A call that is not cancelled comes to an end, whatever the order of its steps, and dies
exactly if it asks for too many permits and its bulk pass fails. -/
theorem ends_mayDie {token : Token} (hs : m.Sound) (hlimit : 1 ≤ c.limit)
    (live : token.isCancelled = false) : Ends memory c (MayDie m c) ⟨m, token, .called⟩ := by
  by_cases hmax : c.limit ≤ Single.maxPermits
  · refine (ends_with_verdict hs hmax hlimit live).imp fun answer m' hverdict => ?_
    have hlives : ¬ ∃ message, answer = .died message := by
      rintro ⟨message, rfl⟩
      exact verdict_ne_died c m message (congrArg Prod.fst hverdict).symm
    exact ⟨iff_of_false hlives fun h => absurd hmax (Nat.not_le_of_gt h.1),
      fun hdied => absurd hdied hlives⟩
  · have hexceeds := Nat.lt_of_not_le hmax
    refine Ends.of_invariant nearer_wf (fun y => y.stage.left)
      (fun y => Overtaxed m c y ∧ y.token = token) ⟨.called, rfl⟩ ?_ ?_ ?_
    · intro y a z ⟨hy, htoken⟩ hstep
      obtain ⟨hz, hgoes, hsame⟩ := hy.step hs hexceeds (htoken ▸ live) hstep
      exact ⟨⟨hz, hsame.trans htoken⟩, hstep.nearer hgoes⟩
    · intro y ⟨hy, _⟩ ha
      exact exists_step hlimit hy.permits ha
    · intro y answer ⟨hy, _⟩ ha
      obtain ⟨hiff, hleft⟩ := hy.answer hs ha
      exact ⟨hiff.trans (bulkFails_iff.symm.trans (and_iff_right hexceeds).symm), hleft⟩

end Eviction

namespace Session

open Eviction
open Store (Memory memory)

/-- **Evictions that die.** An eviction with a valid configuration that nothing cancels comes to an
end, whatever the order of its steps, and dies exactly if more removals are allowed for at a time than
a semaphore has permits and the bulk pass fails. One listing has been made then, no removal has been
asked for, and the bucket is still there with all versions of the marker. The operation of the client
does the same. -/
theorem evict_dies_iff (s : Session Memory) (reachable : s.store.Reachable)
    (live : s.client.token.isCancelled = false) (valid : s.client.config.validate = .ok ())
    (bucket : String) (target : Target) :
    Ends memory (s.call bucket target) (fun answer m =>
        ((∃ message, answer = .died message) ↔
          Nat.pow 2 61 - 1 < s.client.config.parallelism.toNat ∧ BulkFails s.store bucket target) ∧
        ((∃ message, answer = .died message) → Unbegun s.store bucket target m))
      ⟨s.store, s.client.token, .called⟩ ∧
    ((∃ message, (s.evict memory none bucket target).1 = .died message) ↔
      Nat.pow 2 61 - 1 < s.client.config.parallelism.toNat ∧ BulkFails s.store bucket target) ∧
    ((∃ message, (s.evict memory none bucket target).1 = .died message) →
      Unbegun s.store bucket target (s.evict memory none bucket target).2.store) := by
  have hlimit := Config.parallelism_pos valid
  have hends := ends_mayDie (c := s.call bucket target) reachable.sound hlimit live
  obtain ⟨t, hrun⟩ := s.run_evict none bucket target hlimit
  exact ⟨hends, (hends.run hrun).holds rfl⟩

/-- A client that allows for more removals than there can be permits, of a store without bulk
deletions. -/
def greedy : Session Memory where
  store := { volumeStore with faults := { bulk := .unsupported } }
  client :=
    ⟨{ credentials := ⟨"key", "secret", none⟩, region := "", endpoint := "http://[::1]",
       parallelism := 2305843009213693952 }, .fresh⟩

theorem evict_dies_greedy :
    (∃ message, (greedy.evict memory none "data" (.below "vol")).1 = .died message) ∧
      Unbegun greedy.store "data" (.below "vol")
        (greedy.evict memory none "data" (.below "vol")).2.store := by
  have hreachable : greedy.store.Reachable := .arm { bulk := .unsupported } volumeStore_reachable
  have hvalid : greedy.client.config.validate = .ok () := rfl
  have hexceeds : Nat.pow 2 61 - 1 < greedy.client.config.parallelism.toNat := by decide
  obtain ⟨-, hiff, hunbegun⟩ := evict_dies_iff greedy hreachable rfl hvalid "data" (.below "vol")
  have hversions : (greedy.store.buckets.find? "data").map (fun b => (b.versionsOf "vol/a").length) =
      some 2 := by decide
  obtain ⟨b, hb, hlength⟩ := Option.map_eq_some_iff.1 hversions
  have hstored : b.versionsOf "vol/a" ≠ [] := by
    intro hnil
    simp [hnil] at hlength
  have hdooms : (Target.below "vol").Dooms b "vol/a" := ⟨by decide, by decide, hstored⟩
  have hdied := hiff.2 ⟨hexceeds, .request hb hdooms rfl⟩
  exact ⟨hdied, hunbegun hdied⟩

end Session

end ObjectVolume
