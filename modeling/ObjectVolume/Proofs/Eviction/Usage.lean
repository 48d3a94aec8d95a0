import ObjectVolume.Proofs.Eviction.Contents
import ObjectVolume.Proofs.Store.Gauge
/-!
# Removals in flight over time

A store in memory is used by one client after the other: `Usage`. What is under way may be left at any
moment. A removal that is dropped in this way has started and will never end, so that the store takes
it to be in flight from then on: its count is that of the removals in progress and of all those that
were dropped before (`Usage.removals_counted`). As long as none is dropped the count is right, and the
greatest count is within what the clients are allowed.
-/
namespace ObjectVolume.Eviction

open Store (Memory memory Reply)

/-! ## Uses of a store -/

/-- The removals of single objects that are in progress at a stage. -/
def Stage.inProgress : Stage → Nat
  | single _ _ p => p.running.length
  | awaiting _ _ => 1
  | _ => 0

/-- The removals that a step at a stage drops: all that are in progress if the call is aborted. -/
def Action.dropped (stage : Stage) : Action → Nat
  | abort => stage.inProgress
  | _ => 0

/-- What is under way at a store. -/
inductive Activity where
  | idle
  /-- The removal of a single object. -/
  | removal (bucket : String) (ref : ObjectRef)
  /-- The eviction that a client with this token has called for. -/
  | eviction (c : Call) (token : Token) (stage : Stage)

def Activity.inProgress : Activity → Nat
  | idle => 0
  | removal _ _ => 1
  | eviction _ _ stage => stage.inProgress

/-- What comes of an empty store when it is used for one activity after the other. `limits` says how
many removals each of them may have in progress at once, and `dropped` how many removals were
dropped. -/
inductive Usage : List Nat → Nat → Memory → Activity → Prop
  | empty : Usage [] 0 {} .idle
  /-- Other calls may come at any moment. -/
  | quiet {limits dropped m m' activity} : Usage limits dropped m activity → m.Quiet m' →
      Usage limits dropped m' activity
  | startRemoval {limits dropped m} (bucket : String) (ref : ObjectRef) :
      Usage limits dropped m .idle → Usage (1 :: limits) dropped m.startRemoval (.removal bucket ref)
  | endRemoval {limits dropped m bucket ref} : Usage limits dropped m (.removal bucket ref) →
      Usage limits dropped (m.endRemoval bucket ref).2 .idle
  | call {limits dropped m} (c : Call) (token : Token) (some_permit : 1 ≤ c.limit) :
      Usage limits dropped m .idle → Usage (c.limit :: limits) dropped m (.eviction c token .called)
  | step {limits dropped m c token stage a y} : Usage limits dropped m (.eviction c token stage) →
      Step memory c ⟨m, token, stage⟩ a y →
      Usage limits (dropped + a.dropped stage) y.store (.eviction c y.token y.stage)
  | cancel {limits dropped m c token token' stage} : Usage limits dropped m (.eviction c token stage) →
      token.Cancels token' → Usage limits dropped m (.eviction c token' stage)
  /-- Whatever is under way is left, whether it has ended or not. -/
  | leave {limits dropped m activity} : Usage limits dropped m activity →
      Usage limits (dropped + activity.inProgress) m .idle

/-- The greatest of these numbers. -/
def greatest (limits : List Nat) : Nat :=
  limits.foldr max 0

theorem le_greatest {limits : List Nat} {n : Nat} (h : n ∈ limits) : n ≤ greatest limits := by
  induction limits with
  | nil => cases h
  | cons limit limits ih =>
    rcases List.mem_cons.1 h with rfl | h
    · exact Nat.le_max_left _ _
    · exact Nat.le_trans (ih h) (Nat.le_max_right _ _)

/-! ## Stages -/

/-- The single pass of the call keeps to its permits, and goes through a listing in memory. -/
def Stage.Permitted (c : Call) : Stage → Prop
  | single _ rest p => Calm rest ∧ ∃ events ended, Single.Flow c.limit c.marker events ended rest p
  | _ => True

/-- At this stage the call has no removals of single objects. -/
def Stage.Resting : Stage → Prop
  | single _ _ _ | awaiting _ _ => False
  | _ => True

theorem Stage.Resting.inProgress {stage : Stage} (h : stage.Resting) : stage.inProgress = 0 := by
  cases stage with
  | single => exact h.elim
  | awaiting => exact h.elim
  | _ => rfl

theorem Stage.Resting.permitted {stage : Stage} (h : stage.Resting) (c : Call) :
    stage.Permitted c := by
  cases stage with
  | single => exact h.elim
  | _ => trivial

theorem resting_afterPass (c : Call) (held : List ObjectRef) : (c.afterPass held).Resting := by
  unfold Call.afterPass
  split <;> trivial

theorem resting_afterBulk (c : Call) (outcome : Bulk.Outcome) : (c.afterBulk outcome).Resting := by
  cases outcome with
  | completed held => exact resting_afterPass c held
  | _ => trivial

theorem resting_afterSingle (c : Call) (primary : Error) (p : Single.Pass) :
    (c.afterSingle primary p).Resting := by
  unfold Call.afterSingle
  split
  · trivial
  · split
    · exact resting_afterPass c p.held
    · trivial

theorem resting_afterRemoval (ref : ObjectRef) (held : List ObjectRef)
    (r : Except StoreProblem Unit) : (afterRemoval ref held (.ofExcept r)).Resting := by
  cases r with
  | error => trivial
  | ok =>
    change (if held = [] then Stage.answered (.done ()) else .removing held).Resting
    split <;> trivial

theorem resting_afterClosing (r : Except StoreProblem Unit) :
    (afterClosing (.ofExcept r)).Resting := by
  cases r <;> trivial

/-! ## The count -/

/-- The store counts the removals in progress and those dropped, and has never counted more than
`bound` beside the latter. -/
structure Gauged (bound inProgress dropped : Nat) (m : Memory) : Prop where
  inFlight : m.counters.inFlight = inProgress + dropped
  maxInFlight : m.counters.maxInFlight ≤ bound + dropped

variable {bound n dropped : Nat} {m m' : Memory}

theorem Gauged.keep (h : Gauged bound n dropped m) (hgauge : m'.gauge = m.gauge) :
    Gauged bound n dropped m' := by
  obtain ⟨inFlight, maxInFlight⟩ := h
  obtain ⟨hin, hmax⟩ := Prod.mk.inj hgauge
  exact ⟨by omega, by omega⟩

/-- All removals in progress are dropped. -/
theorem Gauged.drop (h : Gauged bound n dropped m) : Gauged bound 0 (dropped + n) m := by
  obtain ⟨inFlight, maxInFlight⟩ := h
  exact ⟨by omega, by omega⟩

theorem Gauged.startRemoval (h : Gauged bound n dropped m) (fits : n + 1 ≤ bound) :
    Gauged bound (n + 1) dropped m.startRemoval := by
  obtain ⟨inFlight, maxInFlight⟩ := h
  obtain ⟨hin, hmax⟩ := Prod.mk.inj m.gauge_startRemoval
  exact ⟨by omega, by omega⟩

theorem Gauged.endRemoval (h : Gauged bound (n + 1) dropped m) (name : String) (ref : ObjectRef) :
    Gauged bound n dropped (m.endRemoval name ref).2 := by
  obtain ⟨inFlight, maxInFlight⟩ := h
  obtain ⟨hin, hmax⟩ := Prod.mk.inj (m.gauge_endRemoval name ref)
  exact ⟨by omega, by omega⟩

theorem Gauged.mono {bound' : Nat} (h : Gauged bound n dropped m) (hle : bound ≤ bound') :
    Gauged bound' n dropped m :=
  ⟨h.inFlight, Nat.le_trans h.maxInFlight (by omega)⟩

variable {c : Call} {a : Action}

/-- The removals of a single pass are counted as they start and end. -/
theorem Single.Step.gauged {bucket : String} {marker : Option String} {limit : Nat}
    {events : List Store.Event} {ended : List (ObjectRef × Single.Ending)}
    {x y : Underway Memory Single.Pass} (h : Single.Step memory bucket marker x a y)
    (hf : Single.Flow limit marker events ended x.rest x.pass) (hle : limit ≤ bound)
    (hg : Gauged bound x.pass.running.length dropped x.store) :
    Gauged bound y.pass.running.length dropped y.store := by
  cases h with
  | @start s token rest p ref dispatched =>
    have hpermits : p.free + (p.dispatched.length + p.running.length) = limit := hf.permits
    have hdispatched := List.length_pos_of_mem dispatched
    have hlength : (p.launch ref).running.length = p.running.length + 1 := by
      simp [Single.Pass.launch]
    rw [hlength]
    refine hg.startRemoval ?_
    change p.running.length + 1 ≤ bound
    omega
  | @finish s token rest p ending ref running ends =>
    have hlength : (p.settle ref ending).running.length + 1 = p.running.length := by
      rw [(Single.settle_balanced running ending).1, List.length_erase_of_mem running]
      exact Nat.sub_add_cancel (List.length_pos_of_mem running)
    exact Gauged.endRemoval (hlength ▸ hg) bucket ref
  | @stall s token rest p ref running stalls =>
    -- the removals of a store in memory do not stall
    change (Reply.ofExcept (s.endRemoval bucket ref).1).ending = none at stalls
    cases hr : (s.endRemoval bucket ref).1 <;> simp [hr, Reply.ofExcept, Reply.ending] at stalls
  | _ => exact hg

theorem Bulk.Step.gauge {request : Store.BulkRequest} {marker : Option String}
    {x y : Underway Memory Bulk.Pass} (h : Bulk.Step memory request marker x a y) :
    y.store.gauge = x.store.gauge := by
  cases h with
  | pull => exact Memory.gauge_takeBatch _ _ _
  | _ => rfl

theorem Bulk.Step.dropped_eq_zero {request : Store.BulkRequest} {marker : Option String}
    {x y : Underway Memory Bulk.Pass} (h : Bulk.Step memory request marker x a y) (stage : Stage) :
    a.dropped stage = 0 := by
  cases h <;> rfl

theorem Single.Step.dropped_eq_zero {bucket : String} {marker : Option String}
    {x y : Underway Memory Single.Pass} (h : Single.Step memory bucket marker x a y)
    (stage : Stage) : a.dropped stage = 0 := by
  cases h <;> rfl

theorem Single.Step.calm {bucket : String} {marker : Option String}
    {x y : Underway Memory Single.Pass} (h : Single.Step memory bucket marker x a y)
    (calm : Calm x.rest) : Calm y.rest := by
  have htail {e : Store.Event} {rest : List Store.Event} (calm : Calm (e :: rest)) : Calm rest :=
    fun e' he => calm e' (List.mem_cons_of_mem _ he)
  cases h with
  | pause => exact htail calm
  | @readCancel s token stalls rest p => exact absurd rfl ((calm _ List.mem_cons_self).2 stalls)
  | hold => exact htail calm
  | dispatch => exact htail calm
  | breakOff => simp [Calm]
  | _ => exact calm

/-- **One step** of a call keeps the count, but for the removals that are dropped in it. -/
theorem Step.gauged {x y : State Memory} (h : Step memory c x a y) (some_permit : 1 ≤ c.limit)
    (hle : c.limit ≤ bound) (permitted : x.stage.Permitted c)
    (hg : Gauged bound x.stage.inProgress dropped x.store) : y.stage.Permitted c ∧
      Gauged bound y.stage.inProgress (dropped + a.dropped x.stage) y.store := by
  -- a step to a stage without removals
  have hrest {s : Memory} {k : Nat} {stage : Stage} (resting : stage.Resting)
      (hkept : Gauged bound 0 (dropped + k) s) :
      stage.Permitted c ∧ Gauged bound stage.inProgress (dropped + k) s :=
    ⟨resting.permitted c, resting.inProgress.symm ▸ hkept⟩
  cases h with
  | begin => exact hrest trivial (hg.keep (Memory.gauge_list _ _ _))
  | @bulk x y a step =>
    rw [step.dropped_eq_zero]
    exact hrest trivial (hg.keep step.gauge)
  | endBulk => exact hrest (resting_afterBulk c _) hg
  | fallBack =>
    exact ⟨⟨calm_list _ _ _, _, [], Single.flow_start _ _ _⟩, hg.keep (Memory.gauge_list _ _ _)⟩
  | tooManyPermits => exact hrest trivial hg
  | single step =>
    obtain ⟨calm, events, ended, flow⟩ := permitted
    rw [step.dropped_eq_zero]
    exact ⟨⟨step.calm calm, events, _, step.flow flow⟩, step.gauged flow hle hg⟩
  | @die s token primary message =>
    exact absurd rfl ((permitted.1 _ List.mem_cons_self).1 message)
  | @endSingle s token primary p idle =>
    have hnone : p.running.length = 0 := by
      unfold Single.Pass.inFlight at idle
      omega
    exact hrest (resting_afterSingle c primary _) (hnone ▸ hg)
  | noMarker => exact hrest trivial hg
  | startMarker => exact ⟨trivial, hg.startRemoval (Nat.le_trans some_permit hle)⟩
  | @finishMarker s token ref held =>
    exact hrest (resting_afterRemoval ref held _) (hg.endRemoval c.bucket ref)
  | removeBucket =>
    exact hrest (resting_afterClosing _) (hg.keep (Memory.gauge_removeBucket _ _))
  | abort => exact hrest trivial hg.drop

/-! ## The count over time -/

/-- What is under way keeps to one of the limits. -/
def Activity.Permitted (limits : List Nat) : Activity → Prop
  | idle => True
  | removal _ _ => 1 ∈ limits
  | eviction c _ stage => c.limit ∈ limits ∧ 1 ≤ c.limit ∧ stage.Permitted c

theorem Activity.Permitted.cons {limits : List Nat} {activity : Activity}
    (h : activity.Permitted limits) (limit : Nat) : activity.Permitted (limit :: limits) := by
  cases activity with
  | idle => trivial
  | removal bucket ref => exact List.mem_cons_of_mem _ h
  | eviction c token stage => exact ⟨List.mem_cons_of_mem _ h.1, h.2⟩

variable {limits : List Nat} {activity : Activity}

theorem greatest_cons_le (limit : Nat) (limits : List Nat) :
    greatest limits ≤ greatest (limit :: limits) :=
  Nat.le_max_right _ _

theorem Usage.permitted_gauged (h : Usage limits dropped m activity) : activity.Permitted limits ∧
    Gauged (greatest limits) activity.inProgress dropped m := by
  induction h with
  | empty => exact ⟨trivial, rfl, Nat.le_refl 0⟩
  | quiet _ hquiet ih => exact ⟨ih.1, ih.2.keep hquiet.gauge⟩
  | startRemoval bucket ref _ ih =>
    exact ⟨List.mem_cons_self, (ih.2.mono (greatest_cons_le _ _)).startRemoval (Nat.le_max_left _ _)⟩
  | endRemoval _ ih => exact ⟨trivial, ih.2.endRemoval _ _⟩
  | call c token some_permit _ ih =>
    exact ⟨⟨List.mem_cons_self, some_permit, trivial⟩, ih.2.mono (greatest_cons_le _ _)⟩
  | step _ hs ih =>
    obtain ⟨⟨hlimit, some_permit, permitted⟩, gauged⟩ := ih
    obtain ⟨permitted, gauged⟩ := hs.gauged some_permit (le_greatest hlimit) permitted gauged
    exact ⟨⟨hlimit, some_permit, permitted⟩, gauged⟩
  | cancel _ _ ih => exact ih
  | leave _ ih => exact ⟨trivial, ih.2.drop⟩

/-- Removals are dropped only in a step that answers the call as cancelled. -/
theorem Step.cancelled_of_dropped {x y : State Memory} (h : Step memory c x a y)
    (hd : a.dropped x.stage ≠ 0) : y.stage = .answered (.failed .cancelled) := by
  cases h with
  | abort => rfl
  | bulk step => exact absurd (step.dropped_eq_zero _) hd
  | single step => exact absurd (step.dropped_eq_zero _) hd
  | _ => exact absurd rfl hd

/-- A run of a call uses the store, and drops removals only if it ends as cancelled. -/
theorem Usage.run {outside : Bool} {x y : State Memory} {t : List Action}
    (hx : Usage limits dropped x.store (.eviction c x.token x.stage))
    (h : Run memory c outside x t y) :
    ∃ lost, Usage limits (dropped + lost) y.store (.eviction c y.token y.stage) ∧
      (lost ≠ 0 → y.stage = .answered (.failed .cancelled)) := by
  induction h with
  | refl => exact ⟨0, hx, by simp⟩
  | @step y z t a _ hs ih =>
    obtain ⟨lost, usage, cancelled⟩ := ih
    have hnone : lost = 0 := Decidable.byContradiction fun hlost =>
      hs.stage_ne_answered _ (cancelled hlost)
    subst hnone
    exact ⟨a.dropped y.stage, usage.step hs, hs.cancelled_of_dropped⟩
  | cancel _ _ hc ih =>
    obtain ⟨lost, usage, cancelled⟩ := ih
    exact ⟨lost, usage.cancel hc, cancelled⟩

/-- What a client does to evict a target uses the store, and drops removals only if it is cancelled. -/
theorem Usage.evict {s : Session Memory} (h : Usage limits dropped s.store .idle)
    (valid : s.client.config.validate = .ok ()) (alarm : Option Moment) (bucket : String)
    (target : Target) : ∃ lost, Usage (s.client.config.parallelism.toNat :: limits) (dropped + lost)
        (s.evict memory alarm bucket target).2.store .idle ∧
      (lost ≠ 0 → (s.evict memory alarm bucket target).1 = .failed .cancelled) := by
  have some_permit := Config.parallelism_pos valid
  obtain ⟨t, hrun⟩ := s.run_evict (S := memory) alarm bucket target some_permit
  obtain ⟨lost, usage, cancelled⟩ :=
    Usage.run (h.call (s.call bucket target) s.client.token some_permit) hrun
  exact ⟨lost, usage.leave, fun hlost => Stage.answered.inj (cancelled hlost)⟩

/-- **Removals in flight.** However a store has been used, it takes the removals in progress and those
that were dropped to be in flight, and beside the latter it has never counted more than a client was
allowed. What a client does to evict a target is such a use, and drops removals only if it is
cancelled. -/
theorem Usage.removals_counted (h : Usage limits dropped m activity) :
    m.counters.inFlight = activity.inProgress + dropped ∧
      m.counters.maxInFlight ≤ greatest limits + dropped ∧
      (activity = .idle → ∀ client : Client, client.config.validate = .ok () →
        ∀ alarm bucket target, ∃ lost,
          Usage (client.config.parallelism.toNat :: limits) (dropped + lost)
            ((⟨m, client⟩ : Session Memory).evict memory alarm bucket target).2.store .idle ∧
          (lost ≠ 0 → ((⟨m, client⟩ : Session Memory).evict memory alarm bucket target).1 =
            .failed .cancelled)) := by
  obtain ⟨-, inFlight, maxInFlight⟩ := h.permitted_gauged
  refine ⟨inFlight, maxInFlight, ?_⟩
  rintro rfl client valid alarm bucket target
  exact h.evict (s := ⟨m, client⟩) valid alarm bucket target

/-- A store with one object, where bulk deletions do not work and a removal takes its time. -/
def slowStore : Memory :=
  { ({} : Memory).seed "b" ["k"] with faults := { bulk := .unsupported, removalDelay := 10 } }

theorem slowStore_usage : Usage [] 0 slowStore .idle :=
  (Usage.empty.quiet (.seed _ _ _)).quiet (.arm _ _)

/-- A client that is allowed one removal at once. -/
def carefulClient : Client :=
  ⟨{ credentials := ⟨"key", "secret", none⟩, region := "", endpoint := "http://[::1]",
     parallelism := 1 }, .fresh⟩

theorem carefulClient_valid : carefulClient.config.validate = .ok () := rfl

/-- Its eviction of the bucket. The alarm, if any, comes during the removal. -/
def slowEviction (alarm : Option Moment) : Outcome Unit × Session Memory :=
  (⟨slowStore, carefulClient⟩ : Session Memory).evict memory alarm "b" .bucket

theorem removals_counted_slow : (slowEviction none).2.store.counters.inFlight = 0 ∧
    (slowEviction none).2.store.counters.maxInFlight ≤ 1 := by
  have hdone : (slowEviction none).1 = .done () := by decide +kernel
  obtain ⟨-, -, hevict⟩ := Usage.removals_counted slowStore_usage
  obtain ⟨lost, usage, hlost⟩ := hevict rfl carefulClient carefulClient_valid none "b" .bucket
  have hnone : lost = 0 := Decidable.byContradiction fun h => by
    cases hdone.symm.trans (hlost h)
  subst hnone
  obtain ⟨hinFlight, hmaxInFlight, -⟩ := Usage.removals_counted usage
  exact ⟨hinFlight, hmaxInFlight⟩

/-- The eviction once more, after one that was cancelled. -/
def laterEviction : Outcome Unit × Session Memory :=
  (⟨(slowEviction (some (.time 5))).2.store, carefulClient⟩ : Session Memory).evict memory none "b"
    .bucket

/-- A dropped removal is taken to be in flight when nothing is, and to be one of two when a client that
is allowed one has one in progress. -/
theorem dropped_stays_in_flight :
    (∃ dropped, Usage [1] dropped (slowEviction (some (.time 5))).2.store .idle) ∧
      (slowEviction (some (.time 5))).2.store.counters.inFlight = 1 ∧
      (∃ dropped, Usage [1, 1] dropped laterEviction.2.store .idle) ∧
      laterEviction.2.store.counters.maxInFlight = 2 := by
  have hslow : ∃ dropped, Usage [1] dropped (slowEviction (some (.time 5))).2.store .idle := by
    obtain ⟨lost, usage, -⟩ := slowStore_usage.evict (s := ⟨slowStore, carefulClient⟩)
      carefulClient_valid (some (.time 5)) "b" .bucket
    exact ⟨_, usage⟩
  refine ⟨hslow, by decide +kernel, ?_, by decide +kernel⟩
  obtain ⟨dropped, usage⟩ := hslow
  obtain ⟨lost, usage, -⟩ := usage.evict (s := ⟨(slowEviction (some (.time 5))).2.store, carefulClient⟩)
    carefulClient_valid none "b" .bucket
  exact ⟨_, usage⟩

end ObjectVolume.Eviction
