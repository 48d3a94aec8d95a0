import ObjectVolume.Proofs.Eviction.Permits
/-!
# What the single pass reports

When a single pass has gone through its listing and none of its removals is in flight any more, each
reference to be deleted has been removed once. The pass returns the error of its listing, or the counts
of its removals and the references to the marker (`Reported`). It comes to that in whatever order the
removals start and end (`Attains`), and when it is executed (`Single.Executed`).
-/
namespace ObjectVolume

/-- No call that an eviction makes cancels the client. -/
structure Store.SparesClient {σ : Type} (S : Store σ) : Prop where
  listing : ∀ bucket scope s stalls, .cancels stalls ∉ (S.listObjects bucket scope s).1
  removal : ∀ bucket ref s answer, (S.endRemoval bucket ref s).1 ≠ .cancels answer
  bucketRemoval : ∀ bucket s answer, (S.removeBucket bucket s).1 ≠ .cancels answer

namespace Eviction

open Store (Event Reply)

variable {σ : Type} {S : Store σ} {c : Call} {x y : State σ} {t u : List Action} {a : Action}

/-! ## Cancellations that come from the store -/

/-- The store cancels the client in this step. -/
def Action.Disturbs : Action → Prop
  | read event => ∃ stalls, event = .cancels stalls
  | finish _ reply | finishMarker _ reply | removeBucket reply => ∃ answer, reply = .cancels answer
  | _ => False

theorem Action.Disturbs.of_ending {reply : Reply Unit} (h : reply.ending = none) :
    ∃ answer, reply = .cancels answer := by
  cases reply with
  | cancels answer => exact ⟨answer, rfl⟩
  | _ => cases h

theorem Action.Disturbs.of_stalls (h : a.Stalls) : a.Disturbs := by
  cases a with
  | read event =>
    cases event with
    | cancels stalls => exact ⟨stalls, rfl⟩
    | _ => cases h
  | finish ref reply => exact .of_ending h
  | finishMarker ref reply => exact .of_ending h
  | removeBucket reply => exact .of_ending h
  | _ => cases h

theorem tokenAfter_eq {reply : Reply Unit} (h : ¬ ∃ answer, reply = .cancels answer) (token : Token) :
    reply.tokenAfter token = token := by
  cases reply with
  | cancels answer => exact absurd ⟨answer, rfl⟩ h
  | _ => rfl

theorem Step.token_eq (h : Step S c x a y) (ha : ¬ a.Disturbs) : y.token = x.token := by
  cases h with
  | bulk step =>
    cases step with
    | readCancel => exact absurd ⟨_, rfl⟩ ha
    | _ => rfl
  | single step =>
    cases step with
    | readCancel => exact absurd ⟨_, rfl⟩ ha
    | finish | stall => exact tokenAfter_eq ha _
    | _ => rfl
  | finishMarker | removeBucket => exact tokenAfter_eq ha _
  | _ => rfl

/-- A client that is cancelled during a run was cancelled from outside, or by the store. -/
theorem Run.disturbed {outside : Bool} (h : Run S c outside x t y)
    (live : x.token.isCancelled = false) (cancelled : y.token.isCancelled = true) :
    outside = true ∨ ∃ a ∈ t, a.Disturbs := by
  induction h with
  | refl => simp [live] at cancelled
  | @step y z t a _ hs ih =>
    by_cases ha : a.Disturbs
    · exact .inr ⟨a, by simp, ha⟩
    · rw [hs.token_eq ha] at cancelled
      exact (ih cancelled).imp_right fun ⟨b, hb, hd⟩ => ⟨b, List.mem_append_left _ hb, hd⟩
  | cancel allowed => exact .inl allowed

/-- The listing of the stage does not cancel the client. -/
def Stage.Undisturbed : Stage → Prop
  | bulk rest _ | single _ rest _ => ∀ stalls, Event.cancels stalls ∉ rest
  | _ => True

theorem undisturbed_afterPass (held : List ObjectRef) : (c.afterPass held).Undisturbed := by
  unfold Call.afterPass
  split <;> exact trivial

/-- With a store that leaves the client alone, no step disturbs it. -/
theorem Step.not_disturbs (spares : S.SparesClient) (hx : x.stage.Undisturbed) (h : Step S c x a y) :
    ¬ a.Disturbs ∧ y.stage.Undisturbed := by
  have htail {e : Event} {rest : List Event} (hrest : ∀ stalls, Event.cancels stalls ∉ e :: rest) :
      ∀ stalls, Event.cancels stalls ∉ rest := fun stalls hm => hrest stalls (List.mem_cons_of_mem _ hm)
  have hhead {e : Event} {rest : List Event} (hrest : ∀ stalls, Event.cancels stalls ∉ e :: rest) :
      ¬ ∃ stalls, e = .cancels stalls := by
    rintro ⟨stalls, rfl⟩
    exact hrest stalls List.mem_cons_self
  cases h with
  | begin => exact ⟨id, spares.listing _ _ _⟩
  | fallBack => exact ⟨id, spares.listing _ _ _⟩
  | bulk step =>
    cases step with
    | read => exact ⟨hhead hx, htail hx⟩
    | readCancel => exact absurd ⟨_, rfl⟩ (hhead hx)
    | readEnd | pull | pullError => exact ⟨id, hx⟩
  | endBulk =>
    refine ⟨id, ?_⟩
    unfold Call.afterBulk
    split
    · exact undisturbed_afterPass _
    all_goals exact trivial
  | single step =>
    cases step with
    | readCancel => exact absurd ⟨_, rfl⟩ (hhead hx)
    | pause | hold | dispatch => exact ⟨hhead hx, htail hx⟩
    | breakOff => exact ⟨hhead hx, by simp [Stage.Undisturbed]⟩
    | finish | stall => exact ⟨fun ⟨_, h⟩ => spares.removal _ _ _ _ h, hx⟩
    | start | reap => exact ⟨id, hx⟩
  | endSingle =>
    refine ⟨id, ?_⟩
    unfold Call.afterSingle
    split
    · exact trivial
    split
    · exact undisturbed_afterPass _
    · exact trivial
  | finishMarker =>
    refine ⟨fun ⟨_, h⟩ => spares.removal _ _ _ _ h, ?_⟩
    unfold afterRemoval
    split
    · split <;> exact trivial
    · split <;> exact trivial
    all_goals exact trivial
  | removeBucket =>
    refine ⟨fun ⟨_, h⟩ => spares.bucketRemoval _ _ _ h, ?_⟩
    unfold afterClosing
    split <;> exact trivial
  | die => exact ⟨hhead hx, trivial⟩
  | tooManyPermits | noMarker | startMarker | abort => exact ⟨id, trivial⟩

theorem Run.not_disturbed {outside : Bool} (spares : S.SparesClient) (h : Run S c outside x t y)
    (hx : x.stage.Undisturbed) : (∀ a ∈ t, ¬ a.Disturbs) ∧ y.stage.Undisturbed := by
  induction h with
  | refl => exact ⟨by simp, hx⟩
  | @step y z t a _ hs ih =>
    obtain ⟨hquiet, hy⟩ := ih
    obtain ⟨ha, hz⟩ := hs.not_disturbs spares hy
    refine ⟨fun b hb => ?_, hz⟩
    rcases List.mem_append.1 hb with hb | hb
    · exact hquiet b hb
    · rw [List.mem_singleton.1 hb]
      exact ha
  | cancel _ _ _ ih => exact ih

theorem memory_spares : Store.memory.SparesClient where
  listing bucket scope m stalls hm := (calm_list m bucket scope _ hm).2 stalls rfl
  removal bucket ref m answer h := by
    rcases hr : m.endRemoval bucket ref with ⟨result, m'⟩
    simp only [Store.memory, hr, Prod.map_fst] at h
    cases result <;> cases h
  bucketRemoval bucket m answer h := by
    rcases hr : m.removeBucket bucket with ⟨result, m'⟩
    simp only [Store.memory, hr, Prod.map_fst] at h
    cases result <;> cases h

/-! ## Reports -/

/-- The removals of `refs` have ended as `ended` says, and are counted so. -/
structure Counted (refs : List ObjectRef) (ended : List (ObjectRef × Single.Ending)) (tally : Tally) :
    Prop where
  attempted : tally.attempted = refs.length
  failed : tally.failed = ended.countP fun e => decide (e.2 ≠ .done)
  some_failed : tally.failed ≤ tally.attempted
  /-- The difference is a true one. -/
  deleted : tally.deleted + tally.failed = tally.attempted
  complete : tally.isComplete = true ↔ ∀ e ∈ ended, e.2 = .done

/-- What a pass returns after the actions `u`, since its listing delivered `events`. -/
structure Reported (marker : Option String) (events : List Event) (u : List Action)
    (result : Except Stop (Tally × List ObjectRef)) : Prop where
  /-- Each reference to be deleted is removed once. -/
  once : (u.flatMap Single.starts).Perm (toDelete marker (found events))
  /-- Every removal that has started has ended. -/
  ended : ((u.flatMap Single.endings).map (·.1)).Perm (u.flatMap Single.starts)
  not_died : ∀ message, listingEnd events ≠ .died message
  broken : ∀ e, listingEnd events = .failed e → result = .error (.failed e)
  counted : listingEnd events = .whole → ∃ tally,
    result = .ok (tally, heldBack marker (found events)) ∧
      Counted (toDelete marker (found events)) (u.flatMap Single.endings) tally

variable {marker : Option String} {events : List Event} {p : Single.Pass} {limit : Nat}

theorem counted_of_flow (flow : Single.Flow limit marker events (u.flatMap Single.endings) [] p)
    (idle : p.inFlight = 0) :
    Counted (toDelete marker (found events)) (u.flatMap Single.endings) p.reap.tally := by
  obtain ⟨hperm, -, hattempted⟩ := flow.reap.idle idle
  have hdead : p.reap.dead = 0 := rfl
  have hfailed : p.reap.tally.failed =
      (u.flatMap Single.endings).countP fun e => decide (e.2 ≠ .done) := by
    rw [← flow.reap.failed, hdead, Nat.add_zero]
  have hle : p.reap.tally.failed ≤ p.reap.tally.attempted := by
    rw [hfailed, hattempted]
    exact List.countP_le_length
  constructor
  case attempted => rw [hattempted, ← hperm.length_eq, List.length_map]
  case failed => exact hfailed
  case some_failed => exact hle
  case deleted => exact Nat.sub_add_cancel hle
  case complete =>
    rw [Tally.isComplete, beq_iff_eq, hfailed, List.countP_eq_zero]
    simp

/-- An idle pass reports what its actions say. -/
theorem reported_of_idle (flow : Single.Flow limit marker events (u.flatMap Single.endings) [] p)
    (logged : Single.Logged marker events u [] p) (idle : p.inFlight = 0) :
    Reported marker events u p.reap.result := by
  obtain ⟨hperm, hheld, -⟩ := flow.reap.idle idle
  have hended := logged.ended idle
  have hlisting := flow.reap.listing
  constructor
  case once => exact hended.symm.trans hperm
  case ended => exact hended
  case not_died =>
    intro message h
    rw [h] at hlisting
    split at hlisting
    · cases hlisting.2
    · cases hlisting
  case broken =>
    intro e h
    rw [h] at hlisting
    unfold Single.Pass.result
    split
    next e' he =>
      rw [he] at hlisting
      cases hlisting.2
      rfl
    next he =>
      rw [he] at hlisting
      cases hlisting
  case counted =>
    intro h
    rw [h] at hlisting
    refine ⟨p.reap.tally, ?_, counted_of_flow flow idle⟩
    unfold Single.Pass.result
    split
    next e he =>
      rw [he] at hlisting
      cases hlisting.2
    next => rw [hheld]

/-! ## Runs of a single pass -/

/-- Nothing but the objects of a scope is being deleted yet. -/
def Stage.Evicting : Stage → Prop
  | called | bulk _ _ | between _ | single _ _ _ => True
  | _ => False

/-- A call whose single pass lists in the store `s`, or is about to; since then it has taken the
actions `t`. -/
inductive Passing (S : Store σ) (c : Call) (s : σ) (primary : Error) : List Action → State σ → Prop
  | waiting {token} : Passing S c s primary [] ⟨s, token, .between primary⟩
  | working {s' token v rest p} (plain : ∀ a ∈ v, a.isLast = false ∧ a.isList = false)
      (flow : Single.Flow c.limit c.marker (S.listObjects c.bucket c.scope s).1
        (v.flatMap Single.endings) rest p)
      (logged : Single.Logged c.marker (S.listObjects c.bucket c.scope s).1 v rest p) :
      Passing S c s primary (.list (S.listObjects c.bucket c.scope s).1 :: v)
        ⟨s', token, .single primary rest p⟩

/-- How a call leaves its single pass, with the actions `t`, the last of which is `a`. -/
inductive Leaves (S : Store σ) (c : Call) (s : σ) (primary : Error) (t : List Action) (x : State σ) :
    Action → Stage → Prop
  | cancelled (cancelled : x.token.isCancelled = true) :
      Leaves S c s primary t x .abort (.answered (.failed .cancelled))
  | tooManyPermits (exceeds : c.limit > Single.maxPermits) (nothing : t = []) :
      Leaves S c s primary t x .inner
        (.answered (.died "a semaphore may not have more than MAX_PERMITS permits"))
  | died {v message} (actions : t = .list (S.listObjects c.bucket c.scope s).1 :: v)
      (listing : listingEnd (S.listObjects c.bucket c.scope s).1 = .died message) :
      Leaves S c s primary t x (.read (.died message)) (.answered (.died message))
  | reported {v} {q : Single.Pass} (stage : x.stage = .single primary [] q) (idle : q.inFlight = 0)
      (actions : t = .list (S.listObjects c.bucket c.scope s).1 :: v)
      (report : Reported c.marker (S.listObjects c.bucket c.scope s).1 v q.reap.result)
      (plain : ∀ a ∈ v, a.isLast = false ∧ a.isList = false) :
      Leaves S c s primary t x .inner (c.afterSingle primary q.reap)

variable {s : σ} {primary : Error}

/-- **Step.** A call in its single pass stays there, or leaves it. -/
theorem Passing.step (h : Passing S c s primary t x) (hs : Step S c x a y) :
    Passing S c s primary (t ++ [a]) y ∨ Leaves S c s primary t x a y.stage := by
  cases h with
  | waiting =>
    cases hs with
    | fallBack fits =>
      refine .inl (.working (by simp) ?_ ?_)
      · exact Single.flow_start _ _ _
      · exact Single.logged_start _ _ _ rfl
    | tooManyPermits exceeds => exact .inr (.tooManyPermits exceeds rfl)
    | abort cancelled => exact .inr (.cancelled cancelled)
  | @working s' token u rest p plain flow logged =>
    cases hs with
    | single step =>
      refine .inl (.working (plain_snoc plain step.plain) ?_ (step.logged logged))
      simpa using step.flow flow
    | @die _ _ _ message rest =>
      refine .inr (.died rfl ?_)
      have hlisting := flow.listing
      split at hlisting
      · cases hlisting.1
      · exact hlisting.symm
    | endSingle idle =>
      exact .inr (.reported rfl idle rfl (reported_of_idle flow logged idle) plain)
    | abort cancelled => exact .inr (.cancelled cancelled)

theorem Passing.withToken (h : Passing S c s primary t x) (token : Token) :
    Passing S c s primary t { x with token } := by
  cases h with
  | waiting => exact .waiting
  | working plain flow logged => exact .working plain flow logged

theorem Passing.evicting (h : Passing S c s primary t x) : x.stage.Evicting := by
  cases h <;> exact trivial

theorem not_evicting_afterPass (held : List ObjectRef) : ¬ (c.afterPass held).Evicting := by
  unfold Call.afterPass
  split <;> exact id

theorem Leaves.not_evicting {g : Stage} (h : Leaves S c s primary t x a g) : ¬ g.Evicting := by
  cases h with
  | reported =>
    unfold Call.afterSingle
    split
    · exact id
    split
    · exact not_evicting_afterPass _
    · exact id
  | _ => exact id

/-- A call that has left its passes does not come back to them. -/
theorem Step.not_evicting (h : Step S c x a y) (hx : ¬ x.stage.Evicting) : ¬ y.stage.Evicting := by
  cases h with
  | @finishMarker s token ref held =>
    unfold afterRemoval
    split
    · split <;> exact id
    · split <;> exact id
    all_goals exact id
  | @removeBucket s token =>
    unfold afterClosing
    split <;> exact id
  | begin | bulk | endBulk | fallBack | tooManyPermits | single | die | endSingle =>
    exact absurd trivial hx
  | noMarker | startMarker | abort => exact id

/-- **Run.** A call that has set out with its single pass is there still, or has left it. -/
theorem Run.passing {outside : Bool} (h : Run S c outside x t y) (hx : x.stage = .between primary) :
    Passing S c x.store primary t y ∨ ¬ y.stage.Evicting := by
  induction h with
  | refl =>
    obtain ⟨s, token, stage⟩ := x
    subst hx
    exact .inl .waiting
  | step _ hs ih =>
    rcases ih with hpassing | hleft
    · exact (hpassing.step hs).imp_right Leaves.not_evicting
    · exact .inr (hs.not_evicting hleft)
  | cancel _ _ _ ih => exact ih.imp_left fun h => h.withToken _

/-- The first thing that a single pass does is to list what it deletes. -/
theorem Run.lists_again {outside : Bool} (hmax : c.limit ≤ Single.maxPermits)
    (h : Run S c outside x t y) (hx : x.stage = .between primary) :
    (y.stage = .between primary ∧ t = [] ∧ y.store = x.store) ∨
      (∃ v, t = .list (S.listObjects c.bucket c.scope x.store).1 :: v) ∨
      y.stage = .answered (.failed .cancelled) := by
  induction h with
  | refl => exact .inl ⟨hx, rfl, rfl⟩
  | cancel _ _ _ ih => exact ih
  | @step y z t a _ hs ih =>
    rcases ih with ⟨hbetween, rfl, hstore⟩ | ⟨v, rfl⟩ | hanswered
    · obtain ⟨store, token, stage⟩ := y
      subst hbetween
      rw [← hstore]
      cases hs with
      | fallBack => exact .inr (.inl ⟨[], rfl⟩)
      | tooManyPermits exceeds => exact absurd exceeds (Nat.not_lt.2 hmax)
      | abort => exact .inr (.inr rfl)
    · exact .inr (.inl ⟨v ++ [a], rfl⟩)
    · exact absurd hanswered (hs.stage_ne_answered _)

/-- A pass that has become idle in a run reports what the run says. -/
theorem Run.reported {outside : Bool} (h : Run S c outside x t y) (hx : x.stage = .between primary)
    {primary' : Error} (hy : y.stage = .single primary' [] p) (idle : p.inFlight = 0) :
    primary' = primary ∧ ∃ u, t = .list (S.listObjects c.bucket c.scope x.store).1 :: u ∧
      (∀ a ∈ u, a.isLast = false ∧ a.isList = false) ∧
      Reported c.marker (S.listObjects c.bucket c.scope x.store).1 u p.reap.result := by
  rcases h.passing hx with hpassing | hleft
  · cases hpassing with
    | waiting => cases hy
    | working plain flow logged =>
      cases hy
      exact ⟨rfl, _, rfl, plain, reported_of_idle flow logged idle⟩
  · rw [hy] at hleft
    exact absurd trivial hleft

/-! ## What a pass comes to -/

/-- A pass whose listing, asked for in the store `s`, has been gone through, with all its removals over;
or whose listing has died. -/
inductive Concluded (S : Store σ) (c : Call) (s : σ) (primary : Error) : List Action → State σ → Prop
  | idle {s' token v p} (idle : p.inFlight = 0)
      (report : Reported c.marker (S.listObjects c.bucket c.scope s).1 v p.reap.result) :
      Concluded S c s primary (.list (S.listObjects c.bucket c.scope s).1 :: v)
        ⟨s', token, .single primary [] p⟩
  | died {s' token t message}
      (listing : listingEnd (S.listObjects c.bucket c.scope s).1 = .died message) :
      Concluded S c s primary t ⟨s', token, .answered (.died message)⟩

/-- **Every order.** If nothing cancels the client, a pass comes to its end in whatever order its
removals start and end. -/
theorem attains_concluded (spares : S.SparesClient) (hlimit : 1 ≤ c.limit)
    (hmax : c.limit ≤ Single.maxPermits) {token : Token} (live : token.isCancelled = false) (s : σ)
    (primary : Error) : Attains S c (Concluded S c s primary) [] ⟨s, token, .between primary⟩ := by
  refine Attains.of_invariant (I := fun t x => Concluded S c s primary t x ∨
    (Passing S c s primary t x ∧ x.stage.Undisturbed ∧ x.token.isCancelled = false))
    (.inr ⟨.waiting, trivial, live⟩) ?_
  rintro t ⟨s', token', stage'⟩ (hconcluded | ⟨hpassing, hundisturbed, hlive⟩)
  · exact .inl hconcluded
  -- an idle pass is at its end; any other one can go on, and stays or ends with its listing
  by_cases hidle : Concluded S c s primary t ⟨s', token', stage'⟩
  · exact .inl hidle
  refine .inr ⟨?_, fun a y hs => ?_⟩
  · cases hpassing with
    | waiting => exact exists_step hlimit trivial rfl
    | working plain flow => exact exists_step hlimit flow.permits rfl
  obtain ⟨hquiet, hkept⟩ := hs.not_disturbs spares hundisturbed
  refine ⟨?_, fun h => hquiet (.of_stalls h)⟩
  rcases hpassing.step hs with hstays | hleaves
  · exact .inr ⟨hstays, hkept, by rw [hs.token_eq hquiet]; exact hlive⟩
  · refine .inl ?_
    obtain ⟨store, token, stage⟩ := y
    cases hleaves with
    | cancelled cancelled => simp [hlive] at cancelled
    | tooManyPermits exceeds => exact absurd exceeds (Nat.not_lt.2 hmax)
    | died actions listing => exact .died listing
    | reported stage idle actions report plain =>
      subst stage actions
      exact absurd (.idle idle report) hidle

/-! ## The executed pass -/

namespace Single

open Operation

variable {bucket scope : String}

theorem outcome_startAll (S : Store σ) (bucket : String) (l : List ObjectRef) (p : Pass)
    (w : World σ) : ∃ p' s, (startAll S bucket l p).outcome w = (.ok p', { w with store := s }) := by
  induction l generalizing p w with
  | nil => exact ⟨p, w.store, rfl⟩
  | cons ref l ih => exact ih p.start { w with store := S.startRemoval bucket ref w.store }

theorem stops_startAll {P : Stop → World σ → Prop} (S : Store σ) (bucket : String)
    (l : List ObjectRef) (p : Pass) : (startAll S bucket l p).Stops P := by
  intro w stop w' ho
  obtain ⟨p', s, hstarted⟩ := outcome_startAll S bucket l p w
  rw [hstarted] at ho
  cases ho

theorem stops_endAll {P : Stop → World σ → Prop} (S : Store σ) (bucket : String)
    (l : List ObjectRef) (p : Pass) : (endAll S bucket l p).Stops P := by
  induction l generalizing p with
  | nil => exact .pure p
  | cons ref l ih =>
    refine .bind (.onStore _) fun reply => ?_
    cases reply with
    | done a => exact ih _
    | failed e => exact ih _
    | died message => exact ih _
    | cancels answer =>
      cases answer with
      | some a => exact .bind .cancel fun _ => ih _
      | none => exact .bind .cancel fun _ => ih _

theorem stops_finishRound (S : Store σ) (bucket : String) (p : Pass) :
    (finishRound S bucket p).Stops Interrupts := by
  refine .bind (stops_startAll S bucket _ p) fun p => .bind .get fun w => ?_
  refine .bind (.wait _) fun _ => .bind (stops_endAll S bucket _ p) fun p => ?_
  exact .bind .checkpoint fun _ => .pure _

/-- A pass that goes through its listing stops when it is interrupted, or dies with the listing. -/
theorem stops_drive (S : Store σ) (bucket : String) (marker : Option String) (events : List Event)
    (p : Pass) : (drive S bucket marker events p).Stops fun stop w => Interrupts stop w ∨
      ∃ message, stop = .died message ∧ listingEnd events = .died message := by
  induction events generalizing p with
  | nil => exact .pure p
  | cons e rest ih =>
    cases e with
    | pause =>
      refine .bind (stops_startAll S bucket _ p) fun p => ?_
      exact .bind ((Stops.wait 0).imp fun _ _ => .inl) fun _ => ih p
    | cancels stalls =>
      cases stalls with
      | true =>
        intro w stop w' ho
        obtain ⟨p', s, hstarted⟩ :=
          outcome_startAll S bucket p.dispatched p { w with token := w.token.cancel }
        simp only [drive, outcome_bind, outcome_cancel, if_true, hstarted] at ho
        cases ho
        exact .inl ⟨rfl, w.token.isCancelled_cancel⟩
      | false => exact .bind .cancel fun _ => ih p
    | found ref =>
      unfold drive
      split
      next => exact ih _
      next =>
        split
        next => exact .bind ((stops_finishRound S bucket p).imp fun _ _ => .inl) fun p => ih _
        next => exact .bind (.pure p) fun p => ih _
    | failed e => exact .pure _
    | died message => exact .throw fun w => .inr ⟨message, rfl, rfl⟩

theorem stop_of_runUntilIdle {limit : Nat} {w w' : World σ} {stop : Stop}
    (ho : (runUntilIdle S limit bucket scope marker).outcome w = (.error stop, w')) :
    Interrupts stop w' ∨ ∃ message, stop = .died message ∧
      listingEnd (S.listObjects bucket scope w.store).1 = .died message := by
  simp only [runUntilIdle] at ho
  rw [outcome_bind, outcome_onStore] at ho
  refine ((stops_drive S bucket marker _ _).bind fun p => ?_) _ _ _ ho
  split
  next => exact .pure p
  next => exact (stops_finishRound S bucket p).imp fun _ _ => .inl

/-- How a single pass is executed in the world `w`, and what it leaves behind. -/
inductive Executed (S : Store σ) (c : Call) (primary : Error) (w : World σ) :
    Except Stop (Tally × List ObjectRef) → World σ → Prop
  | reported {v p r w'}
      (run : Run S c w.alarm.isSome (stateIn w (.between primary))
        (.list (S.listObjects c.bucket c.scope w.store).1 :: v) (stateIn w' (.single primary [] p)))
      (idle : p.inFlight = 0) (plain : ∀ a ∈ v, a.isLast = false ∧ a.isList = false)
      (result : r = p.reap.result)
      (report : Reported c.marker (S.listObjects c.bucket c.scope w.store).1 v r) :
      Executed S c primary w r w'
  | died {v message w'}
      (run : Run S c w.alarm.isSome (stateIn w (.between primary))
        (.list (S.listObjects c.bucket c.scope w.store).1 :: v) (stateIn w' (.answered (.died message))))
      (listing : listingEnd (S.listObjects c.bucket c.scope w.store).1 = .died message) :
      Executed S c primary w (.error (.died message)) w'
  /-- The client was cancelled: before, from outside, or by the store. -/
  | interrupted {t g w'}
      (run : Run S c w.alarm.isSome (stateIn w (.between primary)) t (stateIn w' g))
      (cause : w.token.isCancelled = true ∨ w.alarm.isSome = true ∨ ∃ a ∈ t, a.Disturbs) :
      Executed S c primary w (.error .interrupted) w'

theorem executed_run (hlimit : 1 ≤ c.limit) (hmax : c.limit ≤ maxPermits) (primary : Error)
    (w : World σ) :
    Executed S c primary w ((run S c.limit c.bucket c.scope c.marker).outcome w).1
      ((run S c.limit c.bucket c.scope c.marker).outcome w).2 := by
  rw [run_eq hmax, outcome_bind]
  have hfollows : Follows S c w (.between primary)
      (runUntilIdle S c.limit c.bucket c.scope c.marker) _ := follows_runUntilIdle hlimit hmax
  obtain ⟨t, g, hrun, -, hpost⟩ := hfollows
  rcases ho : (runUntilIdle S c.limit c.bucket c.scope c.marker).outcome w with ⟨stop | p, w'⟩
  · rw [ho] at hrun hpost
    rcases stop_of_runUntilIdle ho with ⟨rfl, hc⟩ | ⟨message, rfl, hlisting⟩
    · refine .interrupted hrun ?_
      cases live : w.token.isCancelled with
      | true => exact .inl rfl
      | false => exact .inr (hrun.disturbed live hc)
    · obtain ⟨rfl, -⟩ := hpost
      rcases hrun.lists_again hmax rfl with ⟨hbetween, -⟩ | ⟨v, rfl⟩ | hcancelled
      · cases hbetween
      · exact .died hrun hlisting
      · cases hcancelled
  · rw [ho] at hrun hpost
    obtain ⟨rfl, hset, hflight⟩ := hpost
    obtain ⟨-, v, rfl, plain, report⟩ := hrun.reported rfl rfl hflight
    have hresult : p.result = p.reap.result := by rw [reap_of_settled hset]
    rw [← hresult] at report
    exact .reported hrun hflight plain hresult report

end Single

/-! ## The report of a client's pass -/

/-- **Reports.** The single pass of an eviction, on every store and on behalf of a client with a valid
configuration, after a bulk pass that has failed with whatever error: however its removals end, and in
whatever order its tasks take their steps, it is left with a true report, unless it is cancelled or its
listing dies; and it comes to that if nothing cancels the client. The pass that a client executes does
the same. With more permits than there can be it dies before it has called the store. -/
theorem single_pass_reports (S : Store σ) (config : Config) (valid : config.validate = .ok ())
    (bucket : String) (target : Target) (primary : Error) (w : World σ) :
    (∀ outside t x a y, Run S (.ofConfig config bucket target) outside
        ⟨w.store, w.token, .between primary⟩ t x → x.stage.Evicting →
      Step S (.ofConfig config bucket target) x a y → ¬ y.stage.Evicting →
        Leaves S (.ofConfig config bucket target) w.store primary t x a y.stage) ∧
    (S.SparesClient → w.token.isCancelled = false →
      config.parallelism.toNat ≤ Single.maxPermits →
        Attains S (.ofConfig config bucket target)
          (Concluded S (.ofConfig config bucket target) w.store primary) []
          ⟨w.store, w.token, .between primary⟩) ∧
    (config.parallelism.toNat ≤ Single.maxPermits →
      Single.Executed S (.ofConfig config bucket target) primary w
        ((Single.run S config.parallelism.toNat bucket target.scope target.marker).outcome w).1
        ((Single.run S config.parallelism.toNat bucket target.scope target.marker).outcome w).2) ∧
    (config.parallelism.toNat > Single.maxPermits →
      (Single.run S config.parallelism.toNat bucket target.scope target.marker).outcome w =
        (.error (.died "a semaphore may not have more than MAX_PERMITS permits"), w)) := by
  have hlimit := Config.parallelism_pos valid
  refine ⟨?_, ?_, ?_, ?_⟩
  · intro outside t x a y hrun hevicting hs hleft
    rcases hrun.passing rfl with hpassing | hgone
    · exact (hpassing.step hs).resolve_left fun hstays => hleft hstays.evicting
    · exact absurd hevicting hgone
  · intro spares live permits
    exact attains_concluded spares hlimit permits live w.store primary
  · intro permits
    exact Single.executed_run (c := .ofConfig config bucket target) hlimit permits primary w
  · intro exceeds
    simp only [Single.run, exceeds, if_true]
    rfl

/-- Of three removals one is refused and one dies; the marker is held back. -/
def mixed : World Store.Scripted where
  store := { script := {
    listings := [[.found ⟨"vol/a", some "v1"⟩, .found ⟨"vol/", none⟩, .found ⟨"vol/b", none⟩, .pause,
      .found ⟨"vol/a", none⟩]]
    removal := fun ref =>
      if ref.key = "vol/b" then .fail (.backend (.accessDenied "vol/b"))
      else if ref.version.isSome then .succeed else .die "lost" } }
  token := .fresh

theorem single_pass_reports_mixed :
    (∃ v, Reported (some "vol/") [.found ⟨"vol/a", some "v1"⟩, .found ⟨"vol/", none⟩,
        .found ⟨"vol/b", none⟩, .pause, .found ⟨"vol/a", none⟩] v
      (.ok (⟨3, 2⟩, [⟨"vol/", none⟩]))) ∧
    Attains Store.memory (.ofConfig Session.brokenOff.client.config "data" .bucket)
      (Concluded Store.memory (.ofConfig Session.brokenOff.client.config "data" .bucket) {} .cancelled)
      [] ⟨{}, .fresh, .between .cancelled⟩ := by
  have hvalid : Session.brokenOff.client.config.validate = .ok () := by decide +kernel
  constructor
  · have hexecuted := (single_pass_reports Store.scripted Session.brokenOff.client.config hvalid
      "data" (.below "vol") .cancelled mixed).2.2.1 (by decide)
    have hresult : ((Single.run Store.scripted Session.brokenOff.client.config.parallelism.toNat
        "data" (Target.below "vol").scope (Target.below "vol").marker).outcome mixed).1 =
          .ok (⟨3, 2⟩, [⟨"vol/", none⟩]) := rfl
    rw [hresult] at hexecuted
    cases hexecuted with
    | reported run idle plain result report => exact ⟨_, report⟩
  · exact (single_pass_reports Store.memory Session.brokenOff.client.config hvalid "data" .bucket
      .cancelled { store := {}, token := .fresh }).2.1 memory_spares rfl (by decide)

end Eviction

end ObjectVolume
