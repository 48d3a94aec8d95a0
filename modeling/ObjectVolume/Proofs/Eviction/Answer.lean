import ObjectVolume.Proofs.Eviction.Delivery
import ObjectVolume.Proofs.Eviction.Report
/-!
# What an eviction answers

Two listings, the failures that a bulk deletion reports and the ends of the single removals settle what
an eviction answers (`Evicts`): the error of a bulk pass is the first of those in `BulkError`, and the
single pass is there for nothing else. Every order of the steps comes to such an answer, and so does
the operation that is executed. What holds nothing but the marker is left to the bulk pass, which has
nothing to ask for.
-/
namespace ObjectVolume

namespace Eviction

open Store (Event)

variable {σ : Type} {S : Store σ} {c : Call}

/-! ## The errors of the passes -/

/-- The error of a bulk pass whose listing delivered `events`, and of which `failures` were reported:
the first of these that there is. -/
inductive BulkError (c : Call) (events : List Event) (failures : List DeleteFailure) : Error → Prop
  | listing {e} (broke : listingEnd events = .failed e) : BulkError c events failures e
  /-- Requests that fail after the first are of no account. -/
  | request {e before later} (listed : ∀ e, listingEnd events ≠ .failed e)
      (first : failures = before ++ .request e :: later)
      (refusals : ∀ failure ∈ before, Bulk.isRefusal failure = true) : BulkError c events failures e
  | objects (listed : ∀ e, listingEnd events ≠ .failed e)
      (refusals : ∀ failure ∈ failures, Bulk.isRefusal failure = true) (some : failures ≠ []) :
      BulkError c events failures (.bulkDelete c.bucket c.scope failures.length)
  | died {message} (died : listingEnd events = .died message) (quiet : failures = []) :
      BulkError c events failures (.backend (.listingTaskDied message))

/-- The error of a single pass whose listing delivered `events`, and whose removals ended so. -/
inductive PassError (c : Call) (events : List Event) (ended : List (ObjectRef × Single.Ending)) :
    Error → Prop
  | listing {e} (broke : listingEnd events = .failed e) : PassError c events ended e
  | removals {tally} (whole : listingEnd events = .whole)
      (counted : Counted (toDelete c.marker (found events)) ended tally)
      (incomplete : ∃ e ∈ ended, e.2 ≠ .done) :
      PassError c events ended (.partialEviction c.bucket c.scope tally.failed tally.attempted)

/-- The error with which the eviction goes on after a bulk pass. -/
def Call.primary? (c : Call) : Bulk.Outcome → Option Error
  | .completed _ => none
  | .listingFailed e | .requestFailed e => some e
  | .objectsFailed failed => some (.bulkDelete c.bucket c.scope failed)

theorem afterBulk_of_primary {o : Bulk.Outcome} {e : Error} (h : c.primary? o = some e) :
    c.afterBulk o = .between e := by
  cases o <;> cases h <;> rfl

theorem requestFailure?_eq_some {failures : List DeleteFailure} {e : Error}
    (h : Bulk.requestFailure? failures = some e) : ∃ before later,
      failures = before ++ .request e :: later ∧ ∀ failure ∈ before, Bulk.isRefusal failure = true := by
  obtain ⟨before, failure, later, rfl, he, hbefore⟩ := List.findSome?_eq_some_iff.1 h
  cases failure with
  | object ref message => cases he
  | request e' =>
    cases he
    refine ⟨before, later, rfl, fun failure hm => ?_⟩
    cases failure with
    | object ref message => rfl
    | request e' => cases hbefore _ hm

theorem refusals_of_requestFailure? {failures : List DeleteFailure}
    (h : Bulk.requestFailure? failures = none) :
    ∀ failure ∈ failures, Bulk.isRefusal failure = true := by
  intro failure hm
  cases failure with
  | object ref message => rfl
  | request e => cases List.findSome?_eq_none_iff.1 h _ hm

section Resolve

variable {marker : Option String} {events : List Event} {failures : List DeleteFailure}

theorem resolve_of_request {e : Error} (listed : ∀ e, listingEnd events ≠ .failed e)
    (h : Bulk.requestFailure? failures = some e) :
    Bulk.resolve marker events failures = .requestFailed e := by
  cases hl : listingEnd events with
  | failed e' => exact absurd hl (listed e')
  | whole => simp [Bulk.resolve, hl, h]
  | died message => simp [Bulk.resolve, hl, h]

theorem resolve_of_refusals (listed : ∀ e, listingEnd events ≠ .failed e)
    (h : Bulk.requestFailure? failures = none) (some : failures ≠ []) :
    Bulk.resolve marker events failures = .objectsFailed failures.length := by
  have hcount : failures.countP Bulk.isRefusal = failures.length :=
    List.countP_eq_length.2 (refusals_of_requestFailure? h)
  have hpos : 0 < failures.length := List.length_pos_iff.2 some
  cases hl : listingEnd events with
  | failed e' => exact absurd hl (listed e')
  | whole => simp [Bulk.resolve, hl, h, hcount, hpos]
  | died message => simp [Bulk.resolve, hl, h, hcount, hpos]

end Resolve

/-- A bulk pass is clean, or has an error. -/
theorem clean_or_bulkError (c : Call) (events : List Event) (failures : List DeleteFailure) :
    (listingEnd events = .whole ∧ failures = [] ∧
      Bulk.resolve c.marker events failures = .completed (heldBack c.marker (found events))) ∨
    ∃ e, BulkError c events failures e ∧
      c.primary? (Bulk.resolve c.marker events failures) = some e := by
  by_cases hbroke : ∃ e, listingEnd events = .failed e
  · obtain ⟨e, hbroke⟩ := hbroke
    exact .inr ⟨e, .listing hbroke, by rw [Bulk.resolve_of_failed hbroke, Call.primary?]⟩
  have hlisted : ∀ e, listingEnd events ≠ .failed e := fun e he => hbroke ⟨e, he⟩
  cases hrequest : Bulk.requestFailure? failures with
  | some e =>
    obtain ⟨before, later, hsplit, hbefore⟩ := requestFailure?_eq_some hrequest
    exact .inr ⟨e, .request hlisted hsplit hbefore,
      by rw [resolve_of_request hlisted hrequest, Call.primary?]⟩
  | none =>
    by_cases hsome : failures = []
    · subst hsome
      cases hl : listingEnd events with
      | failed e' => exact absurd hl (hlisted e')
      | whole => exact .inl ⟨rfl, rfl, by simp [Bulk.resolve, hl, hrequest]⟩
      | died message =>
        exact .inr ⟨_, .died hl rfl, by simp [Bulk.resolve, hl, hrequest, Call.primary?]⟩
    · exact .inr ⟨_, .objects hlisted (refusals_of_requestFailure? hrequest) hsome,
        by rw [resolve_of_refusals hlisted hrequest hsome, Call.primary?]⟩

/-! ## The actions of the passes -/

/-- The actions of a bulk pass that lists in the store `s`, and of which `failures` were reported. -/
inductive BulkPass (S : Store σ) (c : Call) (s : σ) (failures : List DeleteFailure) :
    List Action → Prop
  | mk {u last} (plain : ∀ a ∈ u, a.isLast = false ∧ a.isList = false) (silent : Silent u)
      (handed : u.flatMap Action.requested =
        toDelete c.marker (found (S.listObjects c.bucket c.scope s).1))
      (reported : u.flatMap Action.reported ++ last = failures)
      (untouched : u.flatMap Action.requested = [] →
        failures = (S.endBulk c.request (S.listObjects c.bucket c.scope s).2).1) :
      BulkPass S c s failures
        (.list (S.listObjects c.bucket c.scope s).1 :: (u ++ [.endBulk last]))

/-- The actions of a single pass since its listing delivered `events`. -/
structure SinglePass (marker : Option String) (events : List Event) (v : List Action) : Prop where
  plain : ∀ a ∈ v, a.isLast = false ∧ a.isList = false
  /-- Each reference to be deleted is removed once. -/
  once : (v.flatMap Single.starts).Perm (toDelete marker (found events))
  /-- Every removal that has started has ended. -/
  ended : ((v.flatMap Single.endings).map (·.1)).Perm (v.flatMap Single.starts)

/-- What an eviction of the store `s` has done, and how it ends. -/
inductive Evicts (S : Store σ) (c : Call) (s : σ) :
    List Action → Except Stop (List ObjectRef) → Prop
  /-- The bulk pass was clean: there is one listing, and no single removal. -/
  | bulk {t} (first : BulkPass S c s [] t)
      (whole : listingEnd (S.listObjects c.bucket c.scope s).1 = .whole) :
      Evicts S c s t (.ok (heldBack c.marker (found (S.listObjects c.bucket c.scope s).1)))
  /-- The bulk pass has failed, and the single pass over a second listing was clean. -/
  | single {t failures primary events v} (first : BulkPass S c s failures t)
      (failed : BulkError c (S.listObjects c.bucket c.scope s).1 failures primary)
      (second : SinglePass c.marker events v) (whole : listingEnd events = .whole)
      (clean : ∀ e ∈ v.flatMap Single.endings, e.2 = .done) :
      Evicts S c s (t ++ .list events :: v) (.ok (heldBack c.marker (found events)))
  /-- Both passes have failed. -/
  | neither {t failures primary events v fallback} (first : BulkPass S c s failures t)
      (failed : BulkError c (S.listObjects c.bucket c.scope s).1 failures primary)
      (second : SinglePass c.marker events v)
      (failed_again : PassError c events (v.flatMap Single.endings) fallback) :
      Evicts S c s (t ++ .list events :: v) (.error (.failed (.eviction primary fallback)))
  /-- The second listing has died, and the eviction with it. -/
  | died {t failures primary events v message} (first : BulkPass S c s failures t)
      (failed : BulkError c (S.listObjects c.bucket c.scope s).1 failures primary)
      (died : listingEnd events = .died message) :
      Evicts S c s (t ++ .list events :: v) (.error (.died message))

/-! ## From the single pass to the answer -/

/-- How an eviction ends whose bulk pass has failed with `primary`, after the result of its single
pass. -/
def Call.answer (c : Call) (primary : Error) :
    Except Stop (Tally × List ObjectRef) → Except Stop (List ObjectRef)
  | .ok (tally, held) =>
    if tally.isComplete then .ok held
    else .error (.failed (.eviction primary
      (.partialEviction c.bucket c.scope tally.failed tally.attempted)))
  | .error (.failed e) => .error (.failed (.eviction primary e))
  | .error stop => .error stop

/-- What comes after the end of an eviction. -/
def Call.afterEvict (c : Call) : Except Stop (List ObjectRef) → Stage
  | .ok held => c.afterPass held
  | .error stop => .answered stop.answer

theorem stageAfter_eq (primary : Error) (r : Except Stop (Tally × List ObjectRef)) :
    Single.stageAfter c primary r = c.afterEvict (c.answer primary r) := by
  rcases r with (e | message | _) | ⟨tally, held⟩
  · rfl
  · rfl
  · rfl
  · simp only [Single.stageAfter, Call.answer]
    split <;> rfl

/-- A call that evicts, since it was made in the store `s`. -/
inductive Proceeding (S : Store σ) (c : Call) (s : σ) : List Action → State σ → Prop
  | called {token} : Proceeding S c s [] ⟨s, token, .called⟩
  | bulk {s' token u rest p}
      (flow : Bulk.Flow c.marker (S.listObjects c.bucket c.scope s).1 (u.flatMap Action.requested)
        rest p)
      (noted : Bulk.Noted (u.flatMap Action.reported) p)
      (plain : ∀ a ∈ u, a.isLast = false ∧ a.isList = false) (silent : Silent u)
      (untouched : u.flatMap Action.requested = [] →
        s' = (S.listObjects c.bucket c.scope s).2 ∧ u.flatMap Action.reported = []) :
      Proceeding S c s (.list (S.listObjects c.bucket c.scope s).1 :: u) ⟨s', token, .bulk rest p⟩
  | passing {t failures s' primary u x} (first : BulkPass S c s failures t)
      (failed : BulkError c (S.listObjects c.bucket c.scope s).1 failures primary)
      (passing : Passing S c s' primary u x) : Proceeding S c s (t ++ u) x

/-- How a call that evicts `s` leaves its passes in the state `x`, by the step `a` after `t`. -/
inductive Departs (S : Store σ) (c : Call) (s : σ) (t : List Action) (x : State σ) (a : Action) :
    Stage → Prop
  | answers {r} (evicts : Evicts S c s (t ++ [a]) r) : Departs S c s t x a (c.afterEvict r)
  | cancelled (aborts : a = .abort) (cancelled : x.token.isCancelled = true) :
      Departs S c s t x a (.answered (.failed .cancelled))

variable {s s' : σ} {primary : Error} {failures : List DeleteFailure} {t u v : List Action}
  {events : List Event} {x y : State σ} {a : Action}

/-- A single pass that reports settles the eviction. -/
theorem evicts_of_reported {r : Except Stop (Tally × List ObjectRef)}
    (first : BulkPass S c s failures t)
    (failed : BulkError c (S.listObjects c.bucket c.scope s).1 failures primary)
    (plain : ∀ a ∈ v, a.isLast = false ∧ a.isList = false) (report : Reported c.marker events v r) :
    Evicts S c s (t ++ .list events :: v) (c.answer primary r) := by
  have hsecond : SinglePass c.marker events v := ⟨plain, report.once, report.ended⟩
  cases hl : listingEnd events with
  | died message => exact absurd hl (report.not_died message)
  | failed e =>
    rw [report.broken e hl]
    exact .neither first failed hsecond (.listing hl)
  | whole =>
    obtain ⟨tally, rfl, counted⟩ := report.counted hl
    cases hcomplete : tally.isComplete with
    | true =>
      have hanswer : c.answer primary (.ok (tally, heldBack c.marker (found events))) =
          .ok (heldBack c.marker (found events)) := by
        simp [Call.answer, hcomplete]
      rw [hanswer]
      exact .single first failed hsecond hl (counted.complete.1 hcomplete)
    | false =>
      have hanswer : c.answer primary (.ok (tally, heldBack c.marker (found events))) =
          .error (.failed (.eviction primary
            (.partialEviction c.bucket c.scope tally.failed tally.attempted))) := by
        simp [Call.answer, hcomplete]
      have hincomplete : ∃ e ∈ v.flatMap Single.endings, e.2 ≠ .done := by
        by_contra hall
        have hdone : tally.isComplete = true := counted.complete.2 fun e he =>
          by_contra fun hne => hall ⟨e, he, hne⟩
        rw [hcomplete] at hdone
        cases hdone
      rw [hanswer]
      exact .neither first failed hsecond (.removals hl counted hincomplete)

/-- What the store does not notice adds nothing to a report. -/
theorem Reported.snoc_inner {marker : Option String} {r : Except Stop (Tally × List ObjectRef)}
    (h : Reported marker events v r) : Reported marker events (v ++ [.inner]) r := by
  have hstarts : (v ++ [Action.inner]).flatMap Single.starts = v.flatMap Single.starts := by
    simp [Single.starts]
  have hendings : (v ++ [Action.inner]).flatMap Single.endings = v.flatMap Single.endings := by
    simp [Single.endings]
  constructor
  case once => rw [hstarts]; exact h.once
  case ended => rw [hstarts, hendings]; exact h.ended
  case not_died => exact h.not_died
  case broken => exact h.broken
  case counted => rw [hendings]; exact h.counted

/-! ## Runs of an eviction -/

/-- A request is all that a step of the bulk pass does to the store. -/
theorem Bulk.Step.untouched {request : Store.BulkRequest} {marker : Option String}
    {x y : Underway σ Bulk.Pass} (h : Bulk.Step S request marker x a y) (ha : a.requested = []) :
    y.store = x.store ∧ a.reported = [] := by
  cases h with
  | pull n pulled some => exact absurd ha some
  | _ => exact ⟨rfl, rfl⟩

theorem Proceeding.step_bulk {x y : Underway σ Bulk.Pass}
    (h : Proceeding S c s t ⟨x.store, x.token, .bulk x.rest x.pass⟩)
    (hs : Bulk.Step S c.request c.marker x a y) :
    Proceeding S c s (t ++ [a]) ⟨y.store, y.token, .bulk y.rest y.pass⟩ := by
  cases h with
  | passing first failed passing => cases passing
  | @bulk s' token u rest p flow noted plain silent untouched =>
    have hrequested : (u ++ [a]).flatMap Action.requested =
        u.flatMap Action.requested ++ a.requested := by simp
    have hreported : (u ++ [a]).flatMap Action.reported =
        u.flatMap Action.reported ++ a.reported := by simp
    rw [List.cons_append]
    refine .bulk ?_ ?_ (plain_snoc plain hs.plain) (silent.snoc (Single.silent_of_bulk hs)) ?_
    · rw [hrequested]
      exact hs.flow flow
    · rw [hreported]
      exact hs.noted noted
    · intro hnone
      rw [hrequested, List.append_eq_nil_iff] at hnone
      obtain ⟨hstore, hquiet⟩ := untouched hnone.1
      obtain ⟨hsame, hstill⟩ := hs.untouched hnone.2
      rw [hreported, hquiet, hstill]
      exact ⟨hsame.trans hstore, rfl⟩

/-- The end of a bulk pass settles how it went. -/
theorem Proceeding.endBulk {token : Token} {rest : List Event} {p : Bulk.Pass}
    (h : Proceeding S c s t ⟨s', token, .bulk rest p⟩) (exhausted : p.Exhausted) :
    ∃ failures, BulkPass S c s failures (t ++ [.endBulk (S.endBulk c.request s').1]) ∧
      (p.noteAll (S.endBulk c.request s').1).outcome =
        Bulk.resolve c.marker (S.listObjects c.bucket c.scope s).1 failures ∧
      (toDelete c.marker (found (S.listObjects c.bucket c.scope s).1) = [] →
        s' = (S.listObjects c.bucket c.scope s).2) := by
  cases h with
  | passing first failed passing => cases passing
  | @bulk _ _ u _ _ flow noted plain silent untouched =>
    have hdelivered := delivered_of_flow flow noted
    have heverything := hdelivered.everything exhausted
    refine ⟨_, ?_, hdelivered.settled exhausted _, fun hnone => ?_⟩
    · rw [List.cons_append]
      refine .mk plain silent heverything rfl fun hnone => ?_
      obtain ⟨hstore, hquiet⟩ := untouched hnone
      rw [hquiet, hstore]
      rfl
    · exact (untouched (heverything.trans hnone)).1

/-- **Step.** A call that evicts goes on, or leaves its passes with an answer. -/
theorem Proceeding.step (hmax : c.limit ≤ Single.maxPermits) (h : Proceeding S c s t x)
    (hs : Step S c x a y) : Proceeding S c s (t ++ [a]) y ∨ Departs S c s t x a y.stage := by
  cases h with
  | called =>
    cases hs with
    | begin =>
      refine .inl (.bulk (u := []) ?_ ⟨rfl, rfl⟩ (by simp) ⟨rfl, rfl⟩ fun _ => ⟨rfl, rfl⟩)
      exact Bulk.flow_start _ _
    | abort cancelled => exact .inr (.cancelled rfl cancelled)
  | @bulk s' token u rest p flow noted plain silent untouched =>
    have hproceeding : Proceeding S c s (.list (S.listObjects c.bucket c.scope s).1 :: u)
        ⟨s', token, .bulk rest p⟩ := .bulk flow noted plain silent untouched
    cases hs with
    | bulk step => exact .inl (hproceeding.step_bulk step)
    | abort cancelled => exact .inr (.cancelled rfl cancelled)
    | endBulk exhausted =>
      obtain ⟨failures, first, houtcome, -⟩ := hproceeding.endBulk exhausted
      rw [houtcome]
      rcases clean_or_bulkError c (S.listObjects c.bucket c.scope s).1 failures with
        ⟨whole, rfl, hclean⟩ | ⟨primary, failed, hprimary⟩
      · rw [hclean]
        exact .inr (.answers (.bulk first whole))
      · rw [afterBulk_of_primary hprimary, ← List.append_nil (_ ++ _)]
        exact .inl (.passing first failed .waiting)
  | @passing t failures s' primary u _ first failed passing =>
    rcases passing.step hs with hstays | hleaves
    · rw [List.append_assoc]
      exact .inl (.passing first failed hstays)
    · refine .inr ?_
      generalize y.stage = g at hleaves ⊢
      cases hleaves with
      | cancelled cancelled => exact .cancelled rfl cancelled
      | tooManyPermits exceeds => exact absurd exceeds (Nat.not_lt.2 hmax)
      | died actions listing =>
        subst actions
        refine .answers (r := .error (.died _)) ?_
        rw [List.append_assoc, List.cons_append]
        exact .died first failed listing
      | reported stage idle actions report plain =>
        subst actions
        rw [Single.afterSingle_eq_stageAfter, stageAfter_eq]
        refine .answers ?_
        rw [List.append_assoc, List.cons_append]
        exact evicts_of_reported first failed (plain_snoc plain ⟨rfl, rfl⟩) report.snoc_inner

theorem Proceeding.withToken (h : Proceeding S c s t x) (token : Token) :
    Proceeding S c s t { x with token } := by
  cases h with
  | called => exact .called
  | bulk flow noted plain silent untouched => exact .bulk flow noted plain silent untouched
  | passing first failed passing => exact .passing first failed (passing.withToken token)

theorem Proceeding.evicting (h : Proceeding S c s t x) : x.stage.Evicting := by
  cases h with
  | passing first failed passing => exact passing.evicting
  | _ => exact trivial

theorem Departs.not_evicting {g : Stage} (h : Departs S c s t x a g) : ¬ g.Evicting := by
  cases h with
  | @answers r =>
    cases r with
    | ok held => exact not_evicting_afterPass held
    | error stop => exact id
  | cancelled => exact id

/-- **Run.** A call that has been made evicts still, or has left its passes. -/
theorem Run.proceeding {outside : Bool} (hmax : c.limit ≤ Single.maxPermits)
    (h : Run S c outside x t y) (hx : x.stage = .called) :
    Proceeding S c x.store t y ∨ ¬ y.stage.Evicting := by
  induction h with
  | refl =>
    obtain ⟨s, token, stage⟩ := x
    subst hx
    exact .inl .called
  | step _ hs ih =>
    rcases ih with hproceeding | hleft
    · exact (hproceeding.step hmax hs).imp_right Departs.not_evicting
    · exact .inr (hs.not_evicting hleft)
  | cancel _ _ _ ih => exact ih.imp_left fun h => h.withToken _

/-- **Every order.** If nothing cancels the client, an eviction comes to its answer in whatever order
its tasks take their steps. -/
theorem attains_answer (spares : S.SparesClient) (hlimit : 1 ≤ c.limit)
    (hmax : c.limit ≤ Single.maxPermits) {token : Token} (live : token.isCancelled = false) (s : σ) :
    Attains S c (fun t x => ∃ r, Evicts S c s t r ∧ x.stage = c.afterEvict r) []
      ⟨s, token, .called⟩ := by
  refine Attains.of_invariant (I := fun t x => (∃ r, Evicts S c s t r ∧ x.stage = c.afterEvict r) ∨
    (Proceeding S c s t x ∧ x.stage.Undisturbed ∧ x.token.isCancelled = false))
    (.inr ⟨.called, trivial, live⟩) ?_
  rintro t x (hanswered | ⟨hproceeding, hundisturbed, hlive⟩)
  · exact .inl hanswered
  refine .inr ⟨?_, fun a y hs => ?_⟩
  · cases hproceeding with
    | called => exact exists_step hlimit trivial rfl
    | bulk => exact exists_step hlimit trivial rfl
    | passing first failed passing =>
      cases passing with
      | waiting => exact exists_step hlimit trivial rfl
      | working plain flow => exact exists_step hlimit flow.permits rfl
  obtain ⟨hquiet, hkept⟩ := hs.not_disturbs spares hundisturbed
  refine ⟨?_, fun h => hquiet (.of_stalls h)⟩
  rcases hproceeding.step hmax hs with hgoes | hdeparts
  · exact .inr ⟨hgoes, hkept, by rw [hs.token_eq hquiet]; exact hlive⟩
  · generalize y.stage = g at hdeparts ⊢
    cases hdeparts with
    | answers evicts => exact .inl ⟨_, evicts, rfl⟩
    | cancelled _ cancelled => simp [hlive] at cancelled

/-! ## The executed eviction -/

namespace Bulk

open Operation

variable {bucket scope : String} {marker : Option String} {request : Store.BulkRequest}

theorem stops_handOver {P : Stop → World σ → Prop} (S : Store σ) (request : Store.BulkRequest)
    (p : Pass) : (handOver S request p).Stops P := by
  unfold handOver
  dsimp only
  split
  · exact .pure _
  · exact .bind (.onStore _) fun failures => .pure _

theorem stops_drive (S : Store σ) (request : Store.BulkRequest) (marker : Option String)
    (events : List Event) (p : Pass) : (drive S request marker events p).Stops Interrupts := by
  induction events generalizing p with
  | nil => exact stops_handOver S request _
  | cons e rest ih =>
    cases e with
    | pause => exact .bind (stops_handOver S request p) fun p => .bind (.wait 0) fun _ => ih p
    | cancels stalls =>
      intro w stop w' ho
      simp only [drive, outcome_bind, outcome_cancel, outcome_throw] at ho
      cases ho
      exact ⟨rfl, w.token.isCancelled_cancel⟩
    | found ref => exact ih _
    | failed e => exact stops_handOver S request _
    | died message => exact stops_handOver S request _

/-- A bulk pass stops only when it is interrupted. -/
theorem stops_run (S : Store σ) (bucket scope : String) (marker : Option String) :
    (run S bucket scope marker).Stops Interrupts := by
  refine .bind (.onStore _) fun events => .bind (.wait 0) fun _ => ?_
  exact .bind (stops_drive S _ marker events {}) fun p => .bind (.onStore _) fun _ => .pure _

/-- A bulk pass that is executed and ends has done what a bulk pass does. -/
theorem executed_run {w w' : World σ} {o : Outcome} (hmax : c.limit ≤ Single.maxPermits)
    (live : w.token.isCancelled = false)
    (ho : (run S c.bucket c.scope c.marker).outcome w = (.ok o, w')) :
    ∃ t failures, BulkPass S c w.store failures t ∧
      o = resolve c.marker (S.listObjects c.bucket c.scope w.store).1 failures ∧
      Run S c w.alarm.isSome (stateIn w .called) t (stateIn w' (c.afterBulk o)) ∧
      (w'.alarm.isSome = true → w.alarm.isSome = true) ∧
      (toDelete c.marker (found (S.listObjects c.bucket c.scope w.store).1) = [] →
        w'.store = (S.endBulk c.request (S.listObjects c.bucket c.scope w.store).2).2) := by
  obtain ⟨t, w₁, rest, p, hrun, halarm, exhausted, rfl, rfl⟩ := run_exhausts live ho
  rcases hrun.proceeding hmax rfl with hproceeding | hleft
  · obtain ⟨failures, first, houtcome, hstore⟩ := hproceeding.endBulk exhausted
    have hend := hrun.step (.endBulk exhausted)
    refine ⟨_, failures, first, houtcome, hend, halarm, fun hnone => ?_⟩
    exact congrArg (fun s => (S.endBulk c.request s).2) (hstore hnone)
  · exact absurd trivial hleft

end Bulk

open Operation in
theorem outcome_fallBack (S : Store σ) (limit : Nat) (primary : Error) (w : World σ) :
    (fallBack S limit c.bucket c.scope c.marker primary).outcome w =
      (c.answer primary ((Single.run S limit c.bucket c.scope c.marker).outcome w).1,
        ((Single.run S limit c.bucket c.scope c.marker).outcome w).2) := by
  unfold fallBack
  simp only [outcome_bind, outcome_tryCatch, map_eq_pure_bind]
  rcases (Single.run S limit c.bucket c.scope c.marker).outcome w with
    ⟨(e | message | _) | ⟨tally, held⟩, w'⟩
  · rfl
  · rfl
  · rfl
  · simp only [outcome_pure, Call.answer]
    split <;> rfl

/-- How an eviction is executed in the world `w`, and what it leaves behind. -/
inductive Executed (S : Store σ) (c : Call) (w : World σ) :
    Except Stop (List ObjectRef) → World σ → Prop
  | evicts {t r w' g}
      (run : Run S c w.alarm.isSome (stateIn w .called) t (stateIn w' g))
      (evicts : Evicts S c w.store t r) : Executed S c w r w'
  /-- The client was cancelled, from outside or by the store. -/
  | interrupted {t g w'}
      (run : Run S c w.alarm.isSome (stateIn w .called) t (stateIn w' g))
      (cause : w.alarm.isSome = true ∨ ∃ a ∈ t, a.Disturbs) :
      Executed S c w (.error .interrupted) w'

/-- After a bulk pass that has failed, the eviction ends as its single pass does. -/
theorem Executed.of_single {w w₁ w' : World σ} {r : Except Stop (Tally × List ObjectRef)}
    (live : w.token.isCancelled = false) (first : BulkPass S c w.store failures t)
    (failed : BulkError c (S.listObjects c.bucket c.scope w.store).1 failures primary)
    (hrun : Run S c w.alarm.isSome (stateIn w .called) t (stateIn w₁ (.between primary)))
    (halarm : w₁.alarm.isSome = true → w.alarm.isSome = true)
    (h : Single.Executed S c primary w₁ r w') : Executed S c w (c.answer primary r) w' := by
  cases h with
  | reported run idle plain result report =>
    exact .evicts (hrun.trans (run.mono halarm)) (evicts_of_reported first failed plain report)
  | died run listing =>
    exact .evicts (hrun.trans (run.mono halarm)) (.died first failed listing)
  | @interrupted t' g _ run cause =>
    refine .interrupted (hrun.trans (run.mono halarm)) ?_
    rcases cause with cancelled | alarmed | ⟨a, ha, hd⟩
    · exact (hrun.disturbed live cancelled).imp_right fun ⟨a, ha, hd⟩ =>
        ⟨a, List.mem_append_left _ ha, hd⟩
    · exact .inl (halarm alarmed)
    · exact .inr ⟨a, List.mem_append_right _ ha, hd⟩

/-- After a bulk pass that has failed, an eviction falls back on the single pass. -/
theorem outcome_evict_of_primary {limit : Nat} {w w₁ : World σ} {o : Bulk.Outcome}
    (ho : (Bulk.run S c.bucket c.scope c.marker).outcome w = (.ok o, w₁))
    (hprimary : c.primary? o = some primary) :
    (evict S limit c.bucket c.scope c.marker).outcome w =
      (fallBack S limit c.bucket c.scope c.marker primary).outcome w₁ := by
  rw [evict, Operation.outcome_bind, ho]
  cases o with
  | completed held => cases hprimary
  | listingFailed e => cases hprimary; rfl
  | requestFailed e => cases hprimary; rfl
  | objectsFailed failed => cases hprimary; rfl

theorem executed_evict (hlimit : 1 ≤ c.limit) (hmax : c.limit ≤ Single.maxPermits) {w : World σ}
    (live : w.token.isCancelled = false) :
    Executed S c w ((evict S c.limit c.bucket c.scope c.marker).outcome w).1
      ((evict S c.limit c.bucket c.scope c.marker).outcome w).2 := by
  rcases ho : (Bulk.run S c.bucket c.scope c.marker).outcome w with ⟨stop | o, w₁⟩
  · obtain ⟨rfl, hc⟩ := Bulk.stops_run _ _ _ _ _ _ _ ho
    obtain ⟨t, g, hrun, -, -⟩ := Bulk.follows_run (S := S) (c := c) live
    rw [evict, Operation.outcome_bind, ho]
    rw [ho] at hrun
    exact .interrupted hrun (hrun.disturbed live hc)
  · obtain ⟨t, failures, first, houtcome, hrun, halarm, -⟩ := Bulk.executed_run hmax live ho
    rcases clean_or_bulkError c (S.listObjects c.bucket c.scope w.store).1 failures with
      ⟨whole, rfl, hclean⟩ | ⟨primary, failed, hprimary⟩
    · rw [hclean] at houtcome
      subst houtcome
      rw [evict, Operation.outcome_bind, ho]
      exact .evicts hrun (.bulk first whole)
    · rw [← houtcome] at hprimary
      rw [afterBulk_of_primary hprimary] at hrun
      rw [outcome_evict_of_primary ho hprimary, outcome_fallBack]
      exact .of_single live first failed hrun halarm (Single.executed_run hlimit hmax primary w₁)

/-! ## Where only the marker is left -/

section Memory

open Store (Memory Bucket memory)

variable {m : Memory} {b : Bucket}

/-- The store after one more listing. -/
def afterListing (m : Memory) : Memory :=
  { m with counters := { m.counters with listings := m.counters.listings + 1 } }

/-- A scope is bare if nothing but versions of the marker is in it, and its listings do not break
off. -/
structure Bare (m : Memory) (c : Call) (b : Bucket) : Prop where
  bucket : m.buckets.find? c.bucket = some b
  unarmed : m.faults.failingListings = 0
  marked : ∀ ref ∈ b.refs c.scope, c.marker = some ref.key

namespace Bare

theorem list (h : Bare m c b) : memory.listObjects c.bucket c.scope m =
    (Memory.events none 0 (b.refs c.scope), afterListing m) := by
  have hlist : memory.listObjects c.bucket c.scope m = m.list c.bucket c.scope := rfl
  rw [hlist]
  simp [Memory.list, Memory.takeListingFault, h.unarmed, h.bucket, afterListing]

theorem found_list (h : Bare m c b) :
    found (memory.listObjects c.bucket c.scope m).1 = b.refs c.scope := by
  rw [h.list]
  exact found_events_none 0 _

theorem heldBack_list (h : Bare m c b) :
    heldBack c.marker (found (memory.listObjects c.bucket c.scope m).1) = b.refs c.scope := by
  rw [h.found_list, heldBack, List.filter_eq_self]
  exact fun ref hm => decide_eq_true (h.marked ref hm)

theorem toDelete_list (h : Bare m c b) :
    toDelete c.marker (found (memory.listObjects c.bucket c.scope m).1) = [] := by
  rw [h.found_list, toDelete, List.filter_eq_nil_iff]
  exact fun ref hm => by simpa using h.marked ref hm

theorem whole (h : Bare m c b) :
    listingEnd (memory.listObjects c.bucket c.scope m).1 = .whole := by
  rw [h.list]
  exact listingEnd_events none 0 _

/-- Without anything to be deleted, nothing is asked for and nothing reported. -/
theorem quiet (h : Bare m c b) {failures : List DeleteFailure} {t : List Action}
    (pass : BulkPass memory c m failures t) : failures = [] ∧ t.flatMap Action.requested = [] := by
  cases pass with
  | mk plain silent handed reported untouched =>
    rw [h.toDelete_list] at handed
    exact ⟨untouched handed, by simp [Action.requested, handed]⟩

theorem not_bulkError (h : Bare m c b) (e : Error) :
    ¬ BulkError c (memory.listObjects c.bucket c.scope m).1 [] e := by
  intro he
  cases he with
  | listing broke => rw [h.whole] at broke; cases broke
  | request listed first => simp at first
  | objects listed refusals some => exact some rfl
  | died died => rw [h.whole] at died; cases died

theorem resolve (h : Bare m c b) :
    Bulk.resolve c.marker (memory.listObjects c.bucket c.scope m).1 [] =
      .completed (b.refs c.scope) := by
  rcases clean_or_bulkError c (memory.listObjects c.bucket c.scope m).1 [] with
    ⟨-, -, hclean⟩ | ⟨e, he, -⟩
  · rw [hclean, h.heldBack_list]
  · exact absurd he (h.not_bulkError e)

/-- In whatever order its tasks take their steps, the eviction is left after a clean bulk pass that has
done nothing but list. -/
theorem departs (h : Bare m c b) (hmax : c.limit ≤ Single.maxPermits) {outside : Bool} {token : Token}
    {t : List Action} {x y : State Memory} {a : Action}
    (hrun : Run memory c outside ⟨m, token, .called⟩ t x) (evicting : x.stage.Evicting)
    (hs : Step memory c x a y) (left : ¬ y.stage.Evicting) :
    (a = .abort ∧ x.token.isCancelled = true) ∨
      (BulkPass memory c m [] (t ++ [a]) ∧ (t ++ [a]).flatMap Action.requested = [] ∧
        y.stage = c.afterPass (b.refs c.scope) ∧ y.store = afterListing m) := by
  have hproceeding := (hrun.proceeding hmax rfl).resolve_right fun hleft => hleft evicting
  cases hproceeding with
  | called =>
    cases hs with
    | begin => exact absurd trivial left
    | abort cancelled => exact .inl ⟨rfl, cancelled⟩
  | @bulk s' token' u rest p flow noted plain silent untouched =>
    cases hs with
    | bulk step => exact absurd trivial left
    | abort cancelled => exact .inl ⟨rfl, cancelled⟩
    | endBulk exhausted =>
      have hbulk : Proceeding memory c m _ ⟨s', token', .bulk rest p⟩ :=
        .bulk flow noted plain silent untouched
      obtain ⟨failures, first, houtcome, hstore⟩ := hbulk.endBulk exhausted
      obtain ⟨rfl, hrequested⟩ := h.quiet first
      refine .inr ⟨first, hrequested, ?_, ?_⟩
      · rw [houtcome, h.resolve]
        rfl
      · have hsame := hstore h.toDelete_list
        rw [h.list] at hsame
        exact hsame
  | passing first failed passing =>
    obtain ⟨rfl, -⟩ := h.quiet first
    exact absurd failed (h.not_bulkError _)

/-- So does the eviction that is executed. -/
theorem outcome_evict (hmax : c.limit ≤ Single.maxPermits) {limit : Nat} {w : World Memory}
    (h : Bare w.store c b) (live : w.token.isCancelled = false) (calm : w.alarm = none) :
    ((evict memory limit c.bucket c.scope c.marker).outcome w).1 = .ok (b.refs c.scope) ∧
      ((evict memory limit c.bucket c.scope c.marker).outcome w).2.store = afterListing w.store := by
  rw [evict, Operation.outcome_bind]
  rcases ho : (Bulk.run memory c.bucket c.scope c.marker).outcome w with ⟨stop | o, w₁⟩
  · obtain ⟨rfl, hc⟩ := Bulk.stops_run _ _ _ _ _ _ _ ho
    obtain ⟨t, g, hrun, -, -⟩ := Bulk.follows_run (S := memory) (c := c) live
    rw [ho] at hrun
    rcases hrun.disturbed live hc with houtside | ⟨a, ha, hd⟩
    · simp [calm] at houtside
    · exact absurd hd ((hrun.not_disturbed memory_spares trivial).1 a ha)
  · obtain ⟨t, failures, first, rfl, -, -, hstore⟩ := Bulk.executed_run hmax live ho
    obtain ⟨rfl, -⟩ := h.quiet first
    have hleft := hstore h.toDelete_list
    rw [h.list] at hleft
    rw [h.resolve]
    exact ⟨rfl, hleft⟩

end Bare

end Memory

/-! ## The answer of a client's eviction -/

/-- **Answers.** An eviction, on every store and on behalf of a client with a valid configuration,
answers as its listings, the failures reported and the ends of its removals say, in whatever order its
tasks take their steps; or it is cancelled. If nothing cancels the client it comes to that answer. The
eviction that a client executes does the same. In memory, a scope with nothing but the marker in it is
left to a bulk pass that lists it and asks for nothing, however bulk deletions behave. -/
theorem evict_answers (S : Store σ) (config : Config) (valid : config.validate = .ok ())
    (permits : config.parallelism.toNat ≤ Single.maxPermits) (bucket : String) (target : Target) :
    (∀ outside s token t x a y,
      Run S (.ofConfig config bucket target) outside ⟨s, token, .called⟩ t x → x.stage.Evicting →
      Step S (.ofConfig config bucket target) x a y → ¬ y.stage.Evicting →
        Departs S (.ofConfig config bucket target) s t x a y.stage) ∧
    (S.SparesClient → ∀ s token, token.isCancelled = false →
      Attains S (.ofConfig config bucket target) (fun t x => ∃ r,
        Evicts S (.ofConfig config bucket target) s t r ∧
          x.stage = (Call.ofConfig config bucket target).afterEvict r) [] ⟨s, token, .called⟩) ∧
    (∀ w : World σ, w.token.isCancelled = false →
      Executed S (.ofConfig config bucket target) w
        ((evict S config.parallelism.toNat bucket target.scope target.marker).outcome w).1
        ((evict S config.parallelism.toNat bucket target.scope target.marker).outcome w).2) ∧
    ∀ m b, Bare m (.ofConfig config bucket target) b →
      (∀ outside token t x a y,
        Run Store.memory (.ofConfig config bucket target) outside ⟨m, token, .called⟩ t x →
        x.stage.Evicting → Step Store.memory (.ofConfig config bucket target) x a y →
        ¬ y.stage.Evicting →
          (a = .abort ∧ x.token.isCancelled = true) ∨
            (BulkPass Store.memory (.ofConfig config bucket target) m [] (t ++ [a]) ∧
              (t ++ [a]).flatMap Action.requested = [] ∧
              y.stage = (Call.ofConfig config bucket target).afterPass (b.refs target.scope) ∧
              y.store = afterListing m)) ∧
      ∀ w : World Store.Memory, w.store = m → w.token.isCancelled = false → w.alarm = none →
        ((evict Store.memory config.parallelism.toNat bucket target.scope target.marker).outcome w).1 =
            .ok (b.refs target.scope) ∧
          ((evict Store.memory config.parallelism.toNat bucket target.scope
            target.marker).outcome w).2.store = afterListing m := by
  have hlimit := Config.parallelism_pos valid
  refine ⟨?_, ?_, ?_, ?_⟩
  · intro outside s token t x a y hrun evicting hs left
    have hproceeding := (hrun.proceeding permits rfl).resolve_right fun hleft => hleft evicting
    exact (hproceeding.step permits hs).resolve_left fun hgoes => left hgoes.evicting
  · intro spares s token live
    exact attains_answer spares hlimit permits live s
  · intro w live
    exact executed_evict (c := .ofConfig config bucket target) hlimit permits live
  · intro m b h
    constructor
    · intro outside token t x a y hrun evicting hs left
      exact h.departs permits hrun evicting hs left
    · rintro w rfl live calm
      exact h.outcome_evict (c := .ofConfig config bucket target) permits live calm

deriving instance DecidableEq for Stop

/-- In the bulk pass an object is refused, two requests fail, and the listing dies. In the single pass
one of two removals fails. -/
def twiceFailed : World Store.Scripted where
  store := { script := {
    listings := [[.found ⟨"vol/b", some "v1"⟩, .found ⟨"vol/a", none⟩, .died "lost"],
      [.found ⟨"vol/", none⟩, .found ⟨"vol/a", none⟩, .found ⟨"vol/b", some "v1"⟩]]
    bulk := fun ref =>
      some (if ref.version.isSome then .refuse "AccessDenied" else .failRequest (.io "reset"))
    bulkEnd := some .cancelled
    removal := fun ref => if ref.version.isSome then .fail (.io "reset") else .succeed } }
  token := .fresh

/-- Only a marker is stored, and no bulk deletion works. -/
def markerOnly : Store.Memory :=
  { ({} : Store.Memory).seed "data" ["vol/"] with faults := { bulk := .unsupported } }

theorem evict_answers_failed :
    (∃ t, Evicts Store.scripted (.ofConfig Session.brokenOff.client.config "data" (.below "vol"))
      twiceFailed.store t (.error (.failed (.eviction (.io "reset")
        (.partialEviction "data" "vol/" 1 2))))) ∧
    ((evict Store.memory Session.brokenOff.client.config.parallelism.toNat "data" "vol/"
      (some "vol/")).outcome { store := markerOnly, token := .fresh }).1 = .ok [⟨"vol/", none⟩] := by
  have hvalid : Session.brokenOff.client.config.validate = .ok () := by decide +kernel
  constructor
  · have hexecuted := (evict_answers Store.scripted Session.brokenOff.client.config hvalid (by decide)
      "data" (.below "vol")).2.2.1 twiceFailed rfl
    have hanswer : ((evict Store.scripted Session.brokenOff.client.config.parallelism.toNat "data"
        (Target.below "vol").scope (Target.below "vol").marker).outcome twiceFailed).1 =
          .error (.failed (.eviction (.io "reset") (.partialEviction "data" "vol/" 1 2))) := by
      decide +kernel
    rw [hanswer] at hexecuted
    cases hexecuted with
    | evicts run evicts => exact ⟨_, evicts⟩
  · obtain ⟨b, hb⟩ : ∃ b, markerOnly.buckets.find? "data" = some b := ⟨_, rfl⟩
    have hbare : Bare markerOnly
        (.ofConfig Session.brokenOff.client.config "data" (.below "vol")) b := by
      cases hb
      exact ⟨rfl, rfl, by decide⟩
    have hanswer := (((evict_answers Store.memory Session.brokenOff.client.config hvalid (by decide)
      "data" (.below "vol")).2.2.2 markerOnly b hbare).2 { store := markerOnly, token := .fresh }
        rfl rfl rfl).1
    cases hb
    exact hanswer

end Eviction

end ObjectVolume
