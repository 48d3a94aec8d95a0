import ObjectVolume.Proofs.Eviction.Execution
import ObjectVolume.Store.Scripted
/-!
# The marker and the bucket go last

Whatever a store delivers, reports and answers, and whatever order the tasks of a call take their
steps in: no version of the marker is handed to either pass, and a version of the marker, or the
bucket, is removed only after a pass that was clean. The versions that are removed are those which that
very pass has held back.
-/
namespace ObjectVolume

namespace Eviction

open Store (Event Reply)

/-! ## Clean passes, as they are seen from outside -/

/-- The actions of a bulk pass whose listing came to its end and of which no failure was reported. -/
structure CleanBulk (marker : Option String) (events : List Event) (pass : List Action) : Prop where
  listing : listingEnd events = .whole
  requested : pass.flatMap Action.requested = toDelete marker (found events)
  quiet : ∀ a ∈ pass, a.reported = []
  ended : .endBulk [] ∈ pass

/-- Something is handed to the bulk deletion, or it ends. -/
def Action.isBulk : Action → Bool
  | request _ _ | endBulk _ => true
  | _ => false

/-- The actions of a single pass whose listing came to its end and all of whose removals ended well.
Nothing of a bulk pass is among them. -/
structure CleanSingle (marker : Option String) (events : List Event) (pass : List Action) : Prop where
  single : ∀ a ∈ pass, a.isBulk = false
  listing : listingEnd events = .whole
  removed : ((pass.flatMap Single.endings).map (·.1)).Perm (toDelete marker (found events))
  succeeds : ∀ e ∈ pass.flatMap Single.endings, e.2 = .done

/-- The marker or the bucket is touched. -/
def Action.isLast : Action → Bool
  | startMarker _ | finishMarker _ _ | removeBucket _ => true
  | _ => false

def Action.isList : Action → Bool
  | list _ => true
  | _ => false

/-- The versions of the marker whose removal starts. -/
def Action.started : Action → List ObjectRef
  | startMarker ref => [ref]
  | _ => []

/-- The versions of the marker whose removal ends well. -/
def Action.completed : Action → List ObjectRef
  | finishMarker ref reply => if reply.ending = some .done then [ref] else []
  | _ => []

/-- A bulk deletion has ended, whatever it reported. -/
def BulkOver (t : List Action) : Prop :=
  ∃ failures, .endBulk failures ∈ t

/-- A clean pass with what came before it: nothing before a bulk pass, and a bulk pass before a single
one. -/
inductive CleanPass (marker : Option String) (events : List Event) :
    (earlier pass : List Action) → Prop
  | bulk {pass} (clean : CleanBulk marker events pass) : CleanPass marker events [] pass
  | single {earlier pass} (ended : BulkOver earlier) (clean : CleanSingle marker events pass) :
      CleanPass marker events earlier pass

/-- In a clean pass no failure is reported. In particular a bulk pass that has failed is not clean, even
if its listing finds nothing. -/
theorem CleanPass.reported {marker : Option String} {events : List Event} {earlier pass : List Action}
    (h : CleanPass marker events earlier pass) : ∀ a ∈ pass, a.reported = [] := by
  intro a ha
  cases h with
  | bulk clean => exact clean.quiet a ha
  | single ended clean =>
    have hsingle := clean.single a ha
    cases a <;> first | rfl | cases hsingle

/-- The last pass among these actions was clean, with a listing of `events`; the actions in `since`
came after it, and nothing touched the marker or the bucket before. -/
def PassedCleanly (c : Call) (t : List Action) (events : List Event) (since : List Action) : Prop :=
  ∃ earlier pass, t = earlier ++ .list events :: (pass ++ since) ∧
    CleanPass c.marker events earlier pass ∧
    (∀ a ∈ earlier ++ pass, a.isLast = false) ∧ ∀ a ∈ pass ++ since, a.isList = false

/-- What may happen after other actions. -/
def Allowed (c : Call) (before : List Action) : Action → Prop
  | .request refs _ => ∀ ref ∈ refs, c.marker ≠ some ref.key
  | .start ref => c.marker ≠ some ref.key
  | .startMarker ref => ∃ events since later, PassedCleanly c before events since ∧
      since.flatMap Action.started = since.flatMap Action.completed ∧
      heldBack c.marker (found events) = since.flatMap Action.completed ++ ref :: later
  | .finishMarker ref _ => ∃ events since later, PassedCleanly c before events since ∧
      since.flatMap Action.started = since.flatMap Action.completed ++ [ref] ∧
      heldBack c.marker (found events) = since.flatMap Action.completed ++ ref :: later
  | .removeBucket _ => ∃ events since, PassedCleanly c before events since
  | _ => True

/-- What has happened when a call succeeds: the versions of the marker that the clean pass has held
back are removed, all of them and no others, or the bucket is. -/
def Completed (c : Call) (t : List Action) : Prop :=
  match c.target with
  | .below _ => ∃ events since, PassedCleanly c t events since ∧
      since.flatMap Action.started = heldBack c.marker (found events) ∧
      since.flatMap Action.completed = heldBack c.marker (found events)
  | .bucket => ∃ before reply, t = before ++ [.removeBucket reply] ∧ reply.succeeds

/-- The actions of a call up to a stage come in an order that is allowed. -/
structure Ordered (c : Call) (t : List Action) (stage : Stage) : Prop where
  allowed : ∀ before a after, t = before ++ a :: after → Allowed c before a
  completed : stage = .answered (.done ()) → Completed c t

/-! ## One step -/

/-- What the actions of a call say of the stage it is at. -/
inductive Traced (c : Call) : List Action → Stage → Prop
  | called : Traced c [] .called
  | bulk {events u rest p} (flow : Bulk.Flow c.marker events (u.flatMap Action.requested) rest p)
      (noted : Bulk.Noted (u.flatMap Action.reported) p)
      (plain : ∀ a ∈ u, a.isLast = false ∧ a.isList = false) :
      Traced c (.list events :: u) (.bulk rest p)
  | between {t primary} (plain : ∀ a ∈ t, a.isLast = false) (ended : BulkOver t) :
      Traced c t (.between primary)
  | single {earlier events u rest p primary} (before : ∀ a ∈ earlier, a.isLast = false)
      (ended : BulkOver earlier) (single : ∀ a ∈ u, a.isBulk = false)
      (flow : Single.Flow c.limit c.marker events (u.flatMap Single.endings) rest p)
      (plain : ∀ a ∈ u, a.isLast = false ∧ a.isList = false) :
      Traced c (earlier ++ .list events :: u) (.single primary rest p)
  | removing {root t events since held} (target : c.target = .below root)
      (passed : PassedCleanly c t events since)
      (started : since.flatMap Action.started = since.flatMap Action.completed)
      (split : heldBack c.marker (found events) = since.flatMap Action.completed ++ held) :
      Traced c t (.removing held)
  | awaiting {root t events since ref held} (target : c.target = .below root)
      (passed : PassedCleanly c t events since)
      (started : since.flatMap Action.started = since.flatMap Action.completed ++ [ref])
      (split : heldBack c.marker (found events) = since.flatMap Action.completed ++ ref :: held) :
      Traced c t (.awaiting ref held)
  | closing {t events since} (target : c.target = .bucket) (passed : PassedCleanly c t events since) :
      Traced c t .closing
  | answered {t answer} (completed : answer = .done () → Completed c t) : Traced c t (.answered answer)

variable {σ : Type} {S : Store σ} {c : Call} {x y : State σ} {a : Action} {t since : List Action}
  {events : List Event}

theorem PassedCleanly.snoc (h : PassedCleanly c t events since) (ha : a.isList = false) :
    PassedCleanly c (t ++ [a]) events (since ++ [a]) := by
  obtain ⟨earlier, pass, rfl, hclean, hearlier, hlist⟩ := h
  refine ⟨earlier, pass, by simp, hclean, hearlier, fun b hb => ?_⟩
  rw [← List.append_assoc] at hb
  rcases List.mem_append.1 hb with hb | hb
  · exact hlist b hb
  · rw [List.mem_singleton.1 hb]
    exact ha

theorem Bulk.Step.plain {request : Store.BulkRequest} {marker : Option String}
    {x y : Underway σ Bulk.Pass} (h : Bulk.Step S request marker x a y) :
    a.isLast = false ∧ a.isList = false := by
  cases h <;> exact ⟨rfl, rfl⟩

theorem Single.Step.not_isBulk {bucket : String} {marker : Option String}
    {x y : Underway σ Single.Pass} (h : Single.Step S bucket marker x a y) : a.isBulk = false := by
  cases h <;> rfl

theorem Single.Step.plain {bucket : String} {marker : Option String} {x y : Underway σ Single.Pass}
    (h : Single.Step S bucket marker x a y) : a.isLast = false ∧ a.isList = false := by
  cases h <;> exact ⟨rfl, rfl⟩

/-- After a clean pass nothing of what goes last has happened yet. -/
theorem traced_afterPass {earlier pass : List Action} {held : List ObjectRef}
    (before : ∀ a ∈ earlier, a.isLast = false) (plain : ∀ a ∈ pass, a.isLast = false ∧ a.isList = false)
    (clean : CleanPass c.marker events earlier pass)
    (hheld : held = heldBack c.marker (found events)) :
    Traced c (earlier ++ .list events :: pass) (c.afterPass held) := by
  have hpassed : PassedCleanly c (earlier ++ .list events :: pass) events [] := by
    refine ⟨earlier, pass, by simp, clean, fun a ha => ?_, fun a ha => ?_⟩
    · rcases List.mem_append.1 ha with ha | ha
      · exact before a ha
      · exact (plain a ha).1
    · rw [List.append_nil] at ha
      exact (plain a ha).2
  unfold Call.afterPass
  cases htarget : c.target with
  | below root => exact .removing htarget hpassed rfl hheld.symm
  | bucket => exact .closing htarget hpassed

/-- A bulk pass that is completed was clean. -/
theorem traced_endBulk {u : List Action} {rest : List Event} {p : Bulk.Pass}
    (flow : Bulk.Flow c.marker events (u.flatMap Action.requested) rest p)
    (noted : Bulk.Noted (u.flatMap Action.reported) p)
    (plain : ∀ a ∈ u, a.isLast = false ∧ a.isList = false) (exhausted : p.Exhausted)
    (failures : List DeleteFailure) :
    Traced c (.list events :: u ++ [.endBulk failures]) (c.afterBulk (p.noteAll failures).outcome) := by
  have hexhausted : (p.noteAll failures).Exhausted := by
    rw [Bulk.noteAll_eq]
    exact exhausted
  have hplain : ∀ a ∈ u ++ [.endBulk failures], a.isLast = false ∧ a.isList = false := by
    intro a ha
    rcases List.mem_append.1 ha with ha | ha
    · exact plain a ha
    · rw [List.mem_singleton.1 ha]
      exact ⟨rfl, rfl⟩
  have hbetween (e : Error) : Traced c (.list events :: u ++ [.endBulk failures]) (.between e) := by
    refine .between ?_ ⟨failures, by simp⟩
    intro a ha
    rcases List.mem_cons.1 ha with rfl | ha
    · rfl
    · exact (hplain a ha).1
  cases ho : (p.noteAll failures).outcome with
  | listingFailed e => exact hbetween e
  | requestFailed e => exact hbetween e
  | objectsFailed failed => exact hbetween _
  | completed held =>
    obtain ⟨hwhole, hfailed, hrequest, hheld⟩ :=
      (flow.noteAll failures).outcome_completed hexhausted ho
    have hnil := (noted.noteAll failures).eq_nil hfailed hrequest
    obtain ⟨hquiet, rfl⟩ := List.append_eq_nil_iff.1 hnil
    have hclean : CleanBulk c.marker events (u ++ [.endBulk []]) := by
      refine ⟨hwhole, ?_, fun a ha => ?_, by simp⟩
      · rw [List.flatMap_append, (flow.exhausted exhausted).1]
        exact List.append_nil _
      · rcases List.mem_append.1 ha with ha | ha
        · exact List.flatMap_eq_nil_iff.1 hquiet a ha
        · rw [List.mem_singleton.1 ha]
          rfl
    have hnone : ∀ a ∈ ([] : List Action), a.isLast = false := by simp
    exact traced_afterPass hnone hplain (.bulk hclean) hheld

theorem not_isBulk_snoc {u : List Action} (h : ∀ a ∈ u, a.isBulk = false) (ha : a.isBulk = false) :
    ∀ b ∈ u ++ [a], b.isBulk = false := by
  intro b hb
  rcases List.mem_append.1 hb with hb | hb
  · exact h b hb
  · rw [List.mem_singleton.1 hb]
    exact ha

/-- A single pass after which the call goes on was clean. -/
theorem traced_endSingle {earlier u : List Action} {p : Single.Pass} {primary : Error}
    (before : ∀ a ∈ earlier, a.isLast = false) (ended : BulkOver earlier)
    (single : ∀ a ∈ u, a.isBulk = false)
    (flow : Single.Flow c.limit c.marker events (u.flatMap Single.endings) [] p)
    (plain : ∀ a ∈ u, a.isLast = false ∧ a.isList = false) (idle : p.inFlight = 0) :
    Traced c (earlier ++ .list events :: u ++ [.inner]) (c.afterSingle primary p.reap) := by
  have hplain : ∀ a ∈ u ++ [.inner], a.isLast = false ∧ a.isList = false := by
    intro a ha
    rcases List.mem_append.1 ha with ha | ha
    · exact plain a ha
    · rw [List.mem_singleton.1 ha]
      exact ⟨rfl, rfl⟩
  have hflow := flow.reap
  obtain ⟨hperm, hheld, -⟩ := hflow.idle idle
  unfold Call.afterSingle
  cases herror : p.reap.listingError with
  | some e => exact .answered (by simp)
  | none =>
    simp only []
    split
    next hcomplete =>
      have hnone : (u.flatMap Single.endings).countP (fun e => decide (e.2 ≠ .done)) = 0 := by
        have hzero : p.reap.tally.failed = 0 := by simpa [Tally.isComplete] using hcomplete
        have hdead : p.reap.dead = 0 := rfl
        rw [← hflow.failed, hzero, hdead]
      have hclean : CleanSingle c.marker events (u ++ [.inner]) := by
        have hall : (u ++ [Action.inner]).flatMap Single.endings = u.flatMap Single.endings := by
          simp [Single.endings]
        refine ⟨?_, ?_, ?_, fun e he => ?_⟩
        · exact not_isBulk_snoc single rfl
        · simpa [herror, listingEnd, eq_comm] using hflow.listing
        · rw [hall]
          exact hperm
        · rw [hall] at he
          simpa using List.countP_eq_zero.1 hnone e he
      rw [List.append_assoc]
      exact traced_afterPass before hplain (.single ended hclean) hheld
    next => exact .answered (by simp)

theorem plain_snoc {u : List Action} (h : ∀ a ∈ u, a.isLast = false ∧ a.isList = false)
    (ha : a.isLast = false ∧ a.isList = false) : ∀ b ∈ u ++ [a], b.isLast = false ∧ b.isList = false := by
  intro b hb
  rcases List.mem_append.1 hb with hb | hb
  · exact h b hb
  · rw [List.mem_singleton.1 hb]
    exact ha

/-- A step of the bulk pass: what it hands over was found, and is not the marker. -/
theorem Traced.step_bulk {x y : Underway σ Bulk.Pass} (h : Traced c t (.bulk x.rest x.pass))
    (hs : Bulk.Step S c.request c.marker x a y) :
    Traced c (t ++ [a]) (.bulk y.rest y.pass) ∧ Allowed c t a := by
  cases h with
  | @bulk events u rest p flow noted plain =>
  have hflow : Bulk.Flow c.marker events ((u ++ [a]).flatMap Action.requested) y.rest y.pass := by
    rw [List.flatMap_append]
    simpa using hs.flow flow
  have hnoted : Bulk.Noted ((u ++ [a]).flatMap Action.reported) y.pass := by
    rw [List.flatMap_append]
    simpa using hs.noted noted
  refine ⟨.bulk hflow hnoted (plain_snoc plain hs.plain), ?_⟩
  have hrequested : ∀ ref ∈ a.requested, c.marker ≠ some ref.key := by
    intro ref hm
    have hpulled : ref ∈ (u ++ [a]).flatMap Action.requested := by
      rw [List.flatMap_append]
      exact List.mem_append_right _ (by simpa using hm)
    exact (mem_toDelete.1 (hflow.pulled_subset hpulled)).2
  cases hs with
  | pull n pulled some => exact hrequested
  | read | readCancel | readEnd | pullError => exact trivial

/-- A step of the single pass: the removals that it starts were dispatched for what was found. -/
theorem Traced.step_single {primary : Error} {x y : Underway σ Single.Pass}
    (h : Traced c t (.single primary x.rest x.pass))
    (hs : Single.Step S c.bucket c.marker x a y) :
    Traced c (t ++ [a]) (.single primary y.rest y.pass) ∧ Allowed c t a := by
  cases h with
  | @single earlier events u rest p _ before ended single flow plain =>
  have hflow : Single.Flow c.limit c.marker events ((u ++ [a]).flatMap Single.endings) y.rest
      y.pass := by
    rw [List.flatMap_append]
    simpa using hs.flow flow
  refine ⟨?_, ?_⟩
  · rw [List.append_assoc, List.cons_append]
    exact .single before ended (not_isBulk_snoc single hs.not_isBulk) hflow (plain_snoc plain hs.plain)
  cases hs with
  | start ref dispatched =>
    have hfound := flow.removals.subset (List.mem_append_right _
      (List.mem_append_right _ (List.mem_append_left _ dispatched)))
    exact (mem_toDelete.1 hfound).2
  | _ => exact trivial

/-- A version of the marker was removed, or could not be, or its removal stalls. -/
theorem Traced.finishMarker {ref : ObjectRef} {held : List ObjectRef}
    (h : Traced c t (.awaiting ref held)) (reply : Reply Unit) :
    Traced c (t ++ [.finishMarker ref reply]) (afterRemoval ref held reply) ∧
      Allowed c t (.finishMarker ref reply) := by
  cases h with
  | @awaiting root t events since _ _ target passed started split =>
  refine ⟨?_, events, since, held, passed, started, split⟩
  have hpassed : PassedCleanly c (t ++ [.finishMarker ref reply]) events
      (since ++ [.finishMarker ref reply]) := passed.snoc rfl
  have hstarted : (since ++ [Action.finishMarker ref reply]).flatMap Action.started =
      since.flatMap Action.completed ++ [ref] := by
    rw [List.flatMap_append, started]
    simp [Action.started]
  -- a removal that ends well completes one more version, after which there may be others
  have hwell (hreply : reply.ending = some .done) :
      Traced c (t ++ [.finishMarker ref reply])
        (if held = [] then .answered (.done ()) else .removing held) := by
    have hcompleted : (since ++ [Action.finishMarker ref reply]).flatMap Action.completed =
        since.flatMap Action.completed ++ [ref] := by
      rw [List.flatMap_append]
      simp [Action.completed, hreply]
    by_cases hheld : held = []
    · rw [if_pos hheld]
      refine .answered ?_
      intro _
      simp only [Completed, target]
      rw [hheld] at split
      exact ⟨events, _, hpassed, hstarted.trans split.symm, hcompleted.trans split.symm⟩
    · rw [if_neg hheld]
      refine .removing target hpassed (hstarted.trans hcompleted.symm) ?_
      rw [hcompleted, split]
      simp
  cases reply with
  | done => exact hwell rfl
  | failed e => exact .answered (by simp)
  | died message => exact .answered (by simp)
  | cancels answer =>
    cases answer with
    | some => exact hwell rfl
    | none =>
      have hcompleted : (since ++ [Action.finishMarker ref (.cancels none)]).flatMap
          Action.completed = since.flatMap Action.completed := by
        rw [List.flatMap_append]
        simp [Action.completed, Reply.ending]
      exact .awaiting target hpassed (by rw [hstarted, hcompleted]) (by rw [hcompleted, split])

theorem Traced.removeBucket (h : Traced c t .closing) (reply : Reply Unit) :
    Traced c (t ++ [.removeBucket reply]) (afterClosing reply) ∧
      Allowed c t (.removeBucket reply) := by
  cases h with
  | @closing t events since target passed =>
  refine ⟨?_, events, since, passed⟩
  have hwell (hreply : reply.succeeds) :
      Traced c (t ++ [.removeBucket reply]) (.answered (.done ())) := by
    refine .answered ?_
    intro _
    simp only [Completed, target]
    exact ⟨t, reply, rfl, hreply⟩
  cases reply with
  | done => exact hwell rfl
  | failed e => exact .answered (by simp)
  | died message => exact .answered (by simp)
  | cancels answer =>
    cases answer with
    | some => exact hwell rfl
    | none => exact .closing target (passed.snoc rfl)

/-- **One step** keeps the trace and the stage together, and does only what is allowed. -/
theorem Traced.step (h : Traced c t x.stage) (hs : Step S c x a y) :
    Traced c (t ++ [a]) y.stage ∧ Allowed c t a := by
  cases hs with
  | begin running =>
    cases h with
    | called => exact ⟨.bulk (Bulk.flow_start _ _) ⟨rfl, rfl⟩ (by simp), trivial⟩
  | bulk step => exact h.step_bulk step
  | endBulk exhausted =>
    cases h with
    | bulk flow noted plain => exact ⟨traced_endBulk flow noted plain exhausted _, trivial⟩
  | fallBack fits =>
    cases h with
    | between plain ended =>
      exact ⟨.single plain ended (by simp) (Single.flow_start _ _ _) (by simp), trivial⟩
  | tooManyPermits exceeds => exact ⟨.answered (by simp), trivial⟩
  | single step => exact h.step_single step
  | die => exact ⟨.answered (by simp), trivial⟩
  | endSingle idle =>
    cases h with
    | single before ended single flow plain =>
      exact ⟨traced_endSingle before ended single flow plain idle, trivial⟩
  | noMarker =>
    cases h with
    | @removing root t events since _ target passed started split =>
      rw [List.append_nil] at split
      refine ⟨.answered fun _ => ?_, trivial⟩
      have hpassed : PassedCleanly c (t ++ [.inner]) events (since ++ [.inner]) := passed.snoc rfl
      simp only [Completed, target]
      refine ⟨events, _, hpassed, ?_, ?_⟩
      · rw [List.flatMap_append, started, split]
        simp [Action.started]
      · rw [List.flatMap_append, split]
        simp [Action.completed]
  | @startMarker s token ref held =>
    cases h with
    | @removing root t events since _ target passed started split =>
      refine ⟨?_, events, since, held, passed, started, split⟩
      have hcompleted : (since ++ [Action.startMarker ref]).flatMap Action.completed =
          since.flatMap Action.completed := by
        rw [List.flatMap_append]
        simp [Action.completed]
      refine .awaiting target (passed.snoc rfl) ?_ (by rw [hcompleted, split])
      rw [List.flatMap_append, started, hcompleted]
      simp [Action.started]
  | finishMarker => exact h.finishMarker _
  | removeBucket => exact h.removeBucket _
  | abort cancelled open_ => exact ⟨.answered (by simp), trivial⟩

/-! ## Whole runs -/

/-- **Every run** of a call from its start does only what is allowed, and has done all that it has to
do where it succeeds. -/
theorem Run.ordered {outside : Bool} {t : List Action} (h : Run S c outside x t y)
    (hx : x.stage = .called) : Traced c t y.stage ∧ Ordered c t y.stage := by
  suffices htraced : Traced c t y.stage ∧
      ∀ before a after, t = before ++ a :: after → Allowed c before a by
    refine ⟨htraced.1, htraced.2, fun hdone => ?_⟩
    have hlast := htraced.1
    rw [hdone] at hlast
    cases hlast with
    | answered completed => exact completed rfl
  induction h with
  | refl =>
    rw [hx]
    exact ⟨.called, fun before a after h => by simp at h⟩
  | cancel _ _ _ ih => exact ih
  | @step y z t a hrun hs ih =>
    obtain ⟨htraced, hallowed⟩ := ih
    obtain ⟨htraced', hlast⟩ := htraced.step hs
    refine ⟨htraced', fun before b after hsplit => ?_⟩
    -- the action is the one of this step, or comes before it
    rcases List.eq_nil_or_concat after with rfl | ⟨after', d, rfl⟩
    · obtain ⟨rfl, hab⟩ := List.append_inj' hsplit rfl
      cases hab
      exact hlast
    · have hsplit : t ++ [a] = (before ++ b :: after') ++ [d] := by simpa using hsplit
      exact hallowed before b after' (List.append_inj' hsplit rfl).1

end Eviction

namespace Session

open Eviction

variable {σ : Type}

/-- **The marker and the bucket go last.** This holds of every run of an eviction, on every store, and
what a client does is one of them. -/
theorem evict_ordered (S : Store σ) (s : Session σ) (bucket : String) (target : Target) :
    (∀ outside t y, Run S (s.call bucket target) outside ⟨s.store, s.client.token, .called⟩ t y →
      Ordered (s.call bucket target) t y.stage) ∧
    (1 ≤ s.client.config.parallelism.toNat → ∀ alarm, ∃ t,
      Run S (s.call bucket target) alarm.isSome ⟨s.store, s.client.token, .called⟩ t
        ⟨(s.evict S alarm bucket target).2.store, (s.evict S alarm bucket target).2.client.token,
          .answered (s.evict S alarm bucket target).1⟩ ∧
      Ordered (s.call bucket target) t (.answered (s.evict S alarm bucket target).1)) := by
  refine ⟨fun outside t y h => (h.ordered rfl).2, fun some_permit alarm => ?_⟩
  obtain ⟨t, hrun⟩ := s.run_evict alarm bucket target some_permit
  exact ⟨t, hrun, (hrun.ordered rfl).2⟩

/-- Two listings: one breaks off after the marker, the other finds a second version of it. -/
def scripted : Session Store.Scripted where
  store := { script := { listings :=
    [[.found ⟨"vol/", some "v1"⟩, .failed (.backend .listingInterrupted)],
     [.found ⟨"vol/", some "v2"⟩, .found ⟨"vol/a", none⟩]] } }
  client := ⟨{ credentials := ⟨"key", "secret", none⟩, region := "", endpoint := "http://localhost" },
    .fresh⟩

theorem evict_ordered_scripted : ∃ t, Ordered (scripted.call "data" (.below "vol")) t
    (.answered (scripted.evict Store.scripted none "data" (.below "vol")).1) := by
  obtain ⟨t, -, hordered⟩ :=
    (evict_ordered Store.scripted scripted "data" (.below "vol")).2 (by decide) none
  exact ⟨t, hordered⟩

-- only the version that the second pass has held back is removed, and after everything else
example : (scripted.evict Store.scripted none "data" (.below "vol")).2.store.calls =
    [.listObjects "data" "vol/", .removeObjects ⟨"data", true⟩ [], .listObjects "data" "vol/",
      .removeObject "data" ⟨"vol/a", none⟩, .removeObject "data" ⟨"vol/", some "v2"⟩] := by
  rfl

end Session

end ObjectVolume
