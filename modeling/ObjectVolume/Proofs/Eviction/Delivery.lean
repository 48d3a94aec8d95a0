import ObjectVolume.Proofs.Eviction.Order
/-!
# What the bulk pass hands over

The references travel from the reader of the listing to the bulk deletion through a queue, the error of
the listing after them, and the versions of the marker are handed back at the end. Whatever the order
in which the tasks take their steps, the deletion gets the references to be deleted as they were
listed, and how the pass ends is settled by the listing and by what the deletion reports (`resolve`).
-/
namespace ObjectVolume

namespace Eviction

open Store (Event)

/-! ## How a bulk pass ends -/

namespace Bulk

variable {marker : Option String} {events rest : List Event} {pulled : List ObjectRef}
  {failures : List DeleteFailure} {p : Pass}

/-- How a bulk pass ends whose listing has delivered these events, and of which these failures were
reported. -/
def resolve (marker : Option String) (events : List Event) (failures : List DeleteFailure) : Outcome :=
  match listingEnd events, requestFailure? failures with
  | .failed e, _ => .listingFailed e
  | _, some e => .requestFailed e
  | listing, none =>
    if failures.countP isRefusal > 0 then .objectsFailed (failures.countP isRefusal)
    else
      match listing with
      | .died message => .listingFailed (.backend (.listingTaskDied message))
      | .whole | .failed _ => .completed (heldBack marker (found events))

/-- What is pulled is the beginning of what is to be deleted. -/
theorem Flow.pulled_prefix (h : Flow marker events pulled rest p) :
    pulled <+: toDelete marker (found events) := by
  have hrefs (refs : List ObjectRef) :
      (refs.map (Except.ok : ObjectRef → Except Error ObjectRef)).filterMap Except.toOption = refs := by
    simp [List.filterMap_map, Function.comp_def, Except.toOption]
  have hsent : (sends marker events).filterMap Except.toOption = toDelete marker (found events) := by
    rw [sends, List.filterMap_append, hrefs]
    split <;> simp [Except.toOption]
  rw [← h.stream, List.filterMap_append, hrefs] at hsent
  exact ⟨_, hsent⟩

/-- When no more references come in, the pass ends as its listing and the reported failures say. -/
theorem Flow.outcome_eq (h : Flow marker events pulled rest p) (he : p.Exhausted)
    (hn : Noted failures p) : p.outcome = resolve marker events failures := by
  obtain ⟨-, hend⟩ := h.exhausted he
  unfold Pass.outcome resolve
  rw [← hn.failed, ← hn.requestError]
  cases hl : listingEnd events with
  | failed e =>
    rw [hl] at hend
    simp [hend]
  | died message =>
    rw [hl] at hend
    obtain ⟨herror, hreader⟩ := hend
    cases hr : p.requestError <;> simp [herror, hreader]
  | whole =>
    rw [hl] at hend
    obtain ⟨herror, hreader, hheld⟩ := hend
    cases hr : p.requestError <;> simp [herror, hreader, hheld]

/-- An error of the listing is the outcome, whatever else has failed. -/
theorem resolve_of_failed {e : Error} (h : listingEnd events = .failed e)
    (failures : List DeleteFailure) : resolve marker events failures = .listingFailed e := by
  simp [resolve, h]

/-- A failed listing is the outcome if the listing broke off with that error, or died. -/
theorem of_resolve_listingFailed {e : Error}
    (h : resolve marker events failures = .listingFailed e) :
    listingEnd events = .failed e ∨
      ∃ message, listingEnd events = .died message ∧ e = .backend (.listingTaskDied message) := by
  unfold resolve at h
  cases hl : listingEnd events with
  | failed e' =>
    simp only [hl, Outcome.listingFailed.injEq] at h
    exact .inl (congrArg ListingEnd.failed h)
  | died message =>
    refine .inr ⟨message, rfl, ?_⟩
    cases hr : requestFailure? failures with
    | some e' => simp [hl, hr] at h
    | none =>
      simp only [hl, hr] at h
      split at h
      · cases h
      · exact (Outcome.listingFailed.inj h).symm
  | whole =>
    cases hr : requestFailure? failures with
    | some e' => simp [hl, hr] at h
    | none =>
      simp only [hl, hr] at h
      split at h <;> cases h

/-- A pass is completed only after a whole listing without failures. -/
theorem of_resolve_completed {held : List ObjectRef}
    (h : resolve marker events failures = .completed held) :
    listingEnd events = .whole ∧ failures = [] ∧ held = heldBack marker (found events) := by
  unfold resolve at h
  cases hl : listingEnd events with
  | failed e => simp [hl] at h
  | died message =>
    cases hr : requestFailure? failures with
    | some e => simp [hl, hr] at h
    | none =>
      simp only [hl, hr] at h
      split at h <;> cases h
  | whole =>
    cases hr : requestFailure? failures with
    | some e => simp [hl, hr] at h
    | none =>
      simp only [hl, hr] at h
      split at h
      next => cases h
      next hcount =>
        have hnoted : Noted failures { failed := failures.countP isRefusal, requestError := none } :=
          ⟨rfl, hr.symm⟩
        exact ⟨rfl, hnoted.eq_nil (Nat.eq_zero_of_not_pos hcount) rfl, (Outcome.completed.inj h).symm⟩

end Bulk

/-! ## Runs of a bulk pass -/

variable {σ : Type} {S : Store σ} {c : Call} {x y : State σ} {t : List Action}

/-- The first thing that a call does is to list what it evicts. -/
theorem Run.first_list {outside : Bool} (h : Run S c outside x t y) (hx : x.stage = .called) :
    (y.stage = .called ∧ t = [] ∧ y.store = x.store) ∨
      (∃ u, t = .list (S.listObjects c.bucket c.scope x.store).1 :: u) ∨
      y.stage = .answered (.failed .cancelled) := by
  induction h with
  | refl => exact .inl ⟨hx, rfl, rfl⟩
  | cancel _ _ _ ih => exact ih
  | @step y z t a _ hs ih =>
    rcases ih with ⟨hcalled, rfl, hstore⟩ | ⟨u, rfl⟩ | hanswered
    · obtain ⟨store, token, stage⟩ := y
      subst hcalled
      rw [← hstore]
      cases hs with
      | begin running => exact .inr (.inl ⟨[], rfl⟩)
      | abort cancelled open_ => exact .inr (.inr rfl)
    · exact .inr (.inl ⟨u ++ [a], rfl⟩)
    · exact absurd hanswered (hs.stage_ne_answered _)

/-- A bulk pass at work. Since its listing delivered `events`, it has taken the actions `u`. -/
structure Delivered (marker : Option String) (events : List Event) (u : List Action)
    (p : Bulk.Pass) : Prop where
  /-- What the deletion has got is what is to be deleted, in order, as far as it has come. -/
  in_order : u.flatMap Action.requested <+: toDelete marker (found events)
  /-- When it gets no more it has got everything. -/
  everything : p.Exhausted → u.flatMap Action.requested = toDelete marker (found events)
  /-- The pass is completed with the references to the marker, in order. -/
  completed : p.Exhausted → ∀ failures held, (p.noteAll failures).outcome = .completed held →
    listingEnd events = .whole ∧ u.flatMap Action.reported ++ failures = [] ∧
      held = heldBack marker (found events)
  /-- An error of the listing is not lost, whatever else has failed. -/
  error_kept : p.Exhausted → ∀ failures e, listingEnd events = .failed e →
    (p.noteAll failures).outcome = .listingFailed e
  /-- No other error takes its place, but for that of a listing that has died. -/
  error_listed : p.Exhausted → ∀ failures e, (p.noteAll failures).outcome = .listingFailed e →
    listingEnd events = .failed e ∨
      ∃ message, listingEnd events = .died message ∧ e = .backend (.listingTaskDied message)
  /-- The listing and what is reported settle how the pass ends. -/
  settled : p.Exhausted → ∀ failures, (p.noteAll failures).outcome =
    Bulk.resolve marker events (u.flatMap Action.reported ++ failures)

theorem delivered_of_flow {marker : Option String} {events rest : List Event} {u : List Action}
    {p : Bulk.Pass} (flow : Bulk.Flow marker events (u.flatMap Action.requested) rest p)
    (noted : Bulk.Noted (u.flatMap Action.reported) p) : Delivered marker events u p := by
  have hsettled (exhausted : p.Exhausted) (failures : List DeleteFailure) :
      (p.noteAll failures).outcome =
        Bulk.resolve marker events (u.flatMap Action.reported ++ failures) := by
    have hexhausted : (p.noteAll failures).Exhausted := by
      rw [Bulk.noteAll_eq]
      exact exhausted
    exact (flow.noteAll failures).outcome_eq hexhausted (noted.noteAll failures)
  constructor
  case in_order => exact flow.pulled_prefix
  case everything => exact fun exhausted => (flow.exhausted exhausted).1
  case completed =>
    intro exhausted failures held ho
    rw [hsettled exhausted] at ho
    exact Bulk.of_resolve_completed ho
  case error_kept =>
    intro exhausted failures e hl
    rw [hsettled exhausted]
    exact Bulk.resolve_of_failed hl _
  case error_listed =>
    intro exhausted failures e ho
    rw [hsettled exhausted] at ho
    exact Bulk.of_resolve_listingFailed ho
  case settled => exact hsettled

/-- **Delivery.** In every run of a call, its bulk pass has handed over what its listing has found. -/
theorem Run.delivered {outside : Bool} (h : Run S c outside x t y) (hx : x.stage = .called)
    {rest : List Event} {p : Bulk.Pass} (hy : y.stage = .bulk rest p) :
    ∃ u, t = .list (S.listObjects c.bucket c.scope x.store).1 :: u ∧
      Delivered c.marker (S.listObjects c.bucket c.scope x.store).1 u p := by
  have htraced := (h.ordered hx).1
  rw [hy] at htraced
  cases htraced with
  | @bulk events u _ _ flow noted plain =>
    rcases h.first_list hx with ⟨hcalled, -, -⟩ | ⟨u', hsplit⟩ | hanswered
    · rw [hy] at hcalled
      cases hcalled
    · obtain ⟨hlist, rfl⟩ := List.cons.inj hsplit
      cases hlist
      exact ⟨u, rfl, delivered_of_flow flow noted⟩
    · rw [hy] at hanswered
      cases hanswered

/-! ## The executed pass -/

/-- What a pass does until no more references come in. -/
def Bulk.runUntilExhausted (S : Store σ) (bucket scope : String) (marker : Option String) :
    Operation σ Bulk.Pass := do
  let events ← Operation.onStore (S.listObjects bucket scope)
  Operation.wait 0
  Bulk.drive S ⟨bucket, true⟩ marker events {}

theorem Bulk.run_eq (S : Store σ) (bucket scope : String) (marker : Option String) :
    Bulk.run S bucket scope marker = Bulk.runUntilExhausted S bucket scope marker >>= fun p =>
      return (p.noteAll (← Operation.onStore (S.endBulk ⟨bucket, true⟩))).outcome := by
  simp only [Bulk.run, Bulk.runUntilExhausted, bind_assoc]

theorem Bulk.follows_runUntilExhausted {w : World σ} (hc : w.token.isCancelled = false) :
    Follows S c w .called (Bulk.runUntilExhausted S c.bucket c.scope c.marker)
      (orDropped fun p _ g => p.Exhausted ∧ ∃ rest, g = .bulk rest p) := by
  refine .actBind rfl (.begin hc) rfl ((Follows.wait 0 rfl).bindDropped ?_)
  rintro ⟨⟩ w' g' ⟨rfl, -, -⟩
  exact Bulk.follows_drive rfl

/-- A pass that is executed and ends is such a run, up to its last call of the store. -/
theorem Bulk.run_exhausts {w w' : World σ} (hc : w.token.isCancelled = false) {o : Bulk.Outcome}
    (ho : (Bulk.run S c.bucket c.scope c.marker).outcome w = (.ok o, w')) :
    ∃ t w₁ rest p, Run S c w.alarm.isSome (stateIn w .called) t (stateIn w₁ (.bulk rest p)) ∧
      (w₁.alarm.isSome = true → w.alarm.isSome = true) ∧ p.Exhausted ∧
      o = (p.noteAll (S.endBulk c.request w₁.store).1).outcome ∧
      w' = { w₁ with store := (S.endBulk c.request w₁.store).2 } := by
  rw [Bulk.run_eq, Operation.outcome_bind] at ho
  obtain ⟨t, g, hrun, halarm, hpost⟩ := Bulk.follows_runUntilExhausted (S := S) (c := c) hc
  rcases hu : (Bulk.runUntilExhausted S c.bucket c.scope c.marker).outcome w with ⟨stop | p, w₁⟩
  · rw [hu] at ho
    cases ho
  · rw [hu] at ho hrun halarm hpost
    obtain ⟨exhausted, rest, rfl⟩ := hpost
    simp only [Operation.outcome_bind, Operation.outcome_onStore, Operation.outcome_pure] at ho
    cases ho
    exact ⟨t, w₁, rest, p, hrun, halarm, exhausted, rfl, rfl⟩

theorem Bulk.run_delivers {w w' : World σ} (hc : w.token.isCancelled = false) {o : Bulk.Outcome}
    (ho : (Bulk.run S c.bucket c.scope c.marker).outcome w = (.ok o, w')) :
    ∃ t z rest p, Run S c w.alarm.isSome ⟨w.store, w.token, .called⟩ t z ∧ z.stage = .bulk rest p ∧
      p.Exhausted ∧ o = (p.noteAll (S.endBulk c.request z.store).1).outcome ∧
      w'.store = (S.endBulk c.request z.store).2 := by
  obtain ⟨t, w₁, rest, p, hrun, -, exhausted, houtcome, rfl⟩ := Bulk.run_exhausts hc ho
  exact ⟨t, _, rest, p, hrun, rfl, exhausted, houtcome, rfl⟩

end Eviction

namespace Session

open Eviction

variable {σ : Type}

/-- **Delivery of a listing.** This holds of the bulk pass of every run of an eviction, on every store.
The pass that a client executes is such a run, and its outcome is the one that the listing and the
reported failures settle. -/
theorem evict_delivers (S : Store σ) (s : Session σ) (bucket : String) (target : Target) :
    (∀ outside t y, Run S (s.call bucket target) outside ⟨s.store, s.client.token, .called⟩ t y →
      ∀ rest p, y.stage = .bulk rest p →
        ∃ u, t = .list (S.listObjects bucket target.scope s.store).1 :: u ∧
          Delivered target.marker (S.listObjects bucket target.scope s.store).1 u p) ∧
    (s.client.token.isCancelled = false → ∀ alarm o w,
      (Bulk.run S bucket target.scope target.marker).outcome
        { store := s.store, token := s.client.token, alarm } = (.ok o, w) →
      ∃ u rest p y, Run S (s.call bucket target) alarm.isSome ⟨s.store, s.client.token, .called⟩
          (.list (S.listObjects bucket target.scope s.store).1 :: u) y ∧
        y.stage = .bulk rest p ∧ p.Exhausted ∧
        Delivered target.marker (S.listObjects bucket target.scope s.store).1 u p ∧
        o = (p.noteAll (S.endBulk ⟨bucket, true⟩ y.store).1).outcome) := by
  constructor
  · intro outside t y h rest p hy
    exact h.delivered rfl hy
  · intro live alarm o w ho
    obtain ⟨t, y, rest, p, hrun, hy, exhausted, rfl, -⟩ :=
      Bulk.run_delivers (c := s.call bucket target) live ho
    obtain ⟨u, rfl, delivered⟩ := hrun.delivered rfl hy
    exact ⟨u, rest, p, y, hrun, hy, exhausted, delivered, rfl⟩

/-- All objects are refused, and the listing breaks off after them. -/
def refused : Session Store.Scripted where
  store := { script := {
    listings := [[.found ⟨"vol/a", none⟩, .pause, .found ⟨"vol/", none⟩, .found ⟨"vol/b", none⟩,
      .failed (.backend .listingInterrupted)]]
    bulk := fun _ => some (.refuse "AccessDenied") } }
  client := scripted.client

theorem evict_delivers_refused : ∃ (u : List Action) (p : Bulk.Pass), p.Exhausted ∧
    u.flatMap Action.requested = [⟨"vol/a", none⟩, ⟨"vol/b", none⟩] ∧
    (p.noteAll []).outcome = .listingFailed (.backend .listingInterrupted) := by
  have hended : ((Bulk.run Store.scripted "data" "vol/" (some "vol/")).outcome
      { store := refused.store, token := refused.client.token, alarm := none }).1 =
        .ok (.listingFailed (.backend .listingInterrupted)) := rfl
  obtain ⟨u, rest, p, y, -, -, exhausted, delivered, -⟩ :=
    (evict_delivers Store.scripted refused "data" (.below "vol")).2 rfl none _ _
      (Prod.ext hended rfl)
  exact ⟨u, p, exhausted, delivered.everything exhausted, delivered.error_kept exhausted [] _ rfl⟩

end Session

end ObjectVolume
