import ObjectVolume.Proofs.Eviction.Order
import ObjectVolume.Proofs.Eviction.Progress
import Mathlib.Data.List.Perm.Subperm
/-!
# The permits of the single pass

A removal of the single pass takes a permit when it is dispatched and gives it back when it ends, in
whatever order the removals end and however they do. So there are never more of them than permits, a
dispatcher that waits for a permit waits for a removal that is under way, and the pass is left with
all of its removals ended. The actions of a call say which removals it has dispatched, started and
ended (`dispatches`, `starts`, `endings`); `Logged` ties them to the state of the pass.
-/
namespace ObjectVolume

namespace Eviction

open Store (Event Reply)

variable {σ : Type} {S : Store σ} {c : Call}

/-! ## What the actions of a pass say of its removals -/

namespace Single

variable {bucket : String} {marker : Option String} {events rest : List Event} {p : Pass}
  {u : List Action} {limit : Nat}

/-- The removals that a step of the pass dispatches. -/
def dispatches (marker : Option String) : Action → List ObjectRef
  | .read (.found ref) => toDelete marker [ref]
  | _ => []

/-- The removals that a step starts. -/
def starts : Action → List ObjectRef
  | .start ref => [ref]
  | _ => []

/-- The actions `u` of a pass over a listing of `events`, and where they have led. -/
structure Logged (marker : Option String) (events : List Event) (u : List Action) (rest : List Event)
    (p : Pass) : Prop where
  listed : u.flatMap (dispatches marker) ++ toDelete marker (found rest) =
    toDelete marker (found events)
  started : ((u.flatMap endings).map (·.1) ++ p.running).Perm (u.flatMap starts)

theorem logged_start (marker : Option String) (events : List Event) (p : Pass)
    (h : p.running = []) : Logged marker events [] events p :=
  ⟨rfl, by simp [h]⟩

/-- A step that dispatches, starts and ends nothing, and after which as much is left to be read. -/
theorem Logged.idle {a : Action} {rest' : List Event} {p' : Pass} (h : Logged marker events u rest p)
    (hd : dispatches marker a = []) (hs : starts a = []) (he : endings a = [])
    (hrest : toDelete marker (found rest') = toDelete marker (found rest))
    (hrunning : p'.running = p.running) : Logged marker events (u ++ [a]) rest' p' := by
  obtain ⟨listed, started⟩ := h
  constructor
  · simpa [hd, hrest] using listed
  · simpa [hs, he, hrunning] using started

/-- **Step.** Every step of the pass is told by its action. -/
theorem Step.logged {x y : Underway σ Pass} {a : Action} (h : Step S bucket marker x a y)
    (hl : Logged marker events u x.rest x.pass) : Logged marker events (u ++ [a]) y.rest y.pass := by
  cases h with
  | pause => exact hl.idle rfl rfl rfl rfl rfl
  | @readCancel s token stalls rest p =>
    cases stalls with
    | true => exact hl.idle rfl rfl rfl rfl rfl
    | false => exact hl.idle rfl rfl rfl rfl rfl
  | hold marked =>
    exact hl.idle (toDelete_cons_marker marked) rfl rfl (toDelete_cons_marker marked).symm rfl
  | @dispatch s token ref rest p other permit =>
    obtain ⟨listed, started⟩ := hl
    constructor
    · rw [found, toDelete_cons_other other] at listed
      simpa [dispatches, toDelete_cons_other other] using listed
    · simpa [starts, endings, Pass.dispatch] using started
  | breakOff => exact hl.idle rfl rfl rfl rfl rfl
  | start ref dispatched =>
    obtain ⟨listed, started⟩ := hl
    constructor
    · simpa [dispatches] using listed
    · simpa [starts, endings, Pass.launch] using started.append_right [ref]
  | @finish s token rest p ending ref running ends =>
    obtain ⟨listed, started⟩ := hl
    constructor
    · simpa [dispatches] using listed
    · have hrunning : (p.settle ref ending).running = p.running.erase ref :=
        (settle_balanced running ending).1
      have hback : (ref :: p.running.erase ref).Perm p.running := (List.perm_cons_erase running).symm
      have hsame := (hback.append_left ((u.flatMap endings).map (·.1))).trans started
      simpa [starts, endings, ends, hrunning] using hsame
  | stall ref running stalls => exact hl.idle rfl rfl (by simp [endings, stalls]) rfl rfl
  | reap dead => exact hl.idle rfl rfl rfl rfl rfl

/-- The removals that were dispatched have ended, or are under way. -/
theorem Logged.dispatched (h : Logged marker events u rest p)
    (hf : Flow limit marker events (u.flatMap endings) rest p) :
    ((u.flatMap endings).map (·.1) ++ (p.running ++ p.dispatched)).Perm
      (u.flatMap (dispatches marker)) := by
  have hall := hf.removals
  rw [← h.listed] at hall
  refine (List.perm_append_right_iff (toDelete marker (found rest))).1 ?_
  simpa using hall

/-- Only a removal that was dispatched is started. -/
theorem Logged.starts_dispatched (h : Logged marker events u rest p)
    (hf : Flow limit marker events (u.flatMap endings) rest p) :
    (u.flatMap starts ++ p.dispatched).Perm (u.flatMap (dispatches marker)) := by
  refine List.Perm.trans ?_ (h.dispatched hf)
  rw [← List.append_assoc]
  exact h.started.symm.append_right p.dispatched

/-- With nothing in flight, all that was started has ended. -/
theorem Logged.ended (h : Logged marker events u rest p) (idle : p.inFlight = 0) :
    ((u.flatMap endings).map (·.1)).Perm (u.flatMap starts) := by
  have hnone : p.running = [] := by
    unfold Pass.inFlight at idle
    exact List.length_eq_zero_iff.1 (by omega)
  simpa [hnone] using h.started

/-- A step of the bulk pass starts and ends no single removal. -/
theorem silent_of_bulk {request : Store.BulkRequest} {x y : Underway σ Bulk.Pass} {a : Action}
    (h : Bulk.Step S request marker x a y) : starts a = [] ∧ endings a = [] := by
  cases h <;> exact ⟨rfl, rfl⟩

end Single

/-! ## The removals of a call -/

/-- No single removal has started or ended. -/
def Silent (t : List Action) : Prop :=
  t.flatMap Single.starts = [] ∧ t.flatMap Single.endings = []

/-- Every single removal that has started has ended. -/
def Joined (t : List Action) : Prop :=
  ((t.flatMap Single.endings).map (·.1)).Perm (t.flatMap Single.starts)

/-- What the actions of a call say of its single removals when it is at a stage. -/
def Metered (c : Call) (t : List Action) : Stage → Prop
  | .called | .bulk _ _ | .between _ => Silent t
  | .single _ rest p => ∃ earlier events u, t = earlier ++ .list events :: u ∧ Silent earlier ∧
      (∀ a ∈ u, a.isList = false) ∧
      Single.Flow c.limit c.marker events (u.flatMap Single.endings) rest p ∧
      Single.Logged c.marker events u rest p
  | .removing _ | .awaiting _ _ | .closing => Joined t
  | .answered answer => answer = .failed .cancelled ∨ (∃ message, answer = .died message) ∨ Joined t

variable {x y : State σ} {a : Action} {t earlier u : List Action} {events rest : List Event}
  {p : Single.Pass}

theorem Silent.snoc (h : Silent t) (ha : Single.starts a = [] ∧ Single.endings a = []) :
    Silent (t ++ [a]) := by
  simp [Silent, h.1, h.2, ha.1, ha.2]

theorem Silent.joined (h : Silent t) : Joined t := by
  simp [Joined, h.1, h.2]

theorem Joined.snoc (h : Joined t) (ha : Single.starts a = [] ∧ Single.endings a = []) :
    Joined (t ++ [a]) := by
  simpa [Joined, ha.1, ha.2] using h

/-- After the last of its removals, a pass has ended all that it has started. -/
theorem Single.Logged.joined (h : Single.Logged c.marker events u rest p) (idle : p.inFlight = 0)
    (silent : Silent earlier) : Joined (earlier ++ .list events :: u) := by
  simpa [Joined, silent.1, silent.2, Single.starts, Single.endings] using h.ended idle

/-- A pass that was clean is followed by stages without single removals. -/
theorem metered_afterPass (h : Joined t) (held : List ObjectRef) :
    Metered c t (c.afterPass held) := by
  unfold Call.afterPass
  split
  · exact h
  · exact h

theorem metered_afterBulk (h : Silent t) (outcome : Bulk.Outcome) :
    Metered c t (c.afterBulk outcome) := by
  cases outcome with
  | completed held => exact metered_afterPass h.joined held
  | listingFailed e => exact h
  | requestFailed e => exact h
  | objectsFailed failed => exact h

theorem metered_afterSingle (h : Joined t) (primary : Error) :
    Metered c t (c.afterSingle primary p) := by
  unfold Call.afterSingle
  split
  · exact .inr (.inr h)
  split
  · exact metered_afterPass h p.held
  · exact .inr (.inr h)

/-- **Step.** A call keeps account of its removals, whichever of its tasks takes a step. -/
theorem Metered.step (h : Metered c t x.stage) (hs : Step S c x a y) :
    Metered c (t ++ [a]) y.stage := by
  cases hs with
  | begin => exact h.snoc ⟨rfl, rfl⟩
  | bulk step => exact h.snoc (Single.silent_of_bulk step)
  | endBulk => exact metered_afterBulk (h.snoc ⟨rfl, rfl⟩) _
  | fallBack =>
    refine ⟨t, _, [], rfl, h, by simp, ?_, ?_⟩
    · exact Single.flow_start _ _ _
    · exact Single.logged_start _ _ _ rfl
  | tooManyPermits => exact .inr (.inl ⟨_, rfl⟩)
  | single step =>
    obtain ⟨earlier, events, u, rfl, silent, plain, flow, logged⟩ := h
    refine ⟨earlier, events, u ++ [a], by simp, silent, ?_, ?_, step.logged logged⟩
    · intro b hb
      rcases List.mem_append.1 hb with hb | hb
      · exact plain b hb
      · rw [List.mem_singleton.1 hb]
        exact step.plain.2
    · rw [List.flatMap_append]
      simpa using step.flow flow
  | die => exact .inr (.inl ⟨_, rfl⟩)
  | endSingle idle =>
    obtain ⟨earlier, events, u, rfl, silent, plain, flow, logged⟩ := h
    exact metered_afterSingle ((logged.joined idle silent).snoc ⟨rfl, rfl⟩) _
  | noMarker => exact .inr (.inr (h.snoc ⟨rfl, rfl⟩))
  | startMarker => exact h.snoc ⟨rfl, rfl⟩
  | @finishMarker s token ref held =>
    have hjoined : Joined (t ++ [.finishMarker ref (S.endRemoval c.bucket ref s).1]) :=
      h.snoc ⟨rfl, rfl⟩
    unfold afterRemoval
    split
    · split
      · exact .inr (.inr hjoined)
      · exact hjoined
    · split
      · exact .inr (.inr hjoined)
      · exact hjoined
    · exact .inr (.inr hjoined)
    · exact .inr (.inr hjoined)
    · exact hjoined
  | @removeBucket s token =>
    have hjoined : Joined (t ++ [.removeBucket (S.removeBucket c.bucket s).1]) := h.snoc ⟨rfl, rfl⟩
    unfold afterClosing
    split
    · exact .inr (.inr hjoined)
    · exact .inr (.inr hjoined)
    · exact .inr (.inr hjoined)
    · exact .inr (.inr hjoined)
    · exact hjoined
  | abort => exact .inl rfl

/-- **Run.** -/
theorem Run.metered {outside : Bool} (h : Run S c outside x t y) (hx : x.stage = .called) :
    Metered c t y.stage := by
  induction h with
  | refl =>
    rw [hx]
    exact ⟨rfl, rfl⟩
  | step _ hs ih => exact ih.step hs
  | cancel _ _ _ ih => exact ih

/-! ## Permits -/

/-- A single pass at work, in the state `x` of its call: since its listing delivered `events`, it has
taken the actions `u`. -/
structure Bounded (S : Store σ) (c : Call) (events : List Event) (u : List Action) (x : State σ)
    (rest : List Event) (p : Single.Pass) : Prop where
  /-- Each permit is free, or held by a removal that was dispatched and has not ended. -/
  permits : p.free + p.inFlight = c.limit
  unfinished : (u.flatMap (Single.dispatches c.marker)).length =
    (u.flatMap Single.endings).length + p.inFlight
  /-- No more removals are in progress than there are permits. -/
  in_progress : (u.flatMap Single.starts).length ≤ (u.flatMap Single.endings).length + c.limit
  /-- Each reference to be deleted is dispatched once at most, in the order of the listing. -/
  once : u.flatMap (Single.dispatches c.marker) <+: toDelete c.marker (found events)
  starts_once : (u.flatMap Single.starts).Subperm (u.flatMap (Single.dispatches c.marker))
  /-- Who waits for a permit waits for a removal, the end of which makes one free. -/
  waits : p.free = 0 → p.dispatched ++ p.running ≠ [] ∧
    ∀ ref reply y, Single.Step S c.bucket c.marker ⟨x.store, x.token, rest, p⟩ (.finish ref reply) y →
      reply.ending ≠ none → 0 < y.pass.free
  /-- The pass can go on as long as the listing does not stall and every removal can end. -/
  goes_on : (∀ later, rest ≠ .cancels true :: later) →
    (∀ ref ∈ p.running, (S.endRemoval c.bucket ref x.store).1.ending ≠ none) →
    ∃ a y, Step S c x a y ∧ a ≠ .abort ∧ ¬ a.Stalls ∧ Nearer y.stage.left x.stage.left
  /-- Unless it is cancelled or its listing dies, it is left with all its removals ended. -/
  leaves : ∀ a y, Step S c x a y → (∃ primary rest' p', y.stage = .single primary rest' p') ∨
    (a = .abort ∧ x.token.isCancelled = true) ∨ (∃ message, a = .read (.died message)) ∨
    (p.inFlight = 0 ∧ rest = [] ∧
      ((u.flatMap Single.endings).map (·.1)).Perm (u.flatMap Single.starts) ∧
      (u.flatMap Single.starts).Perm (u.flatMap (Single.dispatches c.marker)))

/-- Removals in flight can take their next step unless they stall. -/
theorem Single.exists_step_not_stalls {bucket : String} {marker : Option String} {s : σ}
    (token : Token) (hflight : p.inFlight ≠ 0)
    (hends : ∀ ref ∈ p.running, (S.endRemoval bucket ref s).1.ending ≠ none) :
    ∃ a y, Single.Step S bucket marker ⟨s, token, rest, p⟩ a y ∧ a ≠ .abort ∧ ¬ a.Stalls := by
  cases hd : p.dispatched with
  | cons ref later =>
    exact ⟨_, _, .start ref (hd ▸ List.mem_cons_self), by simp, by simp [Action.Stalls]⟩
  | nil =>
    cases hr : p.running with
    | nil => exact absurd (by simp [Single.Pass.inFlight, hd, hr]) hflight
    | cons ref later =>
      have hmem : ref ∈ p.running := hr ▸ List.mem_cons_self
      obtain ⟨ending, he⟩ := Option.ne_none_iff_exists'.1 (hends ref hmem)
      exact ⟨_, _, .finish ref hmem he, by simp, by simp [Action.Stalls, he]⟩

/-- **No deadlock.** A pass with a permit goes on, if only its listing and its removals do. -/
theorem pass_goes_on {s : σ} {token : Token} {primary : Error} (hlimit : 1 ≤ c.limit)
    (permits : p.free + p.inFlight = c.limit) (hlisting : ∀ later, rest ≠ .cancels true :: later)
    (hends : ∀ ref ∈ p.running, (S.endRemoval c.bucket ref s).1.ending ≠ none) :
    ∃ a y, Step S c ⟨s, token, .single primary rest p⟩ a y ∧ a ≠ .abort ∧ ¬ a.Stalls := by
  by_cases hflight : p.inFlight = 0
  · cases rest with
    | nil => exact ⟨_, _, .endSingle hflight, by simp, by simp [Action.Stalls]⟩
    | cons e rest =>
      cases e with
      | found ref =>
        by_cases hm : c.marker = some ref.key
        · exact ⟨_, _, .single (.hold hm), by simp, by simp [Action.Stalls]⟩
        · exact ⟨_, _, .single (.dispatch hm (by omega)), by simp, by simp [Action.Stalls]⟩
      | failed e => exact ⟨_, _, .single .breakOff, by simp, by simp [Action.Stalls]⟩
      | died message => exact ⟨_, _, .die, by simp, by simp [Action.Stalls]⟩
      | pause => exact ⟨_, _, .single .pause, by simp, by simp [Action.Stalls]⟩
      | cancels stalls =>
        cases stalls with
        | true => exact absurd rfl (hlisting rest)
        | false => exact ⟨_, _, .single .readCancel, by simp, by simp [Action.Stalls]⟩
  · obtain ⟨a, y, hs, habort, hstalls⟩ := Single.exists_step_not_stalls token hflight hends
    exact ⟨a, _, .single hs, habort, hstalls⟩

/-- Where a step leads that leaves the pass. -/
theorem Step.of_single {s : σ} {token : Token} {primary : Error} {y : State σ}
    (h : Step S c ⟨s, token, .single primary rest p⟩ a y) :
    (∃ primary rest' p', y.stage = .single primary rest' p') ∨
      (a = .abort ∧ token.isCancelled = true) ∨ (∃ message, a = .read (.died message)) ∨
      (p.inFlight = 0 ∧ rest = []) := by
  cases h with
  | single step => exact .inl ⟨_, _, _, rfl⟩
  | die => exact .inr (.inr (.inl ⟨_, rfl⟩))
  | endSingle idle => exact .inr (.inr (.inr ⟨idle, rfl⟩))
  | abort cancelled open_ => exact .inr (.inl ⟨rfl, cancelled⟩)

/-- The account of a pass bounds it. -/
theorem bounded_of_logged {s : σ} {token : Token} {primary : Error} (hlimit : 1 ≤ c.limit)
    (flow : Single.Flow c.limit c.marker events (u.flatMap Single.endings) rest p)
    (logged : Single.Logged c.marker events u rest p) :
    Bounded S c events u ⟨s, token, .single primary rest p⟩ rest p := by
  have hdispatched := logged.dispatched flow
  have hstarts := logged.starts_dispatched flow
  have hpermits := flow.permits
  constructor
  case permits => exact hpermits
  case unfinished =>
    have hlength := hdispatched.length_eq
    simp only [List.length_append, List.length_map] at hlength
    unfold Single.Pass.inFlight
    omega
  case in_progress =>
    have hlength := logged.started.length_eq
    simp only [List.length_append, List.length_map] at hlength
    unfold Single.Pass.inFlight at hpermits
    omega
  case once => exact ⟨_, logged.listed⟩
  case starts_once => exact (List.sublist_append_left _ _).subperm.trans hstarts.subperm
  case waits =>
    intro hfree
    constructor
    · intro hnone
      have hlength := congrArg List.length hnone
      rw [List.length_append, List.length_nil] at hlength
      unfold Single.Pass.inFlight at hpermits
      omega
    · intro ref reply y hs hends
      cases hs with
      | @finish _ _ _ _ ending _ running ends => cases ending <;> exact Nat.succ_pos _
      | stall _ running stalls => exact absurd stalls hends
  case goes_on =>
    intro hlisting hends
    obtain ⟨a, y, hs, habort, hstalls⟩ := pass_goes_on hlimit hpermits hlisting hends
    exact ⟨a, y, hs, habort, hstalls, hs.nearer hstalls⟩
  case leaves =>
    intro a y hs
    rcases hs.of_single with hsingle | habort | hdied | ⟨idle, hrest⟩
    · exact .inl hsingle
    · exact .inr (.inl habort)
    · exact .inr (.inr (.inl hdied))
    · have hnone : p.running = [] ∧ p.dispatched = [] := by
        unfold Single.Pass.inFlight at idle
        exact ⟨List.length_eq_zero_iff.1 (by omega), List.length_eq_zero_iff.1 (by omega)⟩
      refine .inr (.inr (.inr ⟨idle, hrest, ?_, ?_⟩))
      · simpa [hnone.1] using logged.started
      · simpa [hnone.2] using hstarts

end Eviction

namespace Session

open Eviction

variable {σ : Type}

/-- **Bounded removals.** This holds of every single pass that a client with a valid configuration
comes to, on every store and in whatever order the removals of the pass take their steps. What the
client's operation does is such a run: when it has answered, and was neither cancelled nor has died,
every removal that it started has ended. -/
theorem evict_bounded (S : Store σ) (s : Session σ) (valid : s.client.config.validate = .ok ())
    (bucket : String) (target : Target) :
    (∀ outside t y, Run S (s.call bucket target) outside ⟨s.store, s.client.token, .called⟩ t y →
      ∀ primary rest p, y.stage = .single primary rest p →
        ∃ earlier events u, t = earlier ++ .list events :: u ∧ Silent earlier ∧
          (∀ a ∈ u, a.isList = false) ∧ Bounded S (s.call bucket target) events u y rest p) ∧
    ∀ alarm, ∃ t, Run S (s.call bucket target) alarm.isSome ⟨s.store, s.client.token, .called⟩ t
        ⟨(s.evict S alarm bucket target).2.store, (s.evict S alarm bucket target).2.client.token,
          .answered (s.evict S alarm bucket target).1⟩ ∧
      ((s.evict S alarm bucket target).1 = .failed .cancelled ∨
        (∃ message, (s.evict S alarm bucket target).1 = .died message) ∨ Joined t) := by
  have hlimit := Config.parallelism_pos valid
  constructor
  · rintro outside t ⟨store, token, stage⟩ h primary rest p rfl
    obtain ⟨earlier, events, u, hsplit, silent, plain, flow, logged⟩ := h.metered rfl
    exact ⟨earlier, events, u, hsplit, silent, plain, bounded_of_logged hlimit flow logged⟩
  · intro alarm
    obtain ⟨t, hrun⟩ := s.run_evict alarm bucket target hlimit
    exact ⟨t, hrun, hrun.metered rfl⟩

/-- The second pass has dispatched two removals when its listing breaks off; one of them dies. -/
def brokenOff : Session Store.Scripted where
  store := { script := {
    listings := [[.failed (.backend .listingInterrupted)],
      [.found ⟨"vol/", none⟩, .found ⟨"vol/a", some "v1"⟩, .found ⟨"vol/b", none⟩,
        .failed (.backend .listingInterrupted)]]
    removal := fun ref => if ref.version.isSome then .die "lost" else .succeed } }
  client := ⟨{ credentials := ⟨"key", "secret", none⟩, region := "", endpoint := "http://[::1]" },
    .fresh⟩

theorem evict_bounded_brokenOff : ∃ t,
    Run Store.scripted (brokenOff.call "data" (.below "vol")) false
      ⟨brokenOff.store, brokenOff.client.token, .called⟩ t
      ⟨(brokenOff.evict Store.scripted none "data" (.below "vol")).2.store,
        (brokenOff.evict Store.scripted none "data" (.below "vol")).2.client.token,
        .answered (brokenOff.evict Store.scripted none "data" (.below "vol")).1⟩ ∧ Joined t := by
  have hvalid : brokenOff.client.config.validate = .ok () := by decide +kernel
  have hanswer : (brokenOff.evict Store.scripted none "data" (.below "vol")).1 =
      .failed (.eviction (.backend .listingInterrupted) (.backend .listingInterrupted)) := rfl
  obtain ⟨t, hrun, hanswered⟩ :=
    (evict_bounded Store.scripted brokenOff hvalid "data" (.below "vol")).2 none
  refine ⟨t, hrun, ?_⟩
  rcases hanswered with hcancelled | ⟨message, hdied⟩ | hjoined
  · rw [hanswer] at hcancelled
    cases hcancelled
  · rw [hanswer] at hdied
    cases hdied
  · exact hjoined

end Session

end ObjectVolume
