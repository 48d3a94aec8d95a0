import ObjectVolume.Proofs.Eviction.Call
/-!
# Evictions come to an end

A call that has not answered can always go on (`exists_step`): no order of its tasks leads to a state
where all of them wait. And each step that does not stall leaves less to be done (`Step.nearer`), so
that no order goes on for ever either, and what holds wherever they all lead comes about (`Attains`).
-/
namespace ObjectVolume.Eviction

open Store (Event Reply)

variable {σ : Type} {S : Store σ} {c : Call} {x y : State σ} {a : Action}

/-! ## What is left to be done -/

/-- The client was cancelled, and what did so never ends. -/
def Action.Stalls : Action → Prop
  | read (.cancels true) => True
  | finish _ reply | finishMarker _ reply | removeBucket reply => reply.ending = none
  | _ => False

/-- An event that is read may be sent on and then be taken. -/
def Bulk.Pass.left (rest : List Event) (p : Bulk.Pass) : Nat :=
  2 * rest.length + p.queue.length + if p.reader = .reading then 1 else 0

/-- A reference that is found may be dispatched, started, ended and counted as dead. -/
def Single.Pass.left (rest : List Event) (p : Single.Pass) : Nat :=
  4 * rest.length + 3 * p.dispatched.length + 2 * p.running.length + p.dead

/-- Stages that may still come, and then the steps within the present one. -/
def Stage.left : Stage → Nat × Nat
  | called => (6, 0)
  | bulk rest p => (5, p.left rest)
  | between _ => (4, 0)
  | single _ rest p => (3, p.left rest)
  | removing held => (2, 2 * held.length + 1)
  | awaiting _ held => (2, 2 * held.length + 2)
  | closing => (1, 0)
  | answered _ => (0, 0)

/-- Fewer stages are left, or fewer steps within the same one. -/
def Nearer : Nat × Nat → Nat × Nat → Prop := Prod.Lex (· < ·) (· < ·)

theorem nearer_wf : WellFounded Nearer :=
  (Prod.lex Nat.lt_wfRel Nat.lt_wfRel).wf

theorem Bulk.Step.left_lt {request : Store.BulkRequest} {marker : Option String}
    {x y : Underway σ Bulk.Pass} (h : Bulk.Step S request marker x a y) (hs : ¬ a.Stalls) :
    y.pass.left y.rest < x.pass.left x.rest := by
  cases h with
  | @read s token e rest p reading goes_on =>
    simp only [Bulk.Pass.left, reading, if_true, List.length_cons]
    cases e with
    | found ref =>
      simp only [Bulk.Pass.read]
      split
      · dsimp only
        omega
      · simp only [List.length_append, List.length_singleton]
        omega
    | failed e =>
      simp only [Bulk.Pass.read, List.length_append, List.length_singleton, reduceCtorEq, if_false]
      omega
    | died message =>
      simp only [Bulk.Pass.read, reduceCtorEq, if_false]
      omega
    | pause | cancels =>
      simp only [Bulk.Pass.read, reading, if_true]
      omega
  | @readCancel s token stalls rest p reading =>
    cases stalls with
    | true => exact absurd trivial hs
    | false => simp [Bulk.Pass.left]
  | readEnd reading => simp [Bulk.Pass.left, Bulk.Pass.finish, reading]
  | @pull s token rest p refs p' n pulled some =>
    have hpos := List.length_pos_iff.2 some
    rw [Bulk.noteAll_eq]
    rcases Bulk.pullQueue_cases (Bulk.listingError_of_pulled pulled some) pulled with
      ⟨queue, hq, rfl⟩ | ⟨e, queue, hq, rfl⟩
    · simp only [Bulk.Pass.left, hq, List.length_append, List.length_map]
      omega
    · simp only [Bulk.Pass.left, hq, List.length_append, List.length_map, List.length_cons]
      omega
  | pullError front pulled first =>
    simp only [Bulk.Pass.pull, first, front, Prod.mk.injEq, true_and] at pulled
    subst pulled
    simp only [Bulk.Pass.left, front, List.length_cons]
    omega

theorem Single.Step.left_lt {bucket : String} {marker : Option String}
    {x y : Underway σ Single.Pass} (h : Single.Step S bucket marker x a y) (hs : ¬ a.Stalls) :
    y.pass.left y.rest < x.pass.left x.rest := by
  cases h with
  | @readCancel s token stalls rest p =>
    cases stalls with
    | true => exact absurd trivial hs
    | false => simp [Single.Pass.left]
  | @start s token rest p ref dispatched =>
    have := List.length_pos_of_mem dispatched
    simp only [Single.Pass.left, Single.Pass.launch, List.length_erase_of_mem dispatched,
      List.length_append, List.length_singleton]
    omega
  | @finish s token rest p ending ref running ends =>
    have := List.length_pos_of_mem running
    cases ending <;>
      simp only [Single.Pass.left, Single.Pass.settle, List.length_erase_of_mem running] <;> omega
  | stall ref running stalls => exact absurd stalls hs
  | reap dead =>
    simp only [Single.Pass.left, Single.Pass.reap]
    omega
  | dispatch other permit =>
    simp only [Single.Pass.left, Single.Pass.dispatch, List.length_append, List.length_cons,
      List.length_nil]
    omega
  | pause | hold marked | breakOff =>
    simp only [Single.Pass.left, Single.Pass.hold, Single.Pass.breakOff, List.length_cons,
      List.length_nil]
    omega

theorem nearer_of_lt {m n i j : Nat} (h : m < n) : Nearer (m, i) (n, j) :=
  .left _ _ h

theorem nearer_afterPass (held : List ObjectRef) {n i : Nat} (h : 2 < n) :
    Nearer (c.afterPass held).left (n, i) := by
  unfold Call.afterPass
  split
  · exact nearer_of_lt h
  · exact nearer_of_lt (by omega)

/-- **Less is left.** Each step that does not stall brings the call nearer to its answer. -/
theorem Step.nearer (h : Step S c x a y) (hs : ¬ a.Stalls) : Nearer y.stage.left x.stage.left := by
  cases h with
  | begin => exact nearer_of_lt (by omega)
  | bulk step => exact .right _ (step.left_lt hs)
  | endBulk =>
    rcases ((_ : Bulk.Pass).noteAll _).outcome with held | e | e | failed
    · exact nearer_afterPass held (by omega)
    all_goals exact nearer_of_lt (by omega)
  | fallBack => exact nearer_of_lt (by omega)
  | tooManyPermits => exact nearer_of_lt (by omega)
  | single step => exact .right _ (step.left_lt hs)
  | die => exact nearer_of_lt (by omega)
  | @endSingle s token primary p idle =>
    unfold Call.afterSingle
    split
    · exact nearer_of_lt (by omega)
    split
    · exact nearer_afterPass _ (by omega)
    · exact nearer_of_lt (by omega)
  | noMarker => exact nearer_of_lt (by omega)
  | startMarker => exact .right _ (by simp only [List.length_cons]; omega)
  | @finishMarker s token ref held =>
    have hgoes : (S.endRemoval c.bucket ref s).1.ending ≠ none := hs
    cases hr : (S.endRemoval c.bucket ref s).1 with
    | failed e => exact nearer_of_lt (by omega)
    | died message => exact nearer_of_lt (by omega)
    | done a =>
      simp only [afterRemoval]
      split
      · exact nearer_of_lt (by omega)
      · exact .right _ (by omega)
    | cancels answer =>
      cases answer with
      | none => exact absurd (by rw [hr]; rfl) hgoes
      | some a =>
        simp only [afterRemoval]
        split
        · exact nearer_of_lt (by omega)
        · exact .right _ (by omega)
  | @removeBucket s token =>
    have hgoes : (S.removeBucket c.bucket s).1.ending ≠ none := hs
    cases hr : (S.removeBucket c.bucket s).1 with
    | cancels answer =>
      cases answer with
      | none => exact absurd (by rw [hr]; rfl) hgoes
      | some a => exact nearer_of_lt (by omega)
    | _ => exact nearer_of_lt (by omega)
  | @abort s token stage cancelled open_ =>
    cases stage with
    | answered answer => cases open_
    | _ => exact nearer_of_lt (by omega)

/-! ## Going on -/

/-- Each permit of a single pass is free or held. -/
def Stage.Permits (limit : Nat) : Stage → Prop
  | single _ _ p => p.free + p.inFlight = limit
  | _ => True

theorem Bulk.exists_step (S : Store σ) {request : Store.BulkRequest} {marker : Option String} (s : σ)
    (token : Token) (rest : List Event) {p : Bulk.Pass} (h : ¬ p.Exhausted) :
    ∃ a y, Bulk.Step S request marker ⟨s, token, rest, p⟩ a y := by
  obtain ⟨herror, hopen⟩ := not_or.1 h
  by_cases hr : p.reader = .reading
  · cases rest with
    | nil => exact ⟨_, _, .readEnd hr⟩
    | cons e rest =>
      cases e with
      | cancels stalls => exact ⟨_, _, .readCancel hr⟩
      | _ => exact ⟨_, _, .read hr (by simp)⟩
  · have hnone : p.listingError = none := by simpa using herror
    cases hq : p.queue with
    | nil => exact absurd ⟨hr, hq⟩ hopen
    | cons item queue =>
      cases item with
      | ok ref =>
        have hpull : Bulk.Pass.pullQueue (p.queue.take 1) p = ([ref], { p with queue }) := by
          simp [hq, Bulk.Pass.pullQueue, Bulk.Pass.pull, hnone]
        exact ⟨_, _, .pull 1 hpull (by simp)⟩
      | error e =>
        have hpull : p.pull = (none, { p with queue, listingError := some e }) := by
          simp [Bulk.Pass.pull, hq, hnone]
        exact ⟨_, _, .pullError hq hpull hnone⟩

/-- A removal in flight can start, or end, or stall. -/
theorem Single.exists_step_of_inFlight {bucket : String} {marker : Option String} {s : σ}
    {token : Token} {rest : List Event} {p : Single.Pass} (h : p.inFlight ≠ 0) :
    ∃ a y, Single.Step S bucket marker ⟨s, token, rest, p⟩ a y := by
  cases hd : p.dispatched with
  | cons ref later => exact ⟨_, _, .start ref (hd ▸ List.mem_cons_self)⟩
  | nil =>
    cases hr : p.running with
    | nil => exact absurd (by simp [Single.Pass.inFlight, hd, hr]) h
    | cons ref later =>
      have hmem : ref ∈ p.running := hr ▸ List.mem_cons_self
      cases he : (S.endRemoval bucket ref s).1.ending with
      | none => exact ⟨_, _, .stall ref hmem he⟩
      | some ending => exact ⟨_, _, .finish ref hmem he⟩

/-- **No deadlock.** Whatever its tasks have done so far, a call that has not answered can go on. -/
theorem exists_step (hlimit : 1 ≤ c.limit) (hp : x.stage.Permits c.limit)
    (ha : x.stage.answer? = none) : ∃ a y, Step S c x a y := by
  obtain ⟨s, token, stage⟩ := x
  cases stage with
  | called =>
    cases hc : token.isCancelled with
    | true => exact ⟨_, _, .abort hc rfl⟩
    | false => exact ⟨_, _, .begin hc⟩
  | bulk rest p =>
    by_cases he : p.Exhausted
    · exact ⟨_, _, .endBulk he⟩
    · obtain ⟨a, y, h⟩ := Bulk.exists_step S s token rest he
      exact ⟨_, _, .bulk h⟩
  | between primary =>
    by_cases hmax : c.limit ≤ Single.maxPermits
    · exact ⟨_, _, .fallBack hmax⟩
    · exact ⟨_, _, .tooManyPermits (Nat.lt_of_not_le hmax)⟩
  | single primary rest p =>
    have hp : p.free + p.inFlight = c.limit := hp
    by_cases hflight : p.inFlight = 0
    · cases rest with
      | nil => exact ⟨_, _, .endSingle hflight⟩
      | cons e rest =>
        cases e with
        | found ref =>
          by_cases hm : c.marker = some ref.key
          · exact ⟨_, _, .single (.hold hm)⟩
          · exact ⟨_, _, .single (.dispatch hm (by omega))⟩
        | failed e => exact ⟨_, _, .single .breakOff⟩
        | died message => exact ⟨_, _, .die⟩
        | pause => exact ⟨_, _, .single .pause⟩
        | cancels stalls => exact ⟨_, _, .single .readCancel⟩
    · obtain ⟨a, y, h⟩ := Single.exists_step_of_inFlight hflight
      exact ⟨_, _, .single h⟩
  | removing held =>
    cases held with
    | nil => exact ⟨_, _, .noMarker⟩
    | cons ref held => exact ⟨_, _, .startMarker⟩
  | awaiting ref held => exact ⟨_, _, .finishMarker⟩
  | closing => exact ⟨_, _, .removeBucket⟩
  | answered answer => cases ha

/-! ## What comes about -/

/-- On every way that a call can take from here, which `t` has led to, it comes to a state such that
`P`, given the actions up to there. -/
inductive Attains (S : Store σ) (c : Call) (P : List Action → State σ → Prop) :
    List Action → State σ → Prop
  | now {t x} : P t x → Attains S c P t x
  | later {t x} : (∃ a y, Step S c x a y) → (∀ a y, Step S c x a y → Attains S c P (t ++ [a]) y) →
      Attains S c P t x

/-- What an invariant allows comes to an end such that `P` if it can go on until then, and does so
without stalling. -/
theorem Attains.of_invariant {P I : List Action → State σ → Prop} {t : List Action} (hx : I t x)
    (go : ∀ {t x}, I t x → P t x ∨ ((∃ a y, Step S c x a y) ∧
      ∀ a y, Step S c x a y → I (t ++ [a]) y ∧ ¬ a.Stalls)) : Attains S c P t x := by
  induction hi : x.stage.left using nearer_wf.induction generalizing t x with
  | h i ih =>
    subst hi
    rcases go hx with hp | ⟨hstep, hkeep⟩
    · exact .now hp
    · refine .later hstep fun a y hs => ?_
      obtain ⟨hy, hstalls⟩ := hkeep a y hs
      exact ih _ (hs.nearer hstalls) hy rfl

end ObjectVolume.Eviction
