import ObjectVolume.Proofs.Eviction.Follows
/-!
# The order in which a call takes its steps

The operations of a client fix one order for the steps of an eviction. That order is one of those that
`Run` allows: whatever an operation answers and leaves behind, a run of the call does as well
(`Session.run_evict`). What holds of all runs therefore holds of the operations.
-/
namespace ObjectVolume

namespace Eviction

open Store (Event Reply)

variable {σ : Type} {S : Store σ} {c : Call} {w : World σ} {rest : List Event}

/-! ## The bulk pass -/

namespace Bulk

variable {p p' : Pass} {refs : List ObjectRef}

/-- What can be taken now is either everything, or what comes before an error. -/
theorem pullReady_exhausts (p : Pass) :
    p.pullReady.2.listingError.isSome ∨ p.pullReady.2.queue = [] := by
  obtain ⟨reader, queue, held, listingError, failed, requestError⟩ := p
  simp only [Pass.pullReady]
  induction queue with
  | nil => exact .inr rfl
  | cons item queue ih =>
    cases listingError with
    | some e => exact .inl rfl
    | none =>
      cases item with
      | error e => exact .inl rfl
      | ok ref => exact ih

/-- Where no reference can be taken, at most an error has been come across. -/
theorem pullReady_nil (h : p.pullReady = ([], p')) :
    p' = p ∨ ∃ e queue, p.queue = .error e :: queue ∧ p.pull = (none, p') ∧
      p.listingError = none := by
  obtain ⟨reader, queue, held, listingError, failed, requestError⟩ := p
  unfold Pass.pullReady at h
  cases queue with
  | nil => exact .inl (by simpa [Pass.pullQueue, eq_comm] using h)
  | cons item queue =>
    cases listingError with
    | some e => exact .inl (by simpa [Pass.pullQueue, Pass.pull, eq_comm] using h)
    | none =>
      cases item with
      | error e =>
        refine .inr ⟨e, queue, rfl, ?_, rfl⟩
        simpa [Pass.pullQueue, Pass.pull] using h
      | ok ref => simp [Pass.pullQueue, Pass.pull] at h

theorem reader_of_pulled (h : p.pullReady = (refs, p')) : p'.reader = p.reader := by
  cases he : p.listingError with
  | some e =>
    have hp : p' = p := by
      unfold Pass.pullReady at h
      cases hq : p.queue <;> simp_all [Pass.pullQueue, Pass.pull]
    rw [hp]
  | none =>
    have htake : Pass.pullQueue (p.queue.take p.queue.length) p = (refs, p') := by
      rwa [List.take_length]
    rcases pullQueue_cases he htake with ⟨queue, -, rfl⟩ | ⟨e, queue, -, rfl⟩ <;> rfl

theorem follows_handOver (p : Pass) :
    Follows S c w (.bulk rest p) (handOver S c.request p) (orDropped fun p' _ g' =>
      g' = .bulk rest p' ∧ p'.reader = p.reader ∧ (p'.listingError.isSome ∨ p'.queue = [])) := by
  rcases hp : p.pullReady with ⟨refs, p'⟩
  have hreader := reader_of_pulled hp
  have hexhausts := pullReady_exhausts p
  rw [hp] at hexhausts
  unfold handOver
  simp only [hp]
  cases refs with
  | nil =>
    have hpure : Follows S c w (.bulk rest p') (pure p' : Operation σ Pass)
        (orDropped fun p' _ g' => g' = .bulk rest p' ∧ p'.reader = p.reader ∧
          (p'.listingError.isSome ∨ p'.queue = [])) := .pure ⟨rfl, hreader, hexhausts⟩
    rcases pullReady_nil hp with rfl | ⟨e, queue, front, pulled, first⟩
    · exact hpure
    · exact hpure.after (.bulk (.pullError front pulled first))
  | cons ref refs =>
    have htake : Pass.pullQueue (p.queue.take p.queue.length) p = (ref :: refs, p') := by
      rwa [List.take_length]
    refine .actBind rfl (.bulk (.pull _ htake (by simp))) rfl (.pure ?_)
    rw [noteAll_eq]
    exact ⟨rfl, hreader, hexhausts⟩

/-- Once the reader has stopped, handing over what is left leaves nothing to come in. -/
theorem follows_handOver_last {p : Pass} (stopped : p.reader ≠ .reading) :
    Follows S c w (.bulk rest p) (handOver S c.request p) (orDropped fun p' _ g' =>
      p'.Exhausted ∧ ∃ rest', g' = .bulk rest' p') :=
  (follows_handOver p).impDropped fun _ _ _ ⟨hg, hreader, hexhausts⟩ =>
    ⟨hexhausts.imp_right fun hqueue => ⟨hreader ▸ stopped, hqueue⟩, rest, hg⟩

theorem follows_drive {p : Pass} (reading : p.reader = .reading) :
    Follows S c w (.bulk rest p) (drive S c.request c.marker rest p) (orDropped fun p' _ g' =>
      p'.Exhausted ∧ ∃ rest', g' = .bulk rest' p') := by
  induction rest generalizing w p with
  | nil => exact (follows_handOver_last (by simp [Pass.finish])).after (.bulk (.readEnd reading))
  | cons e rest ih =>
    have hread (goes_on : ∀ stalls, e ≠ .cancels stalls) :
        Eviction.Step S c (stateIn w (.bulk (e :: rest) p)) (.read e)
          (stateIn w (.bulk rest (p.read c.marker e))) := .bulk (.read reading goes_on)
    cases e with
    | found ref =>
      have hreading : (p.read c.marker (.found ref)).reader = .reading := by
        simp only [Pass.read]
        split <;> exact reading
      exact (ih hreading).after (hread (by simp))
    | failed e =>
      exact (follows_handOver_last (by simp [Pass.read])).after (hread (by simp))
    | died message =>
      exact (follows_handOver_last (by simp [Pass.read])).after (hread (by simp))
    | pause =>
      refine .after (hread (by simp)) ((follows_handOver p).bindDropped ?_)
      rintro p' w' g' ⟨rfl, hreader, -⟩
      refine (Follows.wait 0 rfl).bindDropped ?_
      rintro ⟨⟩ w'' g'' ⟨rfl, -, -⟩
      exact ih (hreader.trans reading)
    | cancels stalls =>
      refine .actBind rfl (.bulk (.readCancel reading)) rfl ?_
      exact .interrupt (by simp) rfl

/-- A bulk pass, from the listing on. -/
theorem follows_run (hc : w.token.isCancelled = false) :
    Follows S c w .called (run S c.bucket c.scope c.marker)
      (orDropped fun outcome _ g' => g' = c.afterBulk outcome) := by
  refine .actBind rfl (.begin hc) rfl ((Follows.wait 0 rfl).bindDropped ?_)
  rintro ⟨⟩ w' g' ⟨rfl, -, -⟩
  refine (follows_drive rfl).bindDropped ?_
  rintro p w'' g'' ⟨hexhausted, rest', rfl⟩
  exact .actBind rfl (.endBulk hexhausted) rfl (.pure rfl)

end Bulk

/-! ## The single pass -/

namespace Single

variable {p : Pass} {primary : Error}

/-- All removals that have been dispatched, started. -/
def Pass.launchAll (p : Pass) : Pass :=
  { p with dispatched := [], running := p.running ++ p.dispatched }

@[simp]
theorem Pass.inFlight_launchAll (p : Pass) : p.launchAll.inFlight = p.inFlight := by
  simp only [Pass.launchAll, Pass.inFlight, List.length_nil, List.length_append]
  omega

theorem follows_startAll (p : Pass) :
    Follows S c w (.single primary rest p) (startAll S c.bucket p.dispatched p)
      (orDropped fun p' w' g' => p' = p.launchAll ∧ g' = .single primary rest p' ∧
        w'.token = w.token) := by
  generalize hl : p.dispatched = l
  induction l generalizing p w with
  | nil =>
    refine .pure ⟨?_, rfl, rfl⟩
    obtain ⟨free, dispatched, running, dead, tally, held, listingError⟩ := p
    simp_all [Pass.launchAll]
  | cons ref later ih =>
    have hmem : ref ∈ p.dispatched := hl ▸ List.mem_cons_self
    have hlater : (p.launch ref).dispatched = later := by simp [Pass.launch, hl]
    have hall : (p.launch ref).launchAll = p.launchAll := by
      simp [Pass.launch, Pass.launchAll, hl]
    refine .actBind rfl (.single (.start ref hmem)) rfl ?_
    rw [Pass.start_eq_launch hl, ← hall]
    exact ih (p.launch ref) hlater

/-- What the end of a removal leaves of the pass. -/
theorem settle_balanced {ref : ObjectRef} (hr : ref ∈ p.running) (ending : Ending) :
    (p.settle ref ending).running = p.running.erase ref ∧
      (p.settle ref ending).dispatched = p.dispatched ∧
      (p.settle ref ending).free + (p.settle ref ending).inFlight = p.free + p.inFlight := by
  have hlen := List.length_erase_of_mem hr
  have hpos := List.length_pos_of_mem hr
  cases ending <;> refine ⟨rfl, rfl, ?_⟩ <;> simp only [Pass.settle, Pass.inFlight] <;> omega

/-- Only removals that have cancelled the client are still running afterwards. -/
theorem follows_endAll {l stalled : List ObjectRef} (hp : p.running.Perm (stalled ++ l))
    (hs : stalled ≠ [] → w.token.isCancelled = true) :
    Follows S c w (.single primary rest p) (endAll S c.bucket l p) (orDropped fun p' w' g' =>
      g' = .single primary rest p' ∧ p'.dispatched = p.dispatched ∧
        p'.free + p'.inFlight = p.free + p.inFlight ∧
        (w'.token.isCancelled = false → p'.running = [])) := by
  induction l generalizing p w stalled with
  | nil =>
    refine .pure ⟨rfl, rfl, rfl, fun hc => ?_⟩
    have hnil : stalled = [] := Decidable.byContradiction fun h => by simp [hs h] at hc
    simpa [hnil] using hp
  | cons ref l ih =>
    have hmem : ref ∈ p.running := hp.mem_iff.2 (by simp)
    -- the removal ends, and no more of them stall than before
    have hsettle (ending : Ending) (w' : World σ) (hs' : stalled ≠ [] → w'.token.isCancelled = true) :
        Follows S c w' (.single primary rest (p.settle ref ending))
          (endAll S c.bucket l (p.settle ref ending)) (orDropped fun p' w' g' =>
            g' = .single primary rest p' ∧ p'.dispatched = p.dispatched ∧
              p'.free + p'.inFlight = p.free + p.inFlight ∧
              (w'.token.isCancelled = false → p'.running = [])) := by
      obtain ⟨hrunning, hdispatched, hbalance⟩ := settle_balanced hmem ending
      have hperm : (p.settle ref ending).running.Perm (stalled ++ l) := by
        rw [hrunning]
        have hmiddle : (stalled ++ ref :: l).Perm (ref :: (stalled ++ l)) := List.perm_middle
        simpa using (hp.trans hmiddle).erase ref
      rw [← hdispatched, ← hbalance]
      exact ih hperm hs'
    have hfinish {ending : Ending}
        (he : (S.endRemoval c.bucket ref w.store).1.ending = some ending) :
        Eviction.Step S c (stateIn w (.single primary rest p))
          (.finish ref (S.endRemoval c.bucket ref w.store).1)
          ⟨(S.endRemoval c.bucket ref w.store).2,
            (S.endRemoval c.bucket ref w.store).1.tokenAfter w.token,
            .single primary rest (p.settle ref ending)⟩ := .single (.finish ref hmem he)
    rcases hr : S.endRemoval c.bucket ref w.store with ⟨reply, s⟩
    rw [hr] at hfinish
    cases reply with
    | done a =>
      refine (hsettle .done { w with store := s } hs).via ?_ (hfinish rfl) rfl
      simp [endAll, Operation.outcome_bind, hr]
    | failed e =>
      refine (hsettle .failed { w with store := s } hs).via ?_ (hfinish rfl) rfl
      simp [endAll, Operation.outcome_bind, hr]
    | died message =>
      refine (hsettle .died { w with store := s } hs).via ?_ (hfinish rfl) rfl
      simp [endAll, Operation.outcome_bind, hr]
    | cancels answer =>
      cases answer with
      | some a =>
        have hw := hsettle .done { w with store := s, token := w.token.cancel } fun _ => by simp
        refine hw.via ?_ (hfinish rfl) rfl
        simp [endAll, Operation.outcome_bind, hr]
      | none =>
        have hstall : Eviction.Step S c (stateIn w (.single primary rest p))
            (.finish ref (S.endRemoval c.bucket ref w.store).1)
            ⟨(S.endRemoval c.bucket ref w.store).2,
              (S.endRemoval c.bucket ref w.store).1.tokenAfter w.token, .single primary rest p⟩ :=
          .single (.stall ref hmem (by rw [hr]; rfl))
        rw [hr] at hstall
        have hperm : p.running.Perm ((stalled ++ [ref]) ++ l) := by simpa using hp
        have hw : Follows S c { w with store := s, token := w.token.cancel } (.single primary rest p)
            (endAll S c.bucket l p) _ := ih hperm fun _ => by simp
        refine hw.via ?_ hstall rfl
        simp [endAll, Operation.outcome_bind, hr]

/-- All permits are back, and all deaths are counted. -/
def Settled (c : Call) (p : Pass) : Prop :=
  p.free + p.inFlight = c.limit ∧ p.dead = 0

theorem reap_of_settled (h : Settled c p) : p.reap = p := by
  obtain ⟨free, dispatched, running, dead, tally, held, listingError⟩ := p
  obtain ⟨-, hdead⟩ := h
  simp only at hdead
  simp [Pass.reap, hdead]

theorem follows_finishRound (hp : p.free + p.inFlight = c.limit) :
    Follows S c w (.single primary rest p) (finishRound S c.bucket p) (orDropped fun p' _ g' =>
      g' = .single primary rest p' ∧ Settled c p' ∧ p'.inFlight = 0) := by
  unfold finishRound
  refine (follows_startAll p).bindDropped ?_
  rintro p₁ w₁ g₁ ⟨rfl, rfl, -⟩
  refine .stayBind rfl ((Follows.wait _ rfl).bindDropped ?_)
  rintro ⟨⟩ w₂ g₂ ⟨rfl, -, -⟩
  have hnone : p.launchAll.running.Perm ([] ++ p.launchAll.running) := .refl _
  refine (follows_endAll hnone (by simp)).bindDropped ?_
  rintro p₃ w₃ g₃ ⟨rfl, hdispatched, hbalance, hrunning⟩
  refine (Follows.checkpoint rfl).bindDropped ?_
  rintro ⟨⟩ w₄ g₄ ⟨rfl, rfl, hc⟩
  have hflight : p₃.inFlight = 0 := by simp [Pass.inFlight, hrunning hc, hdispatched, Pass.launchAll]
  have hfree : p₃.free + p₃.inFlight = c.limit := by
    rw [hbalance, Pass.inFlight_launchAll]
    exact hp
  have hpure : Follows S c w₄ (.single primary rest p₃.reap) (pure p₃.reap : Operation σ Pass)
      (orDropped fun p' _ g' => g' = .single primary rest p' ∧ Settled c p' ∧ p'.inFlight = 0) :=
    .pure ⟨rfl, ⟨hfree, rfl⟩, hflight⟩
  by_cases hdead : 0 < p₃.dead
  · exact hpure.after (.single (.reap hdead))
  · have hreap : p₃.reap = p₃ := reap_of_settled ⟨hfree, by omega⟩
    rw [hreap] at hpure ⊢
    exact hpure

theorem follows_drive (hlimit : 1 ≤ c.limit) (hp : Settled c p) :
    Follows S c w (.single primary rest p) (drive S c.bucket c.marker rest p)
      (orDropped fun p' _ g' => g' = .single primary [] p' ∧ Settled c p') := by
  induction rest generalizing w p with
  | nil => exact .pure ⟨rfl, hp⟩
  | cons e rest ih =>
    cases e with
    | found ref =>
      by_cases hm : c.marker = some ref.key
      · simp only [drive, hm, if_true]
        rw [← hm]
        exact (ih (p := p.hold ref) hp).after (.single (.hold hm))
      · simp only [drive, hm, if_false]
        -- with a permit at hand, the removal is dispatched
        have hgo {w : World σ} {p : Pass} (hp : Settled c p) (hfree : 0 < p.free) :
            Follows S c w (.single primary (.found ref :: rest) p)
              (drive S c.bucket c.marker rest (p.dispatch ref).reap)
              (orDropped fun p' _ g' => g' = .single primary [] p' ∧ Settled c p') := by
          have hset : Settled c (p.dispatch ref) := by
            refine ⟨?_, hp.2⟩
            have := hp.1
            simp only [Pass.dispatch, Pass.inFlight, List.length_append, List.length_singleton] at *
            omega
          rw [reap_of_settled hset]
          exact (ih hset).after (.single (.dispatch hm hfree))
        by_cases hfree : p.free = 0
        · rw [if_pos hfree]
          refine (follows_finishRound hp.1).bindDropped ?_
          rintro p' w' g' ⟨rfl, hset, hflight⟩
          exact hgo hset (by have := hset.1; omega)
        · rw [if_neg hfree]
          exact .stayBind rfl (hgo hp (Nat.pos_of_ne_zero hfree))
    | failed e => exact .after (.single .breakOff) (.pure ⟨rfl, hp⟩)
    | died message => exact .act rfl .die id ⟨rfl, fun _ => by simp⟩
    | pause =>
      refine .after (.single .pause) ((follows_startAll p).bindDropped ?_)
      rintro p₁ w₁ g₁ ⟨rfl, rfl, -⟩
      refine (Follows.wait 0 rfl).bindDropped ?_
      rintro ⟨⟩ w₂ g₂ ⟨rfl, -, -⟩
      exact ih ⟨by rw [Pass.inFlight_launchAll]; exact hp.1, hp.2⟩
    | cancels stalls =>
      refine .actBind rfl (.single .readCancel) rfl ?_
      cases stalls with
      | true =>
        simp only [if_true]
        refine (follows_startAll p).bindDropped ?_
        rintro p₁ w₁ g₁ ⟨rfl, rfl, htoken⟩
        exact .interrupt (by rw [htoken]; simp) rfl
      | false => exact ih hp

/-- Where the call is after the result of a single pass. -/
def stageAfter (c : Call) (primary : Error) : Except Stop (Tally × List ObjectRef) → Stage
  | .ok (tally, held) =>
    if tally.isComplete then c.afterPass held
    else .answered (.failed (.eviction primary
      (.partialEviction c.bucket c.scope tally.failed tally.attempted)))
  | .error (.failed e) => .answered (.failed (.eviction primary e))
  | .error stop => .answered stop.answer

theorem stageAfter_of_dropped {stop : Stop} {g : Stage}
    (h : g = .answered stop.answer ∧ ∀ e, stop ≠ .failed e) :
    g = stageAfter c primary (.error stop) := by
  obtain ⟨hg, hne⟩ := h
  cases stop with
  | failed e => exact absurd rfl (hne e)
  | died message => exact hg
  | interrupted => exact hg

/-- What a pass does until none of its removals is in flight any more. -/
def runUntilIdle (S : Store σ) (limit : Nat) (bucket scope : String) (marker : Option String) :
    Operation σ Pass := do
  let events ← Operation.onStore (S.listObjects bucket scope)
  let p ← drive S bucket marker events { free := limit }
  if p.inFlight = 0 then pure p else finishRound S bucket p

/-- What a pass returns with none of its removals in flight. -/
def Pass.result (p : Pass) : Except Stop (Tally × List ObjectRef) :=
  match p.listingError with
  | some e => .error (.failed e)
  | none => .ok (p.tally, p.held)

/-- A pass that has its permits goes on until it is idle, and returns its result. -/
theorem run_eq {limit : Nat} (hmax : limit ≤ maxPermits) (S : Store σ) (bucket scope : String)
    (marker : Option String) :
    run S limit bucket scope marker =
      runUntilIdle S limit bucket scope marker >>= fun p => ExceptT.mk (pure p.result) := by
  have hresult (p : Pass) : (ExceptT.mk (pure p.result) : Operation σ (Tally × List ObjectRef)) =
      match p.listingError with
      | some e => Operation.fail e
      | none => return (p.tally, p.held) := by
    cases he : p.listingError <;> simp only [Pass.result, he] <;> rfl
  simp only [run, runUntilIdle, hresult, Nat.not_lt.2 hmax, if_false, bind_assoc]
  refine bind_congr fun events => bind_congr fun p => ?_
  split <;> rfl

theorem follows_runUntilIdle (hlimit : 1 ≤ c.limit) (hmax : c.limit ≤ maxPermits) :
    Follows S c w (.between primary) (runUntilIdle S c.limit c.bucket c.scope c.marker)
      (orDropped fun p _ g => g = .single primary [] p ∧ Settled c p ∧ p.inFlight = 0) := by
  refine .actBind rfl (.fallBack hmax) rfl ?_
  have hstart : Settled c { free := c.limit } := ⟨rfl, rfl⟩
  refine (follows_drive hlimit hstart).bindDropped ?_
  rintro p w' g' ⟨rfl, hset⟩
  split
  next hflight => exact .pure ⟨rfl, hset, hflight⟩
  next => exact follows_finishRound hset.1

/-- The end of an idle pass. -/
theorem afterSingle_eq_stageAfter (primary : Error) (p : Pass) :
    c.afterSingle primary p = stageAfter c primary p.result := by
  cases he : p.listingError <;> simp only [Call.afterSingle, Pass.result, stageAfter, he]

/-- A single pass, from the listing on. -/
theorem follows_run (hlimit : 1 ≤ c.limit) :
    Follows S c w (.between primary) (run S c.limit c.bucket c.scope c.marker)
      (fun r _ g' => g' = stageAfter c primary r) := by
  by_cases hmax : c.limit > maxPermits
  · unfold run
    simp only [hmax, if_true]
    exact .act rfl (.tooManyPermits hmax) id rfl
  · rw [run_eq (Nat.le_of_not_gt hmax)]
    refine (follows_runUntilIdle hlimit (Nat.le_of_not_gt hmax)).bind ?_ fun stop w' g' h =>
      stageAfter_of_dropped h
    rintro p w' g' ⟨rfl, hset, hflight⟩
    have hstep : Eviction.Step S c (stateIn w' (.single primary [] p)) .inner
        (stateIn w' (c.afterSingle primary p.reap)) := .endSingle hflight
    rw [reap_of_settled hset, afterSingle_eq_stageAfter] at hstep
    exact .act rfl hstep id rfl

end Single

/-! ## Both passes -/

/-- A result whose failures were caught, as it was before. -/
def uncaught {α : Type} : Except Stop (Except Error α) → Except Stop α
  | .ok (.ok a) => .ok a
  | .ok (.error e) => .error (.failed e)
  | .error stop => .error stop

theorem follows_fallBack (hlimit : 1 ≤ c.limit) (primary : Error) :
    Follows S c w (.between primary) (fallBack S c.limit c.bucket c.scope c.marker primary)
      (orAnswered fun held _ g' => g' = c.afterPass held) := by
  have hrun : Follows S c w (.between primary)
      (Except.ok <$> Single.run S c.limit c.bucket c.scope c.marker)
      (fun r _ g' => g' = Single.stageAfter c primary (uncaught r)) := by
    rw [map_eq_pure_bind]
    exact (Single.follows_run hlimit).bind (fun a w' g' h => .pure h) fun stop w' g' h => h
  have hattempt {handle : Stop → Operation σ (Except Error (Tally × List ObjectRef))}
      (hcaught : ∀ e, handle (.failed e) = pure (.error e))
      (hthrown : ∀ stop, (∀ e, stop ≠ .failed e) → handle stop = throw stop) :
      Follows S c w (.between primary)
        (tryCatch (Except.ok <$> Single.run S c.limit c.bucket c.scope c.marker) handle)
        (fun r _ g' => g' = Single.stageAfter c primary (uncaught r) ∧
          ∀ e, r ≠ .error (.failed e)) := by
    refine hrun.catching (fun a w' g' h => ⟨h, fun _ => by simp⟩) ?_
    intro stop w' g' h
    cases stop with
    | failed e =>
      rw [hcaught]
      exact .pure ⟨h, fun _ => by simp⟩
    | died message =>
      rw [hthrown _ fun _ => by simp]
      exact .stay rfl ⟨h, fun _ => by simp⟩
    | interrupted =>
      rw [hthrown _ fun _ => by simp]
      exact .stay rfl ⟨h, fun _ => by simp⟩
  refine (hattempt (fun e => rfl) fun stop hne => ?_).bind (fun a w' g' h => ?_) fun stop w' g' h => ?_
  · cases stop with
    | failed e => exact absurd rfl (hne e)
    | died message => rfl
    | interrupted => rfl
  · obtain ⟨rfl, -⟩ := h
    rcases a with e | ⟨tally, held⟩
    · exact .stay rfl rfl
    · simp only [uncaught, Single.stageAfter]
      cases tally.isComplete with
      | true => exact .stay rfl rfl
      | false => exact .stay rfl rfl
  · obtain ⟨hg, hne⟩ := h
    cases stop with
    | failed e => exact absurd rfl (hne e)
    | died message => exact hg
    | interrupted => exact hg

theorem follows_evict (hlimit : 1 ≤ c.limit) (hc : w.token.isCancelled = false) :
    Follows S c w .called (evict S c.limit c.bucket c.scope c.marker)
      (orAnswered fun held _ g' => g' = c.afterPass held) := by
  refine ((Bulk.follows_run hc).imp fun _ _ _ => orAnswered_of_orDropped).bindAnswered ?_
  rintro outcome w' g' rfl
  cases outcome with
  | completed held => exact .pure rfl
  | listingFailed e => exact follows_fallBack hlimit e
  | requestFailed e => exact follows_fallBack hlimit e
  | objectsFailed failed => exact follows_fallBack hlimit _

/-! ## What goes last -/

/-- A call to the store that takes a step of the call to be answered. -/
theorem follows_call {f : σ → Reply Unit × σ} {a : Action} (after : Reply Unit → Stage)
    (hstep : Step S c (stateIn w g) a
      ⟨(f w.store).2, (f w.store).1.tokenAfter w.token, after (f w.store).1⟩)
    (hfailed : ∀ e, after (.failed e) = .answered (.failed e))
    (hdied : ∀ message, after (.died message) = .answered (.died message))
    (hstalled : (after (.cancels none)).answer? = none)
    (hcancels : after (.cancels (some ())) = after (.done ())) :
    Follows S c w g (Operation.call f) (orAnswered fun _ _ g' => g' = after (.done ())) := by
  rcases hf : f w.store with ⟨reply, s⟩
  rw [hf] at hstep
  cases reply with
  | done a =>
    have hdone : Follows S c { w with store := s } (after (.done ())) (pure () : Operation σ Unit)
        (orAnswered fun _ _ g' => g' = after (.done ())) := .pure rfl
    refine hdone.via ?_ hstep rfl
    simp [Operation.call, Operation.outcome_bind, hf]
  | failed e =>
    have hfail : Follows S c { w with store := s } (after (.failed e))
        (Operation.fail e : Operation σ Unit)
        (orAnswered fun _ _ g' => g' = after (.done ())) := .stay rfl (hfailed e)
    refine hfail.via ?_ hstep rfl
    simp [Operation.call, Operation.outcome_bind, hf]
  | died message =>
    have hdie : Follows S c { w with store := s } (after (.died message))
        (throw (.died message) : Operation σ Unit) (orAnswered fun _ _ g' => g' = after (.done ())) := .stay rfl (hdied message)
    refine hdie.via ?_ hstep rfl
    simp [Operation.call, Operation.outcome_bind, hf]
  | cancels answer =>
    cases answer with
    | some a =>
      have hdone : Follows S c { w with store := s, token := w.token.cancel }
          (after (.cancels (some a))) (pure () : Operation σ Unit)
          (orAnswered fun _ _ g' => g' = after (.done ())) := .pure hcancels
      refine hdone.via ?_ hstep rfl
      simp [Operation.call, Operation.outcome_bind, hf]
    | none =>
      have hstop : Follows S c { w with store := s, token := w.token.cancel }
          (after (.cancels none)) (throw .interrupted : Operation σ Unit)
          (orAnswered fun _ _ g' => g' = after (.done ())) :=
        (Follows.interrupt (by simp) hstalled).imp fun _ _ _ => orAnswered_of_orDropped
      refine hstop.via ?_ hstep rfl
      simp [Operation.call, Operation.outcome_bind, hf]

/-- The removal of a version of the marker. -/
theorem follows_removeObject {ref : ObjectRef} {held : List ObjectRef} :
    Follows S c w (.removing (ref :: held)) (removeObject S c.bucket ref) (orAnswered fun _ _ g' =>
      g' = if held = [] then .answered (.done ()) else .removing held) := by
  have hcall {w : World σ} : Follows S c w (.awaiting ref held)
      (Operation.call (S.endRemoval c.bucket ref)) (orAnswered fun _ _ g' =>
        g' = if held = [] then .answered (.done ()) else .removing held) :=
    follows_call (afterRemoval ref held) .finishMarker (fun _ => rfl) (fun _ => rfl) rfl rfl
  refine .actBind rfl .startMarker rfl (.stayBind rfl ?_)
  split
  next ms hms =>
    refine ((Follows.wait ms rfl).imp fun _ _ _ => orAnswered_of_orDropped).bindAnswered ?_
    rintro ⟨⟩ w' g' ⟨rfl, -, -⟩
    exact hcall
  next => exact hcall

theorem follows_removeObjects {held : List ObjectRef} :
    Follows S c w (.removing held) (removeObjects S c.bucket held)
      (orAnswered fun _ _ g' => g' = .answered (.done ())) := by
  -- the removal of the last version answers the call, so that the list is never empty on the way
  induction held generalizing w with
  | nil => exact .act rfl .noMarker id rfl
  | cons ref held ih =>
    refine follows_removeObject.bindAnswered ?_
    rintro ⟨⟩ w' g' rfl
    cases held with
    | nil => exact .pure rfl
    | cons ref' held => exact ih

/-- How a client's operation ends, as an answer. -/
def answerOf {α : Type} : Except Stop α → Outcome α
  | .ok a => .done a
  | .error stop => stop.answer

theorem follows_cancellable {op : Operation σ Unit}
    (h : w.token.isCancelled = false →
      Follows S c w .called op (orAnswered fun _ _ g' => g' = .answered (.done ()))) :
    Follows S c w .called (Operation.cancellable op) fun r _ g' => g' = .answered (answerOf r) := by
  unfold Operation.cancellable
  refine .stayBind rfl ?_
  cases hc : w.token.isCancelled with
  | true => exact .act rfl (.abort hc rfl) id rfl
  | false =>
    refine (h hc).catching (fun a w' g' h => h) ?_
    intro stop w' g' h
    cases stop with
    | failed e => exact .stay rfl h
    | died message => exact .stay rfl h
    | interrupted => exact .stay rfl h

/-- What the operation of a client does, up to its answer, are steps of the call. -/
theorem Target.follows_operation (config : Config) (bucket : String) (target : Target)
    (hlimit : 1 ≤ config.parallelism.toNat) :
    Follows S (.ofConfig config bucket target) w .called (target.operation S config bucket)
      fun r _ g' => g' = .answered (answerOf r) := by
  cases target with
  | below root =>
    refine follows_cancellable fun hc => (follows_evict hlimit hc).bindAnswered ?_
    rintro held w' g' rfl
    exact follows_removeObjects
  | bucket =>
    refine follows_cancellable fun hc => (follows_evict hlimit hc).bindAnswered ?_
    rintro held w' g' rfl
    exact follows_call afterClosing .removeBucket (fun _ => rfl) (fun _ => rfl) rfl rfl

end Eviction

namespace Session

open Eviction

variable {σ : Type}

/-- An eviction on behalf of the client of a session. -/
def evict (S : Store σ) (s : Session σ) (alarm : Option Moment) (bucket : String) (target : Target) :
    Outcome Unit × Session σ :=
  s.run alarm (target.operation S s.client.config bucket)

/-- The call that an eviction makes. -/
def call (s : Session σ) (bucket : String) (target : Target) : Call :=
  .ofConfig s.client.config bucket target

/-- **Sessions take runs.** What a session does to evict a target is a run of the call, with
cancellations from outside only where there is an alarm. -/
theorem run_evict {S : Store σ} (s : Session σ) (alarm : Option Moment) (bucket : String)
    (target : Target) (hlimit : 1 ≤ s.client.config.parallelism.toNat) :
    ∃ t, Run S (s.call bucket target) alarm.isSome ⟨s.store, s.client.token, .called⟩ t
      ⟨(s.evict S alarm bucket target).2.store, (s.evict S alarm bucket target).2.client.token,
        .answered (s.evict S alarm bucket target).1⟩ := by
  obtain ⟨t, g', hrun, -, rfl⟩ := Target.follows_operation (S := S)
    (w := { store := s.store, token := s.client.token, alarm }) s.client.config bucket target hlimit
  refine ⟨t, ?_⟩
  unfold evict run
  rcases ho : (target.operation S s.client.config bucket).outcome
    { store := s.store, token := s.client.token, alarm } with ⟨stop | a, w'⟩
  · rw [ho] at hrun
    cases stop <;> exact hrun
  · rw [ho] at hrun
    exact hrun

end Session

end ObjectVolume
