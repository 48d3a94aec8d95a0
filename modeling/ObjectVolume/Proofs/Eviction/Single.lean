import ObjectVolume.Proofs.Eviction.Action
import ObjectVolume.Eviction.Single
/-!
# The single pass, step by step

`Single.Step` are the steps of the dispatcher and of the removals, which may start and end in any
order. In all orders each permit is either free or held by a removal that is under way, each reference
that the listing finds is removed once, and each removal is counted once (`Flow`).

| here | there |
| --- | --- |
| `Step.pause`, `Step.hold`, `Step.dispatch`, `Step.breakOff` | the loop of `parallel_delete` over the listing |
| `Step.start`, `Step.finish`, `Step.stall` | its workers |
| `Step.reap` | `try_join_next` and `join_next` |
-/
namespace ObjectVolume.Eviction.Single

open Store (Event Reply)

variable {σ : Type} {S : Store σ} {bucket : String} {marker : Option String}

/-- A dispatched removal of `ref` starts, in whatever order they were dispatched. -/
def Pass.launch (p : Pass) (ref : ObjectRef) : Pass :=
  { p with dispatched := p.dispatched.erase ref, running := p.running ++ [ref] }

theorem Pass.start_eq_launch {p : Pass} {ref : ObjectRef} {later : List ObjectRef}
    (h : p.dispatched = ref :: later) : p.start = p.launch ref := by
  simp [Pass.start, Pass.launch, h]

/-- One step of the single pass. -/
inductive Step (S : Store σ) (bucket : String) (marker : Option String) :
    Underway σ Pass → Action → Underway σ Pass → Prop
  | pause {s token rest p} :
      Step S bucket marker ⟨s, token, .pause :: rest, p⟩ (.read .pause) ⟨s, token, rest, p⟩
  /-- A listing that cancels the client and stalls delivers nothing more. -/
  | readCancel {s token stalls rest p} :
      Step S bucket marker ⟨s, token, .cancels stalls :: rest, p⟩ (.read (.cancels stalls))
        ⟨s, token.cancel, if stalls then .cancels stalls :: rest else rest, p⟩
  | hold {s token ref rest p} (marked : marker = some ref.key) :
      Step S bucket marker ⟨s, token, .found ref :: rest, p⟩ (.read (.found ref))
        ⟨s, token, rest, p.hold ref⟩
  /-- A reference that is found waits for a permit. -/
  | dispatch {s token ref rest p} (other : marker ≠ some ref.key) (permit : 0 < p.free) :
      Step S bucket marker ⟨s, token, .found ref :: rest, p⟩ (.read (.found ref))
        ⟨s, token, rest, p.dispatch ref⟩
  | breakOff {s token e rest p} :
      Step S bucket marker ⟨s, token, .failed e :: rest, p⟩ (.read (.failed e))
        ⟨s, token, [], p.breakOff e⟩
  | start {s token rest p} (ref : ObjectRef) (dispatched : ref ∈ p.dispatched) :
      Step S bucket marker ⟨s, token, rest, p⟩ (.start ref)
        ⟨S.startRemoval bucket ref s, token, rest, p.launch ref⟩
  | finish {s token rest p ending} (ref : ObjectRef) (running : ref ∈ p.running)
      (ends : (S.endRemoval bucket ref s).1.ending = some ending) :
      Step S bucket marker ⟨s, token, rest, p⟩ (.finish ref (S.endRemoval bucket ref s).1)
        ⟨(S.endRemoval bucket ref s).2, (S.endRemoval bucket ref s).1.tokenAfter token, rest,
          p.settle ref ending⟩
  /-- A removal that cancels the client and stalls keeps its permit. -/
  | stall {s token rest p} (ref : ObjectRef) (running : ref ∈ p.running)
      (stalls : (S.endRemoval bucket ref s).1.ending = none) :
      Step S bucket marker ⟨s, token, rest, p⟩ (.finish ref (S.endRemoval bucket ref s).1)
        ⟨(S.endRemoval bucket ref s).2, (S.endRemoval bucket ref s).1.tokenAfter token, rest, p⟩
  | reap {s token rest p} (dead : 0 < p.dead) :
      Step S bucket marker ⟨s, token, rest, p⟩ .inner ⟨s, token, rest, p.reap⟩

/-! ## The way of the removals -/

/-- The removals in `ended` have ended so. With those under way and those that the listing is yet to
give rise to, they are those that its references ask for; permits, counts, the references held back
and the listing's error agree with them. -/
structure Flow (limit : Nat) (marker : Option String) (events : List Event)
    (ended : List (ObjectRef × Ending)) (rest : List Event) (p : Pass) : Prop where
  permits : p.free + p.inFlight = limit
  removals : (ended.map (·.1) ++ (p.running ++ (p.dispatched ++ toDelete marker (found rest)))).Perm
    (toDelete marker (found events))
  held : p.held ++ heldBack marker (found rest) = heldBack marker (found events)
  attempted : p.tally.attempted = ended.length + p.inFlight
  failed : p.tally.failed + p.dead = ended.countP fun e => decide (e.2 ≠ .done)
  listing : match p.listingError with
    | some e => rest = [] ∧ listingEnd events = .failed e
    | none => listingEnd rest = listingEnd events

variable {limit : Nat} {events rest : List Event} {ended : List (ObjectRef × Ending)} {p : Pass}
  {ref : ObjectRef}

theorem flow_start (limit : Nat) (marker : Option String) (events : List Event) :
    Flow limit marker events [] events { free := limit } := by
  refine ⟨?_, ?_, ?_, ?_, ?_, rfl⟩ <;> simp [Pass.inFlight, Tally.none]

theorem Flow.pause (h : Flow limit marker events ended (.pause :: rest) p) :
    Flow limit marker events ended rest p := by
  obtain ⟨permits, removals, held, attempted, failed, listing⟩ := h
  refine ⟨permits, removals, held, attempted, failed, ?_⟩
  cases hl : p.listingError with
  | none => simpa only [hl, listingEnd] using listing
  | some e => simp [hl] at listing

theorem Flow.skipCancel {stalls : Bool}
    (h : Flow limit marker events ended (.cancels stalls :: rest) p) :
    Flow limit marker events ended rest p := by
  obtain ⟨permits, removals, held, attempted, failed, listing⟩ := h
  refine ⟨permits, removals, held, attempted, failed, ?_⟩
  cases hl : p.listingError with
  | none => simpa only [hl, listingEnd] using listing
  | some e => simp [hl] at listing

theorem Flow.hold (h : Flow limit marker events ended (.found ref :: rest) p)
    (marked : marker = some ref.key) : Flow limit marker events ended rest (p.hold ref) := by
  obtain ⟨permits, removals, held, attempted, failed, listing⟩ := h
  refine ⟨permits, ?_, ?_, attempted, failed, ?_⟩
  · simpa [Pass.hold, found, toDelete_cons_marker marked] using removals
  · simpa [Pass.hold, found, heldBack_cons_marker marked] using held
  · cases hl : p.listingError with
    | none => simpa only [Pass.hold, hl, listingEnd] using listing
    | some e => simp [hl] at listing

theorem Flow.dispatch (h : Flow limit marker events ended (.found ref :: rest) p)
    (other : marker ≠ some ref.key) (permit : 0 < p.free) :
    Flow limit marker events ended rest (p.dispatch ref) := by
  obtain ⟨permits, removals, held, attempted, failed, listing⟩ := h
  have hflight : (p.dispatch ref).inFlight = p.inFlight + 1 := by
    simp [Pass.dispatch, Pass.inFlight]
    omega
  refine ⟨?_, ?_, ?_, ?_, failed, ?_⟩
  · rw [hflight]
    simp only [Pass.dispatch]
    omega
  · simpa [Pass.dispatch, found, toDelete_cons_other other] using removals
  · simpa [Pass.dispatch, found, heldBack_cons_other other] using held
  · rw [hflight]
    simp only [Pass.dispatch, attempted, Nat.add_assoc]
  · cases hl : p.listingError with
    | none => simpa only [Pass.dispatch, hl, listingEnd] using listing
    | some e => simp [hl] at listing

theorem Flow.breakOff {e : Error} (h : Flow limit marker events ended (.failed e :: rest) p) :
    Flow limit marker events ended [] (p.breakOff e) := by
  obtain ⟨permits, removals, held, attempted, failed, listing⟩ := h
  refine ⟨permits, removals, held, attempted, failed, ?_⟩
  cases hl : p.listingError with
  | none => simpa [Pass.breakOff, hl, listingEnd, eq_comm] using listing
  | some e => simp [hl] at listing

theorem Flow.launch (h : Flow limit marker events ended rest p) (hd : ref ∈ p.dispatched) :
    Flow limit marker events ended rest (p.launch ref) := by
  obtain ⟨permits, removals, held, attempted, failed, listing⟩ := h
  have hpos := List.length_pos_of_mem hd
  have hflight : (p.launch ref).inFlight = p.inFlight := by
    simp only [Pass.launch, Pass.inFlight, List.length_append, List.length_erase_of_mem hd,
      List.length_singleton]
    omega
  refine ⟨?_, ?_, held, ?_, failed, listing⟩
  · rwa [hflight]
  · refine List.Perm.trans (List.Perm.append_left _ ?_) removals
    simp only [Pass.launch, List.append_assoc]
    refine List.Perm.append_left _ ?_
    rw [← List.append_assoc]
    exact List.Perm.append_right _ (List.perm_cons_erase hd).symm
  · rwa [hflight]

theorem Flow.settle {ending : Ending} (h : Flow limit marker events ended rest p)
    (hr : ref ∈ p.running) :
    Flow limit marker events (ended ++ [(ref, ending)]) rest (p.settle ref ending) := by
  obtain ⟨permits, removals, held, attempted, failed, listing⟩ := h
  have hpos := List.length_pos_of_mem hr
  have hfields : (p.settle ref ending).free = p.free + 1 ∧
      (p.settle ref ending).running = p.running.erase ref ∧
      (p.settle ref ending).dispatched = p.dispatched ∧ (p.settle ref ending).held = p.held ∧
      (p.settle ref ending).tally.attempted = p.tally.attempted ∧
      (p.settle ref ending).listingError = p.listingError ∧
      (p.settle ref ending).tally.failed + (p.settle ref ending).dead =
        p.tally.failed + p.dead + if ending = .done then 0 else 1 := by
    cases ending <;> simp [Pass.settle] <;> omega
  obtain ⟨hfree, hrunning, hdispatched, hheld, hattempted, herror, hfailed⟩ := hfields
  have hflight : (p.settle ref ending).inFlight + 1 = p.inFlight := by
    simp only [Pass.inFlight, hrunning, hdispatched, List.length_erase_of_mem hr]
    omega
  refine ⟨by omega, ?_, by rwa [hheld], ?_, ?_, by rwa [herror]⟩
  · rw [hrunning, hdispatched]
    refine List.Perm.trans ?_ removals
    simp only [List.map_append, List.map_cons, List.map_nil, List.append_assoc]
    refine List.Perm.append_left _ ?_
    rw [List.singleton_append, ← List.cons_append]
    exact List.Perm.append_right _ (List.perm_cons_erase hr).symm
  · rw [hattempted, List.length_append, List.length_singleton]
    omega
  · rw [hfailed, failed, List.countP_append]
    cases ending <;> simp

theorem Flow.reap (h : Flow limit marker events ended rest p) :
    Flow limit marker events ended rest p.reap := by
  obtain ⟨permits, removals, held, attempted, failed, listing⟩ := h
  exact ⟨permits, removals, held, attempted, by simpa [Pass.reap] using failed, listing⟩

/-- The removals that a step ends, and how. -/
def endings : Action → List (ObjectRef × Ending)
  | .finish ref reply => reply.ending.toList.map (ref, ·)
  | _ => []

/-- **Every removal once.** Every step keeps permits, removals and counts in agreement. -/
theorem Step.flow {x y : Underway σ Pass} {a : Action} (h : Step S bucket marker x a y)
    (hf : Flow limit marker events ended x.rest x.pass) :
    Flow limit marker events (ended ++ endings a) y.rest y.pass := by
  cases h with
  | pause => simpa [endings] using hf.pause
  | @readCancel s token stalls rest p =>
    cases stalls with
    | true => simpa [endings] using hf
    | false => simpa [endings] using hf.skipCancel
  | hold marked => simpa [endings] using hf.hold marked
  | dispatch other permit => simpa [endings] using hf.dispatch other permit
  | breakOff => simpa [endings] using hf.breakOff
  | start ref dispatched => simpa [endings] using hf.launch dispatched
  | finish ref running ends => simpa [endings, ends] using hf.settle running
  | stall ref running stalls => simpa [endings, stalls] using hf
  | reap dead => simpa [endings] using hf.reap

/-- When the listing has been gone through and nothing is in flight any more, all removals have
ended. -/
theorem Flow.idle (h : Flow limit marker events ended [] p) (hflight : p.inFlight = 0) :
    (ended.map (·.1)).Perm (toDelete marker (found events)) ∧ p.held = heldBack marker (found events) ∧
      p.tally.attempted = ended.length := by
  have hnone : p.dispatched = [] ∧ p.running = [] := by
    have : p.dispatched.length = 0 ∧ p.running.length = 0 := by
      unfold Pass.inFlight at hflight
      omega
    exact ⟨List.length_eq_zero_iff.1 this.1, List.length_eq_zero_iff.1 this.2⟩
  refine ⟨?_, ?_, ?_⟩
  · simpa [hnone.1, hnone.2, found] using h.removals
  · simpa [found] using h.held
  · rw [h.attempted, hflight, Nat.add_zero]

end ObjectVolume.Eviction.Single
