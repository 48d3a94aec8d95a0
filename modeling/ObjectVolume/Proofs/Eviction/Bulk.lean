import ObjectVolume.Proofs.Eviction.Action
import ObjectVolume.Eviction.Bulk
/-!
# The bulk pass, step by step

`Bulk.Step` are the steps of the reader and of the bulk deletion, in any order and with any splitting
of the references into requests. Whatever the order, the references travel from the listing to the
deletion in the order in which they were listed, none is lost or doubled, and an error of the listing
comes after them (`Flow`).

| here | there |
| --- | --- |
| `Step.read`, `Step.readCancel`, `Step.readEnd` | the producer task of `bulk_delete` |
| `Step.pull` | `remove_objects`, when it takes units from the stream |
| `Step.pullError` | the stream of units, when it finds an error in the channel |
-/
namespace ObjectVolume.Eviction.Bulk

open Store (Event Reply)

variable {σ : Type} {S : Store σ} {request : Store.BulkRequest} {marker : Option String}

/-- One step of the bulk pass. -/
inductive Step (S : Store σ) (request : Store.BulkRequest) (marker : Option String) :
    Underway σ Pass → Action → Underway σ Pass → Prop
  | read {s token e rest p} (reading : p.reader = .reading)
      (goes_on : ∀ stalls, e ≠ .cancels stalls) :
      Step S request marker ⟨s, token, e :: rest, p⟩ (.read e) ⟨s, token, rest, p.read marker e⟩
  /-- A listing that cancels the client and stalls delivers nothing more. -/
  | readCancel {s token stalls rest p} (reading : p.reader = .reading) :
      Step S request marker ⟨s, token, .cancels stalls :: rest, p⟩ (.read (.cancels stalls))
        ⟨s, token.cancel, if stalls then .cancels stalls :: rest else rest, p⟩
  | readEnd {s token p} (reading : p.reader = .reading) :
      Step S request marker ⟨s, token, [], p⟩ .readEnd ⟨s, token, [], p.finish⟩
  /-- The deletion takes some of the references in the queue and makes requests of them. -/
  | pull {s token rest p refs p'} (n : Nat)
      (pulled : Pass.pullQueue (p.queue.take n) p = (refs, p')) (some : refs ≠ []) :
      Step S request marker ⟨s, token, rest, p⟩ (.request refs (S.takeBatch request refs s).1)
        ⟨(S.takeBatch request refs s).2, token, rest, p'.noteAll (S.takeBatch request refs s).1⟩
  /-- The deletion finds an error at the front of the queue. -/
  | pullError {s token rest p p' e queue} (front : p.queue = .error e :: queue)
      (pulled : p.pull = (none, p')) (first : p.listingError = none) :
      Step S request marker ⟨s, token, rest, p⟩ .inner ⟨s, token, rest, p'⟩

/-- No more references come in: an error has ended them, or the listing has and all are taken. -/
def Pass.Exhausted (p : Pass) : Prop :=
  p.listingError.isSome ∨ (p.reader ≠ .reading ∧ p.queue = [])

/-! ## Pulling and noting -/

/-- Pulling takes references from the front of the queue, and an error after them at most. -/
theorem pullQueue_cases {p p' : Pass} {refs : List ObjectRef} {n : Nat}
    (hp : p.listingError = none) (h : Pass.pullQueue (p.queue.take n) p = (refs, p')) :
    (∃ queue, p.queue = refs.map .ok ++ queue ∧ p' = { p with queue }) ∨
      ∃ e queue, p.queue = refs.map .ok ++ .error e :: queue ∧
        p' = { p with queue, listingError := some e } := by
  obtain ⟨reader, queue, held, listingError, failed, requestError⟩ := p
  simp only at hp
  subst hp
  induction n generalizing queue refs with
  | zero =>
    simp only [List.take_zero, Pass.pullQueue, Prod.mk.injEq] at h
    obtain ⟨rfl, rfl⟩ := h
    exact .inl ⟨queue, rfl, rfl⟩
  | succ n ih =>
    cases queue with
    | nil =>
      simp only [List.take_nil, Pass.pullQueue, Prod.mk.injEq] at h
      obtain ⟨rfl, rfl⟩ := h
      exact .inl ⟨[], rfl, rfl⟩
    | cons item queue =>
      cases item with
      | error e =>
        simp only [List.take_succ_cons, Pass.pullQueue, Pass.pull, Prod.mk.injEq] at h
        obtain ⟨rfl, rfl⟩ := h
        exact .inr ⟨e, queue, rfl, rfl⟩
      | ok ref =>
        simp only [List.take_succ_cons, Pass.pullQueue, Pass.pull, Prod.mk.injEq] at h
        obtain ⟨rfl, rfl⟩ := h
        rcases ih queue rfl with ⟨q, hq, hp⟩ | ⟨e, q, hq, hp⟩
        · exact .inl ⟨q, congrArg (.ok ref :: ·) hq, hp⟩
        · exact .inr ⟨e, q, congrArg (.ok ref :: ·) hq, hp⟩

/-- Nothing is pulled after an error. -/
theorem listingError_of_pulled {p p' : Pass} {refs : List ObjectRef} {fuel}
    (h : Pass.pullQueue fuel p = (refs, p')) (hr : refs ≠ []) : p.listingError = none := by
  cases fuel with
  | nil =>
    simp only [Pass.pullQueue, Prod.mk.injEq] at h
    exact absurd h.1.symm hr
  | cons item fuel =>
    cases he : p.listingError with
    | none => rfl
    | some e =>
      simp only [Pass.pullQueue, Pass.pull, he, Prod.mk.injEq] at h
      exact absurd h.1.symm hr

/-- A failure that concerns one object. -/
def isRefusal : DeleteFailure → Bool
  | .object _ _ => true
  | .request _ => false

/-- The first request that is reported as failed. -/
def requestFailure? (failures : List DeleteFailure) : Option Error :=
  failures.findSome? fun
    | .object _ _ => none
    | .request e => some e

theorem noteAll_eq (p : Pass) (failures : List DeleteFailure) :
    p.noteAll failures =
      { p with
        failed := p.failed + failures.countP isRefusal
        requestError := p.requestError <|> requestFailure? failures } := by
  induction failures generalizing p with
  | nil => simp [Pass.noteAll, requestFailure?]
  | cons failure rest ih =>
    have hcons : p.noteAll (failure :: rest) = (p.note failure).noteAll rest := rfl
    rw [hcons, ih]
    cases failure with
    | object ref message =>
      rw [List.countP_cons_of_pos rfl]
      simp only [Pass.note, requestFailure?, List.findSome?_cons, Pass.mk.injEq, and_true,
        true_and]
      omega
    | request e =>
      rw [List.countP_cons_of_neg (by simp [isRefusal])]
      cases hr : p.requestError <;> simp [Pass.note, requestFailure?, hr]

@[simp]
theorem Pass.failed_read (marker : Option String) (p : Pass) (e : Event) :
    (p.read marker e).failed = p.failed := by
  cases e <;> simp only [Pass.read]
  split <;> rfl

@[simp]
theorem Pass.requestError_read (marker : Option String) (p : Pass) (e : Event) :
    (p.read marker e).requestError = p.requestError := by
  cases e <;> simp only [Pass.read]
  split <;> rfl

/-- The pass has taken note of exactly these failures. -/
structure Noted (failures : List DeleteFailure) (p : Pass) : Prop where
  failed : p.failed = failures.countP isRefusal
  requestError : p.requestError = requestFailure? failures

theorem Noted.noteAll {failures : List DeleteFailure} {p : Pass} (h : Noted failures p)
    (more : List DeleteFailure) : Noted (failures ++ more) (p.noteAll more) := by
  rw [noteAll_eq]
  refine ⟨by simp [h.failed], ?_⟩
  simp only [h.requestError, requestFailure?, List.findSome?_append, Option.orElse_eq_orElse,
    Option.orElse_eq_or]

/-- No failure goes unnoticed. -/
theorem Noted.eq_nil {failures : List DeleteFailure} {p : Pass} (h : Noted failures p)
    (hf : p.failed = 0) (hr : p.requestError = none) : failures = [] := by
  rw [List.eq_nil_iff_forall_not_mem]
  intro failure hm
  cases failure with
  | object ref message =>
    rw [h.failed, List.countP_eq_zero] at hf
    exact hf _ hm rfl
  | request e =>
    rw [h.requestError, requestFailure?, List.findSome?_eq_none_iff] at hr
    exact absurd (hr _ hm) (by simp)

/-! ## The way of the references -/

/-- What the reader sends to the deletion when it reads these events. -/
def sends (marker : Option String) (events : List Event) : List (Except Error ObjectRef) :=
  (toDelete marker (found events)).map .ok ++
    match listingEnd events with
    | .failed e => [.error e]
    | .whole | .died _ => []

/-- What the deletion has not taken yet: an error that it has come across, what waits in the queue, and
what the reader is yet to send. -/
def Pass.ahead (marker : Option String) (rest : List Event) (p : Pass) :
    List (Except Error ObjectRef) :=
  p.listingError.toList.map .error ++
    (p.queue ++ if p.reader = .reading then sends marker rest else [])

/-- The references in `pulled` have reached the deletion. With those ahead of it, they are what the
listing has found, in order; and the same goes for the references held back. -/
structure Flow (marker : Option String) (events : List Event) (pulled : List ObjectRef)
    (rest : List Event) (p : Pass) : Prop where
  stream : pulled.map .ok ++ p.ahead marker rest = sends marker events
  held : p.held ++ (if p.reader = .reading then heldBack marker (found rest) else []) =
    heldBack marker (found events)
  reader : match p.reader with
    | .reading => listingEnd rest = listingEnd events
    | .ended => ∀ message, listingEnd events ≠ .died message
    | .died message => listingEnd events = .died message

variable {events rest : List Event} {pulled : List ObjectRef} {p : Pass}

theorem flow_start (marker : Option String) (events : List Event) :
    Flow marker events [] events {} := by
  refine ⟨?_, ?_, rfl⟩ <;> simp [Pass.ahead]

theorem Flow.read {e : Event} (h : Flow marker events pulled (e :: rest) p)
    (reading : p.reader = .reading) (goes_on : ∀ stalls, e ≠ .cancels stalls) :
    Flow marker events pulled rest (p.read marker e) := by
  obtain ⟨stream, held, reader⟩ := h
  simp only [reading, Pass.ahead, if_true] at stream held reader
  cases e with
  | found ref =>
    by_cases hm : marker = some ref.key
    · rw [Pass.read, if_pos hm]
      refine ⟨?_, ?_, by simpa only [reading, listingEnd] using reader⟩
      · simpa [Pass.ahead, reading, sends, found, listingEnd, toDelete_cons_marker hm] using stream
      · simpa [reading, found, heldBack_cons_marker hm] using held
    · rw [Pass.read, if_neg hm]
      refine ⟨?_, ?_, by simpa only [reading, listingEnd] using reader⟩
      · simpa [Pass.ahead, reading, sends, found, listingEnd, toDelete_cons_other hm] using stream
      · simpa [reading, found, heldBack_cons_other hm] using held
  | failed error =>
    refine ⟨?_, ?_, fun message hd => ?_⟩
    · simpa [Pass.read, Pass.ahead, sends, found, listingEnd] using stream
    · simpa [Pass.read, found] using held
    · rw [← reader] at hd
      cases hd
  | died message =>
    refine ⟨?_, ?_, ?_⟩
    · simpa [Pass.read, Pass.ahead, sends, found, listingEnd] using stream
    · simpa [Pass.read, found] using held
    · simpa [Pass.read, listingEnd] using reader.symm
  | pause =>
    refine ⟨?_, ?_, by simpa only [Pass.read, reading, listingEnd] using reader⟩
    · simpa [Pass.read, Pass.ahead, reading, sends, found, listingEnd] using stream
    · simpa [Pass.read, reading, found] using held
  | cancels stalls => exact absurd rfl (goes_on stalls)

theorem Flow.skipCancel {stalls : Bool} (h : Flow marker events pulled (.cancels stalls :: rest) p)
    (reading : p.reader = .reading) : Flow marker events pulled rest p := by
  obtain ⟨stream, held, reader⟩ := h
  simp only [reading] at reader
  refine ⟨?_, ?_, by simpa only [reading, listingEnd] using reader⟩
  · simpa [Pass.ahead, reading, sends, found, listingEnd] using stream
  · simpa [reading, found] using held

theorem Flow.finish (h : Flow marker events pulled [] p) (reading : p.reader = .reading) :
    Flow marker events pulled [] p.finish := by
  obtain ⟨stream, held, reader⟩ := h
  simp only [reading] at reader
  refine ⟨?_, ?_, fun message hd => ?_⟩
  · simpa [Pass.finish, Pass.ahead, reading, sends, found, listingEnd] using stream
  · simpa [Pass.finish, reading, found] using held
  · rw [← reader] at hd
    cases hd

theorem Flow.pull {refs : List ObjectRef} {p' : Pass} {n : Nat}
    (h : Flow marker events pulled rest p)
    (hp : Pass.pullQueue (p.queue.take n) p = (refs, p')) (some : refs ≠ []) :
    Flow marker events (pulled ++ refs) rest p' := by
  have first := listingError_of_pulled hp some
  obtain ⟨stream, held, reader⟩ := h
  rcases pullQueue_cases first hp with ⟨queue, hq, rfl⟩ | ⟨e, queue, hq, rfl⟩
  · refine ⟨?_, held, reader⟩
    simpa [Pass.ahead, first, hq] using stream
  · refine ⟨?_, held, reader⟩
    simpa [Pass.ahead, first, hq] using stream

theorem Flow.pullError {p' : Pass} {e : Error} {queue : List (Except Error ObjectRef)}
    (h : Flow marker events pulled rest p) (front : p.queue = .error e :: queue)
    (hp : p.pull = (none, p')) (first : p.listingError = none) :
    Flow marker events pulled rest p' := by
  obtain ⟨stream, held, reader⟩ := h
  simp only [Pass.pull, first, front, Prod.mk.injEq, true_and] at hp
  subst hp
  refine ⟨?_, held, reader⟩
  simpa [Pass.ahead, first, front] using stream

theorem Flow.noteAll (h : Flow marker events pulled rest p) (failures : List DeleteFailure) :
    Flow marker events pulled rest (p.noteAll failures) := by
  rw [noteAll_eq]
  exact ⟨h.stream, h.held, h.reader⟩

/-- **Order of the references.** Every step keeps what has been pulled and what lies ahead in the
order of the listing. -/
theorem Step.flow {x y : Underway σ Pass} {a : Action} (h : Step S request marker x a y)
    (hf : Flow marker events pulled x.rest x.pass) :
    Flow marker events (pulled ++ a.requested) y.rest y.pass := by
  cases h with
  | read reading goes_on => simpa [Action.requested] using hf.read reading goes_on
  | @readCancel s token stalls rest p reading =>
    cases stalls with
    | true => simpa [Action.requested] using hf
    | false => simpa [Action.requested] using hf.skipCancel reading
  | readEnd reading => simpa [Action.requested] using hf.finish reading
  | pull n pulled some => exact (hf.pull pulled some).noteAll _
  | pullError front pulled first => simpa [Action.requested] using hf.pullError front pulled first

theorem Step.noted {x y : Underway σ Pass} {a : Action} (h : Step S request marker x a y)
    {failures : List DeleteFailure} (hn : Noted failures x.pass) :
    Noted (failures ++ a.reported) y.pass := by
  cases h with
  | @read s token e rest p reading goes_on =>
    refine ⟨?_, ?_⟩
    · simpa [Action.reported] using hn.failed
    · simpa [Action.reported] using hn.requestError
  | readCancel reading => simpa [Action.reported] using hn
  | readEnd reading => simpa [Action.reported] using ⟨hn.failed, hn.requestError⟩
  | pull n pulled some =>
    refine Noted.noteAll ?_ _
    rcases pullQueue_cases (listingError_of_pulled pulled some) pulled with
      ⟨queue, -, rfl⟩ | ⟨e, queue, -, rfl⟩ <;> exact ⟨hn.failed, hn.requestError⟩
  | pullError front pulled first =>
    simp only [Pass.pull, first, front, Prod.mk.injEq, true_and] at pulled
    subst pulled
    simpa [Action.reported] using ⟨hn.failed, hn.requestError⟩

/-- Where references end and an error or nothing follows, both parts are determined. -/
theorem map_ok_append_inj {refs refs' : List ObjectRef} {tail tail' : List (Except Error ObjectRef)}
    (ht : ∀ ref l, tail ≠ .ok ref :: l) (ht' : ∀ ref l, tail' ≠ .ok ref :: l)
    (h : refs.map .ok ++ tail = refs'.map .ok ++ tail') : refs = refs' ∧ tail = tail' := by
  induction refs generalizing refs' with
  | nil =>
    cases refs' with
    | nil => exact ⟨rfl, h⟩
    | cons ref' refs' => exact absurd h (ht ref' _)
  | cons ref refs ih =>
    cases refs' with
    | nil => exact absurd h.symm (ht' ref _)
    | cons ref' refs' =>
      simp only [List.map_cons, List.cons_append, List.cons.injEq, Except.ok.injEq] at h
      obtain ⟨rfl, h⟩ := h
      obtain ⟨rfl, htail⟩ := ih h
      exact ⟨rfl, htail⟩

/-- Nothing reaches the deletion but what the listing has found. -/
theorem Flow.pulled_subset (h : Flow marker events pulled rest p) :
    pulled ⊆ toDelete marker (found events) := by
  intro ref hm
  have hsent : (.ok ref : Except Error ObjectRef) ∈ sends marker events := by
    rw [← h.stream]
    exact List.mem_append_left _ (List.mem_map_of_mem hm)
  rcases List.mem_append.1 hsent with hs | hs
  · obtain ⟨ref', hm', heq⟩ := List.mem_map.1 hs
    cases heq
    exact hm'
  · split at hs <;> simp at hs

/-- When no more references come in, all have been pulled, and the pass knows how the listing ended. -/
theorem Flow.exhausted (h : Flow marker events pulled rest p) (he : p.Exhausted) :
    pulled = toDelete marker (found events) ∧
      match listingEnd events with
      | .failed e => p.listingError = some e
      | .died message => p.listingError = none ∧ p.reader = .died message
      | .whole => p.listingError = none ∧ p.reader = .ended ∧
          p.held = heldBack marker (found events) := by
  obtain ⟨stream, held, reader⟩ := h
  have hsent : ∀ ref l, (match listingEnd events with
      | .failed e => [(.error e : Except Error ObjectRef)]
      | .whole | .died _ => []) ≠ .ok ref :: l := by
    intro ref l
    split <;> simp
  cases hle : p.listingError with
  | some e =>
    obtain ⟨hpulled, htail⟩ := map_ok_append_inj (by simp [Pass.ahead, hle]) hsent stream
    refine ⟨hpulled, ?_⟩
    cases hend : listingEnd events <;> simp_all [Pass.ahead]
  | none =>
    obtain ⟨hreader, hqueue⟩ : p.reader ≠ .reading ∧ p.queue = [] := by
      simpa [Pass.Exhausted, hle] using he
    obtain ⟨hpulled, htail⟩ :=
      map_ok_append_inj (by simp [Pass.ahead, hle, hreader, hqueue]) hsent stream
    refine ⟨hpulled, ?_⟩
    cases hr : p.reader with
    | reading => exact absurd hr hreader
    | ended =>
      cases hend : listingEnd events <;> simp_all [Pass.ahead]
    | died message =>
      cases hend : listingEnd events <;> simp_all [Pass.ahead]

/-- **Clean pass.** The pass is completed exactly when the listing came to its end and nothing was
reported; it then has held back the references to the marker. -/
theorem Flow.outcome_completed (h : Flow marker events pulled rest p) (he : p.Exhausted)
    {held : List ObjectRef} (ho : p.outcome = .completed held) :
    listingEnd events = .whole ∧ p.failed = 0 ∧ p.requestError = none ∧
      held = heldBack marker (found events) := by
  obtain ⟨-, hend⟩ := h.exhausted he
  unfold Pass.outcome at ho
  cases hl : listingEnd events <;> cases hr : p.requestError <;> by_cases hf : p.failed > 0 <;>
    simp_all

end ObjectVolume.Eviction.Bulk
