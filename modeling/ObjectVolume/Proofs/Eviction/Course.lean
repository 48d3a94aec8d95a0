import ObjectVolume.Proofs.Eviction.Progress
import ObjectVolume.Proofs.Eviction.Verdict
/-!
# The course of an eviction of the store in memory

`OnCourse` is what holds of a call at every moment: which versions are gone from the store, and that
the counts and errors which the passes have noted agree with it. Every step keeps a call on course
(`OnCourse.step`), so that it can only answer with its verdict, or that it was cancelled, in which
case no more is gone than was to be deleted (`Interim`).
-/
namespace ObjectVolume.Eviction

open Store (Memory memory Event Reply Bucket)
open Store.Memory (Lost)

/-- The store during a call: some of what is listed is gone, but nothing whose deletion is refused,
and not all of the marker. -/
def Interim (m : Memory) (c : Call) (m' : Memory) : Prop :=
  ∃ gone armed, Lost m c.bucket gone armed m' ∧ gone ⊆ m.deletable (c.listed m) ∧
    (c.markers m ≠ [] → ∃ ref ∈ c.markers m, ref ∉ gone)

/-- The last listing came to its end, and all that it had to delete could be deleted. -/
structure Clean (m : Memory) (c : Call) : Prop where
  listing : c.interruption m (m.faults.failingListings - 1) = none
  doomed : m.refused (c.doomed m) = []

/-- What holds of a call on the store `m`, stage by stage. -/
inductive OnCourse (m : Memory) (c : Call) : State Memory → Prop
  | called {m' token} (lost : Lost m c.bucket [] m.faults.failingListings m') :
      OnCourse m c ⟨m', token, .called⟩
  | bulk {m' token rest p pulled}
      (flow : Bulk.Flow c.marker (c.events m [] m.faults.failingListings) pulled rest p)
      (calm : Calm rest)
      (lost : Lost m c.bucket (m.bulkDeletable pulled) (m.faults.failingListings - 1) m')
      (failed : p.failed = m.bulkRefused pulled) (request : p.requestError = m.bulkError? pulled) :
      OnCourse m c ⟨m', token, .bulk rest p⟩
  | between {m' token}
      (lost : Lost m c.bucket (c.bulkGone m) (m.faults.failingListings - 1) m') :
      OnCourse m c ⟨m', token, .between (c.bulkFailure m)⟩
  | single {m' token rest p ended}
      (flow : Single.Flow c.limit c.marker
        (c.events m (c.bulkGone m) (m.faults.failingListings - 1)) ended rest p)
      (calm : Calm rest)
      (lost : Lost m c.bucket (c.bulkGone m ++ m.deletable (ended.map (·.1)))
        (m.faults.failingListings - 1 - 1) m')
      (endings : ∀ e ∈ ended, e.2 = if m.refuses e.1.key then .failed else .done) :
      OnCourse m c ⟨m', token, .single (c.bulkFailure m) rest p⟩
  | removing {m' token root done held armed} (clean : Clean m c) (target : c.target = .below root)
      (split : c.markers m = done ++ held) (lost : Lost m c.bucket (c.doomed m ++ done) armed m')
      (allowed : m.refused done = []) (last : held = [] → done = []) :
      OnCourse m c ⟨m', token, .removing held⟩
  | awaiting {m' token root done ref held armed} (clean : Clean m c)
      (target : c.target = .below root) (split : c.markers m = done ++ ref :: held)
      (lost : Lost m c.bucket (c.doomed m ++ done) armed m') (allowed : m.refused done = []) :
      OnCourse m c ⟨m', token, .awaiting ref held⟩
  | closing {m' token armed} (clean : Clean m c) (target : c.target = .bucket)
      (lost : Lost m c.bucket (c.doomed m) armed m') : OnCourse m c ⟨m', token, .closing⟩
  | answered {m' token answer} (verdict : (answer, m'.buckets) = c.verdict m) :
      OnCourse m c ⟨m', token, .answered answer⟩
  | cancelled {m' token} (cancelled : token.isCancelled = true) (interim : Interim m c m') :
      OnCourse m c ⟨m', token, .answered (.failed .cancelled)⟩

variable {m m' : Memory} {c : Call} {x y : State Memory} {a : Action} {token : Token}

/-! ## Where nothing is lost that should not be -/

theorem interim_of_doomed {gone : List ObjectRef} {armed : Nat} (h : Lost m c.bucket gone armed m')
    (hg : gone ⊆ m.deletable (c.doomed m)) : Interim m c m' := by
  refine ⟨gone, armed, h, fun ref hm => ?_, fun hne => ?_⟩
  · obtain ⟨hdoomed, hrefuses⟩ := Memory.mem_deletable.1 (hg hm)
    exact Memory.mem_deletable.2 ⟨(Call.mem_doomed.1 hdoomed).1, hrefuses⟩
  · obtain ⟨ref, hm⟩ := List.exists_mem_of_ne_nil _ hne
    refine ⟨ref, hm, fun hgone => ?_⟩
    obtain ⟨hdoomed, -⟩ := Memory.mem_deletable.1 (hg hgone)
    exact (Call.mem_doomed.1 hdoomed).2 (Call.mem_markers.1 hm).2

theorem Clean.deletable_doomed (h : Clean m c) : m.deletable (c.doomed m) = c.doomed m := by
  apply List.filter_eq_self.2
  intro ref hm
  cases hr : m.refuses ref.key with
  | false => rfl
  | true =>
    have hmem : ref ∈ m.refused (c.doomed m) := Memory.mem_refused.2 ⟨hm, hr⟩
    rw [h.doomed] at hmem
    cases hmem

/-- As long as a version of the marker is to be removed, it is there. -/
theorem interim_of_markers {done held : List ObjectRef} {armed : Nat} (hs : m.Sound)
    (clean : Clean m c) (split : c.markers m = done ++ held)
    (h : Lost m c.bucket (c.doomed m ++ done) armed m') (allowed : m.refused done = [])
    (last : held = [] → done = []) : Interim m c m' := by
  refine ⟨_, armed, h, fun ref hm => ?_, fun hne => ?_⟩
  · rcases List.mem_append.1 hm with hm | hm
    · rw [← clean.deletable_doomed] at hm
      obtain ⟨hdoomed, hrefuses⟩ := Memory.mem_deletable.1 hm
      exact Memory.mem_deletable.2 ⟨(Call.mem_doomed.1 hdoomed).1, hrefuses⟩
    · have hmarker : ref ∈ c.markers m := split ▸ List.mem_append_left _ hm
      refine Memory.mem_deletable.2 ⟨(Call.mem_markers.1 hmarker).1, ?_⟩
      cases hr : m.refuses ref.key with
      | false => rfl
      | true =>
        have hmem : ref ∈ m.refused done := Memory.mem_refused.2 ⟨hm, hr⟩
        rw [allowed] at hmem
        cases hmem
  · cases held with
    | nil => exact absurd (by rw [split, last rfl]; rfl) hne
    | cons ref held =>
      have hmarker : ref ∈ c.markers m := by simp [split]
      refine ⟨ref, hmarker, fun hgone => ?_⟩
      rcases List.mem_append.1 hgone with hgone | hgone
      · exact (Call.mem_doomed.1 hgone).2 (Call.mem_markers.1 hmarker).2
      · obtain ⟨b, hb, -⟩ := Call.exists_of_mem_listed (Call.mem_markers.1 hmarker).1
        have hnodup : (c.markers m).Nodup := by
          rw [Call.markers, Call.listed_eq hb]
          exact ((hs _ _ hb).nodup_refs _).filter _
        rw [split] at hnodup
        exact (List.nodup_append.1 hnodup).2.2 ref hgone ref List.mem_cons_self rfl

theorem OnCourse.interim (h : OnCourse m c x) (hs : m.Sound) (ha : x.stage.answer? = none) :
    Interim m c x.store := by
  cases h with
  | called lost => exact interim_of_doomed lost (by simp)
  | bulk flow calm lost failed request =>
    refine interim_of_doomed lost ?_
    intro ref hm
    obtain ⟨hpulled, hrefuses⟩ := Memory.mem_deletable.1 (Memory.bulkDeletable_subset hm)
    have htaken := flow.pulled_subset hpulled
    rw [Call.toDelete_found_bulk] at htaken
    exact Memory.mem_deletable.2 ⟨Call.bulkTaken_subset htaken, hrefuses⟩
  | between lost => exact interim_of_doomed lost Call.bulkGone_subset
  | single flow calm lost endings =>
    refine interim_of_doomed lost ?_
    intro ref hm
    rcases List.mem_append.1 hm with hm | hm
    · exact Call.bulkGone_subset hm
    · obtain ⟨hended, hrefuses⟩ := Memory.mem_deletable.1 hm
      have htaken := flow.removals.subset (List.mem_append_left _ hended)
      rw [Call.toDelete_found_single] at htaken
      exact Memory.mem_deletable.2 ⟨Call.singleTaken_subset htaken, hrefuses⟩
  | removing clean target split lost allowed last =>
    exact interim_of_markers hs clean split lost allowed last
  | awaiting clean target split lost allowed =>
    exact interim_of_markers hs clean split lost allowed (by simp)
  | closing clean target lost =>
    exact interim_of_doomed lost (by rw [clean.deletable_doomed]; exact List.Subset.refl _)
  | answered verdict => cases ha
  | cancelled cancelled interim => cases ha

/-! ## The bulk pass -/

/-- What is listed is there, and named as the bucket keeps it. -/
theorem exists_bucket_of_doomed (hs : m.Sound) {refs : List ObjectRef} (hne : refs ≠ [])
    (h : refs ⊆ c.doomed m) :
    ∃ b, m.buckets.find? c.bucket = some b ∧ ∀ ref ∈ refs, b.Names ref := by
  obtain ⟨ref, hm⟩ := List.exists_mem_of_ne_nil _ hne
  obtain ⟨b, hb, -⟩ := Call.exists_of_mem_listed (Call.mem_doomed.1 (h hm)).1
  refine ⟨b, hb, fun ref hm => ?_⟩
  have hlisted := (Call.mem_doomed.1 (h hm)).1
  rw [Call.listed_eq hb] at hlisted
  exact (hs _ _ hb).names_of_mem_refs hlisted

theorem OnCourse.begin {token : Token} (lost : Lost m c.bucket [] m.faults.failingListings m') :
    OnCourse m c ⟨(memory.listObjects c.bucket c.scope m').2, token,
      .bulk (memory.listObjects c.bucket c.scope m').1 {}⟩ := by
  obtain ⟨hevents, hlost⟩ := lost.list c.scope
  have hlisted : (memory.listObjects c.bucket c.scope m').1 =
      c.events m [] m.faults.failingListings := hevents
  rw [hlisted]
  have hnone : m.bulkDeletable [] = [] := by simp [Memory.bulkDeletable, Memory.deletable]
  refine .bulk (Bulk.flow_start _ _) (Call.calm_events _ _) (by rwa [hnone]) ?_ ?_
  · cases hb : m.faults.bulk <;> simp [Memory.bulkRefused, Memory.refused, hb]
  · simp [Memory.bulkError?]

/-- **A step of the bulk pass.** What it has deleted and noted is what the behaviour of bulk deletions
makes of the references that it has taken. -/
theorem OnCourse.step_bulk (hs : m.Sound) {x y : Underway Memory Bulk.Pass}
    (h : OnCourse m c ⟨x.store, x.token, .bulk x.rest x.pass⟩)
    (hstep : Bulk.Step memory c.request c.marker x a y) :
    OnCourse m c ⟨y.store, y.token, .bulk y.rest y.pass⟩ ∧ ¬ a.Stalls ∧ y.token = x.token := by
  cases h with
  | @bulk m' token rest p pulled flow calm lost failed request =>
  have hflow := hstep.flow flow
  cases hstep with
  | @read s token e rest p reading goes_on =>
    have hcalm : Calm rest := fun e he => calm e (List.mem_cons_of_mem _ he)
    refine ⟨.bulk (by simpa [Action.requested] using hflow) hcalm lost ?_ ?_, ?_, rfl⟩
    · rw [Bulk.Pass.failed_read, failed]
    · rw [Bulk.Pass.requestError_read, request]
    · cases e with
      | cancels stalls => exact absurd rfl (goes_on stalls)
      | _ => exact id
  | @readCancel s token stalls rest p reading =>
    exact absurd rfl ((calm _ List.mem_cons_self).2 stalls)
  | readEnd reading =>
    exact ⟨.bulk (by simpa [Action.requested] using hflow) calm lost failed request, id, rfl⟩
  | @pull s token rest p refs p' n taken some =>
    have htaken : refs ⊆ c.doomed m := fun ref hm => by
      have := hflow.pulled_subset (List.mem_append_right _ hm)
      rw [Call.toDelete_found_bulk] at this
      exact Call.bulkTaken_subset this
    obtain ⟨b, hb, hnames⟩ := exists_bucket_of_doomed hs some htaken
    have hlost := (lost.takeBatch hs hb hnames).2
    obtain ⟨hcount, herror⟩ := lost.reports hs hb hnames
    rw [← Memory.bulkDeletable_append] at hlost
    have hkept : p'.failed = p.failed ∧ p'.requestError = p.requestError := by
      rcases Bulk.pullQueue_cases (Bulk.listingError_of_pulled taken some) taken with
        ⟨queue, -, rfl⟩ | ⟨e, queue, -, rfl⟩ <;> exact ⟨rfl, rfl⟩
    have hfailed : p'.failed + (s.takeBatch c.bucket refs).1.countP Bulk.isRefusal =
        m.bulkRefused (pulled ++ refs) := by
      rw [Memory.bulkRefused_append, hcount, hkept.1]
      exact congrArg (· + _) failed
    have hrequest : (p'.requestError <|> Bulk.requestFailure? (s.takeBatch c.bucket refs).1) =
        m.bulkError? (pulled ++ refs) := by
      rw [Memory.bulkError?_append, herror, hkept.2]
      exact congrArg (· <|> _) request
    refine ⟨.bulk hflow calm hlost ?_ ?_, id, rfl⟩
    · rw [Bulk.noteAll_eq]
      exact hfailed
    · rw [Bulk.noteAll_eq]
      exact hrequest
  | pullError front taken first =>
    simp only [Bulk.Pass.pull, first, front, Prod.mk.injEq, true_and] at taken
    subst taken
    exact ⟨.bulk (by simpa [Action.requested] using hflow) calm lost failed request, id, rfl⟩

/-! ## After a clean pass -/

theorem Clean.exists_bucket (h : Clean m c) : ∃ b, m.buckets.find? c.bucket = some b :=
  (Call.interruption_eq_none h.listing).2

/-- Whatever led to it: once all that was doomed is gone, what is left goes last. -/
theorem OnCourse.afterPass {token : Token} (hs : m.Sound) (clean : Clean m c) {gone : List ObjectRef}
    {armed : Nat} (lost : Lost m c.bucket gone armed m') (hgone : ∀ ref, ref ∈ gone ↔ ref ∈ c.doomed m) :
    OnCourse m c ⟨m', token, c.afterPass (c.markers m)⟩ := by
  unfold Call.afterPass
  cases htarget : c.target with
  | below root =>
    have hlost : Lost m c.bucket (c.doomed m ++ []) armed m' :=
      lost.congr hs fun b _ key v _ => by rw [List.append_nil, hgone]
    exact .removing clean htarget rfl hlost rfl fun _ => rfl
  | bucket =>
    exact .closing clean htarget (lost.congr hs fun b _ key v _ => hgone _)

/-- A bulk pass that takes all and is told of no failure has deleted all. -/
theorem bulk_clean {refs : List ObjectRef} (hr : m.bulkRefused refs = 0) (he : m.bulkError? refs = none) :
    m.refused refs = [] ∧ m.bulkDeletable refs = refs := by
  have hall : m.refused refs = [] → m.deletable refs = refs := fun h =>
    List.filter_eq_self.2 fun ref hm => by
      simpa using List.filter_eq_nil_iff.1 h ref hm
  cases hb : m.faults.bulk with
  | supported =>
    have hnil : m.refused refs = [] := by simpa [Memory.bulkRefused, hb] using hr
    exact ⟨hnil, by rw [Memory.bulkDeletable, if_pos hb, hall hnil]⟩
  | unsupported =>
    have hnil : refs = [] := by simpa [Memory.bulkError?, hb] using he
    simp [hnil, Memory.refused, Memory.bulkDeletable, Memory.deletable]
  | rejectAll =>
    have hnil : refs = [] := by simpa [Memory.bulkRefused, hb] using hr
    simp [hnil, Memory.refused, Memory.bulkDeletable, Memory.deletable]

/-- The bulk pass has its whole listing, and all that it asks for is deleted. -/
structure BulkClean (m : Memory) (c : Call) : Prop where
  listing : c.interruption m m.faults.failingListings = none
  requests : m.bulkError? (c.doomed m) = none
  objects : m.bulkRefused (c.doomed m) = 0

theorem BulkClean.clean (h : BulkClean m c) : Clean m c := by
  obtain ⟨harmed, -⟩ := Call.interruption_eq_none h.listing
  refine ⟨?_, (bulk_clean h.objects h.requests).1⟩
  have hi := h.listing
  rw [harmed] at hi ⊢
  exact hi

/-- A clean bulk pass deletes all that is doomed. -/
theorem BulkClean.bulkGone_eq (h : BulkClean m c) : c.bulkGone m = c.doomed m := by
  obtain ⟨harmed, -⟩ := Call.interruption_eq_none h.listing
  have htaken : c.bulkTaken m = c.doomed m := by
    simp [Call.bulkTaken, Call.doomed, Memory.delivered, harmed]
  rw [Call.bulkGone, htaken, (bulk_clean h.objects h.requests).2]

/-- The outcome of the bulk pass is clean, or the error that it has to fail with. -/
theorem OnCourse.outcome_of_bulk {token : Token} {rest : List Event} {p : Bulk.Pass}
    (h : OnCourse m c ⟨m', token, .bulk rest p⟩) (exhausted : p.Exhausted) :
    Lost m c.bucket (c.bulkGone m) (m.faults.failingListings - 1) m' ∧
      ((BulkClean m c ∧ p.outcome = .completed (c.markers m)) ∨
        (¬ BulkClean m c ∧ c.afterBulk p.outcome = .between (c.bulkFailure m))) := by
  cases h with
  | @bulk _ _ _ _ pulled flow calm lost failed request =>
  obtain ⟨hpulled, hend⟩ := flow.exhausted exhausted
  rw [Call.toDelete_found_bulk] at hpulled
  subst hpulled
  refine ⟨lost, ?_⟩
  rw [Call.listingEnd_events] at hend
  cases hi : c.interruption m m.faults.failingListings with
  | some e =>
    simp only [hi] at hend
    have hprimary : c.bulkFailure m = e := by simp [Call.bulkFailure, hi]
    refine .inr ⟨fun hclean => by simp [hclean.listing] at hi, ?_⟩
    simp [Bulk.Pass.outcome, hend, Call.afterBulk, hprimary]
  | none =>
    simp only [hi] at hend
    obtain ⟨herror, hreader, hheld⟩ := hend
    obtain ⟨harmed, -⟩ := Call.interruption_eq_none hi
    have htaken : c.bulkTaken m = c.doomed m := by
      simp [Call.bulkTaken, Call.doomed, Memory.delivered, harmed]
    have hmarkers : p.held = c.markers m := by
      rw [hheld, Call.found_events, List.filter_eq_self.2 (by simp), Memory.delivered, if_pos harmed]
      rfl
    rw [htaken] at failed request
    cases he : m.bulkError? (c.doomed m) with
    | some e =>
      have hprimary : c.bulkFailure m = e := by simp [Call.bulkFailure, hi, he]
      refine .inr ⟨fun hclean => by simp [hclean.requests] at he, ?_⟩
      simp [Bulk.Pass.outcome, herror, request, he, Call.afterBulk, hprimary]
    | none =>
      by_cases hf : p.failed > 0
      · have hprimary : c.bulkFailure m = .bulkDelete c.bucket c.scope (m.bulkRefused (c.doomed m)) := by
          simp [Call.bulkFailure, hi, he]
        refine .inr ⟨fun hclean => by rw [failed, hclean.objects] at hf; omega, ?_⟩
        simp [Bulk.Pass.outcome, herror, request, he, hf, Call.afterBulk, hprimary, ← failed]
      · refine .inl ⟨⟨hi, he, failed.symm.trans (Nat.eq_zero_of_not_pos hf)⟩, ?_⟩
        simp [Bulk.Pass.outcome, herror, request, he, hf, hreader, hmarkers]

/-- **The end of the bulk pass.** It is clean, or fails with the error that it has to fail with. -/
theorem OnCourse.endBulk (hs : m.Sound) {token : Token} {rest : List Event} {p : Bulk.Pass}
    (h : OnCourse m c ⟨m', token, .bulk rest p⟩) (exhausted : p.Exhausted) :
    OnCourse m c ⟨m', token, c.afterBulk p.outcome⟩ := by
  obtain ⟨lost, ⟨hclean, hcompleted⟩ | ⟨-, hbetween⟩⟩ := h.outcome_of_bulk exhausted
  · rw [hcompleted]
    exact OnCourse.afterPass hs hclean.clean lost fun ref => by rw [hclean.bulkGone_eq]
  · rw [hbetween]
    exact .between lost

/-! ## The single pass -/

theorem OnCourse.fallBack {token : Token}
    (lost : Lost m c.bucket (c.bulkGone m) (m.faults.failingListings - 1) m') :
    OnCourse m c ⟨(memory.listObjects c.bucket c.scope m').2, token,
      .single (c.bulkFailure m) (memory.listObjects c.bucket c.scope m').1 { free := c.limit }⟩ := by
  obtain ⟨hevents, hlost⟩ := lost.list c.scope
  have hlisted : (memory.listObjects c.bucket c.scope m').1 =
      c.events m (c.bulkGone m) (m.faults.failingListings - 1) := hevents
  rw [hlisted]
  have hnone : c.bulkGone m ++ m.deletable [] = c.bulkGone m := List.append_nil _
  exact .single (Single.flow_start _ _ _) (Call.calm_events _ _) (by rw [List.map_nil, hnone]; exact hlost)
    (by simp)

/-- What the end of a removal is answered, and what it leaves. -/
theorem endRemoval_of_running (hs : m.Sound) {ended : List (ObjectRef × Single.Ending)}
    {rest : List Event} {p : Single.Pass} {ref : ObjectRef}
    (flow : Single.Flow c.limit c.marker
      (c.events m (c.bulkGone m) (m.faults.failingListings - 1)) ended rest p)
    (lost : Lost m c.bucket (c.bulkGone m ++ m.deletable (ended.map (·.1)))
      (m.faults.failingListings - 1 - 1) m') (running : ref ∈ p.running) :
    (memory.endRemoval c.bucket ref m').1 =
        (if m.refuses ref.key then .failed (.backend (.accessDenied ref.key)) else .done ()) ∧
      Lost m c.bucket (c.bulkGone m ++ m.deletable (ended.map (·.1) ++ [ref]))
        (m.faults.failingListings - 1 - 1) (memory.endRemoval c.bucket ref m').2 := by
  have hdoomed : [ref] ⊆ c.doomed m := by
    have htaken := flow.removals.subset
      (List.mem_append_right _ (List.mem_append_left _ running))
    rw [Call.toDelete_found_single] at htaken
    simpa using Call.singleTaken_subset htaken
  obtain ⟨b, hb, hnames⟩ := exists_bucket_of_doomed hs (List.cons_ne_nil _ _) hdoomed
  obtain ⟨hreply, hlost⟩ := lost.endRemoval hs hb (hnames ref List.mem_cons_self)
  rw [List.append_assoc, ← Memory.deletable_append] at hlost
  exact ⟨hreply, hlost⟩

/-- **A step of the single pass.** What it has deleted is what has ended well. -/
theorem OnCourse.step_single (hs : m.Sound) {primary : Error} {x y : Underway Memory Single.Pass}
    (h : OnCourse m c ⟨x.store, x.token, .single primary x.rest x.pass⟩)
    (hstep : Single.Step memory c.bucket c.marker x a y) :
    OnCourse m c ⟨y.store, y.token, .single primary y.rest y.pass⟩ ∧ ¬ a.Stalls ∧
      y.token = x.token := by
  cases h with
  | @single m' token rest p ended flow calm lost endings =>
  have hflow := hstep.flow flow
  cases hstep with
  | pause =>
    exact ⟨.single (by simpa [Single.endings] using hflow)
      (fun e he => calm e (List.mem_cons_of_mem _ he)) lost endings, id, rfl⟩
  | readCancel => exact absurd rfl ((calm _ List.mem_cons_self).2 _)
  | hold marked =>
    exact ⟨.single (by simpa [Single.endings] using hflow)
      (fun e he => calm e (List.mem_cons_of_mem _ he)) lost endings, id, rfl⟩
  | dispatch other permit =>
    exact ⟨.single (by simpa [Single.endings] using hflow)
      (fun e he => calm e (List.mem_cons_of_mem _ he)) lost endings, id, rfl⟩
  | breakOff =>
    exact ⟨.single (by simpa [Single.endings] using hflow) (fun e he => by cases he) lost endings,
      id, rfl⟩
  | start ref dispatched =>
    exact ⟨.single (by simpa [Single.endings] using hflow) calm lost.startRemoval endings, id, rfl⟩
  | @finish s token rest p ending ref running ends =>
    obtain ⟨hreply, hlost⟩ := endRemoval_of_running hs flow lost running
    have hreply : (memory.endRemoval c.bucket ref s).1 =
        (if m.refuses ref.key then .failed (.backend (.accessDenied ref.key)) else .done ()) := hreply
    have hending : ending = if m.refuses ref.key then .failed else .done := by
      rw [hreply] at ends
      cases hr : m.refuses ref.key <;> simpa [hr, Reply.ending, eq_comm] using ends
    have hflow : Single.Flow c.limit c.marker
        (c.events m (c.bulkGone m) (m.faults.failingListings - 1)) (ended ++ [(ref, ending)]) rest
        (p.settle ref ending) := flow.settle running
    refine ⟨.single hflow calm ?_ ?_, ?_, ?_⟩
    · rw [List.map_append]
      exact hlost
    · intro e he
      rcases List.mem_append.1 he with he | he
      · exact endings e he
      · rw [List.mem_singleton.1 he]
        exact hending
    · intro hstalls
      exact absurd (ends.symm.trans hstalls) (by simp)
    · rw [hreply]
      cases m.refuses ref.key <;> rfl
  | @stall s token rest p ref running stalls =>
    obtain ⟨hreply, -⟩ := endRemoval_of_running hs flow lost running
    have hreply : (memory.endRemoval c.bucket ref s).1 =
        (if m.refuses ref.key then .failed (.backend (.accessDenied ref.key)) else .done ()) := hreply
    rw [hreply] at stalls
    cases hr : m.refuses ref.key <;> simp [hr, Reply.ending] at stalls
  | reap dead =>
    exact ⟨.single (by simpa [Single.endings] using hflow) calm lost endings, id, rfl⟩

/-- The removals that are counted as failed are those that were refused. -/
theorem failed_eq {limit : Nat} {marker : Option String} {events : List Event}
    {ended : List (ObjectRef × Single.Ending)} {p : Single.Pass}
    (flow : Single.Flow limit marker events ended [] p) (hflight : p.inFlight = 0) (hdead : p.dead = 0)
    (endings : ∀ e ∈ ended, e.2 = if m.refuses e.1.key then .failed else .done) :
    (ended.map (·.1)).Perm (toDelete marker (found events)) ∧
      p.tally.failed = (m.refused (toDelete marker (found events))).length ∧
      p.tally.attempted = (toDelete marker (found events)).length := by
  obtain ⟨hperm, -, hattempted⟩ := flow.idle hflight
  have hcount : ended.countP (fun e => decide (e.2 ≠ .done)) =
      (ended.map (·.1)).countP fun ref => m.refuses ref.key := by
    rw [List.countP_map]
    apply List.countP_congr
    intro e he
    rw [endings e he]
    cases hr : m.refuses e.1.key <;> simp [hr]
  refine ⟨hperm, ?_, ?_⟩
  · have hfailed := flow.failed
    rw [hdead, Nat.add_zero, hcount, hperm.countP_eq, List.countP_eq_length_filter] at hfailed
    exact hfailed
  · rw [hattempted, ← hperm.length_eq, List.length_map]

theorem heldBack_leftBehind : heldBack c.marker (c.leftBehind m) = c.markers m := by
  unfold Call.leftBehind Call.markers heldBack
  rw [List.filter_filter]
  apply List.filter_congr
  intro ref _
  by_cases hm : c.marker = some ref.key
  · have hleft : ref ∉ c.bulkGone m := fun hgone =>
      (Call.mem_doomed.1 (Memory.mem_deletable.1 (Call.bulkGone_subset hgone)).1).2 hm
    simp [hm, hleft]
  · simp [hm]

/-- What both passes have deleted together, once the second has taken all that was left. -/
theorem mem_gone_iff (h : c.interruption m (m.faults.failingListings - 1) = none) {ref : ObjectRef} :
    ref ∈ c.bulkGone m ++ m.deletable (c.singleTaken m) ↔ ref ∈ m.deletable (c.doomed m) := by
  constructor
  · intro hm
    rcases List.mem_append.1 hm with hm | hm
    · exact Call.bulkGone_subset hm
    · obtain ⟨htaken, hrefuses⟩ := Memory.mem_deletable.1 hm
      exact Memory.mem_deletable.2 ⟨Call.singleTaken_subset htaken, hrefuses⟩
  · intro hm
    obtain ⟨hdoomed, hrefuses⟩ := Memory.mem_deletable.1 hm
    by_cases hbulk : ref ∈ c.bulkGone m
    · exact List.mem_append_left _ hbulk
    · refine List.mem_append_right _ (Memory.mem_deletable.2 ⟨?_, hrefuses⟩)
      rw [Call.singleTaken_eq h]
      exact List.mem_filter.2 ⟨hdoomed, by simpa using hbulk⟩

/-- **The end of the single pass.** -/
theorem OnCourse.endSingle (hs : m.Sound) {token : Token} {primary : Error} {p : Single.Pass}
    (h : OnCourse m c ⟨m', token, .single primary [] p⟩) (idle : p.inFlight = 0) :
    OnCourse m c ⟨m', token, c.afterSingle primary p.reap⟩ := by
  cases h with
  | @single _ _ _ _ ended flow calm lost endings =>
  have hflow := flow.reap
  obtain ⟨hperm, hfailed, hattempted⟩ := failed_eq hflow idle rfl endings
  rw [Call.toDelete_found_single] at hperm hfailed hattempted
  have hlost : Lost m c.bucket (c.bulkGone m ++ m.deletable (c.singleTaken m))
      (m.faults.failingListings - 1 - 1) m' := by
    refine lost.congr hs ?_
    intro b _ key v _
    rw [List.mem_append, List.mem_append, Memory.mem_deletable, Memory.mem_deletable, hperm.mem_iff]
  have hlisting := hflow.listing
  rw [Call.listingEnd_events] at hlisting
  unfold Call.afterSingle
  cases hi : c.interruption m (m.faults.failingListings - 1) with
  | some e =>
    have herror : p.reap.listingError = some e := by
      cases he : p.reap.listingError <;> simp_all [listingEnd]
    simp only [herror]
    refine .answered ?_
    simp only [Call.verdict, hi, ← hlost.buckets]
  | none =>
    have herror : p.reap.listingError = none := by
      cases he : p.reap.listingError <;> simp_all
    rw [Call.refused_singleTaken hi] at hfailed
    simp only [herror, Tally.isComplete, hfailed, hattempted, beq_iff_eq, List.length_eq_zero_iff]
    by_cases hclean : m.refused (c.doomed m) = []
    · have hmarkers : p.reap.held = c.markers m := by
        obtain ⟨harmed, -⟩ := Call.interruption_eq_none hi
        have hheld := (hflow.idle idle).2.1
        rw [Call.found_events, Memory.delivered, if_pos harmed] at hheld
        exact hheld.trans heldBack_leftBehind
      have hall := (Clean.mk hi hclean).deletable_doomed
      rw [if_pos hclean, hmarkers]
      refine OnCourse.afterPass hs ⟨hi, hclean⟩ hlost ?_
      intro ref
      rw [mem_gone_iff hi, hall]
    · rw [if_neg hclean]
      have hdoomed : Lost m c.bucket (m.deletable (c.doomed m)) (m.faults.failingListings - 1 - 1) m' :=
        hlost.congr hs fun b _ key v _ => mem_gone_iff hi
      refine .answered ?_
      simp only [Call.verdict, hi, if_neg hclean, ← hdoomed.buckets]

/-! ## What goes last -/

/-- All versions of the marker are gone. -/
theorem verdict_of_removed (hs : m.Sound) (clean : Clean m c) {root : String}
    (target : c.target = .below root) {armed : Nat}
    (lost : Lost m c.bucket (c.doomed m ++ c.markers m) armed m')
    (allowed : m.refused (c.markers m) = []) : (.done (), m'.buckets) = c.verdict m := by
  have hall : Lost m c.bucket (c.listed m) armed m' := by
    refine lost.congr hs ?_
    intro b _ key v _
    rw [List.mem_append, Call.mem_doomed, Call.mem_markers]
    by_cases hm : c.marker = some key <;> simp [hm]
  simp only [Call.verdict, clean.listing, clean.doomed, if_true, Call.lastVerdict, target, allowed,
    ← hall.buckets]

/-- A version of the marker is refused, and with it all of them. -/
theorem verdict_of_refused (clean : Clean m c) {root : String} (target : c.target = .below root)
    {ref : ObjectRef} {done held : List ObjectRef} {armed : Nat}
    (split : c.markers m = done ++ ref :: held)
    (lost : Lost m c.bucket (c.doomed m ++ done) armed m') (allowed : m.refused done = [])
    (refuses : m.refuses ref.key = true) :
    (.failed (.backend (.accessDenied ref.key)), m'.buckets) = c.verdict m := by
  have hkey {other : ObjectRef} (hm : other ∈ c.markers m) : other.key = ref.key := by
    have hother := (Call.mem_markers.1 hm).2
    have href := (Call.mem_markers.1 (show ref ∈ c.markers m by simp [split])).2
    exact Option.some.inj (hother.symm.trans href)
  have hdone : done = [] := by
    rw [← allowed, Memory.refused, List.filter_eq_self.2]
    intro other hm
    rw [hkey (split ▸ List.mem_append_left _ hm), refuses]
  subst hdone
  have hrefused : m.refused (c.markers m) = ref :: held := by
    rw [Memory.refused, List.filter_eq_self.2 fun other hm => by rw [hkey hm, refuses], split]
    rfl
  rw [List.append_nil] at lost
  simp only [Call.verdict, clean.listing, clean.doomed, if_true, Call.lastVerdict, target, hrefused,
    ← lost.buckets]

theorem verdict_of_closing (clean : Clean m c) (target : c.target = .bucket) {armed : Nat}
    (lost : Lost m c.bucket (c.doomed m) armed m') :
    (memory.removeBucket c.bucket m').1 = .done () ∧
      (.done (), (memory.removeBucket c.bucket m').2.buckets) = c.verdict m := by
  obtain ⟨b, hb⟩ := clean.exists_bucket
  have hall : b.refs "" ⊆ c.doomed m := by
    simp [Call.doomed, Call.marker, Target.marker, target, toDelete_none, Call.listed_eq hb, Call.scope,
      Target.scope]
  obtain ⟨hreply, hbuckets⟩ := lost.removeBucket hb hall
  refine ⟨hreply, ?_⟩
  simp only [Call.verdict, clean.listing, clean.doomed, if_true, Call.lastVerdict, target, hbuckets]

theorem OnCourse.finishMarker (hs : m.Sound) {token : Token} {ref : ObjectRef}
    {held : List ObjectRef} (h : OnCourse m c ⟨m', token, .awaiting ref held⟩) :
    OnCourse m c ⟨(memory.endRemoval c.bucket ref m').2, token,
        afterRemoval ref held (memory.endRemoval c.bucket ref m').1⟩ ∧
      (memory.endRemoval c.bucket ref m').1.ending ≠ none ∧
      (memory.endRemoval c.bucket ref m').1.tokenAfter token = token := by
  cases h with
  | @awaiting _ _ root done _ _ armed clean target split lost allowed =>
  have hmarker : ref ∈ c.markers m := by simp [split]
  obtain ⟨b, hb⟩ := clean.exists_bucket
  have hlisted := (Call.mem_markers.1 hmarker).1
  rw [Call.listed_eq hb] at hlisted
  obtain ⟨hreply, hlost⟩ := lost.endRemoval hs hb ((hs _ _ hb).names_of_mem_refs hlisted)
  cases hr : m.refuses ref.key with
  | true =>
    have hnone : m.deletable [ref] = [] := by simp [Memory.deletable, hr]
    rw [hr, if_pos rfl] at hreply
    rw [hnone, List.append_nil] at hlost
    rw [hreply]
    exact ⟨.answered (verdict_of_refused clean target split hlost allowed hr), by simp [Reply.ending], rfl⟩
  | false =>
    have hone : m.deletable [ref] = [ref] := by simp [Memory.deletable, hr]
    have hallowed : m.refused (done ++ [ref]) = [] := by
      rw [Memory.refused, List.filter_append]
      exact List.append_eq_nil_iff.2 ⟨allowed, by simp [hr]⟩
    rw [hr, if_neg (by simp)] at hreply
    rw [hone, List.append_assoc] at hlost
    rw [hreply]
    refine ⟨?_, by simp [Reply.ending], rfl⟩
    simp only [afterRemoval]
    by_cases hheld : held = []
    · subst hheld
      rw [if_pos rfl]
      rw [← split] at hlost hallowed
      exact .answered (verdict_of_removed hs clean target hlost hallowed)
    · rw [if_neg hheld]
      exact .removing clean target (by simpa using split) hlost hallowed fun h => absurd h hheld

/-- **Every step keeps a call on course**, does not stall and leaves the token alone. Only where the
single pass begins it matters how many permits it asks for. -/
theorem OnCourse.step_of_fits (hs : m.Sound)
    (fits : ∀ primary, x.stage = .between primary → c.limit ≤ Single.maxPermits)
    (h : OnCourse m c x) (hstep : Step memory c x a y) :
    OnCourse m c y ∧ ¬ a.Stalls ∧ y.token = x.token := by
  cases hstep with
  | begin running =>
    cases h with
    | called lost => exact ⟨.begin lost, id, rfl⟩
  | bulk step => exact h.step_bulk hs step
  | @endBulk s token rest p exhausted => exact ⟨h.endBulk hs exhausted, id, rfl⟩
  | fallBack =>
    cases h with
    | between lost => exact ⟨.fallBack lost, id, rfl⟩
  | tooManyPermits exceeds => exact absurd (fits _ rfl) (Nat.not_le_of_gt exceeds)
  | single step => exact h.step_single hs step
  | die =>
    cases h with
    | single flow calm lost endings => exact absurd rfl ((calm _ List.mem_cons_self).1 _)
  | endSingle idle => exact ⟨h.endSingle hs idle, id, rfl⟩
  | noMarker =>
    cases h with
    | @removing _ _ root done _ armed clean target split lost allowed last =>
      have hnone : c.markers m = done := by rw [split, List.append_nil]
      rw [← hnone] at lost allowed
      exact ⟨.answered (verdict_of_removed hs clean target lost allowed), id, rfl⟩
  | startMarker =>
    cases h with
    | removing clean target split lost allowed last =>
      exact ⟨.awaiting clean target split lost.startRemoval allowed, id, rfl⟩
  | @finishMarker s token ref held =>
    obtain ⟨hcourse, hgoes, htoken⟩ := OnCourse.finishMarker hs h
    exact ⟨by rw [htoken]; exact hcourse, hgoes, htoken⟩
  | @removeBucket s token =>
    cases h with
    | closing clean target lost =>
      obtain ⟨hreply, hverdict⟩ := verdict_of_closing clean target lost
      rw [hreply]
      exact ⟨.answered hverdict, by simp [Action.Stalls, Reply.ending], rfl⟩
  | @abort s token stage cancelled open_ =>
    exact ⟨.cancelled cancelled (h.interim hs open_), id, rfl⟩

theorem OnCourse.step (hs : m.Sound) (hmax : c.limit ≤ Single.maxPermits) (h : OnCourse m c x)
    (hstep : Step memory c x a y) : OnCourse m c y ∧ ¬ a.Stalls ∧ y.token = x.token :=
  h.step_of_fits hs (fun _ _ => hmax) hstep

/-! ## Whole runs -/

theorem onCourse_start (hs : m.Sound) (c : Call) (token : Token) : OnCourse m c ⟨m, token, .called⟩ :=
  .called (Lost.refl hs c.bucket)

/-- A cancellation from outside changes nothing but the token. -/
theorem OnCourse.cancel (h : OnCourse m c x) (hc : x.token.Cancels token) :
    OnCourse m c { x with token } := by
  cases h with
  | called lost => exact .called lost
  | bulk flow calm lost failed request => exact .bulk flow calm lost failed request
  | between lost => exact .between lost
  | single flow calm lost endings => exact .single flow calm lost endings
  | removing clean target split lost allowed last =>
    exact .removing clean target split lost allowed last
  | awaiting clean target split lost allowed => exact .awaiting clean target split lost allowed
  | closing clean target lost => exact .closing clean target lost
  | answered verdict => exact .answered verdict
  | cancelled cancelled interim => exact .cancelled hc.isCancelled interim

/-- **Every run keeps a call on course**, and without cancellations from outside its token as well. -/
theorem OnCourse.run {outside : Bool} {t : List Action} (hs : m.Sound)
    (hmax : c.limit ≤ Single.maxPermits) (h : OnCourse m c x) (hr : Run memory c outside x t y) :
    OnCourse m c y ∧ (outside = false → y.token = x.token) := by
  induction hr with
  | refl => exact ⟨h, fun _ => rfl⟩
  | step _ hstep ih =>
    obtain ⟨hcourse, -, htoken⟩ := ih.1.step hs hmax hstep
    exact ⟨hcourse, fun hout => htoken.trans (ih.2 hout)⟩
  | cancel allowed _ hc ih => exact ⟨ih.1.cancel hc, fun hout => by simp [hout] at allowed⟩

theorem OnCourse.permits (h : OnCourse m c x) : x.stage.Permits c.limit := by
  cases h with
  | single flow => exact flow.permits
  | _ => exact trivial

/-- The answers of a call: its verdict, or that it was cancelled. -/
theorem OnCourse.answer {answer : Outcome Unit} (h : OnCourse m c x)
    (ha : x.stage = .answered answer) :
    (answer, x.store.buckets) = c.verdict m ∨
      (answer = .failed .cancelled ∧ x.token.isCancelled = true ∧ Interim m c x.store) := by
  cases h with
  | answered verdict =>
    cases ha
    exact .inl verdict
  | cancelled cancelled interim =>
    cases ha
    exact .inr ⟨rfl, cancelled, interim⟩
  | _ => cases ha

/-- **A call on course comes to its end**, in whatever order its tasks go on. -/
theorem OnCourse.ends (hs : m.Sound) (hmax : c.limit ≤ Single.maxPermits) (hlimit : 1 ≤ c.limit)
    (h : OnCourse m c x) :
    Ends memory c (fun answer m' => (answer, m'.buckets) = c.verdict m ∨
      (answer = .failed .cancelled ∧ x.token.isCancelled = true ∧ Interim m c m')) x := by
  refine Ends.of_invariant nearer_wf (fun y => y.stage.left)
    (fun y => OnCourse m c y ∧ y.token = x.token) ⟨h, rfl⟩ ?_ ?_ ?_
  · intro y a z ⟨hy, htoken⟩ hstep
    obtain ⟨hz, hgoes, hsame⟩ := hy.step hs hmax hstep
    exact ⟨⟨hz, hsame.trans htoken⟩, hstep.nearer hgoes⟩
  · intro y ⟨hy, _⟩ ha
    exact exists_step hlimit hy.permits ha
  · intro y answer ⟨hy, htoken⟩ ha
    rw [← htoken]
    exact hy.answer ha

/-- **The verdict.** A call that is not cancelled comes to its verdict, whatever the order of its
steps. -/
theorem ends_with_verdict (hs : m.Sound) (hmax : c.limit ≤ Single.maxPermits) (hlimit : 1 ≤ c.limit)
    (live : token.isCancelled = false) :
    Ends memory c (fun answer m' => (answer, m'.buckets) = c.verdict m) ⟨m, token, .called⟩ := by
  refine ((onCourse_start hs c token).ends hs hmax hlimit).imp ?_
  intro answer m' h
  rcases h with h | ⟨-, hc, -⟩
  · exact h
  · simp [live] at hc

/-- A run of a call that is not cancelled answers with the verdict. -/
theorem verdict_of_run {t : List Action} {answer : Outcome Unit} (hs : m.Sound)
    (hmax : c.limit ≤ Single.maxPermits) (live : token.isCancelled = false)
    (h : Run memory c false ⟨m, token, .called⟩ t y) (ha : y.stage = .answered answer) :
    (answer, y.store.buckets) = c.verdict m := by
  obtain ⟨hcourse, htoken⟩ := (onCourse_start hs c token).run hs hmax h
  rcases hcourse.answer ha with h | ⟨-, hc, -⟩
  · exact h
  · rw [htoken rfl, live] at hc
    cases hc

end ObjectVolume.Eviction
