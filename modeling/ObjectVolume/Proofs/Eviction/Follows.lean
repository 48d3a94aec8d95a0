import ObjectVolume.Proofs.Eviction.Call
import ObjectVolume.Proofs.Operation
/-!
# Operations that take the steps of a call

`Follows` says of an operation that what it does to the store and to the token are steps of a call
from one stage to another. It is proved along the operation, with one rule for each way to build it.
-/
namespace ObjectVolume

/-- What a call answers whose operation stops. -/
def Stop.answer {α : Type} : Stop → Outcome α
  | failed e => .failed e
  | died message => .died message
  | interrupted => .failed .cancelled

namespace Eviction

variable {σ α β : Type} {S : Store σ} {c : Call} {w : World σ} {g : Stage}

/-- The state of a call at a stage, in a world. -/
def stateIn (w : World σ) (g : Stage) : State σ := ⟨w.store, w.token, g⟩

/-- From stage `g` on, the operation takes steps of the call, to a result, a world and a stage that
satisfy `post`. A cancellation from outside is one that the world has in store. -/
def Follows (S : Store σ) (c : Call) (w : World σ) (g : Stage) (op : Operation σ α)
    (post : Except Stop α → World σ → Stage → Prop) : Prop :=
  ∃ t g', Run S c w.alarm.isSome (stateIn w g) t (stateIn (op.outcome w).2 g') ∧
    ((op.outcome w).2.alarm.isSome = true → w.alarm.isSome = true) ∧
    post (op.outcome w).1 (op.outcome w).2 g'

/-- Where an operation stops, the call has answered. -/
def orAnswered (post : α → World σ → Stage → Prop) : Except Stop α → World σ → Stage → Prop
  | .ok a, w, g => post a w g
  | .error stop, _, g => g = .answered stop.answer

/-- The same for an operation that stops only when it dies or is interrupted. -/
def orDropped (post : α → World σ → Stage → Prop) : Except Stop α → World σ → Stage → Prop
  | .ok a, w, g => post a w g
  | .error stop, _, g => g = .answered stop.answer ∧ ∀ e, stop ≠ .failed e

theorem orAnswered_of_orDropped {post : α → World σ → Stage → Prop} {r : Except Stop α}
    (h : orDropped post r w g) : orAnswered post r w g := by
  cases r with
  | ok a => exact h
  | error stop => exact h.1

namespace Follows

variable {op : Operation σ α} {post post' : Except Stop α → World σ → Stage → Prop}

theorem imp (h : Follows S c w g op post) (hp : ∀ r w' g', post r w' g' → post' r w' g') :
    Follows S c w g op post' := by
  obtain ⟨t, g', hrun, halarm, hpost⟩ := h
  exact ⟨t, g', hrun, halarm, hp _ _ _ hpost⟩

theorem impDropped {post post' : α → World σ → Stage → Prop}
    (h : Follows S c w g op (orDropped post)) (hp : ∀ a w' g', post a w' g' → post' a w' g') :
    Follows S c w g op (orDropped post') :=
  h.imp fun r w' g' h => by
    cases r with
    | ok a => exact hp a w' g' h
    | error stop => exact h

/-- The operation has only turned to something else. -/
theorem stay {r : Except Stop α} (ho : op.outcome w = (r, w)) (hp : post r w g) :
    Follows S c w g op post :=
  ⟨[], g, by rw [ho]; exact .refl _, by simp [ho], by rwa [ho]⟩

theorem pure {a : α} (hp : post (.ok a) w g) : Follows S c w g (Pure.pure a) post :=
  stay rfl hp

/-- The operation takes one step of the call. -/
theorem act {a : Action} {r : Except Stop α} {w' : World σ} {g' : Stage}
    (ho : op.outcome w = (r, w')) (hs : Step S c (stateIn w g) a (stateIn w' g'))
    (halarm : w'.alarm.isSome = true → w.alarm.isSome = true) (hp : post r w' g') :
    Follows S c w g op post :=
  ⟨[a], g', by rw [ho]; exact .one hs, by rwa [ho], by rwa [ho]⟩

/-- The call takes a step that the world does not notice, before the operation goes on. -/
theorem after {a : Action} {g' : Stage} (hs : Step S c (stateIn w g) a (stateIn w g'))
    (h : Follows S c w g' op post) : Follows S c w g op post := by
  obtain ⟨t, g'', hrun, halarm, hp⟩ := h
  exact ⟨a :: t, g'', (Run.one hs).trans hrun, halarm, hp⟩

theorem bind {f : α → Operation σ β} {mid : Except Stop α → World σ → Stage → Prop}
    {post : Except Stop β → World σ → Stage → Prop} (h : Follows S c w g op mid)
    (next : ∀ a w' g', mid (.ok a) w' g' → Follows S c w' g' (f a) post)
    (stops : ∀ stop w' g', mid (.error stop) w' g' → post (.error stop) w' g') :
    Follows S c w g (op >>= f) post := by
  obtain ⟨t, g', hrun, halarm, hmid⟩ := h
  unfold Follows
  rw [Operation.outcome_bind]
  rcases ho : op.outcome w with ⟨stop | a, w'⟩
  · simp only [ho] at hrun halarm hmid ⊢
    exact ⟨t, g', hrun, halarm, stops stop w' g' hmid⟩
  · simp only [ho] at hrun halarm hmid ⊢
    obtain ⟨t', g'', hrun', halarm', hpost⟩ := next a w' g' hmid
    exact ⟨t ++ t', g'', hrun.trans (hrun'.mono halarm), fun ha => halarm (halarm' ha), hpost⟩

/-- What comes first takes one step of the call, and the rest goes on from there. -/
theorem via {op' : Operation σ α} {a : Action} {w' : World σ} {g' : Stage}
    (h : Follows S c w' g' op' post) (ho : op.outcome w = op'.outcome w')
    (hs : Step S c (stateIn w g) a (stateIn w' g')) (halarm : w'.alarm = w.alarm) :
    Follows S c w g op post := by
  obtain ⟨t, g'', hrun, halarm', hpost⟩ := h
  unfold Follows
  rw [ho, ← halarm]
  exact ⟨a :: t, g'', (Run.one hs).trans hrun, halarm', hpost⟩

theorem actBind {f : α → Operation σ β} {post : Except Stop β → World σ → Stage → Prop} {a : Action}
    {v : α} {w' : World σ} {g' : Stage} (ho : op.outcome w = (.ok v, w'))
    (hs : Step S c (stateIn w g) a (stateIn w' g')) (halarm : w'.alarm = w.alarm)
    (h : Follows S c w' g' (f v) post) : Follows S c w g (op >>= f) post :=
  h.via (by rw [Operation.outcome_bind, ho]) hs halarm

/-- The first part takes no step. -/
theorem stayBind {f : α → Operation σ β} {post : Except Stop β → World σ → Stage → Prop} {v : α}
    (ho : op.outcome w = (.ok v, w)) (h : Follows S c w g (f v) post) :
    Follows S c w g (op >>= f) post := by
  unfold Follows
  rw [Operation.outcome_bind, ho]
  exact h

/-- An operation whose parts stop only when the call has answered does so too. -/
theorem bindAnswered {f : α → Operation σ β} {mid : α → World σ → Stage → Prop}
    {post : β → World σ → Stage → Prop} (h : Follows S c w g op (orAnswered mid))
    (next : ∀ a w' g', mid a w' g' → Follows S c w' g' (f a) (orAnswered post)) :
    Follows S c w g (op >>= f) (orAnswered post) :=
  h.bind next fun _ _ _ h => h

theorem bindDropped {f : α → Operation σ β} {mid : α → World σ → Stage → Prop}
    {post : β → World σ → Stage → Prop} (h : Follows S c w g op (orDropped mid))
    (next : ∀ a w' g', mid a w' g' → Follows S c w' g' (f a) (orDropped post)) :
    Follows S c w g (op >>= f) (orDropped post) :=
  h.bind next fun _ _ _ h => h

/-- An operation that is caught stops as the handler does. -/
theorem catching {handle : Stop → Operation σ α} {mid : Except Stop α → World σ → Stage → Prop}
    (h : Follows S c w g op mid) (value : ∀ a w' g', mid (.ok a) w' g' → post (.ok a) w' g')
    (handled : ∀ stop w' g', mid (.error stop) w' g' → Follows S c w' g' (handle stop) post) :
    Follows S c w g (tryCatch op handle) post := by
  obtain ⟨t, g', hrun, halarm, hmid⟩ := h
  unfold Follows
  rw [Operation.outcome_tryCatch]
  rcases ho : op.outcome w with ⟨stop | a, w'⟩
  · simp only [ho] at hrun halarm hmid ⊢
    obtain ⟨t', g'', hrun', halarm', hpost⟩ := handled stop w' g' hmid
    exact ⟨t ++ t', g'', hrun.trans (hrun'.mono halarm), fun ha => halarm (halarm' ha), hpost⟩
  · simp only [ho] at hrun halarm hmid ⊢
    exact ⟨t, g', hrun, halarm, value a w' g' hmid⟩

/-! ## Waiting -/

/-- A cancelled client's operation is interrupted, and the call aborted. -/
theorem interrupt (hc : w.token.isCancelled = true) (hg : g.answer? = none)
    {post : α → World σ → Stage → Prop} :
    Follows S c w g (throw .interrupted : Operation σ α) (orDropped post) :=
  act rfl (.abort hc hg) id ⟨rfl, fun _ => by simp⟩

theorem wait (ms : Nat) (hg : g.answer? = none) :
    Follows S c w g (Operation.wait ms) (orDropped fun _ w' g' =>
      g' = g ∧ w'.store = w.store ∧ w'.token = w.token) := by
  rcases Operation.outcome_wait (w := w) ms with
    ⟨hc, ho⟩ | ⟨-, ha, ho⟩ | ⟨-, clock, alarm, ha, ho⟩
  · exact act ho (.abort hc hg) id ⟨rfl, fun _ => by simp⟩
  · refine ⟨[.abort], .answered (.failed .cancelled), ?_, by simp [ho], ?_⟩
    · rw [ho]
      have hcancel : Run S c w.alarm.isSome (stateIn w g) [] ⟨w.store, w.token.cancel, g⟩ :=
        .cancel ha (.refl (stateIn w g)) (.self w.token)
      exact .step hcancel (.abort (by simp) hg)
    · rw [ho]
      exact ⟨rfl, fun _ => by simp⟩
  · refine ⟨[], g, ?_, by simp [ho, ha], ?_⟩
    · rw [ho]
      exact .refl _
    · rw [ho]
      exact ⟨rfl, rfl, rfl⟩

theorem checkpoint (hg : g.answer? = none) :
    Follows S c w g Operation.checkpoint (orDropped fun _ w' g' =>
      g' = g ∧ w' = w ∧ w.token.isCancelled = false) := by
  cases hc : w.token.isCancelled with
  | true =>
    exact act (r := .error .interrupted) (by simp [Operation.outcome_checkpoint, hc])
      (.abort hc hg) id ⟨rfl, fun _ => by simp⟩
  | false =>
    exact stay (r := .ok ()) (by simp [Operation.outcome_checkpoint, hc]) ⟨rfl, rfl, rfl⟩

end Follows

end Eviction

end ObjectVolume
