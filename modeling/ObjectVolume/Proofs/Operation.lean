import ObjectVolume.Session
/-!
# How operations end

The outcome of an operation from those of its parts.
-/
namespace ObjectVolume

@[simp]
theorem Token.isCancelled_cancel (t : Token) : t.cancel.isCancelled = true := by
  cases t <;> rfl

namespace Operation

variable {σ α β : Type} {w : World σ}

@[simp]
theorem outcome_pure (a : α) : (pure a : Operation σ α).outcome w = (.ok a, w) := rfl

@[simp]
theorem outcome_throw (stop : Stop) : (throw stop : Operation σ α).outcome w = (.error stop, w) := rfl

theorem outcome_bind (op : Operation σ α) (f : α → Operation σ β) :
    (op >>= f).outcome w =
      match op.outcome w with
      | (.ok a, w') => (f a).outcome w'
      | (.error stop, w') => (.error stop, w') := by
  change (ExceptT.bindCont f (op.outcome w).1 : StateM (World σ) _) (op.outcome w).2 = _
  rcases op.outcome w with ⟨stop | a, w'⟩ <;> rfl

theorem outcome_tryCatch (op : Operation σ α) (handle : Stop → Operation σ α) :
    (tryCatch op handle).outcome w =
      match op.outcome w with
      | (.ok a, w') => (.ok a, w')
      | (.error stop, w') => (handle stop).outcome w' := by
  have hcatch : (tryCatch op handle : Operation σ α) = ExceptT.tryCatch op handle := rfl
  rw [hcatch]
  simp only [outcome, ExceptT.tryCatch, ExceptT.run_mk, StateT.run_bind]
  rcases h : op.run.run w with ⟨stop | a, w'⟩ <;> rw [ExceptT.run] at h <;> rw [h] <;> rfl

@[simp]
theorem outcome_get : (get : Operation σ (World σ)).outcome w = (.ok w, w) := rfl

@[simp]
theorem outcome_onStore (f : σ → α × σ) :
    (onStore f).outcome w = (.ok (f w.store).1, { w with store := (f w.store).2 }) := rfl

@[simp]
theorem outcome_cancel : (cancel : Operation σ Unit).outcome w =
    (.ok (), { w with token := w.token.cancel }) := rfl

theorem outcome_checkpoint : (checkpoint : Operation σ Unit).outcome w =
    if w.token.isCancelled then (.error .interrupted, w) else (.ok (), w) := by
  simp only [checkpoint, outcome_bind, outcome_get]
  split <;> rfl

/-- A wait passes, or finds the client cancelled, or the client is cancelled during it. -/
theorem outcome_wait (ms : Nat) :
    (w.token.isCancelled = true ∧ (wait ms).outcome w = (.error .interrupted, w)) ∨
      (w.token.isCancelled = false ∧ w.alarm.isSome = true ∧ (wait ms).outcome w =
        (.error .interrupted, { w with token := w.token.cancel, alarm := none })) ∨
      (w.token.isCancelled = false ∧ ∃ clock alarm, alarm.isSome = w.alarm.isSome ∧
        (wait ms).outcome w = (.ok (), { w with clock, alarm })) := by
  simp only [wait, outcome_bind, outcome_checkpoint]
  cases hc : w.token.isCancelled with
  | true => exact .inl ⟨rfl, by simp⟩
  | false =>
    refine .inr ?_
    cases ha : w.alarm with
    | none => exact .inr ⟨rfl, w.clock + ms, none, rfl, by simp [ha]; rfl⟩
    | some m =>
      cases hm : m.fallsInto w.clock ms with
      | true => exact .inl ⟨rfl, rfl, by simp [ha, hm, outcome_bind]; rfl⟩
      | false => exact .inr ⟨rfl, w.clock + ms, some m.afterWait, rfl, by simp [ha, hm]; rfl⟩

/-! ## Why operations stop -/

/-- Where the operation stops, the reason and the world that it leaves satisfy `P`. -/
def Stops (op : Operation σ α) (P : Stop → World σ → Prop) : Prop :=
  ∀ w stop w', op.outcome w = (.error stop, w') → P stop w'

/-- The operation was interrupted, and its client is cancelled. -/
def Interrupts (stop : Stop) (w : World σ) : Prop :=
  stop = .interrupted ∧ w.token.isCancelled = true

namespace Stops

variable {op : Operation σ α} {f : α → Operation σ β} {P Q : Stop → World σ → Prop}

theorem imp (h : op.Stops P) (hp : ∀ stop w, P stop w → Q stop w) : op.Stops Q :=
  fun w stop w' ho => hp stop w' (h w stop w' ho)

theorem pure (a : α) : (Pure.pure a : Operation σ α).Stops P := by
  intro w stop w' ho
  cases ho

theorem throw {stop : Stop} (h : ∀ w, P stop w) : (throw stop : Operation σ α).Stops P := by
  intro w stop' w' ho
  cases ho
  exact h w

theorem bind (h : op.Stops P) (hf : ∀ a, (f a).Stops P) : (op >>= f).Stops P := by
  intro w stop w' ho
  rw [outcome_bind] at ho
  rcases hr : op.outcome w with ⟨stop' | a, w₁⟩
  · rw [hr] at ho
    cases ho
    exact h w stop w' hr
  · rw [hr] at ho
    exact hf a w₁ stop w' ho

theorem get : (MonadState.get : Operation σ (World σ)).Stops P := by
  intro w stop w' ho
  cases ho

theorem onStore (g : σ → α × σ) : (Operation.onStore g).Stops P := by
  intro w stop w' ho
  cases ho

theorem cancel : (Operation.cancel : Operation σ Unit).Stops P := by
  intro w stop w' ho
  cases ho

theorem checkpoint : (Operation.checkpoint : Operation σ Unit).Stops Interrupts := by
  intro w stop w' ho
  rw [outcome_checkpoint] at ho
  split at ho
  next hc =>
    cases ho
    exact ⟨rfl, hc⟩
  next => cases ho

theorem wait (ms : Nat) : (Operation.wait ms : Operation σ Unit).Stops Interrupts := by
  intro w stop w' ho
  rcases outcome_wait (w := w) ms with ⟨hc, hw⟩ | ⟨-, -, hw⟩ | ⟨-, clock, alarm, -, hw⟩
  · rw [hw] at ho
    cases ho
    exact ⟨rfl, hc⟩
  · rw [hw] at ho
    cases ho
    exact ⟨rfl, w.token.isCancelled_cancel⟩
  · rw [hw] at ho
    cases ho

end Stops

end Operation

end ObjectVolume
