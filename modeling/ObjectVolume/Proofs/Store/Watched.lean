import ObjectVolume.Proofs.Eviction.Call
import ObjectVolume.Proofs.Operation
/-!
# Watching a store

A watched store is marked by the first call that reaches it. Watching changes nothing else: what an
operation does on a watched store it does on the store itself (`Mirrors`). The rules for `Mirrors` also
say what becomes of the client's token, for stores whose calls do not cancel the client: it stays as it
is, unless the operation is interrupted by an alarm.
-/
namespace ObjectVolume

/-! ## Watched stores -/

/-- The contents of a store, and whether a call has reached it. -/
structure Store.Watched (σ : Type) where
  contents : σ
  reached : Bool := false

variable {σ α β : Type}

/-- A call that marks the store it reaches. -/
def Store.Watched.marking (f : σ → α × σ) (w : Store.Watched σ) : α × Store.Watched σ :=
  ((f w.contents).1, ⟨(f w.contents).2, true⟩)

open Store.Watched (marking)

/-- The store, watched. -/
def Store.watched (S : Store σ) : Store (Store.Watched σ) where
  bucketExists bucket := marking (S.bucketExists bucket)
  makeBucket bucket region := marking (S.makeBucket bucket region)
  putObject bucket key data := marking (S.putObject bucket key data)
  getObject bucket key := marking (S.getObject bucket key)
  listObjects bucket scope := marking (S.listObjects bucket scope)
  takeBatch request batch := marking (S.takeBatch request batch)
  endBulk request := marking (S.endBulk request)
  startRemoval bucket ref w := ⟨S.startRemoval bucket ref w.contents, true⟩
  endRemoval bucket ref := marking (S.endRemoval bucket ref)
  removalTime w := S.removalTime w.contents
  removeBucket bucket := marking (S.removeBucket bucket)

/-- The same world with the store itself. -/
def World.unwatched (w : World (Store.Watched σ)) : World σ :=
  { store := w.store.contents, token := w.token, clock := w.clock, alarm := w.alarm }

namespace Operation

open Store (Watched Reply)

/-! ## What an operation does on a watched store -/

/-- What one world comes to cannot be undone on the way from it: a mark, and the end of an alarm. -/
structure Onward (w w' : World (Watched σ)) : Prop where
  reached : w.store.reached = true → w'.store.reached = true
  alarm : w'.alarm.isSome = true → w.alarm.isSome = true

/-- How an operation ends on behalf of a client that was not cancelled: with a value in `Q`, an error in
`E`, or dead, and the token as it was; or interrupted by an alarm. -/
def Steady (E : Error → Prop) (Q : α → Prop) (w w' : World (Watched σ)) : Except Stop α → Prop
  | .ok a => Q a ∧ w'.token = w.token
  | .error (.failed e) => E e ∧ w'.token = w.token
  | .error (.died _) => w'.token = w.token
  | .error .interrupted => w.alarm.isSome = true ∧ w'.token.isCancelled = true

/-- On behalf of a client that is not cancelled, `op` does on a watched store what `op'` does on the
store itself, leaves a mark in place, and ends steadily. -/
def Mirrors (E : Error → Prop) (op : Operation (Watched σ) α) (op' : Operation σ α) (Q : α → Prop) :
    Prop :=
  ∀ w, w.token.isCancelled = false → ∃ r w', op.outcome w = (r, w') ∧
    op'.outcome w.unwatched = (r, w'.unwatched) ∧ Onward w w' ∧ Steady E Q w w' r

/-- Whatever `op` comes to, a call has reached the store by then. -/
def Reaches (op : Operation (Watched σ) α) : Prop :=
  ∀ w, w.token.isCancelled = false → (op.outcome w).2.store.reached = true

variable {E E' : Error → Prop} {Q : α → Prop} {Q' : β → Prop} {w w₁ w₂ : World (Watched σ)}
  {op : Operation (Watched σ) α} {op' : Operation σ α}

theorem Onward.refl (w : World (Watched σ)) : Onward w w := ⟨id, id⟩

theorem Onward.trans (h : Onward w w₁) (h' : Onward w₁ w₂) : Onward w w₂ :=
  ⟨h'.reached ∘ h.reached, h.alarm ∘ h'.alarm⟩

/-- An end is steady seen from an earlier world with the same token. -/
theorem Steady.after {r : Except Stop α} (h : Steady E Q w₁ w₂ r) (htoken : w₁.token = w.token)
    (honward : Onward w w₁) : Steady E Q w w₂ r := by
  match r, h with
  | .ok a, ⟨ha, h⟩ => exact ⟨ha, h.trans htoken⟩
  | .error (.failed e), ⟨he, h⟩ => exact ⟨he, h.trans htoken⟩
  | .error (.died _), h => exact h.trans htoken
  | .error .interrupted, ⟨hsome, hcancelled⟩ => exact ⟨honward.alarm hsome, hcancelled⟩

/-- Where an operation stops, its values do not matter. -/
theorem Steady.stop {stop : Stop} (h : Steady E Q w w₁ (.error stop)) :
    Steady E Q' w w₁ (.error stop) := by
  cases stop with
  | failed e => exact h
  | died message => exact h
  | interrupted => exact h

namespace Mirrors

theorem pure {a : α} (ha : Q a) : Mirrors E (Pure.pure a : Operation (Watched σ) α) (Pure.pure a) Q :=
  fun w _ => ⟨.ok a, w, rfl, rfl, .refl w, ha, rfl⟩

theorem value (a : α) : Mirrors E (Pure.pure a : Operation (Watched σ) α) (Pure.pure a) fun _ => True :=
  pure trivial

theorem fail {e : Error} (he : E e) :
    Mirrors E (Operation.fail e : Operation (Watched σ) α) (Operation.fail e) Q :=
  fun w _ => ⟨.error (.failed e), w, rfl, rfl, .refl w, he, rfl⟩

theorem die (message : String) :
    Mirrors E (throw (.died message) : Operation (Watched σ) α) (throw (.died message)) Q :=
  fun w _ => ⟨.error (.died message), w, rfl, rfl, .refl w, rfl⟩

theorem bind {f : α → Operation (Watched σ) β} {f' : α → Operation σ β} (h : Mirrors E op op' Q)
    (next : ∀ a, Q a → Mirrors E (f a) (f' a) Q') : Mirrors E (op >>= f) (op' >>= f') Q' := by
  intro w live
  obtain ⟨r, w₁, ho, ho', honward, hsteady⟩ := h w live
  simp only [outcome_bind, ho, ho']
  cases r with
  | ok a =>
    obtain ⟨ha, htoken⟩ := hsteady
    obtain ⟨r₂, w₂, ho₂, ho₂', honward₂, hsteady₂⟩ := next a ha w₁ (htoken ▸ live)
    exact ⟨r₂, w₂, ho₂, ho₂', honward.trans honward₂, hsteady₂.after htoken honward⟩
  | error stop => exact ⟨.error stop, w₁, rfl, rfl, honward, hsteady.stop⟩

theorem map {f : α → β} (h : Mirrors E op op' Q) (hq : ∀ a, Q a → Q' (f a)) :
    Mirrors E (f <$> op) (f <$> op') Q' := by
  rw [map_eq_pure_bind, map_eq_pure_bind]
  exact h.bind fun a ha => .pure (hq a ha)

/-- Failures are caught, and all else goes through. -/
theorem catching {handle : Stop → Operation (Watched σ) α} {handle' : Stop → Operation σ α}
    (caught : Error → α) (h : Mirrors E op op' Q) (hq : ∀ e, Q (caught e))
    (failed : ∀ e, handle (.failed e) = Pure.pure (caught e) ∧
      handle' (.failed e) = Pure.pure (caught e))
    (others : ∀ stop, (∀ e, stop ≠ .failed e) → handle stop = throw stop ∧ handle' stop = throw stop) :
    Mirrors E' (tryCatch op handle) (tryCatch op' handle') Q := by
  intro w live
  obtain ⟨r, w', ho, ho', honward, hsteady⟩ := h w live
  simp only [outcome_tryCatch, ho, ho']
  cases r with
  | ok a => exact ⟨.ok a, w', rfl, rfl, honward, hsteady⟩
  | error stop =>
    cases stop with
    | failed e =>
      simp only [failed, outcome_pure]
      exact ⟨.ok (caught e), w', rfl, rfl, honward, hq e, hsteady.2⟩
    | died message =>
      obtain ⟨hhandle, hhandle'⟩ := others (.died message) (by simp)
      simp only [hhandle, hhandle', outcome_throw]
      exact ⟨.error (.died message), w', rfl, rfl, honward, hsteady⟩
    | interrupted =>
      obtain ⟨hhandle, hhandle'⟩ := others .interrupted (by simp)
      simp only [hhandle, hhandle', outcome_throw]
      exact ⟨.error .interrupted, w', rfl, rfl, honward, hsteady⟩

theorem getBind {f : World (Watched σ) → Operation (Watched σ) β} {f' : World σ → Operation σ β}
    (h : ∀ w, Mirrors E (f w) (f' w.unwatched) Q') : Mirrors E (get >>= f) (get >>= f') Q' :=
  fun w live => h w w live

theorem onStore {f : σ → α × σ} (hq : ∀ s, Q (f s).1) :
    Mirrors E (Operation.onStore (marking f)) (Operation.onStore f) Q :=
  fun w _ => ⟨_, _, rfl, rfl, ⟨fun _ => rfl, id⟩, hq w.store.contents, rfl⟩

theorem act (f : σ → α × σ) :
    Mirrors E (Operation.onStore (marking f)) (Operation.onStore f) fun _ => True :=
  onStore fun _ => trivial

theorem wait (ms : Nat) :
    Mirrors E (Operation.wait ms : Operation (Watched σ) Unit) (Operation.wait ms) fun _ => True := by
  intro w live
  have live' : w.unwatched.token.isCancelled = false := live
  simp only [Operation.wait, outcome_bind, outcome_checkpoint, live, live', outcome_get,
    Bool.false_eq_true, if_false]
  obtain ⟨store, token, clock, alarm⟩ := w
  cases alarm with
  | none => exact ⟨.ok (), ⟨store, token, clock + ms, none⟩, rfl, rfl, ⟨id, id⟩, trivial, rfl⟩
  | some m =>
    simp only [World.unwatched]
    by_cases hm : m.fallsInto clock ms = true
    · simp only [hm, if_true]
      exact ⟨.error .interrupted, ⟨store, token.cancel, clock, none⟩, rfl, rfl, ⟨id, by simp⟩, rfl,
        token.isCancelled_cancel⟩
    · simp only [hm]
      exact ⟨.ok (), ⟨store, token, clock + ms, some m.afterWait⟩, rfl, rfl, ⟨id, id⟩, trivial, rfl⟩

theorem checkpoint :
    Mirrors E (Operation.checkpoint : Operation (Watched σ) Unit) Operation.checkpoint
      fun _ => True := by
  intro w live
  have live' : w.unwatched.token.isCancelled = false := live
  simp only [outcome_checkpoint, live, live', Bool.false_eq_true, if_false]
  exact ⟨.ok (), w, rfl, rfl, .refl w, trivial, rfl⟩

/-- A call that always answers. -/
theorem call {f : σ → Reply α × σ} {r : σ → Except StoreProblem α}
    (hf : ∀ s, (f s).1 = .ofExcept (r s)) (he : ∀ p, E (.backend p)) :
    Mirrors E (Operation.call (marking f)) (Operation.call f) fun _ => True := by
  have hreply : Mirrors E (Operation.onStore (marking f)) (Operation.onStore f)
      fun reply => ∃ r, reply = .ofExcept r := .onStore fun s => ⟨r s, hf s⟩
  refine hreply.bind ?_
  rintro reply ⟨r, rfl⟩
  cases r with
  | ok a => exact .value a
  | error p => exact .fail (he p)

end Mirrors

namespace Reaches

theorem onStore (f : σ → α × σ) : Reaches (Operation.onStore (marking f)) :=
  fun _ _ => rfl

/-- A call that has come is not forgotten. -/
theorem bind {f : α → Operation (Watched σ) β} {f' : α → Operation σ β} (h : Reaches op)
    (hop : Mirrors E op op' Q) (next : ∀ a, Q a → Mirrors E (f a) (f' a) Q') :
    Reaches (op >>= f) := by
  intro w live
  have hreached := h w live
  obtain ⟨r, w₁, ho, -, -, hsteady⟩ := hop w live
  rw [ho] at hreached
  rw [outcome_bind, ho]
  cases r with
  | error stop => exact hreached
  | ok a =>
    obtain ⟨ha, htoken⟩ := hsteady
    obtain ⟨r₂, w₂, ho₂, -, honward₂, -⟩ := next a ha w₁ (htoken ▸ live)
    dsimp only
    rw [ho₂]
    exact honward₂.reached hreached

theorem call (f : σ → Reply α × σ) : Reaches (Operation.call (marking f)) := by
  intro w _
  simp only [Operation.call, outcome_bind, outcome_onStore]
  rcases hf : f w.store.contents with ⟨reply, s⟩
  cases reply with
  | cancels answer => cases answer <;> simp only [marking, hf, outcome_bind, outcome_cancel,
      outcome_pure, outcome_throw]
  | done a => simp [marking, hf]
  | failed e => simp [marking, hf, Operation.fail]
  | died message => simp [marking, hf]

end Reaches

/-- An operation that reaches the store goes on. -/
theorem Mirrors.reaching_bind {f : α → Operation (Watched σ) β} {f' : α → Operation σ β}
    (h : Mirrors E op op' Q ∧ Reaches op) (next : ∀ a, Q a → Mirrors E (f a) (f' a) Q') :
    Mirrors E (op >>= f) (op' >>= f') Q' ∧ Reaches (op >>= f) :=
  ⟨h.1.bind next, h.2.bind h.1 next⟩

/-! ## Operations of clients -/

/-- On behalf of a client that is not cancelled, `op` does on a watched store what `op'` does on the
store itself, and reaches it. It answers that it was cancelled if an alarm has cancelled the client, and
else leaves the token as it is. -/
def Concludes (op : Operation (Watched σ) α) (op' : Operation σ α) : Prop :=
  ∀ w, w.token.isCancelled = false → ∃ r w', op.outcome w = (r, w') ∧
    op'.outcome w.unwatched = (r, w'.unwatched) ∧ w'.store.reached = true ∧
    ((r = .error (.failed .cancelled) ∧ w.alarm.isSome = true ∧ w'.token.isCancelled = true) ∨
      (r ≠ .error (.failed .cancelled) ∧ r ≠ .error .interrupted ∧ w'.token = w.token))

theorem Concludes.cancellable (h : Mirrors (· ≠ .cancelled) op op' Q) (hreaches : Reaches op) :
    Concludes (Operation.cancellable op) (Operation.cancellable op') := by
  intro w live
  have live' : w.unwatched.token.isCancelled = false := live
  have hreached := hreaches w live
  obtain ⟨r, w', ho, ho', -, hsteady⟩ := h w live
  rw [ho] at hreached
  unfold Operation.cancellable
  simp only [outcome_bind, outcome_get, live, live', Bool.false_eq_true, if_false, outcome_tryCatch,
    ho, ho']
  match r, hsteady with
  | .ok a, hsteady => exact ⟨.ok a, w', rfl, rfl, hreached, .inr ⟨by simp, by simp, hsteady.2⟩⟩
  | .error (.failed e), ⟨he, htoken⟩ =>
    exact ⟨.error (.failed e), w', rfl, rfl, hreached, .inr ⟨by simpa using he, by simp, htoken⟩⟩
  | .error (.died message), htoken =>
    exact ⟨.error (.died message), w', rfl, rfl, hreached, .inr ⟨by simp, by simp, htoken⟩⟩
  | .error .interrupted, ⟨hsome, hcancelled⟩ =>
    exact ⟨.error (.failed .cancelled), w', rfl, rfl, hreached, .inl ⟨rfl, hsome, hcancelled⟩⟩

/-- What follows only turns the value into a result. -/
theorem Concludes.bind {f : α → Operation (Watched σ) β} {f' : α → Operation σ β}
    (h : Concludes op op') (result : α → Except Stop β)
    (hf : ∀ a w, (f a).outcome w = (result a, w)) (hf' : ∀ a w, (f' a).outcome w = (result a, w))
    (hresult : ∀ a, result a ≠ .error (.failed .cancelled) ∧ result a ≠ .error .interrupted) :
    Concludes (op >>= f) (op' >>= f') := by
  intro w live
  obtain ⟨r, w', ho, ho', hreached, hend⟩ := h w live
  simp only [outcome_bind, ho, ho']
  cases r with
  | error stop =>
    refine ⟨.error stop, w', rfl, rfl, hreached, ?_⟩
    simpa using hend
  | ok a =>
    have htoken : w'.token = w.token := by simpa using hend
    refine ⟨result a, w', hf a w', hf' a w'.unwatched, hreached, .inr ⟨?_, ?_, htoken⟩⟩
    · exact (hresult a).1
    · exact (hresult a).2

end Operation

end ObjectVolume
