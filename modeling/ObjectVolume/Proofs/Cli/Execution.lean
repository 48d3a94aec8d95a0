import ObjectVolume.Cli.Execution
import ObjectVolume.Proofs.Session
/-!
# How commands end

A step ends as its operation does, and its failure says what was being done; the steps of a command
are done one after the other. On behalf of a session, a deletion is an eviction: of the bucket if no
prefix is given, else of what is below the prefix.
-/
namespace ObjectVolume

open Eviction (Target answerOf)

namespace Operation

variable {σ α : Type} {w : World σ}

/-- An interruption as the failure that it is for a client. -/
def uninterrupted : Except Stop α → Except Stop α
  | .error .interrupted => .error (.failed .cancelled)
  | r => r

theorem outcome_cancellable (op : Operation σ α) (live : w.token.isCancelled = false) :
    (cancellable op).outcome w = (uninterrupted (op.outcome w).1, (op.outcome w).2) := by
  unfold cancellable
  rw [outcome_bind, outcome_get]
  simp only [live, Bool.false_eq_true, if_false]
  rw [outcome_tryCatch]
  rcases op.outcome w with ⟨stop | a, w'⟩
  · cases stop <;> rfl
  · rfl

theorem outcome_cancellable_of_cancelled (op : Operation σ α) (cancelled : w.token.isCancelled = true) :
    (cancellable op).outcome w = (.error (.failed .cancelled), w) := by
  unfold cancellable
  rw [outcome_bind, outcome_get]
  simp only [cancelled, if_true]
  rfl

/-- An operation that can be cancelled is never interrupted: it fails as cancelled. -/
theorem outcome_cancellable_ne_interrupted (op : Operation σ α) (w w' : World σ) :
    (cancellable op).outcome w ≠ (.error .interrupted, w') := by
  cases hc : w.token.isCancelled with
  | true =>
    rw [outcome_cancellable_of_cancelled op hc]
    exact fun h => nomatch h
  | false =>
    rw [outcome_cancellable op hc]
    rcases (op.outcome w).1 with stop | a
    · cases stop <;> exact fun h => nomatch h
    · exact fun h => nomatch h

end Operation

namespace Cli

variable {σ α β : Type} {w : World σ}

/-! ## Steps -/

/-- What a step makes of how its operation ends. -/
def stepEnd (doing : String) : Except Stop α × World σ → Except Stop (Except Failure α) × World σ
  | (.ok a, w) => (.ok (.ok a), w)
  | (.error (.failed e), w) => (.ok (.error ⟨doing, e⟩), w)
  | (.error stop, w) => (.error stop, w)

theorem outcome_step (doing : String) (op : Operation σ α) :
    (step doing op).run.outcome w = stepEnd doing (op.outcome w) := by
  change (tryCatch (Except.ok <$> op) _ : Operation σ (Except Failure α)).outcome w = _
  rw [Operation.outcome_tryCatch, map_eq_pure_bind, Operation.outcome_bind]
  rcases op.outcome w with ⟨stop | a, w'⟩
  · cases stop <;> rfl
  · rfl

theorem outcome_pure (a : α) : (pure a : Action σ α).run.outcome w = (.ok (.ok a), w) := rfl

/-- What follows a step is done if that succeeds. -/
theorem outcome_bind (a : Action σ α) (f : α → Action σ β) :
    (a >>= f).run.outcome w =
      match a.run.outcome w with
      | (.ok (.ok x), w') => (f x).run.outcome w'
      | (.ok (.error failure), w') => (.ok (.error failure), w')
      | (.error stop, w') => (.error stop, w') := by
  change (a.run >>= ExceptT.bindCont f : Operation σ (Except Failure β)).outcome w = _
  rw [Operation.outcome_bind]
  rcases a.run.outcome w with ⟨stop | failure | x, w'⟩ <;> rfl

/-- A step that succeeds leads to what follows it. -/
theorem outcome_step_bind {doing : String} {op : Operation σ α} {f : α → Action σ β} {a : α}
    {w' : World σ} (h : op.outcome w = (.ok a, w')) :
    (step doing op >>= f).run.outcome w = (f a).run.outcome w' := by
  rw [outcome_bind, outcome_step, h]
  rfl

/-! ## Deletions -/

/-- What a deletion evicts. -/
def deletionTarget (root : String) : Target :=
  if root.isEmpty then .bucket else .below root

/-- What is being done in a deletion. -/
def deletionStep (bucket root : String) : String :=
  if root.isEmpty then "failed to remove bucket " ++ quoted bucket
  else "failed to remove " ++ quoted (bucket ++ "/" ++ root)

theorem outcome_delete (S : Store σ) (c : Config) (bucket root : String) :
    ((Command.delete bucket root).execute S c).run.outcome w =
      stepEnd (deletionStep bucket root)
        (((fun _ => "") <$> (deletionTarget root).operation S c bucket).outcome w) := by
  have hstep : deleteVolume S c bucket root =
      step (deletionStep bucket root) ((deletionTarget root).operation S c bucket) := by
    unfold deleteVolume deletionStep deletionTarget
    split <;> rfl
  change (deleteVolume S c bucket root >>= fun _ => pure "").run.outcome w = _
  rw [hstep, outcome_bind, outcome_step, map_eq_pure_bind, Operation.outcome_bind]
  rcases ((deletionTarget root).operation S c bucket).outcome w with ⟨stop | ⟨⟩, w'⟩
  · cases stop <;> rfl
  · rfl

end Cli

/-! ## Commands of a session -/

namespace Session

open Cli (Command Failure deletionTarget deletionStep)

variable {σ : Type}

/-- A command on behalf of the client of a session. -/
def execute (S : Store σ) (s : Session σ) (alarm : Option Moment) (command : Command) :
    Outcome (Except Failure String) × Session σ :=
  s.run alarm (command.execute S s.client.config).run

/-- What is made of how an eviction ends. -/
def deletionEnd (doing : String) : Outcome Unit × Session σ →
    Outcome (Except Failure String) × Session σ
  | (.done (), s) => (.done (.ok ""), s)
  | (.failed e, s) => (.done (.error ⟨doing, e⟩), s)
  | (.died message, s) => (.died message, s)

/-- **A deletion is an eviction.** -/
theorem execute_delete (S : Store σ) (s : Session σ) (alarm : Option Moment) (bucket root : String) :
    s.execute S alarm (.delete bucket root) =
      deletionEnd (deletionStep bucket root) (s.evict S alarm bucket (deletionTarget root)) := by
  unfold execute evict run
  rw [Cli.outcome_delete, map_eq_pure_bind, Operation.outcome_bind]
  rcases ho : ((deletionTarget root).operation S s.client.config bucket).outcome
    { store := s.store, token := s.client.token, alarm } with ⟨stop | ⟨⟩, w'⟩
  · cases stop with
    | interrupted =>
      cases htarget : deletionTarget root <;> rw [htarget] at ho <;>
        exact absurd ho (Operation.outcome_cancellable_ne_interrupted _ _ _)
    | _ => rfl
  · rfl

end Session

end ObjectVolume
