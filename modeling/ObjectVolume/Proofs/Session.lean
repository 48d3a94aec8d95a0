import ObjectVolume.Proofs.Eviction.Execution
import ObjectVolume.Proofs.Eviction.Watched
import ObjectVolume.Proofs.Store.History
/-!
# What reaches the store over time

A session makes calls, and its client is replaced and cancelled in between. A call reaches the store
exactly if the client has not been cancelled by then: neither itself nor one that it shares
cancellation with (`Session.reaches_iff`). Whether it has is told from what was done, without a look
at tokens: `CancelledBy`.
-/
namespace ObjectVolume

open Operation (Concludes Mirrors Reaches)
open Store (Memory memory Watched)
open Eviction (answerOf)

/-! ## Calls -/

/-- What a client can be asked for. -/
inductive ClientCall where
  | bucketExists (bucket : String)
  | createBucket (bucket : String)
  | createPrefix (bucket root : String)
  | removePrefix (bucket root : String)
  | removeBucket (bucket : String)
  | writeDescriptor (d : Descriptor)
  | readDescriptor (bucket root : String)

namespace ClientCall

/-- What the call gives back. -/
def Result : ClientCall → Type
  | bucketExists _ => Bool
  | readDescriptor _ _ => Descriptor
  | _ => Unit

def operation {σ : Type} (S : Store σ) (c : Config) : (call : ClientCall) → Operation σ call.Result
  | bucketExists bucket => Volume.bucketExists S bucket
  | createBucket bucket => Volume.createBucket S c bucket
  | createPrefix bucket root => Volume.createPrefix S bucket root
  | removePrefix bucket root => Volume.removePrefix S c bucket root
  | removeBucket bucket => Volume.removeBucket S c bucket
  | writeDescriptor d => Volume.writeDescriptor S d
  | readDescriptor bucket root => Volume.readDescriptor S bucket root

/-- The call creates the root of a bucket, for which there is nothing to do. -/
def IsVoid : ClientCall → Prop
  | createPrefix _ root => Prefix.isRoot root = true
  | _ => False

variable {call : ClientCall}

/-- On behalf of a client that is cancelled, nothing is done. -/
theorem outcome_of_cancelled {σ : Type} {w : World σ} (S : Store σ) (c : Config)
    (hcall : ¬ call.IsVoid) (cancelled : w.token.isCancelled = true) :
    (call.operation S c).outcome w = (.error (.failed .cancelled), w) := by
  have hnothing {α : Type} (op : Operation σ α) :
      (Operation.cancellable op).outcome w = (.error (.failed .cancelled), w) := by
    unfold Operation.cancellable
    simp only [Operation.outcome_bind, Operation.outcome_get, cancelled, if_true]
    rfl
  cases call with
  | bucketExists bucket => exact hnothing _
  | createBucket bucket => exact hnothing _
  | createPrefix bucket root =>
    have hroot : ¬ Prefix.isRoot root = true := hcall
    simp only [operation, Volume.createPrefix, if_neg hroot]
    exact hnothing _
  | removePrefix bucket root => exact hnothing _
  | removeBucket bucket => exact hnothing _
  | writeDescriptor d => exact hnothing _
  | readDescriptor bucket root =>
    change (Volume.readDescriptor S bucket root).outcome w = _
    unfold Volume.readDescriptor
    rw [Operation.outcome_bind, hnothing]
    rfl

/-- On behalf of a client that is not cancelled, the store in memory is reached. -/
theorem concludes (c : Config) (hcall : ¬ call.IsVoid) :
    Concludes (call.operation memory.watched c) (call.operation memory c) := by
  cases call with
  | bucketExists bucket =>
    have hanswer (m : Memory) : (memory.bucketExists bucket m).1 =
        .ofExcept (.ok (m.buckets.contains bucket)) := rfl
    exact .cancellable (.call hanswer (by simp)) (.call _)
  | createBucket bucket => exact .cancellable (.call (fun _ => rfl) (by simp)) (.call _)
  | createPrefix bucket root =>
    have hroot : ¬ Prefix.isRoot root = true := hcall
    simp only [operation, Volume.createPrefix, if_neg hroot]
    exact .cancellable (.call (fun _ => rfl) (by simp)) (.call _)
  | removePrefix bucket root =>
    obtain ⟨hmirrors, hreaches⟩ :=
      Eviction.mirrors_removePrefix bucket c.parallelism.toNat root
    exact .cancellable hmirrors hreaches
  | removeBucket bucket =>
    obtain ⟨hmirrors, hreaches⟩ := Eviction.mirrors_removeBucket bucket c.parallelism.toNat
    exact .cancellable hmirrors hreaches
  | writeDescriptor d => exact .cancellable (.call (fun _ => rfl) (by simp)) (.call _)
  | readDescriptor bucket root =>
    change Concludes (Volume.readDescriptor memory.watched bucket root)
      (Volume.readDescriptor memory bucket root)
    have hget : Concludes
        (Operation.cancellable (Operation.call (memory.watched.getObject bucket (Descriptor.key root))))
        (Operation.cancellable (Operation.call (memory.getObject bucket (Descriptor.key root)))) :=
      .cancellable (.call (fun _ => rfl) (by simp)) (.call _)
    refine hget.bind (fun data => (Descriptor.record.decodeBytes data).mapError fun text =>
      .failed (.serialization text)) (fun data w => ?_) (fun data w => ?_) fun data => ?_
    · cases Descriptor.record.decodeBytes data <;> rfl
    · cases Descriptor.record.decodeBytes data <;> rfl
    · cases Descriptor.record.decodeBytes data <;> simp [Except.mapError]

end ClientCall

/-! ## Tokens -/

namespace Token

/-- How many tokens the token is derived from, one from the other. -/
def ancestors : Token → Nat
  | root _ => 0
  | child parent _ => parent.ancestors + 1

/-- The token after the `n`-th of these has been cancelled, counted from the nearest. -/
def cancelAbove : Nat → Token → Token
  | _, root c => root c
  | 0, child parent c => child parent.cancel c
  | n + 1, child parent c => child (parent.cancelAbove n) c

theorem isCancelled_derived (t : Token) : t.derived.isCancelled = t.isCancelled :=
  Bool.false_or _

theorem isCancelled_cancelAbove (n : Nat) (t : Token) :
    (t.cancelAbove n).isCancelled = true ↔ n < t.ancestors ∨ t.isCancelled = true := by
  induction t generalizing n with
  | root c => simp [cancelAbove, ancestors]
  | child parent c ih =>
    cases n with
    | zero => simp [cancelAbove, ancestors, isCancelled]
    | succ n => simp [cancelAbove, ancestors, isCancelled, ih, or_left_comm]

end Token

/-! ## Calls of a session -/

namespace Session

/-- The session calls the store for its client. -/
def make {σ : Type} (S : Store σ) (s : Session σ) (call : ClientCall) (alarm : Option Moment) :
    Outcome call.Result × Session σ :=
  s.run alarm (call.operation S s.client.config)

theorem replaceClient_eq {σ : Type} (s : Session σ) (c : Config) : s.replaceClient c =
    c.validate.map fun _ => { s with client := ⟨c, .fresh⟩ } := by
  unfold replaceClient Client.ofConfig
  cases c.validate <;> rfl

theorem shareCancellation_eq {σ : Type} (s : Session σ) (c : Config) : s.shareCancellation c =
    c.validate.map fun _ => { s with client := ⟨c, s.client.token.derived⟩ } := by
  unfold shareCancellation Client.ofConfig
  cases c.validate <;> rfl

/-- The session with its store watched. -/
def watched {σ : Type} (s : Session σ) : Session (Watched σ) :=
  ⟨⟨s.store, false⟩, s.client⟩

/-- The call reaches the store. -/
def Reaches (s : Session Memory) (call : ClientCall) (alarm : Option Moment) : Prop :=
  (s.watched.make memory.watched call alarm).2.store.reached = true

variable {s : Session Memory} {call : ClientCall}

/-- A session's answer from the outcome of the operation. -/
theorem run_of_outcome {σ α : Type} {s : Session σ} {alarm : Option Moment} {op : Operation σ α}
    {r : Except Stop α} {w : World σ}
    (h : op.outcome { store := s.store, token := s.client.token, alarm } = (r, w)) :
    s.run alarm op = (answerOf r, ⟨w.store, { s.client with token := w.token }⟩) := by
  unfold run
  rw [h]
  rcases r with stop | a
  · cases stop <;> rfl
  · rfl

/-- There is nothing to do for the root of a bucket. -/
theorem make_root {σ : Type} {S : Store σ} {s : Session σ} {bucket root : String}
    (hroot : Prefix.isRoot root = true) (alarm : Option Moment) :
    s.make S (.createPrefix bucket root) alarm = (.done (), s) := by
  change s.run alarm (Volume.createPrefix S bucket root) = _
  unfold Volume.createPrefix
  rw [if_pos hroot]
  rfl

theorem make_of_isVoid (hcall : call.IsVoid) (s : Session Memory) (alarm : Option Moment) :
    (s.make memory call alarm).1 ≠ .failed .cancelled ∧ (s.make memory call alarm).2 = s := by
  cases call with
  | createPrefix bucket root =>
    rw [make_root hcall]
    exact ⟨by rintro ⟨⟩, rfl⟩
  | _ => exact hcall.elim

/-- Nothing is done for a client that is cancelled. -/
theorem make_of_cancelled {σ : Type} {s : Session σ} (S : Store σ) (hcall : ¬ call.IsVoid)
    (cancelled : s.client.token.isCancelled = true) (alarm : Option Moment) :
    s.make S call alarm = (.failed .cancelled, s) := by
  unfold make run
  rw [ClientCall.outcome_of_cancelled S _ hcall cancelled]

/-- A call for a client that is not cancelled, on the watched store and on the store itself. -/
theorem make_concludes (hcall : ¬ call.IsVoid) (live : s.client.token.isCancelled = false)
    (alarm : Option Moment) : ∃ (r : Except Stop call.Result) (w : World (Watched Memory)),
      s.watched.make memory.watched call alarm =
        (answerOf r, ⟨w.store, { s.client with token := w.token }⟩) ∧
      s.make memory call alarm =
        (answerOf r, ⟨w.store.contents, { s.client with token := w.token }⟩) ∧
      w.store.reached = true ∧
      ((r = .error (.failed .cancelled) ∧ alarm.isSome = true ∧ w.token.isCancelled = true) ∨
        (r ≠ .error (.failed .cancelled) ∧ r ≠ .error .interrupted ∧
          w.token = s.client.token)) := by
  obtain ⟨r, w, ho, ho', hreached, hend⟩ := ClientCall.concludes s.client.config hcall
    { store := ⟨s.store, false⟩, token := s.client.token, alarm } live
  exact ⟨r, w, run_of_outcome ho, run_of_outcome ho', hreached, hend⟩

/-- For any other client a call reaches the store, and cancels the client only by an alarm that it
answers to. -/
theorem make_of_live (hcall : ¬ call.IsVoid) (live : s.client.token.isCancelled = false)
    (alarm : Option Moment) : s.Reaches call alarm ∧
      (((s.make memory call alarm).1 = .failed .cancelled ∧ alarm.isSome = true ∧
          (s.make memory call alarm).2.client.token.isCancelled = true) ∨
        ((s.make memory call alarm).1 ≠ .failed .cancelled ∧
          (s.make memory call alarm).2.client = s.client)) := by
  obtain ⟨r, w', hwatched, hmake, hreached, hend⟩ := make_concludes hcall live alarm
  unfold Reaches
  rw [hwatched, hmake]
  refine ⟨hreached, ?_⟩
  rcases hend with ⟨rfl, hsome, hcancelled⟩ | ⟨hr, hr', htoken⟩
  · exact .inl ⟨rfl, hsome, hcancelled⟩
  · refine .inr ⟨?_, by rw [htoken]⟩
    intro hanswer
    match r, hanswer with
    | .error (.failed e), hanswer =>
      cases hanswer
      exact hr rfl
    | .error .interrupted, _ => exact hr' rfl

/-- To watch the store of a session changes nothing. -/
theorem make_watched (s : Session Memory) (call : ClientCall) (alarm : Option Moment) :
    (s.watched.make memory.watched call alarm).1 = (s.make memory call alarm).1 ∧
      (s.watched.make memory.watched call alarm).2.store.contents =
        (s.make memory call alarm).2.store ∧
      (s.watched.make memory.watched call alarm).2.client = (s.make memory call alarm).2.client := by
  by_cases hcall : call.IsVoid
  · cases call with
    | createPrefix bucket root =>
      rw [make_root hcall, make_root hcall]
      exact ⟨rfl, rfl, rfl⟩
    | _ => exact hcall.elim
  · cases hc : s.client.token.isCancelled with
    | true =>
      rw [make_of_cancelled memory hcall hc, make_of_cancelled memory.watched hcall hc]
      exact ⟨rfl, rfl, rfl⟩
    | false =>
      obtain ⟨r, w', hwatched, hmake, -, -⟩ := make_concludes hcall hc alarm
      rw [hwatched, hmake]
      exact ⟨rfl, rfl, rfl⟩

theorem not_reaches_of_cancelled (hcall : ¬ call.IsVoid)
    (cancelled : s.client.token.isCancelled = true) (alarm : Option Moment) :
    ¬ s.Reaches call alarm := by
  unfold Reaches
  rw [make_of_cancelled memory.watched hcall cancelled]
  exact Bool.false_ne_true

/-! ## What is done in a session -/

/-- What is done in a session. -/
inductive Deed where
  /-- The client is replaced by one with a fresh token. -/
  | replace (c : Config)
  /-- The client is replaced by one that is cancelled with it. -/
  | share (c : Config)
  | cancel
  /-- An earlier client is cancelled with which the present one is, the `n`-th before it. -/
  | cancelEarlier (n : Nat)
  | call (call : ClientCall) (alarm : Option Moment)
  /-- Others have changed the store to this one. -/
  | others (m : Memory)

/-- The session after a deed. A client is replaced only by a valid one. -/
def after (s : Session Memory) : Deed → Session Memory
  | .replace c => (s.replaceClient c).toOption.getD s
  | .share c => (s.shareCancellation c).toOption.getD s
  | .cancel => s.cancel
  | .cancelEarlier n => { s with client := { s.client with token := s.client.token.cancelAbove n } }
  | .call call alarm => (s.make memory call alarm).2
  | .others m => { s with store := m }

def afterAll (s : Session Memory) (deeds : List Deed) : Session Memory :=
  deeds.foldl after s

/-- The deed cancels the client of the session, or one with which it is cancelled. In a call it is the
alarm that does. -/
def Deed.Cancels (s : Session Memory) : Deed → Prop
  | .cancel => True
  | .cancelEarlier n => n < s.client.token.ancestors
  | .call call alarm => alarm.isSome = true ∧ (s.make memory call alarm).1 = .failed .cancelled
  | .replace _ | .share _ | .others _ => False

/-- The deed is to replace the client by one that is refused. -/
def Deed.Refused : Deed → Prop
  | .replace c | .share c => c.validate ≠ .ok ()
  | _ => False

/-- The deed replaces the client by one that has nothing to do with it. -/
def Deed.Renews : Deed → Prop
  | .replace c => c.validate = .ok ()
  | _ => False

/-- The client was cancelled in the course of these deeds, and has not been renewed since. -/
def CancelledBy (s : Session Memory) (deeds : List Deed) : Prop :=
  Since (fun before deed => deed.Cancels (s.afterAll before)) (fun deed => ¬ deed.Renews) deeds

variable {deeds : List Deed} {deed : Deed}

theorem afterAll_concat (s : Session Memory) (deeds : List Deed) (deed : Deed) :
    s.afterAll (deeds ++ [deed]) = (s.afterAll deeds).after deed := by
  simp [afterAll]

/-! ## Clients and their tokens -/

theorem after_of_refused (s : Session Memory) (deed : Deed) (h : deed.Refused) : s.after deed = s := by
  have hkept (c : Config) (client : Client) (hc : c.validate ≠ .ok ()) :
      ((c.validate.map fun _ => { s with client }).toOption.getD s) = s := by
    cases hv : c.validate with
    | error p => rfl
    | ok => exact absurd hv hc
  cases deed with
  | replace c =>
    simp only [after, replaceClient_eq]
    exact hkept c _ h
  | share c =>
    simp only [after, shareCancellation_eq]
    exact hkept c _ h
  | _ => exact h.elim

theorem after_replace (s : Session Memory) {c : Config} (valid : c.validate = .ok ()) :
    s.after (.replace c) = { s with client := ⟨c, .fresh⟩ } := by
  simp only [after, replaceClient_eq, valid]
  rfl

theorem after_share (s : Session Memory) {c : Config} (valid : c.validate = .ok ()) :
    s.after (.share c) = { s with client := ⟨c, s.client.token.derived⟩ } := by
  simp only [after, shareCancellation_eq, valid]
  rfl

/-- **One deed.** A client is cancelled after a deed that cancels it, or if it was before and is not
renewed. -/
theorem isCancelled_after (s : Session Memory) (deed : Deed) :
    (s.after deed).client.token.isCancelled = true ↔
      deed.Cancels s ∨ (¬ deed.Renews ∧ s.client.token.isCancelled = true) := by
  cases deed with
  | replace c =>
    by_cases hc : c.validate = .ok ()
    · simp [after_replace s hc, Deed.Cancels, Deed.Renews, hc, Token.fresh, Token.isCancelled]
    · simp [after_of_refused s (.replace c) hc, Deed.Cancels, Deed.Renews, hc]
  | share c =>
    by_cases hc : c.validate = .ok ()
    · simp [after_share s hc, Deed.Cancels, Deed.Renews, Token.isCancelled_derived]
    · simp [after_of_refused s (.share c) hc, Deed.Cancels, Deed.Renews]
  | cancel => simp [after, cancel, Client.cancel, Deed.Cancels]
  | others m => simp [after, Deed.Cancels, Deed.Renews]
  | cancelEarlier n => simp [after, Deed.Cancels, Deed.Renews, Token.isCancelled_cancelAbove]
  | call call alarm =>
    simp only [after, Deed.Cancels, Deed.Renews, not_false_eq_true, true_and]
    by_cases hcall : call.IsVoid
    · obtain ⟨hanswer, hsame⟩ := make_of_isVoid hcall s alarm
      simp [hanswer, hsame]
    · cases hc : s.client.token.isCancelled with
      | true => simp [make_of_cancelled memory hcall hc alarm, hc]
      | false =>
        obtain ⟨-, ⟨hanswer, hsome, hcancelled⟩ | ⟨hanswer, hsame⟩⟩ := make_of_live hcall hc alarm
        · simp [hanswer, hsome, hcancelled]
        · simp [hanswer, hsame, hc]

/-- A client is cancelled exactly if it is told so by what was done since the session has started. -/
theorem isCancelled_afterAll (fresh : s.client.token.isCancelled = false) (deeds : List Deed) :
    (s.afterAll deeds).client.token.isCancelled = true ↔ s.CancelledBy deeds := by
  induction deeds using List.reverseRecOn with
  | nil => simp [afterAll, CancelledBy, fresh, not_since_nil]
  | append_singleton deeds deed ih =>
    rw [afterAll_concat, isCancelled_after, ih]
    unfold CancelledBy
    rw [since_concat]

theorem live_of_start {m : Memory} {c : Config} (h : Session.start m c = .ok s) :
    s.client.token.isCancelled = false := by
  unfold start Client.ofConfig at h
  cases hc : c.validate with
  | error p => cases hc ▸ h
  | ok =>
    rw [hc] at h
    cases h
    rfl

/-- **What reaches the store.** Whatever was done in a session since it has started, a call of its
client reaches the store exactly if no client was cancelled that the present one is cancelled with; if
it does not, it answers so and changes nothing. There is nothing to do for the root of a bucket. A
client that is refused leaves all as it was, one that shares the cancellation of the present client is
cancelled if that is, and a fresh one is not. -/
theorem reaches_iff {m : Memory} {c : Config} (started : Session.start m c = .ok s)
    (deeds : List Deed) :
    (∀ call alarm, ¬ call.IsVoid →
      ((s.afterAll deeds).Reaches call alarm ↔ ¬ s.CancelledBy deeds) ∧
      (¬ (s.afterAll deeds).Reaches call alarm →
        (s.afterAll deeds).make memory call alarm = (.failed .cancelled, s.afterAll deeds))) ∧
    (∀ bucket root alarm, Prefix.normalize root = "" →
      (s.afterAll deeds).make memory (.createPrefix bucket root) alarm =
        (.done (), s.afterAll deeds)) ∧
    (∀ deed : Deed, deed.Refused → s.afterAll (deeds ++ [deed]) = s.afterAll deeds) ∧
    ∀ c', c'.validate = .ok () →
      (s.afterAll (deeds ++ [.replace c'])).client.config = c' ∧
      (s.afterAll (deeds ++ [.replace c'])).client.token.isCancelled = false ∧
      (s.afterAll (deeds ++ [.share c'])).client.config = c' ∧
      ((s.afterAll (deeds ++ [.share c'])).client.token.isCancelled = true ↔
        s.CancelledBy deeds) := by
  have hcancelled := isCancelled_afterAll (live_of_start started) deeds
  refine ⟨?_, ?_, ?_, ?_⟩
  · intro call alarm hcall
    cases hc : (s.afterAll deeds).client.token.isCancelled with
    | true =>
      have hnot := not_reaches_of_cancelled hcall hc alarm
      refine ⟨⟨fun h => absurd h hnot, fun h => absurd (hcancelled.1 hc) h⟩, fun _ => ?_⟩
      exact make_of_cancelled memory hcall hc alarm
    | false =>
      have hreaches := (make_of_live hcall hc alarm).1
      refine ⟨⟨fun _ h => ?_, fun _ => hreaches⟩, fun h => absurd hreaches h⟩
      rw [hcancelled.2 h] at hc
      cases hc
  · intro bucket root alarm hroot
    exact make_root (by simp [Prefix.isRoot, hroot]) alarm
  · intro deed hrefused
    rw [afterAll_concat, after_of_refused _ _ hrefused]
  · intro c' valid
    rw [afterAll_concat, afterAll_concat, after_replace _ valid, after_share _ valid,
      Token.isCancelled_derived]
    exact ⟨rfl, rfl, rfl, hcancelled⟩

def plainConfig : Config :=
  { credentials := ⟨"key", "secret", none⟩, region := "", endpoint := "http://[::1]" }

/-- The client before the present one is cancelled, which a refused client does not change, nor one that
shares its cancellation; then comes a fresh one. -/
theorem reaches_iff_shared :
    let s : Session Memory := ⟨{}, plainConfig, .fresh⟩
    let deeds : List Deed := [.share plainConfig, .cancelEarlier 0,
      .replace { plainConfig with parallelism := 0 }, .share plainConfig]
    Session.start {} plainConfig = .ok s ∧
      ¬ (s.afterAll deeds).Reaches (.bucketExists "b") none ∧
      (s.afterAll deeds).make memory (.bucketExists "b") none = (.failed .cancelled, s.afterAll deeds) ∧
      (s.afterAll (deeds ++ [.replace plainConfig])).Reaches (.bucketExists "b") none := by
  intro s deeds
  have valid : plainConfig.validate = .ok () := rfl
  have started : Session.start {} plainConfig = .ok s := rfl
  have hcancelled : s.CancelledBy deeds := by
    refine ⟨[.share plainConfig], .cancelEarlier 0, _, rfl, ?_, ?_⟩
    · change 0 < (s.after (.share plainConfig)).client.token.ancestors
      rw [after_share s valid]
      exact Nat.zero_lt_one
    · have hrefused : ({ plainConfig with parallelism := 0 } : Config).validate ≠ .ok () := by
        rintro ⟨⟩
      simp [Deed.Renews, hrefused]
  have hrenewed : ¬ s.CancelledBy (deeds ++ [.replace plainConfig]) := by
    rw [CancelledBy, since_concat]
    rintro (hcancels | ⟨hkept, -⟩)
    · exact hcancels
    · exact hkept valid
  obtain ⟨hreaches, hanswer⟩ := (reaches_iff started deeds).1 (.bucketExists "b") none id
  have hnot : ¬ (s.afterAll deeds).Reaches (.bucketExists "b") none := fun h => hreaches.1 h hcancelled
  have hreaches' := ((reaches_iff started (deeds ++ [.replace plainConfig])).1
    (.bucketExists "b") none id).1
  exact ⟨started, hnot, hanswer hnot, hreaches'.2 hrenewed⟩

end Session

end ObjectVolume
