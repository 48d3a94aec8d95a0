import ObjectVolume.Proofs.Cli.Execution
import ObjectVolume.Proofs.Descriptor
import ObjectVolume.Proofs.Eviction.Aftermath
/-!
# Deletions with and without trailing slashes

Deletions with a prefix and with its normal form are the same, with one exception: a prefix made only
of slashes names the whole bucket, and its deletion empties the bucket, but the bucket goes only if no
prefix is given. Both then succeed or fail alike, and differ in the empty bucket alone.
-/
namespace ObjectVolume

open Store (Memory memory KeyMap Bucket)

/-! ## Evictions of all that a bucket holds -/

namespace Eviction

variable {w w' : World Memory} {limit : Nat} {bucket : String}

/-- An eviction of everything holds nothing back, and leaves the bucket empty. -/
theorem emptied_of_evict (hs : w.store.Sound) (hlimit : 1 ≤ limit)
    (live : w.token.isCancelled = false) {held : List ObjectRef}
    (ho : (evict memory limit bucket "" none).outcome w = (.ok held, w')) :
    held = [] ∧ ∃ b, w.store.buckets.find? bucket = some b ∧
      w'.store.buckets = w.store.buckets.insert bucket { b with objects := .empty } := by
  have hcourse (c : Call) (hbucket : c.bucket = bucket) (htarget : c.target = .below "")
      (h : OnCourse w.store c ⟨w'.store, w'.token, .removing held⟩) :
      held = [] ∧ ∃ b, w.store.buckets.find? bucket = some b ∧
        w'.store.buckets = w.store.buckets.insert bucket { b with objects := .empty } := by
    subst hbucket
    cases h with
    | @removing _ _ _ done _ armed clean _ split lost allowed last =>
    have hmarker : c.marker = none := by rw [Call.marker, htarget]; rfl
    have hnone : c.markers w.store = [] := by rw [Call.markers, hmarker, heldBack_none]
    obtain ⟨rfl, rfl⟩ := List.append_eq_nil_iff.1 (split.symm.trans hnone)
    have hall : c.doomed w.store = c.listed w.store := by rw [Call.doomed, hmarker, toDelete_none]
    obtain ⟨b, hb⟩ := clean.exists_bucket
    obtain ⟨hothers, hemptied⟩ := evicted_without hs htarget
    rw [List.append_nil, hall] at lost
    rw [← lost.buckets] at hothers hemptied
    have hemptied := hemptied b hb
    rw [htarget] at hemptied
    obtain ⟨b', hb', hregion, hversioned, hobjects⟩ := hemptied
    have hempty : b' = { b with objects := .empty } := by
      have hnothing : b'.objects = .empty := KeyMap.ext_find? fun key => by
        rw [hobjects, if_pos (show (Target.below "").Covers key from List.nil_prefix)]
        rfl
      cases b'
      simp_all
    refine ⟨rfl, b, hb, KeyMap.ext_find? fun name => ?_⟩
    by_cases hname : name = c.bucket
    · rw [hname, hb', KeyMap.find?_insert_self, hempty]
    · rw [hothers name hname, KeyMap.find?_insert_of_ne _ _ (Ne.symm hname)]
  obtain ⟨t, g, hrun, -, hpost⟩ := follows_evict (S := memory) (c := ⟨limit, bucket, .below ""⟩)
    hlimit live
  have ho' : (evict memory limit bucket (Prefix.scope "") (Target.below "").marker).outcome w =
      (.ok held, w') := ho
  simp only [Call.scope, Target.scope, Call.marker, ho', orAnswered, Call.afterPass] at hrun hpost
  subst hpost
  by_cases hmax : limit ≤ Single.maxPermits
  · exact hcourse _ rfl rfl ((onCourse_start hs _ w.token).run hs hmax hrun).1
  · -- without permits to hand out, none were needed
    rcases hrun.withOnePermit (Nat.lt_of_not_le hmax) rfl with ⟨message, hdied⟩ | ⟨hrun, -⟩
    · cases hdied
    · have hone : (Call.withOnePermit ⟨limit, bucket, .below ""⟩).limit ≤ Single.maxPermits := by
        change 1 ≤ Single.maxPermits
        decide
      exact hcourse _ rfl rfl ((onCourse_start hs _ w.token).run hs hone hrun).1

/-- All that matters of a prefix is its normal form. -/
theorem removePrefix_normalize {σ : Type} (S : Store σ) (limit : Nat) (bucket root : String) :
    removePrefix S limit bucket (Prefix.normalize root) = removePrefix S limit bucket root := by
  have hroot : Prefix.isRoot (Prefix.normalize root) = Prefix.isRoot root := by simp [Prefix.isRoot]
  unfold removePrefix
  rw [hroot, Prefix.marker_normalize, Prefix.scope_normalize]

theorem removePrefix_of_root {σ : Type} (S : Store σ) (limit : Nat) (bucket : String) {root : String}
    (hroot : Prefix.isRoot root = true) : removePrefix S limit bucket root =
      evict S limit bucket "" none >>= removeObjects S bucket := by
  unfold removePrefix
  rw [Prefix.scope, if_pos hroot, if_pos hroot]

/-- An empty bucket is removed. -/
theorem outcome_removeBucket_of_emptied {m : Memory} {b : Bucket}
    (h : w.store.buckets = m.buckets.insert bucket { b with objects := .empty }) :
    ∃ m', (Operation.call (memory.removeBucket bucket)).outcome w =
        (.ok (), { w with store := m' }) ∧ m'.buckets = m.buckets.erase bucket := by
  have hfind : w.store.buckets.find? bucket = some { b with objects := .empty } := by
    rw [h, KeyMap.find?_insert_self]
  have hempty : ({ b with objects := .empty } : Bucket).objects.isEmpty = true := rfl
  have hremove : (memory.removeBucket bucket w.store).1 = .done () ∧
      (memory.removeBucket bucket w.store).2.buckets = w.store.buckets.erase bucket := by
    simp only [memory, Memory.removeBucket, hfind, hempty, if_true]
    exact ⟨rfl, rfl⟩
  refine ⟨(memory.removeBucket bucket w.store).2, ?_, ?_⟩
  · rw [Operation.call, Operation.outcome_bind, Operation.outcome_onStore, hremove.1]
    rfl
  · rw [hremove.2, h, KeyMap.erase_insert]

/-- **Slashes alone.** Emptying a bucket and removing it fail alike. Where they succeed, they differ in
the empty bucket. -/
theorem outcome_removeBucket (hs : w.store.Sound) (hlimit : 1 ≤ limit) (bucket : String)
    {root : String} (hroot : Prefix.isRoot root = true) :
    (∃ w₁ w₂ b, (Operation.cancellable (removePrefix memory limit bucket root)).outcome w =
        (.ok (), w₁) ∧
      (Operation.cancellable (removeBucket memory limit bucket)).outcome w = (.ok (), w₂) ∧
      w.store.buckets.find? bucket = some b ∧
      w₁.store.buckets = w.store.buckets.insert bucket { b with objects := .empty } ∧
      w₂.store.buckets = w.store.buckets.erase bucket) ∨
    ∃ stop w', (Operation.cancellable (removePrefix memory limit bucket root)).outcome w =
        (.error stop, w') ∧
      (Operation.cancellable (removeBucket memory limit bucket)).outcome w = (.error stop, w') := by
  cases live : w.token.isCancelled with
  | true =>
    refine .inr ⟨.failed .cancelled, w, ?_, ?_⟩ <;>
      exact Operation.outcome_cancellable_of_cancelled _ live
  | false =>
    rw [Operation.outcome_cancellable _ live, Operation.outcome_cancellable _ live,
      removePrefix_of_root _ _ _ hroot, removeBucket, Operation.outcome_bind, Operation.outcome_bind]
    rcases ho : (evict memory limit bucket "" none).outcome w with ⟨stop | held, w'⟩
    · refine .inr ?_
      cases stop <;> exact ⟨_, _, rfl, rfl⟩
    · obtain ⟨rfl, b, hb, hbuckets⟩ := emptied_of_evict hs hlimit live ho
      obtain ⟨m', hremove, herase⟩ := outcome_removeBucket_of_emptied hbuckets
      refine .inl ⟨w', { w' with store := m' }, b, rfl, ?_, hb, hbuckets, herase⟩
      simp only [hremove]
      rfl

end Eviction

/-! ## Commands that differ in slashes -/

namespace Cli

/-- What has come of a command, whatever was being done. -/
def answerOf : Outcome (Except Failure String) → Outcome (Except Error String)
  | .done r => .done (r.mapError Failure.error)
  | .failed e => .failed e
  | .died message => .died message

end Cli

namespace Session

open Eviction (Target)
open Cli (deletionTarget deletionStep)

variable {s : Session Memory} {bucket root : String}

theorem evict_normalize {σ : Type} (S : Store σ) (s : Session σ) (alarm : Option Moment)
    (bucket root : String) : s.evict S alarm bucket (.below (Prefix.normalize root)) =
      s.evict S alarm bucket (.below root) := by
  change s.run alarm (Operation.cancellable (Eviction.removePrefix S _ bucket _)) = _
  rw [Eviction.removePrefix_normalize]
  rfl

/-- What is done about the same target ends alike, whatever it is called. -/
theorem answerOf_deletionEnd (doing doing' : String) (r : Outcome Unit × Session Memory) :
    Cli.answerOf (deletionEnd doing r).1 = Cli.answerOf (deletionEnd doing' r).1 ∧
      (deletionEnd doing r).2 = (deletionEnd doing' r).2 := by
  rcases r with ⟨⟨⟩ | e | message, s'⟩ <;> exact ⟨rfl, rfl⟩

/-- **Trailing slashes.** A deletion with a prefix and one with its normal form succeed or fail alike.
They leave the same behind, unless the prefix is made only of slashes and they succeed: then the one
leaves an empty bucket where the other leaves none. -/
theorem execute_delete_normalize (reachable : s.store.Reachable)
    (valid : s.client.config.validate = .ok ()) (alarm : Option Moment) (bucket root : String) :
    Cli.answerOf (s.execute memory alarm (.delete bucket root)).1 =
      Cli.answerOf (s.execute memory alarm (.delete bucket (Prefix.normalize root))).1 ∧
    (root = "" ∨ Prefix.normalize root ≠ "" ∨
        (∀ text, (s.execute memory alarm (.delete bucket root)).1 ≠ .done (.ok text)) →
      (s.execute memory alarm (.delete bucket root)).2 =
        (s.execute memory alarm (.delete bucket (Prefix.normalize root))).2) ∧
    (root ≠ "" → Prefix.normalize root = "" →
      ∀ text, (s.execute memory alarm (.delete bucket root)).1 = .done (.ok text) →
        ∃ b, s.store.buckets.find? bucket = some b ∧
          (s.execute memory alarm (.delete bucket root)).2.store.buckets =
            s.store.buckets.insert bucket { b with objects := .empty } ∧
          (s.execute memory alarm (.delete bucket (Prefix.normalize root))).2.store.buckets =
            s.store.buckets.erase bucket) := by
  by_cases hempty : root = ""
  · subst hempty
    exact ⟨rfl, fun _ => rfl, fun hne => absurd rfl hne⟩
  have hgiven : deletionTarget root = .below root := by
    simp [deletionTarget, String.isEmpty_iff, hempty]
  rw [execute_delete, execute_delete, hgiven]
  by_cases hroot : Prefix.normalize root = ""
  · -- slashes alone
    have hnormal : deletionTarget (Prefix.normalize root) = .bucket := by
      rw [hroot]
      rfl
    rw [hnormal]
    rcases Eviction.outcome_removeBucket (w := { store := s.store, token := s.client.token, alarm })
      reachable.sound (Config.parallelism_pos valid) bucket (Descriptor.isRoot_iff.2 hroot) with
      ⟨w₁, w₂, b, hprefix, hbucket, hb, hemptied, herased⟩ | ⟨stop, w', hprefix, hbucket⟩
    · have hgiven : s.evict memory alarm bucket (.below root) = _ := run_of_outcome hprefix
      have hnormal : s.evict memory alarm bucket .bucket = _ := run_of_outcome hbucket
      rw [hgiven, hnormal]
      refine ⟨rfl, ?_, fun _ _ _ _ => ⟨b, hb, hemptied, herased⟩⟩
      rintro (hr | hr | hr)
      · exact absurd hr hempty
      · exact absurd hroot hr
      · exact absurd rfl (hr "")
    · have hgiven : s.evict memory alarm bucket (.below root) = _ := run_of_outcome hprefix
      have hnormal : s.evict memory alarm bucket .bucket = _ := run_of_outcome hbucket
      obtain ⟨hanswer, hsession⟩ := answerOf_deletionEnd (deletionStep bucket root)
        (deletionStep bucket (Prefix.normalize root)) (s.evict memory alarm bucket (.below root))
      rw [hgiven] at hanswer hsession ⊢
      rw [hnormal]
      refine ⟨hanswer, fun _ => hsession, fun _ _ text hdone => ?_⟩
      cases stop <;> cases hdone
  · have hnormal : deletionTarget (Prefix.normalize root) = .below (Prefix.normalize root) := by
      simp [deletionTarget, String.isEmpty_iff, hroot]
    rw [hnormal, evict_normalize]
    obtain ⟨hanswer, hsession⟩ := answerOf_deletionEnd (deletionStep bucket root)
      (deletionStep bucket (Prefix.normalize root)) (s.evict memory alarm bucket (.below root))
    exact ⟨hanswer, fun _ => hsession, fun _ hr => absurd hr hroot⟩

/-- A client of a store with one bucket that holds one object. -/
def seededSession : Session Memory where
  store := ({} : Memory).seed "b" ["k"]
  client := ⟨{ credentials := ⟨"key", "secret", none⟩, region := "", endpoint := "http://[::1]" },
    .fresh⟩

theorem execute_delete_normalize_seeded :
    Cli.answerOf (seededSession.execute memory none (.delete "b" "k//")).1 = .done (.ok "") ∧
    (seededSession.execute memory none (.delete "b" "k//")).2 =
      (seededSession.execute memory none (.delete "b" "k")).2 ∧
    (seededSession.execute memory none (.delete "b" "/")).2.store.buckets =
      seededSession.store.buckets.insert "b" {} ∧
    (seededSession.execute memory none (.delete "b" "")).2.store.buckets =
      seededSession.store.buckets.erase "b" := by
  have hreachable : seededSession.store.Reachable := .seed "b" ["k"] .empty
  have hvalid : seededSession.client.config.validate = .ok () := by decide +kernel
  obtain ⟨-, hsame, -⟩ := execute_delete_normalize hreachable hvalid none "b" "k//"
  obtain ⟨-, -, hslash⟩ := execute_delete_normalize hreachable hvalid none "b" "/"
  have hkept : Prefix.normalize "k//" = "k" := by decide
  have hroot : Prefix.normalize "/" = "" := by decide
  obtain ⟨b, hb, hgiven, hnormal⟩ := hslash (by decide) hroot "" (by decide +kernel)
  rw [hkept] at hsame
  rw [hroot] at hnormal
  have hplain : ({ b with objects := .empty } : Bucket) = {} := by
    have hfound : (seededSession.store.buckets.find? "b").map (fun b => (b.region, b.versioned)) =
        some ("", false) := by decide +kernel
    rw [hb, Option.map_some, Option.some.injEq, Prod.mk.injEq] at hfound
    rw [hfound.1, hfound.2]
  rw [hplain] at hgiven
  exact ⟨by decide +kernel, hsame (.inr (.inl (by decide))), hgiven, hnormal⟩

/-- Without a prefix the bucket goes, with a slash for one it stays. -/
theorem delete_slash_keeps_bucket :
    Prefix.normalize "/" = "" ∧
    (seededSession.execute memory none (.delete "b" "/")).1 = .done (.ok "") ∧
    (seededSession.execute memory none (.delete "b" "")).1 = .done (.ok "") ∧
    (seededSession.execute memory none (.delete "b" "/")).2.store.buckets ≠
      (seededSession.execute memory none (.delete "b" "")).2.store.buckets := by
  have hstays : (seededSession.execute memory none (.delete "b" "/")).2.store.buckets.contains "b" =
      true := by decide +kernel
  have hgoes : (seededSession.execute memory none (.delete "b" "")).2.store.buckets.contains "b" =
      false := by decide +kernel
  refine ⟨by decide, by decide +kernel, by decide +kernel, fun hsame => ?_⟩
  rw [hsame, hgoes] at hstays
  cases hstays

end Session

end ObjectVolume
