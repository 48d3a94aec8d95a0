import ObjectVolume.Proofs.Descriptor
import ObjectVolume.Proofs.Eviction.Aftermath
import ObjectVolume.Proofs.Store.Calls
import ObjectVolume.Proofs.Store.History
/-!
# Descriptors over time

The descriptors that a store in memory holds are a map from the roots of its buckets, whatever keys
they are stored under: what is read is what was written last, unless a prefix was removed since that
the root is nested in (`Volume.latest`, `Session.readDescriptor_of_history`).
-/
namespace ObjectVolume

open Store (Memory memory Bucket KeyMap Reply)

/-! ## Changes to volumes -/

namespace Volume

/-- What a client does to the volumes of a store. -/
inductive Change where
  | createBucket (bucket : String)
  | createPrefix (bucket root : String)
  | writeDescriptor (d : Descriptor)
  | removePrefix (bucket root : String)

namespace Change

/-- The operation of the client. -/
def operation {σ : Type} (S : Store σ) (c : Config) : Change → Operation σ Unit
  | createBucket bucket => Volume.createBucket S c bucket
  | createPrefix bucket root => Volume.createPrefix S bucket root
  | writeDescriptor d => Volume.writeDescriptor S d
  | removePrefix bucket root => Volume.removePrefix S c bucket root

/-- The change writes the descriptor `d` of a volume. -/
def Writes (bucket root : String) (d : Descriptor) (change : Change) : Prop :=
  change = writeDescriptor d ∧ d.bucket = bucket ∧ Prefix.normalize d.root = Prefix.normalize root

/-- The change drops the descriptor of a volume, with everything else below a prefix. -/
def Drops (bucket root : String) (change : Change) : Prop :=
  ∃ outer, change = removePrefix bucket outer ∧ Descriptor.Nested outer root

/-- The descriptor of a volume after the change, if it was `current` before. -/
def apply (bucket root : String) (current : Option Descriptor) : Change → Option Descriptor
  | writeDescriptor d =>
    if d.bucket = bucket ∧ Prefix.normalize d.root = Prefix.normalize root then some d else current
  | removePrefix b outer => if b = bucket ∧ Descriptor.Nested outer root then none else current
  | createBucket _ | createPrefix _ _ => current

theorem apply_eq_some_iff {bucket root : String} {current : Option Descriptor} {change : Change}
    {d : Descriptor} : change.apply bucket root current = some d ↔ change.Writes bucket root d ∨
      ((∀ d', ¬ change.Writes bucket root d') ∧ ¬ change.Drops bucket root ∧ current = some d) := by
  cases change with
  | createBucket b => simp [apply, Writes, Drops]
  | createPrefix b r => simp [apply, Writes, Drops]
  | writeDescriptor d' =>
    by_cases h : d'.bucket = bucket ∧ Prefix.normalize d'.root = Prefix.normalize root
    · have hsome : (writeDescriptor d').apply bucket root current = some d' := if_pos h
      rw [hsome]
      constructor
      · rintro ⟨⟩
        exact .inl ⟨rfl, h⟩
      · rintro (⟨hwrites, -⟩ | ⟨hnone, -⟩)
        · cases hwrites
          rfl
        · exact absurd ⟨rfl, h⟩ (hnone d')
    · have hsame : (writeDescriptor d').apply bucket root current = current := if_neg h
      have hnone (d : Descriptor) : ¬ (writeDescriptor d').Writes bucket root d := by
        rintro ⟨heq, hwrites⟩
        cases heq
        exact h hwrites
      have hkept : ¬ (writeDescriptor d').Drops bucket root := by
        rintro ⟨outer, heq, -⟩
        cases heq
      simp [hsame, hnone, hkept]
  | removePrefix b outer =>
    have hnone (d : Descriptor) : ¬ (removePrefix b outer).Writes bucket root d := by
      rintro ⟨heq, -⟩
      cases heq
    have hdrops : (removePrefix b outer).Drops bucket root ↔
        b = bucket ∧ Descriptor.Nested outer root := by
      constructor
      · rintro ⟨outer', heq, hnested⟩
        cases heq
        exact ⟨rfl, hnested⟩
      · rintro ⟨rfl, hnested⟩
        exact ⟨outer, rfl, hnested⟩
    by_cases h : b = bucket ∧ Descriptor.Nested outer root
    · have hgone : (removePrefix b outer).apply bucket root current = none := if_pos h
      have hdropped := hdrops.2 h
      simp [hgone, hnone, hdropped]
    · have hsame : (removePrefix b outer).apply bucket root current = current := if_neg h
      have hkept : ¬ (removePrefix b outer).Drops bucket root := fun hdropped => h (hdrops.1 hdropped)
      simp [hsame, hnone, hkept]

end Change

/-- The descriptor that a volume has after changes to a store without any. -/
def latest (bucket root : String) (changes : List Change) : Option Descriptor :=
  changes.foldl (Change.apply bucket root) none

/-- The descriptor `d` of a volume was written, and no other one since, nor was it dropped. -/
def Kept (bucket root : String) (changes : List Change) (d : Descriptor) : Prop :=
  ∃ before after, changes = before ++ .writeDescriptor d :: after ∧ d.bucket = bucket ∧
    Prefix.normalize d.root = Prefix.normalize root ∧
    ∀ change ∈ after, (∀ d', ¬ change.Writes bucket root d') ∧ ¬ change.Drops bucket root

variable {bucket root : String} {changes : List Change} {change : Change} {d : Descriptor}

theorem kept_iff_since : Kept bucket root changes d ↔
    Since (fun _ change => change.Writes bucket root d)
      (fun change => (∀ d', ¬ change.Writes bucket root d') ∧ ¬ change.Drops bucket root) changes := by
  constructor
  · rintro ⟨before, after, hsplit, hbucket, hroot, hafter⟩
    exact ⟨before, _, after, hsplit, ⟨rfl, hbucket, hroot⟩, hafter⟩
  · rintro ⟨before, change, after, hsplit, ⟨rfl, hbucket, hroot⟩, hafter⟩
    exact ⟨before, after, hsplit, hbucket, hroot, hafter⟩

theorem kept_snoc : Kept bucket root (changes ++ [change]) d ↔ change.Writes bucket root d ∨
    ((∀ d', ¬ change.Writes bucket root d') ∧ ¬ change.Drops bucket root ∧
      Kept bucket root changes d) := by
  rw [kept_iff_since, kept_iff_since, since_concat, and_assoc]

theorem latest_concat : latest bucket root (changes ++ [change]) =
    change.apply bucket root (latest bucket root changes) := by
  simp [latest]

/-- What is latest is what was kept. -/
theorem latest_eq_some_iff : latest bucket root changes = some d ↔ Kept bucket root changes d := by
  induction changes using List.reverseRecOn with
  | nil => simp [latest, Kept]
  | append_singleton changes change ih =>
    rw [latest_concat, Change.apply_eq_some_iff, kept_snoc, ih]

/-! ## Reading -/

/-- What is found at the key of a descriptor is decoded, and nothing is changed. -/
theorem outcome_readDescriptor {w : World Memory} (live : w.token.isCancelled = false)
    (bucket root : String) : (readDescriptor memory bucket root).outcome w =
      (match w.store.object? bucket (Descriptor.key root) with
        | some data =>
          (Descriptor.record.decodeBytes data).mapError fun text => .failed (.serialization text)
        | none => .error (.failed (.backend (.noSuchKey bucket (Descriptor.key root)))), w) := by
  have hget : (Operation.cancellable
      (Operation.call (memory.getObject bucket (Descriptor.key root)))).outcome w = _ :=
    Operation.outcome_cancellable_call live rfl
  unfold readDescriptor
  rw [Operation.outcome_bind, hget, Memory.get]
  cases w.store.object? bucket (Descriptor.key root) with
  | none => rfl
  | some data =>
    simp only [Except.mapError]
    cases Descriptor.record.decodeBytes data <;> rfl

end Volume

namespace Session

open Volume (Change latest latest_eq_some_iff Kept)
open Eviction (Target)

/-- A client has made these changes one after the other, and each of them has succeeded. -/
inductive History {σ : Type} (S : Store σ) (s : Session σ) : List Change → Session σ → Prop
  | start : History S s [] s
  | change {changes s' s''} (change : Change) : History S s changes s' →
      s'.run none (change.operation S s'.client.config) = (.done (), s'') →
      History S s (changes ++ [change]) s''

variable {s s' : Session Memory} {changes : List Change}

/-- The store holds these descriptors and no others. -/
def Holds (m : Memory) (descriptors : String → String → Option Descriptor) : Prop :=
  ∀ bucket root, m.object? bucket (Descriptor.key root) =
    (descriptors bucket root).map Descriptor.stored

/-- **One change** to the store is the same change to the descriptors that it holds. -/
theorem holds_of_change {change : Change} {descriptors : String → String → Option Descriptor}
    (reachable : s.store.Reachable) (live : s.client.token.isCancelled = false)
    (some_permit : 1 ≤ s.client.config.parallelism.toNat) (holds : Holds s.store descriptors)
    (h : s.run none (change.operation memory s.client.config) = (.done (), s')) :
    s'.store.Reachable ∧ s'.client = s.client ∧
      Holds s'.store fun bucket root => change.apply bucket root (descriptors bucket root) := by
  cases change with
  | createBucket name =>
    change s.run none (Operation.cancellable (Operation.call
      (memory.makeBucket name s.client.config.region))) = _ at h
    obtain ⟨m, hm, rfl⟩ := of_run_call live (Memory.makeBucket_memory _ _ _) h
    refine ⟨?_, rfl, fun bucket root => ?_⟩
    · have hreachable := reachable.makeBucket name s.client.config.region
      rwa [hm] at hreachable
    · rw [Memory.object?_makeBucket hm]
      exact holds bucket root
  | createPrefix name root =>
    change s.run none (Volume.createPrefix memory name root) = _ at h
    unfold Volume.createPrefix at h
    split at h
    · obtain rfl : s = s' := (Prod.mk.inj h).2
      exact ⟨reachable, rfl, holds⟩
    · obtain ⟨m, hm, rfl⟩ := of_run_call live (Memory.putObject_memory _ _ _ _) h
      refine ⟨?_, rfl, fun bucket root' => ?_⟩
      · have hreachable := reachable.put name (Prefix.marker root) .empty
        rwa [hm] at hreachable
      · rw [Memory.object?_put hm, if_neg fun hboth => Descriptor.key_ne_marker _ _ hboth.2.symm]
        exact holds bucket root'
  | writeDescriptor d =>
    change s.run none (Operation.cancellable (Operation.call
      (memory.putObject d.bucket (Descriptor.key d.root) d.stored))) = _ at h
    obtain ⟨m, hm, rfl⟩ := of_run_call live (Memory.putObject_memory _ _ _ _) h
    refine ⟨?_, rfl, fun bucket root => ?_⟩
    · have hreachable := reachable.put d.bucket (Descriptor.key d.root) d.stored
      rwa [hm] at hreachable
    · rw [Memory.object?_put hm, holds bucket root]
      simp only [Descriptor.key_inj, Change.apply]
      split <;> rfl
  | removePrefix name outer =>
    change s.evict memory none name (.below outer) = _ at h
    obtain ⟨hreachable, hclient, hname, hevicted⟩ :=
      evicted_of_done reachable live some_permit (congrArg Prod.fst h)
    rw [h] at hreachable hclient hevicted
    refine ⟨hreachable, hclient, fun bucket root => ?_⟩
    rw [hevicted.object?_eq hname, holds bucket root]
    simp only [Descriptor.scope_prefix_key_iff, Change.apply]
    split <;> rfl

/-- **All changes.** The store holds the latest descriptors, and the client is the same. -/
theorem History.holds_latest (reachable : s.store.Reachable)
    (empty : ∀ name b, s.store.buckets.find? name = some b → b.objects = .empty)
    (live : s.client.token.isCancelled = false)
    (some_permit : 1 ≤ s.client.config.parallelism.toNat) (h : History memory s changes s') :
    s'.store.Reachable ∧ s'.client = s.client ∧
      Holds s'.store fun bucket root => latest bucket root changes := by
  induction h with
  | start =>
    refine ⟨reachable, rfl, fun bucket root => ?_⟩
    unfold Memory.object?
    cases hb : s.store.buckets.find? bucket with
    | none => rfl
    | some b => simp [Bucket.current, empty bucket b hb, latest]
  | @change changes s₁ s₂ change _ hrun ih =>
    obtain ⟨hreachable, hclient, hholds⟩ := ih
    rw [← hclient] at live some_permit
    obtain ⟨hreachable', hclient', hholds'⟩ := holds_of_change hreachable live some_permit hholds hrun
    refine ⟨hreachable', hclient'.trans hclient, fun bucket root => ?_⟩
    simp only [Volume.latest_concat]
    exact hholds' bucket root

/-- What is read of the descriptor of a volume, and nothing is changed. -/
theorem run_readDescriptor {descriptors : String → String → Option Descriptor}
    (live : s.client.token.isCancelled = false) (holds : Holds s.store descriptors)
    (alarm : Option Moment) (bucket root : String) :
    s.run alarm (Volume.readDescriptor memory bucket root) =
      (match descriptors bucket root with
        | some d => .done d
        | none => .failed (.backend (.noSuchKey bucket (Descriptor.key root))), s) := by
  unfold run
  rw [Volume.outcome_readDescriptor live, holds bucket root]
  cases descriptors bucket root with
  | none => rfl
  | some d =>
    simp only [Option.map_some, Except.mapError, Descriptor.decodeBytes_stored]

/-- **Descriptors are a map from roots.** Whatever a client has done to the volumes of a store that was
empty, it reads the descriptor that was written last for the root, unless a prefix was removed since
that the root is nested in. Otherwise there is none to be found. -/
theorem readDescriptor_of_history {s s' : Session Memory} {changes : List Change}
    (reachable : s.store.Reachable)
    (empty : ∀ name b, s.store.buckets.find? name = some b → b.objects = .empty)
    (valid : s.client.config.validate = .ok ()) (live : s.client.token.isCancelled = false)
    (h : History memory s changes s') (alarm : Option Moment) (bucket root : String) :
    (∀ d, Kept bucket root changes d →
      s'.run alarm (Volume.readDescriptor memory bucket root) = (.done d, s')) ∧
    ((∀ d, ¬ Kept bucket root changes d) →
      s'.run alarm (Volume.readDescriptor memory bucket root) =
        (.failed (.backend (.noSuchKey bucket (Descriptor.key root))), s')) := by
  obtain ⟨-, hclient, hholds⟩ := h.holds_latest reachable empty live (Config.parallelism_pos valid)
  rw [← hclient] at live
  rw [run_readDescriptor live hholds]
  constructor
  · intro d hd
    rw [latest_eq_some_iff.2 hd]
  · intro hnone
    have hlatest : latest bucket root changes = none :=
      Option.eq_none_iff_forall_not_mem.2 fun d hd => hnone d (latest_eq_some_iff.1 hd)
    rw [hlatest]

/-! ### A volume inside another -/

theorem History.snoc (h : History memory s changes s') (change : Change)
    (hdone : (s'.run none (change.operation memory s'.client.config)).1 = .done ()) :
    History memory s (changes ++ [change])
      (s'.run none (change.operation memory s'.client.config)).2 :=
  .change change h (Prod.ext hdone rfl)

/-- A client of a store with one versioned bucket, which is empty. -/
def newSession : Session Memory where
  store := ({} : Memory).createVersionedBucket "data"
  client := ⟨{ credentials := ⟨"key", "secret", none⟩, region := "", endpoint := "http://[::1]" },
    .fresh⟩

def outerVolume : Descriptor where
  bucket := "data"
  root := "vol/"
  mounter := "s3fs"
  options := ["ro"]
  capacity := 5

def innerVolume : Descriptor where
  bucket := "data"
  root := "vol/sub"
  mounter := "s3fs"
  capacity := 7

/-- Two volumes are described, and the inner one is removed. -/
def nestedChanges : List Change :=
  [.createPrefix "data" "vol/", .writeDescriptor outerVolume, .writeDescriptor innerVolume,
    .removePrefix "data" "vol/sub/"]

theorem exists_history_nestedChanges : ∃ s', History memory newSession nestedChanges s' := by
  have hmarked := (History.start : History memory newSession [] _).snoc
    (.createPrefix "data" "vol/") (by decide +kernel)
  have houter := hmarked.snoc (.writeDescriptor outerVolume) (by decide +kernel)
  have hinner := houter.snoc (.writeDescriptor innerVolume) (by decide +kernel)
  exact ⟨_, hinner.snoc (.removePrefix "data" "vol/sub/") (by decide +kernel)⟩

theorem readDescriptor_of_history_nested : ∃ s', History memory newSession nestedChanges s' ∧
    s'.run none (Volume.readDescriptor memory "data" "vol") = (.done outerVolume, s') ∧
    s'.run none (Volume.readDescriptor memory "data" "vol/sub") =
      (.failed (.backend (.noSuchKey "data" "vol/sub/.metadata.json")), s') := by
  obtain ⟨s', h⟩ := exists_history_nestedChanges
  have hempty (name : String) (b : Bucket) (hb : newSession.store.buckets.find? name = some b) :
      b.objects = .empty := by
    by_cases hname : "data" = name
    · subst hname
      cases hb
      rfl
    · simp [newSession, Memory.createVersionedBucket, Memory.setBucket,
        KeyMap.find?_insert_of_ne _ _ hname] at hb
  have hread := readDescriptor_of_history (.createVersionedBucket "data" .empty) hempty
    (by decide +kernel) rfl h none "data"
  have houter : latest "data" "vol" nestedChanges = some outerVolume := by decide
  have hinner : latest "data" "vol/sub" nestedChanges = none := by decide
  refine ⟨s', h, (hread "vol").1 _ (latest_eq_some_iff.1 houter), (hread "vol/sub").2 fun d hd => ?_⟩
  rw [latest_eq_some_iff.2 hd] at hinner
  cases hinner

end Session

end ObjectVolume
