import ObjectVolume.Proofs.Cli.Execution
import ObjectVolume.Proofs.RoundTrip
import ObjectVolume.Proofs.Volume
/-!
# The life of a volume

A volume is created, perhaps once more, described and deleted. Its prefix may be spelled with any
slashes at its end each time. What lies outside the prefix is never touched (`KeptOutside`), and after
the deletion nothing lies inside.
-/
namespace ObjectVolume

open Store (Memory memory KeyMap Bucket)
open Eviction (Target)

/-! ## Objects of a bucket that keeps one version -/

namespace Store

/-- The bucket with an object stored in it, where one version is kept. -/
def Bucket.place (b : Bucket) (key : String) (data : ByteArray) : Bucket :=
  { b with objects := b.objects.insert key [⟨none, some data⟩] }

/-- To store an object once more that is stored already changes nothing. -/
theorem Bucket.place_of_found {b : Bucket} {key : String} {data : ByteArray}
    (h : b.objects.find? key = some [⟨none, some data⟩]) : b.place key data = b := by
  rw [place, KeyMap.insert_find? h]

namespace Memory

variable {m : Memory} {name : String} {b : Bucket}

/-- The versions of a key of a bucket, if there are any. -/
def entry (m : Memory) (name key : String) : Option (List Version) :=
  (m.buckets.find? name).bind (·.objects.find? key)

theorem entry_eq (hb : m.buckets.find? name = some b) (key : String) :
    m.entry name key = b.objects.find? key := by
  simp [entry, hb]

@[simp]
theorem find?_setBucket_self (m : Memory) (name : String) (b : Bucket) :
    (m.setBucket name b).buckets.find? name = some b :=
  KeyMap.find?_insert_self ..

@[simp]
theorem setBucket_setBucket (m : Memory) (name : String) (b b' : Bucket) :
    (m.setBucket name b).setBucket name b' = m.setBucket name b' := by
  simp [setBucket, KeyMap.insert_insert]

theorem put_single (hb : m.buckets.find? name = some b) (single : b.versioned = false) (key : String)
    (data : ByteArray) : m.put name key data = (.ok (), m.setBucket name (b.place key data)) := by
  simp [put, hb, takeVersionId, single, Bucket.setVersions, Bucket.place]

end Memory

end Store

/-! ## Creating -/

namespace Descriptor

/-- The bucket with the marker of a volume and its descriptor. -/
def provide (d : Descriptor) (b : Bucket) : Bucket :=
  (b.place (Prefix.marker d.root) .empty).place (key d.root) d.stored

variable {d : Descriptor} {b : Bucket}

theorem find?_provide_key : (d.provide b).objects.find? (key d.root) = some [⟨none, some d.stored⟩] :=
  KeyMap.find?_insert_self ..

/-- What is provided lies below the prefix. -/
theorem find?_provide (hroot : Prefix.normalize d.root ≠ "") {k : String}
    (hk : ¬ (Prefix.scope d.root).toList <+: k.toList) :
    (d.provide b).objects.find? k = b.objects.find? k := by
  have hkey : key d.root ≠ k := by
    rintro rfl
    exact hk (scope_prefix_key_iff.2 (.inr (.inl rfl)))
  have hmarker : Prefix.marker d.root ≠ k := by
    rintro rfl
    have hscope : Prefix.scope d.root = Prefix.marker d.root :=
      if_neg fun h => hroot (isRoot_iff.1 h)
    exact hk (hscope ▸ List.prefix_rfl)
  simp only [provide, Bucket.place]
  rw [KeyMap.find?_insert_of_ne _ _ hkey, KeyMap.find?_insert_of_ne _ _ hmarker]

/-- To provide the same once more changes nothing. -/
theorem provide_provide (d : Descriptor) (b : Bucket) : d.provide (d.provide b) = d.provide b := by
  have hmarker : (d.provide b).objects.find? (Prefix.marker d.root) = some [⟨none, some .empty⟩] := by
    simp only [provide, Bucket.place]
    rw [KeyMap.find?_insert_of_ne _ _ (key_ne_marker _ _), KeyMap.find?_insert_self]
  rw [provide, Bucket.place_of_found hmarker, Bucket.place_of_found find?_provide_key]

end Descriptor

namespace Volume

/-- The bucket that a volume is created in: the one that is there, or a new one. -/
def home (m : Memory) (c : Config) (bucket : String) : Bucket :=
  (m.buckets.find? bucket).getD { region := c.region }

/-- The store with a volume. -/
def provided (m : Memory) (c : Config) (d : Descriptor) : Memory :=
  m.setBucket d.bucket (d.provide (home m c d.bucket))

end Volume

namespace Cli

variable {w : World Memory} {c : Config} {bucket root : String} {capacity : Int64}
  {options : List String}

/-- Marker and descriptor are stored in a bucket that is there. -/
theorem outcome_provide {b : Bucket} (live : w.token.isCancelled = false)
    (hb : w.store.buckets.find? bucket = some b) (single : b.versioned = false)
    (hroot : Prefix.normalize root ≠ "") {d : Descriptor} (hbucket : d.bucket = bucket)
    (hd : d.root = root) (doing doing' : String) :
    (step doing (Volume.createPrefix memory bucket root) >>= fun _ =>
      step doing' (Volume.writeDescriptor memory d)).run.outcome w =
        (.ok (.ok ()), { w with store := w.store.setBucket bucket (d.provide b) }) := by
  subst hbucket hd
  have hmarker : (Volume.createPrefix memory d.bucket d.root).outcome w = (.ok (),
      { w with store := w.store.setBucket d.bucket (b.place (Prefix.marker d.root) .empty) }) := by
    unfold Volume.createPrefix
    rw [if_neg fun h => hroot (Descriptor.isRoot_iff.1 h)]
    exact Operation.outcome_cancellable_call (r := .ok ()) live
      (by rw [Memory.putObject_memory, Memory.put_single hb single]; rfl)
  have hwrite : (Volume.writeDescriptor memory d).outcome
      { w with store := w.store.setBucket d.bucket (b.place (Prefix.marker d.root) .empty) } =
        (.ok (), { w with store := w.store.setBucket d.bucket (d.provide b) }) := by
    refine Operation.outcome_cancellable_call (r := .ok ()) live ?_
    have hput := Memory.put_single (Memory.find?_setBucket_self w.store d.bucket
      (b.place (Prefix.marker d.root) .empty)) single (Descriptor.key d.root) d.stored
    rw [Memory.putObject_memory]
    simp only [hput, Memory.setBucket_setBucket]
    rfl
  rw [outcome_step_bind hmarker, outcome_step, hwrite]
  rfl

/-- **Creating** a volume where one version of each object is kept. -/
theorem outcome_createVolume (live : w.token.isCancelled = false)
    (single : ∀ b, w.store.buckets.find? bucket = some b → b.versioned = false)
    (hroot : Prefix.normalize root ≠ "") :
    (createVolume memory c bucket root capacity options).run.outcome w =
      (.ok (.ok ()), { w with
        store := Volume.provided w.store c (Volume.describe c bucket root capacity options) }) := by
  have hexists : (Volume.bucketExists memory bucket).outcome w =
      (.ok (w.store.buckets.contains bucket), w) :=
    Operation.outcome_cancellable_call (r := .ok _) live rfl
  unfold createVolume checkBucket
  rw [outcome_step_bind hexists]
  cases hb : w.store.buckets.find? bucket with
  | some b =>
    have hhome : Volume.home w.store c bucket = b := by simp [Volume.home, hb]
    have hthere : w.store.buckets.contains bucket = true := by simp [KeyMap.contains, hb]
    rw [Volume.provided, hthere]
    simp only [Volume.describe, hhome]
    exact outcome_provide live hb (single b hb) hroot rfl rfl _ _
  | none =>
    have hhome : Volume.home w.store c bucket = { region := c.region } := by simp [Volume.home, hb]
    have hmissing : w.store.buckets.contains bucket = false := by simp [KeyMap.contains, hb]
    have hcreate : (Volume.createBucket memory c bucket).outcome w =
        (.ok (), { w with store := w.store.setBucket bucket { region := c.region } }) := by
      refine Operation.outcome_cancellable_call (r := .ok ()) live ?_
      rw [Memory.makeBucket_memory, Memory.makeBucket, hmissing]
      rfl
    rw [Volume.provided, hmissing]
    simp only [Volume.describe, hhome, Bool.not_false, if_true]
    rw [outcome_step_bind hcreate]
    refine (outcome_provide
      (w := { w with store := w.store.setBucket bucket { region := c.region } }) live
      (Memory.find?_setBucket_self ..) rfl hroot rfl rfl _ _).trans ?_
    rw [Memory.setBucket_setBucket]

end Cli

/-! ## What lies outside -/

namespace Volume

variable {m m' : Memory} {c : Config} {d : Descriptor} {bucket root : String}

/-- A bucket is there, and it is the one that was there if there was one; nothing outside a prefix has
changed in it, nor in other buckets. -/
structure KeptOutside (m : Memory) (c : Config) (bucket root : String) (m' : Memory) : Prop where
  others : ∀ name, name ≠ bucket → m'.buckets.find? name = m.buckets.find? name
  present : ∃ b, m'.buckets.find? bucket = some b ∧ b.versioned = false ∧
    b.region = ((m.buckets.find? bucket).map (·.region)).getD c.region
  keys : ∀ key, ¬ (Prefix.scope root).toList <+: key.toList →
    m'.entry bucket key = m.entry bucket key

theorem home_region (m : Memory) (c : Config) (bucket : String) :
    (home m c bucket).region = ((m.buckets.find? bucket).map (·.region)).getD c.region := by
  unfold home
  cases m.buckets.find? bucket <;> rfl

theorem home_versioned (single : ∀ b, m.buckets.find? bucket = some b → b.versioned = false) :
    (home m c bucket).versioned = false := by
  unfold home
  cases hb : m.buckets.find? bucket with
  | none => rfl
  | some b => exact single b hb

theorem find?_home (m : Memory) (c : Config) (bucket key : String) :
    (home m c bucket).objects.find? key = m.entry bucket key := by
  unfold home Memory.entry
  cases m.buckets.find? bucket <;> rfl

theorem find?_provided : (provided m c d).buckets.find? d.bucket =
    some (d.provide (home m c d.bucket)) :=
  Memory.find?_setBucket_self ..

/-- The bucket that a volume has been created in is the one to create it in. -/
theorem provided_provided : provided (provided m c d) c d = provided m c d := by
  have hhome : home (provided m c d) c d.bucket = d.provide (home m c d.bucket) := by
    rw [home, find?_provided]
    rfl
  rw [provided, hhome, Descriptor.provide_provide, provided, Memory.setBucket_setBucket]

theorem reachable_provided (h : m.Reachable)
    (single : ∀ b, m.buckets.find? d.bucket = some b → b.versioned = false) :
    (provided m c d).Reachable := by
  have hhome : (m.setBucket d.bucket (home m c d.bucket)).Reachable := by
    cases hb : m.buckets.find? d.bucket with
    | some b =>
      have hsame : m.setBucket d.bucket (home m c d.bucket) = m := by
        simp [home, hb, Memory.setBucket, KeyMap.insert_find? hb]
      rwa [hsame]
    | none =>
      have hmade := h.makeBucket d.bucket c.region
      have hmissing : m.buckets.contains d.bucket = false := by simp [KeyMap.contains, hb]
      simpa [Memory.makeBucket, hmissing, home, hb] using hmade
  have hmarker : (m.setBucket d.bucket
      ((home m c d.bucket).place (Prefix.marker d.root) .empty)).Reachable := by
    have hput := hhome.put d.bucket (Prefix.marker d.root) .empty
    rwa [Memory.put_single (Memory.find?_setBucket_self ..) (home_versioned single),
      Memory.setBucket_setBucket] at hput
  have hmarked : ((home m c d.bucket).place (Prefix.marker d.root) .empty).versioned = false :=
    home_versioned single
  have hput := hmarker.put d.bucket (Descriptor.key d.root) d.stored
  rwa [Memory.put_single (Memory.find?_setBucket_self ..) hmarked, Memory.setBucket_setBucket] at hput

/-- What is created lies below the prefix. -/
theorem keptOutside_provided (hroot : Prefix.normalize d.root ≠ "")
    (single : ∀ b, m.buckets.find? d.bucket = some b → b.versioned = false) :
    KeptOutside m c d.bucket d.root (provided m c d) := by
  refine ⟨fun name hname => ?_, ⟨_, find?_provided, home_versioned single, home_region m c d.bucket⟩, ?_⟩
  · exact KeyMap.find?_insert_of_ne _ _ (Ne.symm hname)
  · intro key hkey
    rw [Memory.entry_eq find?_provided, Descriptor.find?_provide hroot hkey, find?_home]

/-- What is evicted lies below the prefix. -/
theorem KeptOutside.evicted {outer : String} (h : KeptOutside m c bucket root m') {m'' : Memory}
    (hsame : Prefix.normalize outer = Prefix.normalize root)
    (hevicted : Eviction.Evicted m'.buckets bucket (.below outer) m''.buckets) :
    KeptOutside m c bucket root m'' ∧
      ∀ key, (Prefix.scope root).toList <+: key.toList → m''.entry bucket key = none := by
  have hscope : Prefix.scope outer = Prefix.scope root := by
    rw [← Prefix.scope_normalize outer, hsame, Prefix.scope_normalize]
  obtain ⟨b, hb, hversioned, hregion⟩ := h.present
  obtain ⟨b', hb', hregion', hversioned', hobjects⟩ := hevicted.emptied b hb
  have hcovers (key : String) : (Target.below outer).Covers key ↔
      (Prefix.scope root).toList <+: key.toList := by
    rw [← hscope]
    rfl
  refine ⟨⟨fun name hname => ?_, ⟨b', hb', hversioned'.trans hversioned, hregion'.trans hregion⟩, ?_⟩,
    ?_⟩
  · rw [hevicted.others name hname, h.others name hname]
  · intro key hkey
    rw [Memory.entry_eq hb', hobjects, if_neg (mt (hcovers key).1 hkey), ← h.keys key hkey,
      Memory.entry_eq hb]
  · intro key hkey
    rw [Memory.entry_eq hb', hobjects, if_pos ((hcovers key).2 hkey)]

end Volume

/-! ## Commands -/

namespace Session

open Volume (KeptOutside provided describe)

variable {s : Session Memory} {bucket root : String}

/-- The session after a volume has been created. -/
def providing (s : Session Memory) (d : Descriptor) : Session Memory :=
  { s with store := provided s.store s.client.config d }

theorem execute_create (live : s.client.token.isCancelled = false)
    (single : ∀ b, s.store.buckets.find? bucket = some b → b.versioned = false)
    (hroot : Prefix.normalize root ≠ "") (alarm : Option Moment) (capacity : Int64)
    (options : List String) :
    s.execute memory alarm (.create bucket root capacity options) =
      (.done (.ok ""), s.providing (describe s.client.config bucket root capacity options)) := by
  have hall : ((Cli.Command.create bucket root capacity options).execute memory
      s.client.config).run.outcome { store := s.store, token := s.client.token, alarm } =
        (.ok (.ok ""), {
          store := provided s.store s.client.config
            (describe s.client.config bucket root capacity options)
          token := s.client.token
          alarm }) := by
    change (Cli.createVolume memory s.client.config bucket root capacity options >>=
      fun _ => pure "").run.outcome _ = _
    rw [Cli.outcome_bind, Cli.outcome_createVolume live single hroot]
    rfl
  exact run_of_outcome hall

theorem execute_describe (live : s.client.token.isCancelled = false) {d : Descriptor}
    (hstored : s.store.object? bucket (Descriptor.key root) = some d.stored) (alarm : Option Moment) :
    s.execute memory alarm (.describe bucket root) = (.done (.ok (d.shown ++ "\n")), s) := by
  have hread : (Volume.readDescriptor memory bucket root).outcome
      { store := s.store, token := s.client.token, alarm } =
        (.ok d, { store := s.store, token := s.client.token, alarm }) := by
    rw [Volume.outcome_readDescriptor live]
    simp only [hstored, Descriptor.decodeBytes_stored, Except.mapError]
  have hall : ((Cli.Command.describe bucket root).execute memory s.client.config).run.outcome
      { store := s.store, token := s.client.token, alarm } =
        (.ok (.ok (d.shown ++ "\n")), { store := s.store, token := s.client.token, alarm }) := by
    change (Cli.step _ (Volume.readDescriptor memory bucket root) >>=
      fun d => pure (d.shown ++ "\n")).run.outcome _ = _
    rw [Cli.outcome_step_bind hread]
    rfl
  exact run_of_outcome hall

/-- A deletion where nothing is refused and no listing breaks off. -/
theorem execute_delete_prefix (reachable : s.store.Reachable)
    (live : s.client.token.isCancelled = false)
    (some_permit : 1 ≤ s.client.config.parallelism.toNat)
    (permits : s.client.config.parallelism.toNat ≤ Eviction.Single.maxPermits)
    (keys : s.store.faults.failingKeys = []) (listings : s.store.faults.failingListings = 0)
    (hb : (s.store.buckets.find? bucket).isSome = true) (hroot : Prefix.normalize root ≠ "") :
    ∃ s', s.execute memory none (.delete bucket root) = (.done (.ok ""), s') ∧
      Eviction.Evicted s.store.buckets bucket (.below root) s'.store.buckets := by
  have htarget : Cli.deletionTarget root = .below root := by
    have hne : root ≠ "" := by
      rintro rfl
      exact hroot rfl
    simp [Cli.deletionTarget, String.isEmpty_iff, hne]
  have hverdict := verdict_of_evict reachable.sound live some_permit permits bucket (.below root)
  obtain ⟨hiff, hevicted⟩ :=
    Eviction.verdict_done_iff (c := s.call bucket (.below root)) reachable.sound
  rw [← hverdict] at hiff hevicted
  obtain ⟨b, hb⟩ := Option.isSome_iff_exists.1 hb
  have hdone := hiff.2 ⟨b, hb, by omega, fun key _ _ => by simp [keys]⟩
  refine ⟨(s.evict memory none bucket (.below root)).2, ?_, hevicted hdone⟩
  rw [execute_delete, htarget]
  rcases hevict : s.evict memory none bucket (.below root) with ⟨answer, s'⟩
  rw [hevict] at hdone
  rw [show answer = .done () from hdone]
  rfl

/-- **The life of a volume.** Where no deletion is refused, no listing breaks off and one version of
each object is kept, a volume can be created, and once more with nothing changed, then described, and
deleted, whatever slashes end its prefix. Nothing outside the prefix changes on the way, and in the end
nothing is left inside. -/
theorem volume_lifecycle (s : Session Memory) (reachable : s.store.Reachable)
    (live : s.client.token.isCancelled = false)
    (some_permit : 1 ≤ s.client.config.parallelism.toNat)
    (permits : s.client.config.parallelism.toNat ≤ Eviction.Single.maxPermits)
    (keys : s.store.faults.failingKeys = []) (listings : s.store.faults.failingListings = 0)
    (bucket root : String)
    (single : ∀ b, s.store.buckets.find? bucket = some b → b.versioned = false)
    (hroot : Prefix.normalize root ≠ "") (capacity : Int64) (options : List String) :
    ∃ created : Session Memory,
      s.execute memory none (.create bucket root capacity options) = (.done (.ok ""), created) ∧
      KeptOutside s.store s.client.config bucket root created.store ∧
      created.execute memory none (.create bucket root capacity options) =
        (.done (.ok ""), created) ∧
      ∀ other, Prefix.normalize other = Prefix.normalize root →
        created.execute memory none (.describe bucket other) = (.done (.ok
          ((Descriptor.mk bucket root s.client.config.mounter options capacity).page ++ "\n")),
          created) ∧
        ∃ deleted : Session Memory,
          created.execute memory none (.delete bucket other) = (.done (.ok ""), deleted) ∧
          KeptOutside s.store s.client.config bucket root deleted.store ∧
          ∀ key, (Prefix.scope root).toList <+: key.toList →
            deleted.store.entry bucket key = none := by
  let d := describe s.client.config bucket root capacity options
  have hkept : KeptOutside s.store s.client.config bucket root (s.providing d).store :=
    Volume.keptOutside_provided (d := d) hroot single
  obtain ⟨b, hb, hversioned, -⟩ := hkept.present
  have hfind : (s.providing d).store.buckets.find? bucket = some _ :=
    Volume.find?_provided (d := d)
  refine ⟨s.providing d, execute_create live single hroot none capacity options, hkept, ?_,
    fun other hsame => ⟨?_, ?_⟩⟩
  · -- all that is to be stored is stored already
    have hsingle : ∀ b', (s.providing d).store.buckets.find? bucket = some b' →
        b'.versioned = false := by
      intro b' hb'
      rw [hb, Option.some.injEq] at hb'
      exact hb' ▸ hversioned
    have hagain : (s.providing d).providing d = s.providing d := by
      simp only [providing, Volume.provided_provided]
    have hcreate := execute_create (s := s.providing d) live hsingle hroot none capacity options
    exact hcreate.trans (congrArg _ hagain)
  · rw [← Descriptor.shown_eq_page]
    refine execute_describe (s := s.providing d) (d := d) live ?_ none
    rw [Memory.object?, hfind, Option.bind_some, Bucket.current,
      show Descriptor.key other = Descriptor.key d.root from Descriptor.key_inj.2 hsame,
      Descriptor.find?_provide_key]
    rfl
  · have hreachable : (s.providing d).store.Reachable :=
      Volume.reachable_provided (d := d) reachable single
    have hexists : ((s.providing d).store.buckets.find? bucket).isSome = true := by
      rw [hfind]
      rfl
    have hother : Prefix.normalize other ≠ "" := by
      rwa [hsame]
    obtain ⟨deleted, hdelete, hevicted⟩ :=
      execute_delete_prefix hreachable live some_permit permits keys listings hexists hother
    exact ⟨deleted, hdelete, hkept.evicted hsame hevicted⟩

/-- A client of a store without bulk deletions, with one object in a bucket. -/
def sharedSession : Session Memory where
  store := { ({} : Memory).seed "data" ["vol"] with faults := { bulk := .unsupported } }
  client :=
    ⟨{ credentials := ⟨"key", "secret", none⟩, region := "", endpoint := "http://[::1]",
       mounter := "s3fs" }, .fresh⟩

theorem volume_lifecycle_shared : ∃ created deleted : Session Memory,
    sharedSession.execute memory none (.create "data" "vol/" 5 ["ro", "name=\"a\tb\""]) =
      (.done (.ok ""), created) ∧
    created.execute memory none (.describe "data" "vol") = (.done (.ok
      "\x7b\n  \"Name\": \"data\",\n  \"Prefix\": \"vol/\",\n  \"Mounter\": \"s3fs\",\n  \"MountOptions\": [\n    \"ro\",\n    \"name=\\\"a\\tb\\\"\"\n  ],\n  \"CapacityBytes\": 5\n\x7d\n"),
      created) ∧
    created.execute memory none (.delete "data" "vol//") = (.done (.ok ""), deleted) ∧
    deleted.store.entry "data" "vol/.metadata.json" = none ∧
    deleted.store.entry "data" "vol" = some [⟨none, some .empty⟩] := by
  have hreachable : sharedSession.store.Reachable := .arm _ (.seed _ _ .empty)
  have hbucket : sharedSession.store.buckets.find? "data" =
      some (({} : Bucket).place "vol" .empty) := rfl
  have hsingle (b : Bucket) (hb : sharedSession.store.buckets.find? "data" = some b) :
      b.versioned = false := by
    rw [hbucket, Option.some.injEq] at hb
    exact hb ▸ rfl
  obtain ⟨created, hcreate, -, -, hother⟩ := volume_lifecycle sharedSession hreachable rfl
    (by decide) (by decide) rfl rfl "data" "vol/" hsingle (by decide) 5 ["ro", "name=\"a\tb\""]
  obtain ⟨hdescribe, -⟩ := hother "vol" (by decide)
  have hpage : (Descriptor.mk "data" "vol/" "s3fs" ["ro", "name=\"a\tb\""] 5).page ++ "\n" =
      "\x7b\n  \"Name\": \"data\",\n  \"Prefix\": \"vol/\",\n  \"Mounter\": \"s3fs\",\n  \"MountOptions\": [\n    \"ro\",\n    \"name=\\\"a\\tb\\\"\"\n  ],\n  \"CapacityBytes\": 5\n\x7d\n" := by
    decide +kernel
  rw [show sharedSession.client.config.mounter = "s3fs" from rfl, hpage] at hdescribe
  obtain ⟨-, deleted, hdelete, hkept, hgone⟩ := hother "vol//" (by decide)
  refine ⟨created, deleted, hcreate, hdescribe, hdelete, hgone _ (by decide), ?_⟩
  rw [hkept.keys "vol" (by decide)]
  rfl

end Session

end ObjectVolume
