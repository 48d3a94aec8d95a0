import Mathlib.Data.List.Basic
import ObjectVolume.Proofs.Store.Deletion
import ObjectVolume.Proofs.Text.ByteOrder
/-!
# What a listing in memory delivers

A listing finds the versions of the keys that start with its scope, each once: the keys in the order of
their bytes, and of one key the oldest version first. There is one list like that (`Bucket.Lists`), and
the scan that a listing makes comes to it. An armed listing delivers the start of it and breaks off,
and it is used up even where there is no bucket (`Memory.Reachable.lists`).
-/
namespace ObjectVolume.Store

open Text (bytes)

/-! ## The list of a scope -/

/-- The reference is listed before the other: by the bytes of its key, or as the older version of the
same key. -/
def ListedBefore (r s : ObjectRef) : Prop :=
  bytes r.key < bytes s.key ∨
    r.key = s.key ∧ ∃ n k, n < k ∧ r.version = some (versionId n) ∧ s.version = some (versionId k)

namespace ListedBefore

variable {r s : ObjectRef}

theorem irrefl (r : ObjectRef) : ¬ ListedBefore r r := by
  rintro (hlt | ⟨-, n, k, hlt, hr, hr'⟩)
  · exact List.lt_irrefl _ hlt
  · have := versionId_inj (Option.some.inj (hr.symm.trans hr'))
    omega

theorem asymm (h : ListedBefore r s) : ¬ ListedBefore s r := by
  rcases h with hlt | ⟨hkey, n, k, hlt, hr, hs⟩
  · rintro (hlt' | ⟨hkey, -⟩)
    · exact List.lt_asymm hlt hlt'
    · rw [hkey] at hlt
      exact List.lt_irrefl _ hlt
  · rintro (hlt' | ⟨-, n', k', hlt', hs', hr'⟩)
    · rw [hkey] at hlt'
      exact List.lt_irrefl _ hlt'
    · have hk := versionId_inj (Option.some.inj (hs.symm.trans hs'))
      have hn := versionId_inj (Option.some.inj (hr.symm.trans hr'))
      omega

end ListedBefore

namespace Bucket

/-- The references to what a bucket holds of the keys that start with `scope`. -/
structure Lists (b : Bucket) (scope : String) (refs : List ObjectRef) : Prop where
  /-- Of each of these keys every version, the marks of its deletions included. -/
  versions : ∀ key, refs.filter (fun ref => decide (ref.key = key)) =
    if scope.toList <+: key.toList then (b.versionsOf key).map fun v => ⟨key, v.id⟩ else []
  order : refs.Pairwise ListedBefore

variable {b : Bucket} {next : Nat} {scope : String} {refs refs' : List ObjectRef}

/-- There is no other list like that. -/
theorem Lists.unique (h : b.Lists scope refs) (h' : b.Lists scope refs') : refs = refs' := by
  have hnodup {l : List ObjectRef} (ordered : l.Pairwise ListedBefore) : l.Nodup := by
    refine ordered.imp ?_
    rintro r s hrs rfl
    exact ListedBefore.irrefl r hrs
  have hmem (ref : ObjectRef) : ref ∈ refs ↔ ref ∈ refs' := by
    have hsame := (h.versions ref.key).trans (h'.versions ref.key).symm
    have hkey (l : List ObjectRef) : ref ∈ l ↔ ref ∈ l.filter fun r => decide (r.key = ref.key) := by
      simp
    rw [hkey refs, hkey refs', hsame]
  have hperm := (List.perm_ext_iff_of_nodup (hnodup h.order) (hnodup h'.order)).2 hmem
  exact List.Perm.eq_of_pairwise (fun r s _ _ hrs hsr => absurd hsr hrs.asymm) h.order h'.order hperm

/-- The references to the versions of one key come from its entry. -/
theorem filter_key_flatMap (key : String) (l : List (String × List Version)) :
    (l.flatMap fun (key, vs) => vs.map fun v => (⟨key, v.id⟩ : ObjectRef)).filter
        (fun ref => decide (ref.key = key)) =
      (l.filter fun e => decide (e.1 = key)).flatMap fun (key, vs) => vs.map fun v => ⟨key, v.id⟩ := by
  induction l with
  | nil => rfl
  | cons e r ih =>
    rw [List.flatMap_cons, List.filter_append, ih]
    by_cases hk : e.1 = key <;> simp [List.filter_map, Function.comp_def, hk]

/-- The scan comes to that list. -/
theorem Sound.lists_refs (h : b.Sound next) (scope : String) : b.Lists scope (b.refs scope) := by
  have hversions {e : String × List Version} (he : e ∈ b.objects.entries) : b.versionsOf e.1 = e.2 :=
    versionsOf_eq_of_find? (KeyMap.find?_eq_some_iff.2 he)
  constructor
  case versions =>
    intro key
    unfold refs
    rw [KeyMap.withPrefix_eq_filter, filter_key_flatMap, List.filter_comm, KeyMap.filter_key]
    cases hf : b.objects.find? key with
    | none => simp [versionsOf, hf]
    | some vs =>
      rw [versionsOf_eq_of_find? hf]
      by_cases hp : scope.toList <+: key.toList
      · have hstarts : KeyMap.startsWith scope (key, vs) = true := KeyMap.startsWith_iff.2 hp
        simp [hstarts, hp]
      · have hstarts : KeyMap.startsWith scope (key, vs) = false := by
          rwa [← Bool.not_eq_true, KeyMap.startsWith_iff]
        simp [hstarts, hp]
  case order =>
    unfold refs
    rw [KeyMap.withPrefix_eq_filter]
    refine List.pairwise_flatMap.2 ⟨fun e he => ?_, ?_⟩
    · have hascending := (h.versions e.1).ascending
      rw [hversions (List.mem_filter.1 he).1] at hascending
      exact List.pairwise_map.2 (hascending.imp fun older => .inr ⟨rfl, older⟩)
    · refine (b.objects.sorted.sublist List.filter_sublist).imp ?_
      intro e e' hlt ref hr ref' hr'
      obtain ⟨v, -, rfl⟩ := List.mem_map.1 hr
      obtain ⟨v', -, rfl⟩ := List.mem_map.1 hr'
      exact .inl (Text.lt_iff_bytes_lt.1 hlt)

end Bucket

/-! ## Listings -/

/-- What whoever reads a listing is given: a pause gives nothing. -/
def given (events : List Event) : List Event :=
  events.filter fun
    | .pause => false
    | _ => true

namespace Memory

variable {m : Memory}

theorem given_pause_or {P : Prop} [Decidable P] (rest : List Event) :
    given (if P then .pause :: rest else rest) = given rest := by
  split <;> rfl

theorem given_found (ref : ObjectRef) (rest : List Event) :
    given (.found ref :: rest) = .found ref :: given rest := rfl

theorem given_events_none (i : Nat) (refs : List ObjectRef) :
    given (events none i refs) = refs.map .found := by
  induction refs generalizing i with
  | nil => rfl
  | cons ref rest ih =>
    unfold events
    rw [if_neg (by simp), given_pause_or, given_found, ih, List.map_cons]

theorem given_events_some {n i : Nat} (h : i ≤ n) (refs : List ObjectRef) :
    given (events (some n) i refs) =
      (refs.take (n - i)).map .found ++ [.failed (.backend .listingInterrupted)] := by
  induction refs generalizing i with
  | nil => rw [List.take_nil]; rfl
  | cons ref rest ih =>
    unfold events
    split
    next hi =>
      obtain rfl := Option.some.inj hi
      rw [Nat.sub_self, List.take_zero]
      rfl
    next hi =>
      have hlt : i < n := Nat.lt_of_le_of_ne h fun he => hi (he ▸ rfl)
      have hsub : n - i = n - (i + 1) + 1 := by omega
      rw [given_pause_or, given_found, ih hlt, hsub, List.take_succ_cons, List.map_cons,
        List.cons_append]

/-- The store after a listing: the listing is counted, and an armed failure is used up. -/
def listed (m : Memory) : Memory :=
  { m with
    faults := { m.faults with failingListings := m.faults.failingListings - 1 }
    counters := { m.counters with listings := m.counters.listings + 1 } }

theorem list_eq (m : Memory) (name scope : String) : m.list name scope =
    (match m.buckets.find? name with
      | none => [.failed (.backend (.noSuchBucket name))]
      | some b => events (m.breaksAt m.faults.failingListings) 0 (b.refs scope), m.listed) := by
  simp only [Memory.list, takeListingFault_eq]
  cases m.buckets.find? name <;> rfl

/-- **Listings.** In an existing bucket a listing scans the versions of the keys that start with
`scope`, and there is one list of these. Without an armed failure it delivers all of them. With one it
delivers the first of them and breaks off, be it at their end. In a missing bucket it fails. In any case
an armed failure is used up, and nothing else is changed but the count of listings. -/
theorem Reachable.lists (h : m.Reachable) (name scope : String) :
    (memory.listObjects name scope m).2 = m.listed ∧
    match m.buckets.find? name with
    | none =>
      (memory.listObjects name scope m).1 = [.failed (.backend (.noSuchBucket name))]
    | some b =>
      b.objects.withPrefix scope = b.objects.entries.filter (KeyMap.startsWith scope) ∧
      (∀ refs, b.Lists scope refs ↔ refs = b.refs scope) ∧
      given (memory.listObjects name scope m).1 =
        if m.faults.failingListings = 0 then (b.refs scope).map .found
        else
          ((b.refs scope).take (min m.faults.deliveredBefore (b.refs scope).length)).map .found ++
            [.failed (.backend .listingInterrupted)] := by
  have hlist : memory.listObjects name scope m = _ := m.list_eq name scope
  refine ⟨by rw [hlist], ?_⟩
  rw [hlist]
  cases hb : m.buckets.find? name with
  | none => rfl
  | some b =>
    have hscan := (h.sound name b hb).lists_refs scope
    refine ⟨b.objects.withPrefix_eq_filter scope, fun refs => ⟨fun hr => hr.unique hscan, ?_⟩, ?_⟩
    · rintro rfl
      exact hscan
    dsimp only
    split
    next harmed => rw [breaksAt, if_pos harmed, given_events_none]
    next harmed =>
      rw [breaksAt, if_neg harmed, given_events_some (Nat.zero_le _), ← List.take_eq_take_min]
      rfl

/-- Two versions of one key, a version and a mark of the deletion of another, and a key outside the
directory. Listings break off after three objects. -/
def accentedStore : Memory :=
  let m := ({} : Memory).createVersionedBucket "all"
  let m := (m.put "all" "v/é" .empty).2
  let m := (m.put "all" "v/z" .empty).2
  let m := (m.put "all" "v/z" .empty).2
  let m := (m.startRemoval.endRemoval "all" ⟨"v/é", none⟩).2
  let m := (m.put "all" "w" .empty).2
  { m with faults := { failingListings := 2, deliveredBefore := 3 } }

theorem accentedStore_reachable : accentedStore.Reachable :=
  .arm _ (.put _ _ _ (.endRemoval _ _ (.startRemoval
    (.put _ _ _ (.put _ _ _ (.put _ _ _ (.createVersionedBucket _ .empty)))))))

theorem accentedStore_lists :
    given (memory.listObjects "all" "v/" accentedStore).1 =
        [.found ⟨"v/z", some "v1"⟩, .found ⟨"v/z", some "v2"⟩, .found ⟨"v/é", some "v0"⟩,
          .failed (.backend .listingInterrupted)] ∧
      (memory.listObjects "all" "v/" accentedStore).2.faults.failingListings = 1 := by
  obtain ⟨hafter, hlist⟩ := accentedStore_reachable.lists "all" "v/"
  have hrefs : (accentedStore.buckets.find? "all").map (·.refs "v/") = some [⟨"v/z", some "v1"⟩,
      ⟨"v/z", some "v2"⟩, ⟨"v/é", some "v0"⟩, ⟨"v/é", some "v3"⟩] := by decide +kernel
  obtain ⟨b, hb, hrefs⟩ := Option.map_eq_some_iff.1 hrefs
  rw [hb] at hlist
  obtain ⟨-, -, hlist⟩ := hlist
  rw [if_neg (by decide), hrefs] at hlist
  rw [hafter]
  exact ⟨hlist, rfl⟩

end Memory

end ObjectVolume.Store
