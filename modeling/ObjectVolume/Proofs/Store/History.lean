import Mathlib.Data.List.Induction
import ObjectVolume.Proofs.Store.AnyOrder
/-!
# What a bucket holds after a history of calls

Objects of a bucket are stored and deleted, by versions or without. Where all versions are kept, a key
has those that were added to it and not deleted since by their ids (`surviving`); where one is kept, it
has the data that was stored last and not deleted since (`Stored`). Both are told from the calls alone.
`Since` is what such things have in common: something has happened, and nothing later has undone it.
-/
namespace ObjectVolume

/-! ## What holds since -/

section Since

variable {α : Type} {P : List α → α → Prop} {Q : α → Prop} {l : List α} {x : α}

/-- One of the things that happened was such that `P`, given those before it, and all later ones were such
that `Q`. -/
def Since (P : List α → α → Prop) (Q : α → Prop) (l : List α) : Prop :=
  ∃ before x later, l = before ++ x :: later ∧ P before x ∧ ∀ y ∈ later, Q y

theorem not_since_nil : ¬ Since P Q [] := by
  rintro ⟨before, x, later, hsplit, -⟩
  simp at hsplit

/-- It is the last one that was such, or one before and the last one has left it so. -/
theorem since_concat : Since P Q (l ++ [x]) ↔ P l x ∨ (Q x ∧ Since P Q l) := by
  constructor
  · rintro ⟨before, y, later, hsplit, hy, hlater⟩
    rcases List.eq_nil_or_concat later with rfl | ⟨later, last, rfl⟩
    · obtain ⟨rfl, hlast⟩ := List.append_inj' hsplit rfl
      rw [(List.cons.inj hlast).1]
      exact .inl hy
    · have hsplit : l ++ [x] = (before ++ y :: later) ++ [last] := by simpa using hsplit
      obtain ⟨rfl, hlast⟩ := List.append_inj' hsplit rfl
      rw [(List.cons.inj hlast).1]
      exact .inr ⟨hlater last (by simp), before, y, later, rfl, hy,
        fun z hz => hlater z (by simp [hz])⟩
  · rintro (hx | ⟨hkept, before, y, later, rfl, hy, hlater⟩)
    · exact ⟨l, x, [], rfl, hx, by simp⟩
    · refine ⟨before, y, later ++ [x], by simp, hy, ?_⟩
      intro z hz
      rcases List.mem_append.1 hz with hz | hz
      · exact hlater z hz
      · rw [List.mem_singleton.1 hz]
        exact hkept

end Since

namespace Store

/-! ## Edits -/

/-- What a call does to one object. -/
inductive Edit where
  | put (key : String) (data : ByteArray)
  | delete (ref : ObjectRef)

namespace Edit

instance : DecidableEq Edit
  | put key data, put key' data' =>
    decidable_of_iff (key = key' ∧ data.data = data'.data) (by rw [put.injEq, ByteArray.ext_iff])
  | delete ref, delete ref' => decidable_of_iff (ref = ref') (by rw [delete.injEq])
  | put _ _, delete _ => isFalse nofun
  | delete _, put _ _ => isFalse nofun

def key : Edit → String
  | put key _ => key
  | delete ref => ref.key

/-- What the edit adds where all versions are kept: data, or the mark of a deletion. -/
def added : Edit → Option (Option ByteArray)
  | put _ data => some (some data)
  | delete ⟨_, none⟩ => some none
  | delete ⟨_, some _⟩ => none

/-- What becomes of the versions of its key. A version that is added has the number `n`. -/
def change (versioned : Bool) (n : Nat) (vs : List Version) : Edit → List Version
  | put _ data =>
    if versioned then vs ++ [⟨some (versionId n), some data⟩] else [⟨none, some data⟩]
  | delete ⟨_, none⟩ => if versioned then vs ++ [⟨some (versionId n), none⟩] else []
  | delete ⟨_, some id⟩ => vs.filter (·.id ≠ some id)

end Edit

/-- How many versions the edits add where all are kept. -/
def additions (edits : List Edit) : Nat :=
  edits.countP (·.added.isSome)

/-- The versions of a key where all are kept, in the order of the edits: those that were added to it,
from number `n` on, and that no later edit has deleted by the key and their id. -/
def surviving (key : String) : Nat → List Edit → List Version
  | _, [] => []
  | n, e :: later =>
    match e.added with
    | none => surviving key n later
    | some data =>
      if e.key = key ∧ .delete ⟨key, some (versionId n)⟩ ∉ later then
        ⟨some (versionId n), data⟩ :: surviving key (n + 1) later
      else surviving key (n + 1) later

/-- Data of a key where one version is kept: it was stored, and the key neither stored nor deleted
since. -/
def Stored (key : String) (edits : List Edit) (data : ByteArray) : Prop :=
  Since (fun _ e => e = .put key data)
    (fun e => (∀ other, e ≠ .put key other) ∧ e ≠ .delete ⟨key, none⟩) edits

/-! ### Where all versions are kept -/

section Surviving

variable {key : String} {n : Nat} {edits : List Edit}

theorem additions_concat (edits : List Edit) (e : Edit) :
    additions (edits ++ [e]) = additions edits + if e.added.isSome then 1 else 0 := by
  simp [additions, List.countP_append, List.countP_singleton]

/-- A version that is added joins those that have survived. -/
theorem surviving_concat_added {e : Edit} {data : Option ByteArray} (h : e.added = some data) :
    surviving key n (edits ++ [e]) = surviving key n edits ++
      if e.key = key then [⟨some (versionId (n + additions edits)), data⟩] else [] := by
  -- what adds a version deletes none
  have hkeeps (id : String) : Edit.delete ⟨key, some id⟩ ≠ e := by
    rintro rfl
    cases h
  induction edits generalizing n with
  | nil => by_cases hk : e.key = key <;> simp [surviving, h, hk, additions]
  | cons first later ih =>
    cases ha : first.added with
    | none => simp [surviving, ha, ih, additions]
    | some d =>
      have hnumber : n + 1 + additions later = n + additions (first :: later) := by
        simp only [additions, List.countP_cons, ha, Option.isSome_some, if_true]
        omega
      simp only [surviving, List.cons_append, ha, ih, hnumber, List.mem_append, List.mem_singleton,
        hkeeps, or_false]
      split <;> simp

/-- A deletion by id takes away the version of that key with that id. -/
theorem surviving_concat_deleted (k id : String) :
    surviving key n (edits ++ [.delete ⟨k, some id⟩]) =
      if k = key then (surviving key n edits).filter (·.id ≠ some id) else surviving key n edits := by
  induction edits generalizing n with
  | nil => simp [surviving, Edit.added]
  | cons first later ih =>
    cases ha : first.added with
    | none => simpa [surviving, ha] using ih
    | some d =>
      simp only [surviving, List.cons_append, ha, ih, List.mem_append, List.mem_singleton]
      by_cases hk : k = key
      · subst hk
        by_cases hkept : first.key = k ∧ Edit.delete ⟨k, some (versionId n)⟩ ∉ later
        · by_cases hid : versionId n = id
          · subst hid
            simp [hkept]
          · simp [hkept, hid]
        · have hgone : ¬ (first.key = k ∧ ¬ (Edit.delete ⟨k, some (versionId n)⟩ ∈ later ∨
              Edit.delete ⟨k, some (versionId n)⟩ = Edit.delete ⟨k, some id⟩)) :=
            fun h => hkept ⟨h.1, fun hm => h.2 (.inl hm)⟩
          simp only [if_neg hkept, if_neg hgone, if_true]
      · simp [hk, Ne.symm hk]

/-- **One more edit** where all versions are kept. -/
theorem surviving_concat (e : Edit) : surviving key n (edits ++ [e]) =
    if e.key = key then e.change true (n + additions edits) (surviving key n edits)
    else surviving key n edits := by
  match e with
  | .put k data =>
    have hadded : (Edit.put k data).added = some (some data) := rfl
    rw [surviving_concat_added hadded]
    by_cases hk : k = key <;> simp [Edit.key, Edit.change, hk]
  | .delete ⟨k, none⟩ =>
    have hadded : (Edit.delete ⟨k, none⟩).added = some none := rfl
    rw [surviving_concat_added hadded]
    by_cases hk : k = key <;> simp [Edit.key, Edit.change, hk]
  | .delete ⟨k, some id⟩ => exact surviving_concat_deleted k id

end Surviving

/-! ### Where one version is kept -/

section Stored

variable {key : String} {edits : List Edit} {data : ByteArray}

/-- **One more edit** where one version is kept. -/
theorem stored_concat (e : Edit) : Stored key (edits ++ [e]) data ↔
    e = .put key data ∨ ((∀ other, e ≠ .put key other) ∧ e ≠ .delete ⟨key, none⟩) ∧
      Stored key edits data :=
  since_concat

/-- The versions of a key that is stored with these data, or not at all. -/
def lone (data : Option ByteArray) : List Version :=
  data.toList.map fun d => ⟨none, some d⟩

/-- The data that a key is stored with after an edit. -/
def Edit.store (key : String) (current : Option ByteArray) : Edit → Option ByteArray
  | .put k data => if k = key then some data else current
  | .delete ⟨k, none⟩ => if k = key then none else current
  | .delete ⟨_, some _⟩ => current

/-- The data that a key is stored with after edits. -/
def stored? (key : String) (edits : List Edit) : Option ByteArray :=
  edits.foldl (Edit.store key) none

theorem stored?_concat (e : Edit) :
    stored? key (edits ++ [e]) = e.store key (stored? key edits) := by
  simp [stored?]

theorem stored?_eq_some_iff : stored? key edits = some data ↔ Stored key edits data := by
  induction edits using List.reverseRecOn with
  | nil => simp [stored?, Stored, not_since_nil]
  | append_singleton edits e ih =>
    rw [stored?_concat, stored_concat, ← ih]
    match e with
    | .put k d => by_cases hk : k = key <;> simp [Edit.store, hk]
    | .delete ⟨k, none⟩ => by_cases hk : k = key <;> simp [Edit.store, hk]
    | .delete ⟨k, some id⟩ => simp [Edit.store]

theorem lone_store (e : Edit) (n : Nat) (current : Option ByteArray) :
    lone (e.store key current) =
      if e.key = key then e.change false n (lone current) else lone current := by
  match e with
  | .put k d => by_cases hk : k = key <;> simp [Edit.store, Edit.key, Edit.change, lone, hk]
  | .delete ⟨k, none⟩ =>
    by_cases hk : k = key <;> simp [Edit.store, Edit.key, Edit.change, lone, hk]
  | .delete ⟨k, some id⟩ =>
    -- the version that is kept has no id
    have hall : (lone current).filter (·.id ≠ some id) = lone current := by
      cases current <;> simp [lone]
    simp only [Edit.store, Edit.key, Edit.change, hall, ite_self]

end Stored

/-- The versions of a key after edits of a bucket that was empty. -/
def versionsAfter (versioned : Bool) (key : String) (n : Nat) (edits : List Edit) : List Version :=
  if versioned then surviving key n edits else lone (stored? key edits)

theorem versionsAfter_concat (versioned : Bool) (key : String) (n : Nat) (edits : List Edit)
    (e : Edit) : versionsAfter versioned key n (edits ++ [e]) =
      if e.key = key then
        e.change versioned (n + additions edits) (versionsAfter versioned key n edits)
      else versionsAfter versioned key n edits := by
  cases versioned with
  | true => exact surviving_concat e
  | false =>
    simp only [versionsAfter, Bool.false_eq_true, if_false, stored?_concat]
    exact lone_store e _ _

/-- Nothing becomes of the versions of a key: the edit is of another one, or it names an id where there
are none. -/
def Edit.Spares (versioned : Bool) (key : String) (e : Edit) : Prop :=
  e.key = key → versioned = false ∧ ∃ id, e = .delete ⟨key, some id⟩

theorem versionsAfter_append {versioned : Bool} {key : String} {later : List Edit}
    (spared : ∀ e ∈ later, e.Spares versioned key) (n : Nat) (edits : List Edit) :
    versionsAfter versioned key n (edits ++ later) = versionsAfter versioned key n edits := by
  induction later using List.reverseRecOn with
  | nil => rw [List.append_nil]
  | append_singleton later e ih =>
    rw [← List.append_assoc, versionsAfter_concat,
      ih fun e' he' => spared e' (List.mem_append_left _ he')]
    split
    next hk =>
      obtain ⟨rfl, id, rfl⟩ := spared e (by simp) hk
      simp [versionsAfter, Edit.change, lone]
    next => rfl

/-! ## Accesses -/

/-- A call that stores an object, or a part of one that deletes. Parts of several calls may come in any
order. -/
inductive Access where
  | put (key : String) (data : ByteArray)
  | delete (d : Deletion)

namespace Access

/-- What an access does to objects, one after the other. -/
def edits : Access → List Edit
  | put key data => [.put key data]
  | delete d => d.refs.map .delete

/-- A bulk deletion depends on how these are answered. -/
def Supported (m : Memory) : Access → Prop
  | put _ _ => True
  | delete d => d.isRequest = true → m.faults.bulk = .supported

/-- It is answered with success. -/
def Succeeds (name : String) (m : Memory) : Access → Prop
  | put key data => (memory.putObject name key data m).1 = .done ()
  | delete d => (d.perform name m).1 = []

/-- The store after an access to a bucket. -/
def after (name : String) (m : Memory) : Access → Memory
  | put key data => (memory.putObject name key data m).2
  | delete d => (d.perform name m).2

def afterAll (name : String) (m : Memory) (accesses : List Access) : Memory :=
  accesses.foldl (after name) m

end Access

namespace Edit

/-- The call that does no more than this edit. -/
def perform (name : String) (m : Memory) : Edit → Except StoreProblem Unit × Memory
  | put key data => m.put name key data
  | delete ref => m.delete name ref

end Edit

namespace Memory

variable {m m₀ : Memory} {name : String} {b : Bucket} {edits : List Edit}

theorem Sound.edit (hs : m.Sound) (name : String) (e : Edit) : (e.perform name m).2.Sound := by
  cases e with
  | put key data => exact hs.put name key data
  | delete ref => exact hs.delete name ref

/-- **One edit** succeeds, puts the versions of its key in place, and takes a number for a version
that is kept beside others. -/
theorem edit_eq (hs : m.Sound) (hb : m.buckets.find? name = some b)
    (keys : m.faults.failingKeys = []) (e : Edit) : e.perform name m =
      (.ok (), { m with
        buckets := m.buckets.insert name
          (b.setVersions e.key (e.change b.versioned m.nextVersion (b.versionsOf e.key)))
        nextVersion := m.nextVersion + if b.versioned ∧ e.added.isSome then 1 else 0 }) := by
  match e with
  | .put key data =>
    cases hv : b.versioned <;>
      simp [Edit.perform, put, hb, takeVersionId, hv, setBucket, Edit.key, Edit.change, Edit.added,
        versionId]
  | .delete ⟨key, none⟩ =>
    cases hv : b.versioned <;>
      simp [Edit.perform, delete, hb, keys, takeVersionId, hv, setBucket, Edit.key, Edit.change,
        Edit.added, versionId]
  | .delete ⟨key, some id⟩ =>
    by_cases hvs : b.versionsOf key = []
    · -- there is nothing to delete
      have hsame : b.setVersions key [] = b := hvs ▸ (hs name b hb).setVersions_self key
      simp [Edit.perform, delete, hb, keys, Edit.key, Edit.change, Edit.added, hvs, hsame,
        KeyMap.insert_find? hb]
    · have hfilter : (b.versionsOf key).filter (·.id != some id) =
          (b.versionsOf key).filter (·.id ≠ some id) :=
        List.filter_congr fun v _ => by by_cases hv : v.id = some id <;> simp [hv]
      simp only [Edit.perform, delete, hb, keys, hfilter]
      simp [hvs, setBucket, Edit.key, Edit.change, Edit.added]

/-- The versions of a key of a bucket; none if there is no such bucket. -/
def versionsOf (m : Memory) (name key : String) : List Version :=
  match m.buckets.find? name with
  | none => []
  | some b => b.versionsOf key

theorem versionsOf_eq (hb : m.buckets.find? name = some b) (key : String) :
    m.versionsOf name key = b.versionsOf key := by
  simp [versionsOf, hb]

/-- What has come of a store after edits of a bucket that was empty. -/
structure Edited (m₀ : Memory) (name : String) (b₀ : Bucket) (edits : List Edit) (m : Memory) : Prop
    where
  sound : m.Sound
  faults : m.faults = m₀.faults
  next : m.nextVersion = m₀.nextVersion + if b₀.versioned then additions edits else 0
  others : ∀ other, other ≠ name → m.buckets.find? other = m₀.buckets.find? other
  bucket : ∃ b, m.buckets.find? name = some b ∧ b.region = b₀.region ∧
    b.versioned = b₀.versioned ∧
    ∀ key, b.versionsOf key = versionsAfter b₀.versioned key m₀.nextVersion edits

namespace Edited

variable {b₀ : Bucket}

theorem start (hs : m.Sound) (hb : m.buckets.find? name = some b) (empty : b.objects = .empty) :
    Edited m name b [] m := by
  refine ⟨hs, rfl, by simp [additions], fun _ _ => rfl, b, hb, rfl, rfl, fun key => ?_⟩
  have hnone : versionsAfter b.versioned key m.nextVersion [] = [] := by
    cases b.versioned <;> rfl
  simp [Bucket.versionsOf, empty, hnone]

theorem counters (h : Edited m₀ name b₀ edits m) (counters : Counters) :
    Edited m₀ name b₀ edits { m with counters } :=
  ⟨h.sound, h.faults, h.next, h.others, h.bucket⟩

theorem edit (h : Edited m₀ name b₀ edits m) (keys : m₀.faults.failingKeys = []) (e : Edit) :
    (e.perform name m).1 = .ok () ∧ Edited m₀ name b₀ (edits ++ [e]) (e.perform name m).2 := by
  obtain ⟨b, hb, hregion, hversioned, hversions⟩ := h.bucket
  have hedit := edit_eq h.sound hb (h.faults ▸ keys) e
  have hsound := h.sound.edit name e
  rw [hedit] at hsound ⊢
  refine ⟨rfl, hsound, h.faults, ?_, fun other hne => ?_, _, KeyMap.find?_insert_self .., hregion,
    hversioned, fun key => ?_⟩
  · -- the number of the next version
    simp only [h.next, hversioned, additions_concat]
    cases b₀.versioned <;> simp [Nat.add_assoc]
  · rw [KeyMap.find?_insert_of_ne _ _ (Ne.symm hne), h.others other hne]
  · rw [Bucket.versionsOf_setVersions, versionsAfter_concat, hversions, hversions, hversioned]
    by_cases hk : key = e.key
    · subst hk
      -- without versions in sequence, no number is taken and none is asked for
      cases hv : b₀.versioned with
      | true => simp [h.next, hv]
      | false => cases e with
        | put k d => simp [Edit.change]
        | delete ref => obtain ⟨k, version⟩ := ref; cases version <;> simp [Edit.change]
    · rw [if_neg hk, if_neg (Ne.symm hk)]

theorem deleteAll (h : Edited m₀ name b₀ edits m) (keys : m₀.faults.failingKeys = [])
    (refs : List ObjectRef) : (m.deleteAll name refs).1 = [] ∧
      Edited m₀ name b₀ (edits ++ refs.map .delete) (m.deleteAll name refs).2 := by
  induction refs generalizing m edits with
  | nil =>
    rw [List.map_nil, List.append_nil]
    exact ⟨rfl, h⟩
  | cons ref rest ih =>
    obtain ⟨hok, hone⟩ := h.edit keys (.delete ref)
    obtain ⟨hnone, hrest⟩ := ih hone
    rw [List.append_assoc] at hrest
    refine ⟨?_, (deleteAll_cons_snd m name ref rest).symm ▸ hrest⟩
    change (m.delete name ref).1 = .ok () at hok
    simp only [Memory.deleteAll, hok]
    exact hnone

theorem bulkRequests (h : Edited m₀ name b₀ edits m) (keys : m₀.faults.failingKeys = [])
    (bulk : m₀.faults.bulk = .supported) (batches : List (List ObjectRef)) :
    (m.bulkRequests name batches).1 = [] ∧
      Edited m₀ name b₀ (edits ++ batches.flatten.map .delete) (m.bulkRequests name batches).2 := by
  induction batches generalizing m edits with
  | nil =>
    rw [List.flatten_nil, List.map_nil, List.append_nil]
    exact ⟨rfl, h⟩
  | cons batch rest ih =>
    have hsupported : m.faults.bulk = .supported := h.faults ▸ bulk
    obtain ⟨hnone, hone⟩ := (h.counters
      { m.counters with bulkRequests := m.counters.bulkRequests + 1 }).deleteAll keys batch
    have hrequest : m.bulkRequest name batch = ({ m with counters :=
        { m.counters with bulkRequests := m.counters.bulkRequests + 1 } } : Memory).deleteAll
          name batch := by
      simp only [bulkRequest, hsupported]
    rw [← hrequest] at hnone hone
    obtain ⟨hlater, hrest⟩ := ih hone
    refine ⟨by simp only [Memory.bulkRequests, hnone, hlater, List.append_nil], ?_⟩
    rw [List.flatten_cons, List.map_append, ← List.append_assoc]
    exact hrest

/-- **One access** succeeds and does its edits. -/
theorem access (h : Edited m₀ name b₀ edits m) (keys : m₀.faults.failingKeys = []) {a : Access}
    (supported : a.Supported m₀) :
    a.Succeeds name m ∧ Edited m₀ name b₀ (edits ++ a.edits) (a.after name m) := by
  match a with
  | .put key data =>
    obtain ⟨hok, hedited⟩ := h.edit keys (.put key data)
    change (m.put name key data).1 = .ok () at hok
    refine ⟨?_, hedited⟩
    change Reply.ofExcept (m.put name key data).1 = .done ()
    rw [hok]
    rfl
  | .delete (.start ref) =>
    rw [Access.edits, Deletion.refs, List.map_nil, List.append_nil]
    exact ⟨rfl, h.counters m.startRemoval.counters⟩
  | .delete (.finish ref) =>
    obtain ⟨hok, hedited⟩ := h.edit keys (.delete ref)
    change (m.delete name ref).1 = .ok () at hok
    refine ⟨?_, hedited.counters _⟩
    change Deletion.report ref (Reply.ofExcept (m.delete name ref).1) = []
    rw [hok]
    rfl
  | .delete (.request refs) =>
    have hall := h.bulkRequests keys (supported rfl) (chunks batchSize refs)
    rwa [flatten_chunks (by decide)] at hall

/-- **A whole history** of accesses does the edits of each. -/
theorem accesses (h : Edited m₀ name b₀ edits m) (keys : m₀.faults.failingKeys = [])
    {accesses : List Access} (supported : ∀ a ∈ accesses, a.Supported m₀) :
    Edited m₀ name b₀ (edits ++ accesses.flatMap Access.edits) (Access.afterAll name m accesses) := by
  induction accesses generalizing m edits with
  | nil =>
    rw [List.flatMap_nil, List.append_nil]
    exact h
  | cons a rest ih =>
    have hone := (h.access keys (supported a List.mem_cons_self)).2
    rw [List.flatMap_cons, ← List.append_assoc]
    exact ih hone fun b hb => supported b (List.mem_cons_of_mem a hb)

theorem versionsOf (h : Edited m₀ name b₀ edits m) (key : String) :
    m.versionsOf name key = versionsAfter b₀.versioned key m₀.nextVersion edits := by
  obtain ⟨b, hb, -, -, hversions⟩ := h.bucket
  rw [versionsOf_eq hb, hversions]

/-- Edits that spare all keys change no bucket. -/
theorem buckets_eq {m' : Memory} {later : List Edit} (h : Edited m₀ name b₀ edits m)
    (h' : Edited m₀ name b₀ (edits ++ later) m')
    (spared : ∀ key, ∀ e ∈ later, e.Spares b₀.versioned key) : m'.buckets = m.buckets := by
  obtain ⟨b, hb, hregion, hversioned, hversions⟩ := h.bucket
  obtain ⟨b', hb', hregion', hversioned', hversions'⟩ := h'.bucket
  have hsame : b' = b := (h'.sound name b' hb').ext (h.sound name b hb)
    (hregion'.trans hregion.symm) (hversioned'.trans hversioned.symm) fun key => by
      rw [hversions', hversions, versionsAfter_append (spared key)]
  apply KeyMap.ext_find?
  intro other
  by_cases hne : other = name
  · rw [hne, hb', hb, hsame]
  · rw [h'.others other hne, h.others other hne]

/-- Once the newest version is deleted by its id, those before it are left. -/
theorem surviving_dropLast (h : Edited m₀ name b₀ edits m) (versioned : b₀.versioned = true)
    {key id : String} {older : List Version} {data : Option ByteArray}
    (hlast : surviving key m₀.nextVersion edits = older ++ [⟨some id, data⟩]) :
    surviving key m₀.nextVersion (edits ++ [.delete ⟨key, some id⟩]) = older := by
  rw [surviving_concat_deleted, if_pos rfl, hlast]
  -- no other version has this id
  obtain ⟨b, hb, -, -, hversions⟩ := h.bucket
  have hdistinct := ((h.sound name b hb).versions key).distinct
  rw [hversions, versionsAfter, if_pos versioned, hlast, List.map_append, List.nodup_append]
    at hdistinct
  have hkept : ∀ v ∈ older, v.id ≠ some id := fun v hv =>
    hdistinct.2.2 v.id (List.mem_map_of_mem hv) (some id) (by simp)
  have holder : older.filter (·.id ≠ some id) = older :=
    List.filter_eq_self.2 fun v hv => by simpa using hkept v hv
  rw [List.filter_append, holder]
  simp

end Edited

/-! ## What the history tells -/

/-- What is answered for a key that has these versions: the data of the last one. -/
def newest (name key : String) (vs : List Version) : Reply ByteArray :=
  match vs.getLast?.bind (·.data) with
  | some data => .done data
  | none => .failed (.backend (.noSuchKey name key))

theorem getObject_eq (hs : m.Sound) (name key : String) :
    memory.getObject name key m = (newest name key (m.versionsOf name key), m) := by
  have hobject : m.object? name key = (m.versionsOf name key).getLast?.bind (·.data) := by
    unfold object? Memory.versionsOf
    cases hb : m.buckets.find? name with
    | none => rfl
    | some b =>
      simp only [Option.bind_some, Bucket.current, (hs name b hb).find?_eq key]
      generalize b.versionsOf key = vs
      by_cases hvs : vs = [] <;> simp [Bucket.entry, hvs]
  have hget : memory.getObject name key m = (.ofExcept (m.get name key), m) := rfl
  rw [hget, get, newest, hobject]
  cases (m.versionsOf name key).getLast?.bind (·.data) <;> rfl

/-- Every further access succeeds, and changes nothing but the keys that it names. -/
structure Undisturbed (m₀ : Memory) (name : String) (m : Memory) : Prop where
  succeeds : ∀ a : Access, a.Supported m₀ → a.Succeeds name m
  others : ∀ a : Access, a.Supported m₀ → ∀ other, other ≠ name →
    (a.after name m).buckets.find? other = m₀.buckets.find? other
  keys : ∀ a : Access, a.Supported m₀ → ∀ key, (∀ e ∈ a.edits, e.key ≠ key) →
    (a.after name m).versionsOf name key = m.versionsOf name key

/-- A bucket that keeps all versions has those that have survived, and answers with the last one. When
that is deleted by its id, the one before answers again. -/
structure KeepsAll (m₀ : Memory) (name : String) (edits : List Edit) (m : Memory) : Prop where
  versions : ∀ key, m.versionsOf name key = surviving key m₀.nextVersion edits
  answers : ∀ key, memory.getObject name key m =
    (newest name key (surviving key m₀.nextVersion edits), m)
  revives : ∀ key older id data,
    surviving key m₀.nextVersion edits = older ++ [⟨some id, data⟩] →
    ∀ a : Access, a.Supported m₀ → a.edits = [.delete ⟨key, some id⟩] →
      (a.after name m).versionsOf name key = older ∧
      (memory.getObject name key (a.after name m)).1 = newest name key older

/-- A bucket that keeps one version answers with what was stored last and not deleted since. The
deletion of an id changes nothing. -/
structure KeepsOne (m₀ : Memory) (name : String) (edits : List Edit) (m : Memory) : Prop where
  found : ∀ key data, memory.getObject name key m = (.done data, m) ↔ Stored key edits data
  missing : ∀ key, memory.getObject name key m = (.failed (.backend (.noSuchKey name key)), m) ↔
    ∀ data, ¬ Stored key edits data
  ignores : ∀ a : Access, a.Supported m₀ →
    (∀ e ∈ a.edits, ∃ key id, e = .delete ⟨key, some id⟩) → (a.after name m).buckets = m.buckets

namespace Edited

variable {b₀ : Bucket}

theorem undisturbed (h : Edited m₀ name b₀ edits m) (keys : m₀.faults.failingKeys = []) :
    Undisturbed m₀ name m := by
  refine ⟨fun a ha => (h.access keys ha).1, fun a ha => (h.access keys ha).2.others, ?_⟩
  intro a ha key hkey
  rw [(h.access keys ha).2.versionsOf, h.versionsOf]
  exact versionsAfter_append (fun e he hk => absurd hk (hkey e he)) _ _

theorem keepsAll (h : Edited m₀ name b₀ edits m) (keys : m₀.faults.failingKeys = [])
    (versioned : b₀.versioned = true) : KeepsAll m₀ name edits m := by
  have hversions (key : String) : m.versionsOf name key = surviving key m₀.nextVersion edits := by
    rw [h.versionsOf, versionsAfter, if_pos versioned]
  refine ⟨hversions, fun key => by rw [getObject_eq h.sound, hversions], ?_⟩
  intro key older id data hlast a ha hedits
  have hafter := (h.access keys ha).2
  rw [hedits] at hafter
  have hleft : (a.after name m).versionsOf name key = older := by
    rw [hafter.versionsOf, versionsAfter, if_pos versioned, h.surviving_dropLast versioned hlast]
  exact ⟨hleft, by rw [getObject_eq hafter.sound, hleft]⟩

theorem keepsOne (h : Edited m₀ name b₀ edits m) (keys : m₀.faults.failingKeys = [])
    (single : b₀.versioned = false) : KeepsOne m₀ name edits m := by
  have hversions (key : String) : m.versionsOf name key = lone (stored? key edits) := by
    rw [h.versionsOf, versionsAfter, if_neg (by simp [single])]
  refine ⟨fun key data => ?_, fun key => ?_, fun a ha hids => ?_⟩
  · rw [getObject_eq h.sound, hversions, ← stored?_eq_some_iff]
    cases stored? key edits <;> simp [lone, newest]
  · simp only [getObject_eq h.sound, hversions, ← stored?_eq_some_iff]
    cases stored? key edits <;> simp [lone, newest]
  · refine h.buckets_eq (h.access keys ha).2 fun key e he hk => ⟨single, ?_⟩
    obtain ⟨k, id, rfl⟩ := hids e he
    exact ⟨id, by rw [show k = key from hk]⟩

end Edited

/-- **Histories.** After any history of accesses to a bucket that was empty, further ones succeed and
disturb nothing else, and the bucket holds what the history tells. -/
theorem Reachable.history (hm : m.Reachable) (hb : m.buckets.find? name = some b)
    (empty : b.objects = .empty) (keys : m.faults.failingKeys = []) (accesses : List Access)
    (supported : ∀ a ∈ accesses, a.Supported m) :
    Undisturbed m name (Access.afterAll name m accesses) ∧
      (b.versioned = true →
        KeepsAll m name (accesses.flatMap Access.edits) (Access.afterAll name m accesses)) ∧
      (b.versioned = false →
        KeepsOne m name (accesses.flatMap Access.edits) (Access.afterAll name m accesses)) := by
  have hedited := (Edited.start hm.sound hb empty).accesses keys supported
  exact ⟨hedited.undisturbed keys, hedited.keepsAll keys, hedited.keepsOne keys⟩

/-- An object is stored, and its key deleted. -/
def storedAndDeleted : List Access := [.put "k" .empty, .delete (.finish ⟨"k", none⟩)]

/-- The store after that. -/
def afterDeletion (m : Memory) : Memory := Access.afterAll "b" m storedAndDeleted

/-- Where all versions are kept, the deletion of the mark brings the object back; else it is gone. -/
theorem storedAndDeleted_history :
    (memory.getObject "b" "k" (afterDeletion (({} : Memory).createVersionedBucket "b"))).1 =
        .failed (.backend (.noSuchKey "b" "k")) ∧
      (memory.getObject "b" "k"
        (Access.after "b" (afterDeletion (({} : Memory).createVersionedBucket "b"))
          (.delete (.request [⟨"k", some "v1"⟩])))).1 = .done .empty ∧
      (memory.getObject "b" "k" (afterDeletion (({} : Memory).seed "b" []))).1 =
        .failed (.backend (.noSuchKey "b" "k")) := by
  have supported (m : Memory) : ∀ a ∈ storedAndDeleted, a.Supported m := by
    simp [storedAndDeleted, Access.Supported, Deletion.isRequest]
  have hversioned : (({} : Memory).createVersionedBucket "b").buckets.find? "b" =
      some { versioned := true } := rfl
  have hsingle : (({} : Memory).seed "b" []).buckets.find? "b" = some {} := rfl
  have hall := (Reachable.history (.createVersionedBucket "b" .empty) hversioned rfl rfl
    storedAndDeleted (supported _)).2.1 rfl
  have hone := (Reachable.history (.seed "b" [] .empty) hsingle rfl rfl storedAndDeleted
    (supported _)).2.2 rfl
  refine ⟨?_, ?_, ?_⟩
  · rw [afterDeletion, hall.answers "k"]
    rfl
  · exact (hall.revives "k" [⟨some "v0", some .empty⟩] "v1" none rfl
      (.delete (.request [⟨"k", some "v1"⟩])) (fun _ => rfl) rfl).2
  · have hnone (data : ByteArray) :
        ¬ Stored "k" (storedAndDeleted.flatMap Access.edits) data := by
      rw [← stored?_eq_some_iff]
      exact (Option.some_ne_none data).symm
    rw [afterDeletion, (hone.missing "k").2 hnone]

end Memory

end Store

end ObjectVolume
