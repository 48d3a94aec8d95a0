import ObjectVolume.Proofs.Store.AnyOrder
import ObjectVolume.Proofs.Store.Gauge
/-!
# Bulk deletions, however their references come in

The references of a bulk deletion come in as they are found. A batch goes out to the store when it is
full, when nothing more has come in, and at the end (`Poll.batches`), so that the batches depend on the
pattern in which references become ready. What is deleted and which failures are reported does not, but
for failures of whole requests, of which there is one for each batch (`Memory.bulkDeletion_outcome`).
-/
namespace ObjectVolume.Store

/-! ## Groups -/

namespace Memory

variable {α : Type} {n : Nat}

theorem chunks_nil (n : Nat) : chunks n ([] : List α) = [] := by
  unfold chunks
  rw [dif_pos (.inr rfl)]

theorem chunks_of_le_length {xs : List α} (hn : 0 < n) (h : n ≤ xs.length) :
    chunks n xs = xs.take n :: chunks n (xs.drop n) := by
  have hsome : ¬ (n = 0 ∨ xs = []) := by
    rintro (rfl | rfl)
    · exact Nat.lt_irrefl 0 hn
    · exact absurd h (Nat.not_le_of_lt hn)
  conv => lhs; unfold chunks
  rw [dif_neg hsome]

/-- Groups that are full are split off as they are. -/
theorem chunks_append (hn : 0 < n) (later : List α) {full : List α}
    (hfull : n ∣ full.length) : chunks n (full ++ later) = chunks n full ++ chunks n later := by
  induction full using chunks.induct n with
  | case1 full h =>
    obtain rfl : full = [] := h.resolve_left (Nat.ne_of_gt hn)
    rw [chunks_nil, List.nil_append, List.nil_append]
  | case2 full h ih =>
    have hle : n ≤ full.length :=
      Nat.le_of_dvd (List.length_pos_iff.2 fun hnil => h (.inr hnil)) hfull
    have hrest : n ∣ (full.drop n).length := by
      rw [List.length_drop]
      exact Nat.dvd_sub hfull (Nat.dvd_refl n)
    have hmore : n ≤ (full ++ later).length := by
      rw [List.length_append]
      omega
    rw [chunks_of_le_length hn hle, chunks_of_le_length hn hmore, List.take_append_of_le_length hle,
      List.drop_append_of_le_length hle, ih hrest, List.cons_append]

end Memory

/-! ## Batches -/

/-- What comes of asking for the next reference. -/
inductive Poll where
  | ready (ref : ObjectRef)
  /-- None has come in since. -/
  | pending

namespace Poll

/-- The references that come in. -/
def refs : List Poll → List ObjectRef
  | [] => []
  | ready ref :: rest => ref :: refs rest
  | pending :: rest => refs rest

/-- A batch that goes out, if there is anything in it. -/
def out (held : List ObjectRef) : List (List ObjectRef) :=
  if held = [] then [] else [held]

/-- The batches of at most `n` references; `held` is the one that is being filled. -/
def batches (n : Nat) (held : List ObjectRef) : List Poll → List (List ObjectRef)
  | [] => out held
  | pending :: rest => out held ++ batches n [] rest
  | ready ref :: rest =>
    if (held ++ [ref]).length < n then batches n (held ++ [ref]) rest
    else (held ++ [ref]) :: batches n [] rest

/-- The references that come in together, without a limit to their number. -/
def bursts (held : List ObjectRef) : List Poll → List (List ObjectRef)
  | [] => out held
  | pending :: rest => out held ++ bursts [] rest
  | ready ref :: rest => bursts (held ++ [ref]) rest

variable {n : Nat} {held : List ObjectRef}

theorem flatten_out (held : List ObjectRef) : (out held).flatten = held := by
  unfold out
  split
  next h => rw [h]; rfl
  next => simp

/-- No reference is lost, none comes twice, and they keep their order. -/
theorem flatten_batches (n : Nat) (held : List ObjectRef) (polls : List Poll) :
    (batches n held polls).flatten = held ++ refs polls := by
  induction polls generalizing held with
  | nil => simp [batches, refs, flatten_out]
  | cons poll rest ih =>
    cases poll with
    | pending => simp [batches, refs, flatten_out, ih]
    | ready ref =>
      unfold batches
      split <;> simp [refs, ih]

/-- A batch is neither empty nor over the limit. -/
theorem of_mem_batches {polls : List Poll} {batch : List ObjectRef} (room : held.length < n)
    (h : batch ∈ batches n held polls) : batch ≠ [] ∧ batch.length ≤ n := by
  have hout {held : List ObjectRef} (room : held.length < n) (h : batch ∈ out held) :
      batch ≠ [] ∧ batch.length ≤ n := by
    unfold out at h
    split at h
    next => simp at h
    next hne =>
      obtain rfl := List.mem_singleton.1 h
      exact ⟨hne, Nat.le_of_lt room⟩
  have hempty : ([] : List ObjectRef).length < n := Nat.lt_of_le_of_lt (Nat.zero_le _) room
  induction polls generalizing held with
  | nil => exact hout room h
  | cons poll rest ih =>
    cases poll with
    | pending =>
      rcases List.mem_append.1 h with h | h
      · exact hout room h
      · exact ih hempty h
    | ready ref =>
      unfold batches at h
      split at h
      next hroom => exact ih hroom h
      next =>
        rcases List.mem_cons.1 h with rfl | h
        · exact ⟨by simp, by simp only [List.length_append, List.length_singleton]; omega⟩
        · exact ih hempty h

/-- As many batches as references at most, and as few as the limit allows. -/
theorem length_flatten_batches {batches : List (List ObjectRef)}
    (h : ∀ batch ∈ batches, batch ≠ [] ∧ batch.length ≤ n) :
    batches.flatten.length ≤ n * batches.length ∧ batches.length ≤ batches.flatten.length := by
  induction batches with
  | nil => simp
  | cons batch rest ih =>
    obtain ⟨hne, hle⟩ := h batch List.mem_cons_self
    obtain ⟨hfew, hmany⟩ := ih fun b hb => h b (List.mem_cons_of_mem batch hb)
    have hpos := List.length_pos_iff.2 hne
    simp only [List.flatten_cons, List.length_append, List.length_cons, Nat.mul_add, Nat.mul_one]
    omega

/-! ### What comes in together -/

open Memory (chunks chunks_nil chunks_append chunks_of_le_length)

theorem chunks_of_length_lt (h : held.length < n) : chunks n held = out held := by
  unfold out
  split
  next hnil => rw [hnil, chunks_nil]
  next hne =>
    have hsome : ¬ (n = 0 ∨ held = []) := by
      rintro (rfl | hnil)
      · exact Nat.not_lt_zero _ h
      · exact hne hnil
    unfold chunks
    rw [dif_neg hsome, List.take_of_length_le (Nat.le_of_lt h),
      List.drop_eq_nil_iff.2 (Nat.le_of_lt h), chunks_nil]

theorem flatMap_chunks_out (n : Nat) (held : List ObjectRef) :
    (out held).flatMap (chunks n) = chunks n held := by
  unfold out
  split
  next hnil => rw [hnil, chunks_nil]; rfl
  next => simp

/-- **Splitting.** References that come in together are split into the batches that go out. Of those
held so far, `full` have filled batches. -/
theorem flatMap_chunks_bursts (full held : List ObjectRef) (hfull : n ∣ full.length)
    (room : held.length < n) (polls : List Poll) :
    (bursts (full ++ held) polls).flatMap (chunks n) = chunks n full ++ batches n held polls := by
  have hn : 0 < n := Nat.lt_of_le_of_lt (Nat.zero_le _) room
  induction polls generalizing full held with
  | nil => rw [bursts, flatMap_chunks_out, chunks_append hn _ hfull, chunks_of_length_lt room, batches]
  | cons poll rest ih =>
    cases poll with
    | pending =>
      have hrest := ih [] [] (Nat.dvd_zero n) hn
      rw [chunks_nil, List.nil_append, List.nil_append] at hrest
      rw [bursts, List.flatMap_append, flatMap_chunks_out, chunks_append hn _ hfull,
        chunks_of_length_lt room, hrest, batches, List.append_assoc]
    | ready ref =>
      rw [bursts, batches, List.append_assoc]
      split
      next hroom => exact ih full (held ++ [ref]) hfull hroom
      next hout =>
        have hlength : (held ++ [ref]).length = n := by
          simp only [List.length_append, List.length_singleton] at hout ⊢
          omega
        have hmore : n ∣ (full ++ (held ++ [ref])).length := by
          rw [List.length_append, hlength]
          exact Nat.dvd_add hfull (Nat.dvd_refl n)
        have hone : chunks n (held ++ [ref]) = [held ++ [ref]] := by
          rw [chunks_of_le_length hn (Nat.le_of_eq hlength.symm),
            List.take_of_length_le (Nat.le_of_eq hlength),
            List.drop_eq_nil_iff.2 (Nat.le_of_eq hlength), chunks_nil]
        have hrest := ih (full ++ (held ++ [ref])) [] hmore hn
        rw [List.append_nil, chunks_append hn _ hfull, hone, List.append_assoc] at hrest
        exact hrest

end Poll

/-! ## Requests -/

namespace Memory

/-- The store after bulk requests that have changed nothing. -/
def countRequests (m : Memory) (requests : Nat) : Memory :=
  { m with counters :=
    { m.counters with bulkRequests := m.counters.bulkRequests + requests } }

variable {m : Memory} {name : String}

theorem countRequests_countRequests (m : Memory) (r s : Nat) :
    (m.countRequests r).countRequests s = m.countRequests (r + s) := by
  simp [countRequests, Nat.add_assoc]

/-- Deletions do not depend on what has been counted. -/
theorem delete_countRequests (m : Memory) (requests : Nat) (name : String) (ref : ObjectRef) :
    (m.countRequests requests).delete name ref =
      ((m.delete name ref).1, (m.delete name ref).2.countRequests requests) := by
  have hbuckets : (m.countRequests requests).buckets = m.buckets := rfl
  have hfaults : (m.countRequests requests).faults = m.faults := rfl
  simp only [delete, hbuckets, hfaults]
  split
  · rfl
  split
  · rfl
  split
  · split <;> rfl
  · unfold takeVersionId
    split <;> rfl

theorem faults_delete (m : Memory) (name : String) (ref : ObjectRef) :
    (m.delete name ref).2.faults = m.faults := by
  simp only [delete]
  split
  · rfl
  split
  · rfl
  split
  · split <;> rfl
  · unfold takeVersionId
    split <;> rfl

/-- The first of several deletions, and the others after it. -/
theorem deleteAll_cons (m : Memory) (name : String) (ref : ObjectRef) (rest : List ObjectRef) :
    m.deleteAll name (ref :: rest) =
      (Deletion.report ref (.ofExcept (m.delete name ref).1) ++
          ((m.delete name ref).2.deleteAll name rest).1,
        ((m.delete name ref).2.deleteAll name rest).2) := by
  simp only [deleteAll]
  rcases m.delete name ref with ⟨p | ⟨⟩, m'⟩ <;> rfl

theorem deleteAll_countRequests (m : Memory) (requests : Nat) (name : String)
    (refs : List ObjectRef) : (m.countRequests requests).deleteAll name refs =
      ((m.deleteAll name refs).1, (m.deleteAll name refs).2.countRequests requests) := by
  induction refs generalizing m with
  | nil => rfl
  | cons ref rest ih => rw [deleteAll_cons, deleteAll_cons, delete_countRequests, ih]

theorem deleteAll_append (m : Memory) (name : String) (refs later : List ObjectRef) :
    m.deleteAll name (refs ++ later) =
      ((m.deleteAll name refs).1 ++ ((m.deleteAll name refs).2.deleteAll name later).1,
        ((m.deleteAll name refs).2.deleteAll name later).2) := by
  induction refs generalizing m with
  | nil => rfl
  | cons ref rest ih => rw [List.cons_append, deleteAll_cons, deleteAll_cons, ih, List.append_assoc]

theorem faults_deleteAll (m : Memory) (name : String) (refs : List ObjectRef) :
    (m.deleteAll name refs).2.faults = m.faults := by
  induction refs generalizing m with
  | nil => rfl
  | cons ref rest ih => rw [deleteAll_cons, ih, faults_delete]

/-! ### By behaviour -/

/-- One request. -/
theorem bulkRequest_eq (m : Memory) (name : String) (batch : List ObjectRef) :
    m.bulkRequest name batch = match m.faults.bulk with
      | .supported => (m.countRequests 1).deleteAll name batch
      | .unsupported => ([.request (.backend .bulkDeleteNotImplemented)], m.countRequests 1)
      | .rejectAll => (batch.map (.object · "AccessDenied"), m.countRequests 1) := rfl

/-- Requests that work delete as one after the other would, wherever one ends and the next begins. -/
theorem bulkRequests_supported (hm : m.faults.bulk = .supported) (requests : Nat)
    (batches : List (List ObjectRef)) : (m.countRequests requests).bulkRequests name batches =
      ((m.deleteAll name batches.flatten).1,
        (m.deleteAll name batches.flatten).2.countRequests (requests + batches.length)) := by
  induction batches generalizing m requests with
  | nil => rfl
  | cons batch rest ih =>
    have hbulk : (m.countRequests requests).faults.bulk = .supported := hm
    have hfirst : (m.countRequests requests).bulkRequest name batch =
        (m.countRequests (requests + 1)).deleteAll name batch := by
      rw [bulkRequest_eq, hbulk, countRequests_countRequests]
    have hrest := ih (m := (m.deleteAll name batch).2) (by rw [faults_deleteAll, hm]) (requests + 1)
    have hcount : requests + 1 + rest.length = requests + (batch :: rest).length := by
      rw [List.length_cons]
      omega
    simp only [bulkRequests, hfirst, deleteAll_countRequests, hrest, List.flatten_cons,
      deleteAll_append, hcount]

/-- Requests that fail as a whole are reported, and nothing else is. -/
theorem bulkRequests_unsupported (hm : m.faults.bulk = .unsupported)
    (batches : List (List ObjectRef)) : m.bulkRequests name batches =
      (.replicate batches.length (.request (.backend .bulkDeleteNotImplemented)),
        m.countRequests batches.length) := by
  induction batches generalizing m with
  | nil => rfl
  | cons batch rest ih =>
    have hfirst : m.bulkRequest name batch =
        ([.request (.backend .bulkDeleteNotImplemented)], m.countRequests 1) := by
      rw [bulkRequest_eq, hm]
    simp only [bulkRequests, hfirst, ih (m := m.countRequests 1) hm, countRequests_countRequests,
      List.length_cons, Nat.add_comm, List.replicate_succ, List.singleton_append]

/-- Where every object is refused, each is reported. -/
theorem bulkRequests_rejectAll (hm : m.faults.bulk = .rejectAll)
    (batches : List (List ObjectRef)) : m.bulkRequests name batches =
      (batches.flatten.map (.object · "AccessDenied"), m.countRequests batches.length) := by
  induction batches generalizing m with
  | nil => rfl
  | cons batch rest ih =>
    have hfirst : m.bulkRequest name batch =
        (batch.map (.object · "AccessDenied"), m.countRequests 1) := by
      rw [bulkRequest_eq, hm]
    simp only [bulkRequests, hfirst, ih (m := m.countRequests 1) hm, countRequests_countRequests,
      List.length_cons, Nat.add_comm, List.flatten_cons, List.map_append]

/-! ## Whole bulk deletions -/

/-- The store takes references as they come in, and is told when no more do. -/
def takeBursts (request : BulkRequest) : List (List ObjectRef) → Memory → List DeleteFailure × Memory
  | [], m => memory.endBulk request m
  | burst :: rest, m =>
    let (failures, m) := memory.takeBatch request burst m
    let (later, m) := takeBursts request rest m
    (failures ++ later, m)

/-- A bulk deletion of the references that come in. -/
def bulkDeletion (request : BulkRequest) (polls : List Poll) (m : Memory) :
    List DeleteFailure × Memory :=
  takeBursts request (Poll.bursts [] polls) m

theorem bulkRequests_append (m : Memory) (name : String) (batches later : List (List ObjectRef)) :
    m.bulkRequests name (batches ++ later) =
      ((m.bulkRequests name batches).1 ++ ((m.bulkRequests name batches).2.bulkRequests name later).1,
        ((m.bulkRequests name batches).2.bulkRequests name later).2) := by
  induction batches generalizing m with
  | nil => rfl
  | cons batch rest ih => simp only [List.cons_append, bulkRequests, ih, List.append_assoc]

theorem takeBursts_eq (request : BulkRequest) (bursts : List (List ObjectRef)) (m : Memory) :
    takeBursts request bursts m = m.bulkRequests request.bucket (bursts.flatMap (chunks batchSize)) := by
  induction bursts generalizing m with
  | nil => rfl
  | cons burst rest ih =>
    have hburst : memory.takeBatch request burst m =
        m.bulkRequests request.bucket (chunks batchSize burst) := rfl
    simp only [takeBursts, hburst, List.flatMap_cons, bulkRequests_append, ih]

/-- The requests are the batches that go out. -/
theorem bulkDeletion_eq (request : BulkRequest) (polls : List Poll) (m : Memory) :
    bulkDeletion request polls m = m.bulkRequests request.bucket (Poll.batches batchSize [] polls) := by
  have hsplit := Poll.flatMap_chunks_bursts [] [] (Nat.dvd_zero batchSize) (by decide) polls
  rw [chunks_nil, List.nil_append, List.nil_append] at hsplit
  rw [bulkDeletion, takeBursts_eq, hsplit]

/-- From `m` to `m'`, references are deleted by a call for each, one after the other, and `failures` are
those that could not be deleted. -/
inductive DeletedInTurn (name : String) :
    Memory → List ObjectRef → List DeleteFailure → Memory → Prop
  | nil {m : Memory} : DeletedInTurn name m [] [] m
  | deleted {m m₁ m' : Memory} {ref rest failures} (one : m.delete name ref = (.ok (), m₁))
      (others : DeletedInTurn name m₁ rest failures m') :
      DeletedInTurn name m (ref :: rest) failures m'
  | refused {m m₁ m' : Memory} {ref rest failures p} (one : m.delete name ref = (.error p, m₁))
      (others : DeletedInTurn name m₁ rest failures m') :
      DeletedInTurn name m (ref :: rest) (.object ref (Error.backend p).message :: failures) m'

theorem deletedInTurn (m : Memory) (name : String) (refs : List ObjectRef) :
    DeletedInTurn name m refs (m.deleteAll name refs).1 (m.deleteAll name refs).2 := by
  induction refs generalizing m with
  | nil => exact .nil
  | cons ref rest ih =>
    rw [deleteAll_cons]
    rcases hone : m.delete name ref with ⟨p | ⟨⟩, m₁⟩
    · exact .refused hone (ih m₁)
    · exact .deleted hone (ih m₁)

/-- **Bulk deletions.** Whatever the pattern in which references come in, they go out in order, in
batches that are neither empty nor over the limit, each of which is a request. Where bulk deletions
work, it is as if each reference had been deleted on its own, one after the other. Where they do not,
nothing is deleted, and each request or each reference is reported. -/
theorem bulkDeletion_outcome (m : Memory) (request : BulkRequest) (polls : List Poll) :
    ((∀ batch ∈ Poll.batches batchSize [] polls, batch ≠ [] ∧ batch.length ≤ batchSize) ∧
      (Poll.batches batchSize [] polls).flatten = Poll.refs polls) ∧
    ((bulkDeletion request polls m).2.counters.bulkRequests =
        m.counters.bulkRequests + (Poll.batches batchSize [] polls).length ∧
      (Poll.refs polls).length ≤ batchSize * (Poll.batches batchSize [] polls).length ∧
      (Poll.batches batchSize [] polls).length ≤ (Poll.refs polls).length) ∧
    match m.faults.bulk with
    | .supported => ∃ m',
      DeletedInTurn request.bucket m (Poll.refs polls) (bulkDeletion request polls m).1 m' ∧
      (bulkDeletion request polls m).2 = m'.countRequests (Poll.batches batchSize [] polls).length
    | .rejectAll =>
      (bulkDeletion request polls m).1 = (Poll.refs polls).map (.object · "AccessDenied") ∧
      (bulkDeletion request polls m).2 = m.countRequests (Poll.batches batchSize [] polls).length
    | .unsupported =>
      (bulkDeletion request polls m).1 = .replicate (Poll.batches batchSize [] polls).length
        (.request (.backend .bulkDeleteNotImplemented)) ∧
      (bulkDeletion request polls m).2 =
        m.countRequests (Poll.batches batchSize [] polls).length := by
  have hbatches : ∀ batch ∈ Poll.batches batchSize [] polls, batch ≠ [] ∧ batch.length ≤ batchSize :=
    fun batch h => Poll.of_mem_batches (by decide) h
  have hflat : (Poll.batches batchSize [] polls).flatten = Poll.refs polls :=
    Poll.flatten_batches batchSize [] polls
  have hlength := Poll.length_flatten_batches hbatches
  rw [hflat] at hlength
  rw [bulkDeletion_eq, counters_bulkRequests]
  refine ⟨⟨hbatches, hflat⟩, ⟨rfl, hlength⟩, ?_⟩
  cases hm : m.faults.bulk with
  | supported =>
    have hrun : m.bulkRequests request.bucket (Poll.batches batchSize [] polls) = _ :=
      bulkRequests_supported hm 0 (Poll.batches batchSize [] polls)
    rw [hflat, Nat.zero_add] at hrun
    rw [hrun]
    exact ⟨_, deletedInTurn m request.bucket (Poll.refs polls), rfl⟩
  | unsupported =>
    rw [bulkRequests_unsupported hm]
    exact ⟨rfl, rfl⟩
  | rejectAll =>
    rw [bulkRequests_rejectAll hm, hflat]
    exact ⟨rfl, rfl⟩

/-- Two objects, of which one cannot be deleted. -/
def halfGuarded : Memory :=
  { ({} : Memory).seed "b" ["a", "k"] with faults := { failingKeys := ["k"] } }

/-- The second reference keeps the deletion waiting. -/
def haltingPolls : List Poll :=
  [.ready ⟨"a", none⟩, .pending, .pending, .ready ⟨"k", none⟩]

theorem bulkDeletion_outcome_halting :
    [⟨"k", none⟩] ∈ Poll.batches batchSize [] haltingPolls ∧ [(⟨"k", none⟩ : ObjectRef)] ≠ [] ∧
      (∃ m', DeletedInTurn "b" halfGuarded [⟨"a", none⟩, ⟨"k", none⟩]
          [.object ⟨"k", none⟩ "Storage backend error: AccessDenied: k"] m' ∧
        (bulkDeletion ⟨"b", true⟩ haltingPolls halfGuarded).2 = m'.countRequests 2) ∧
      2 ≤ (Poll.batches batchSize [] (.replicate 2000 (.ready ⟨"a", none⟩))).length := by
  have hmem : [⟨"k", none⟩] ∈ Poll.batches batchSize [] haltingPolls := by decide
  obtain ⟨⟨hbatches, -⟩, -, hdeleted⟩ := bulkDeletion_outcome halfGuarded ⟨"b", true⟩ haltingPolls
  obtain ⟨-, ⟨-, hfew, -⟩, -⟩ := bulkDeletion_outcome halfGuarded ⟨"b", true⟩
    (.replicate 2000 (.ready ⟨"a", none⟩))
  have hrefs : (Poll.refs (.replicate 2000 (.ready ⟨"a", none⟩))).length = 2000 := by decide +kernel
  have hfailures : (bulkDeletion ⟨"b", true⟩ haltingPolls halfGuarded).1 =
      [.object ⟨"k", none⟩ "Storage backend error: AccessDenied: k"] := by decide +kernel
  have hmany : 2 ≤ (Poll.batches batchSize [] (.replicate 2000 (.ready ⟨"a", none⟩))).length := by
    rw [hrefs] at hfew
    generalize (Poll.batches batchSize [] (.replicate 2000 (.ready ⟨"a", none⟩))).length = r at hfew ⊢
    unfold batchSize at hfew
    omega
  refine ⟨hmem, (hbatches _ hmem).1, ?_, hmany⟩
  obtain ⟨m', hturn, hafter⟩ := hdeleted
  rw [hfailures] at hturn
  exact ⟨m', hturn, hafter⟩

end Memory

end ObjectVolume.Store
