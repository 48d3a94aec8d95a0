import ObjectVolume.Proofs.Store.Reachable
/-!
# What the store in memory counts

Deleting versions counts nothing: a bulk deletion counts its requests (`counters_takeBatch`) and a
listing itself (`counters_list`). The single removals in flight are counted, and the greatest number of
them so far. A removal raises the count when it starts and lowers it when it ends; no other call touches
either number (`Quiet.gauge`).
-/
namespace ObjectVolume.Store.Memory

variable (m : Memory) (name : String)

/-! ## What bulk deletions and listings count -/

@[simp]
theorem counters_setBucket (b : Bucket) : (m.setBucket name b).counters = m.counters := rfl

@[simp]
theorem counters_takeVersionId (b : Bucket) : (m.takeVersionId b).2.counters = m.counters := by
  unfold takeVersionId
  split <;> rfl

@[simp]
theorem counters_takeListingFault : m.takeListingFault.2.counters = m.counters := by
  unfold takeListingFault
  split <;> rfl

@[simp]
theorem counters_delete (ref : ObjectRef) : (m.delete name ref).2.counters = m.counters := by
  unfold delete
  split
  · rfl
  split
  · rfl
  dsimp only
  split
  · split <;> rfl
  · split
    · rw [counters_setBucket, counters_takeVersionId]
    · rfl

theorem counters_deleteAll (refs : List ObjectRef) :
    (m.deleteAll name refs).2.counters = m.counters := by
  induction refs generalizing m with
  | nil => rfl
  | cons ref rest ih => rw [deleteAll_cons_snd, ih, counters_delete]

theorem counters_bulkRequest (batch : List ObjectRef) : (m.bulkRequest name batch).2.counters =
    { m.counters with bulkRequests := m.counters.bulkRequests + 1 } := by
  unfold bulkRequest
  dsimp only
  split
  · exact counters_deleteAll _ _ _
  · rfl
  · rfl

theorem counters_bulkRequests (batches : List (List ObjectRef)) :
    (m.bulkRequests name batches).2.counters =
      { m.counters with bulkRequests := m.counters.bulkRequests + batches.length } := by
  induction batches generalizing m with
  | nil => rfl
  | cons batch batches ih =>
    have hrest := ih (m.bulkRequest name batch).2
    rw [counters_bulkRequest] at hrest
    refine hrest.trans ?_
    simp only [List.length_cons, Counters.mk.injEq, and_true, true_and]
    omega

/-- A bulk deletion counts its requests, and nothing else. -/
theorem counters_takeBatch (refs : List ObjectRef) : (m.takeBatch name refs).2.counters =
    { m.counters with
      bulkRequests := m.counters.bulkRequests + (chunks batchSize refs).length } :=
  counters_bulkRequests m name _

theorem counters_list (scope : String) : (m.list name scope).2.counters =
    { m.counters with listings := m.counters.listings + 1 } := by
  unfold list
  dsimp only
  split <;> exact counters_takeListingFault _

/-! ## The gauge -/

/-- Removals in flight, and the greatest number of them so far. -/
def gauge (m : Memory) : Nat × Nat :=
  (m.counters.inFlight, m.counters.maxInFlight)

@[simp]
theorem gauge_startRemoval : m.startRemoval.gauge =
    (m.counters.inFlight + 1, max m.counters.maxInFlight (m.counters.inFlight + 1)) := rfl

/-! ## Calls that leave it alone -/

@[simp]
theorem gauge_setBucket (b : Bucket) : (m.setBucket name b).gauge = m.gauge := rfl

@[simp]
theorem gauge_takeVersionId (b : Bucket) : (m.takeVersionId b).2.gauge = m.gauge := by
  rw [gauge, counters_takeVersionId, gauge]

theorem gauge_takeBatch (refs : List ObjectRef) : (m.takeBatch name refs).2.gauge = m.gauge := by
  rw [gauge, counters_takeBatch, gauge]

theorem gauge_list (scope : String) : (m.list name scope).2.gauge = m.gauge := by
  rw [gauge, counters_list, gauge]

theorem gauge_makeBucket (region : String) : (m.makeBucket name region).2.gauge = m.gauge := by
  unfold makeBucket
  split <;> rfl

theorem gauge_put (key : String) (data : ByteArray) : (m.put name key data).2.gauge = m.gauge := by
  unfold put
  split
  · rfl
  · exact gauge_takeVersionId _ _

theorem gauge_removeBucket : (m.removeBucket name).2.gauge = m.gauge := by
  unfold removeBucket
  dsimp only
  split
  · rfl
  · split <;> rfl

theorem gauge_seed (keys : List String) : (m.seed name keys).gauge = m.gauge := by
  unfold seed
  rw [← gauge_setBucket m name ((m.buckets.find? name).getD {})]
  generalize m.setBucket name ((m.buckets.find? name).getD {}) = m
  induction keys generalizing m with
  | nil => rfl
  | cons key keys ih => exact (ih _).trans (gauge_takeVersionId _ _)

/-- A call other than a single removal, or the arming of faults. -/
inductive Quiet : Memory → Memory → Prop
  | arm (m : Memory) (faults : Faults) : Quiet m { m with faults }
  | createVersionedBucket (m : Memory) (name) : Quiet m (m.createVersionedBucket name)
  | seed (m : Memory) (name keys) : Quiet m (m.seed name keys)
  | makeBucket (m : Memory) (name region) : Quiet m (m.makeBucket name region).2
  | put (m : Memory) (name key data) : Quiet m (m.put name key data).2
  | list (m : Memory) (name scope) : Quiet m (m.list name scope).2
  | takeBatch (m : Memory) (name refs) : Quiet m (m.takeBatch name refs).2
  | removeBucket (m : Memory) (name) : Quiet m (m.removeBucket name).2

theorem Quiet.gauge {m m' : Memory} (h : Quiet m m') : m'.gauge = m.gauge := by
  cases h with
  | arm faults => rfl
  | createVersionedBucket name => rfl
  | seed name keys => exact gauge_seed m name keys
  | makeBucket name region => exact gauge_makeBucket m name region
  | put name key data => exact gauge_put m name key data
  | list name scope => exact gauge_list m name scope
  | takeBatch name refs => exact gauge_takeBatch m name refs
  | removeBucket name => exact gauge_removeBucket m name

/-! ## Ends of removals -/

@[simp]
theorem gauge_endRemoval (ref : ObjectRef) : (m.endRemoval name ref).2.gauge =
    (m.counters.inFlight - 1, m.counters.maxInFlight) := by
  simp only [Memory.gauge, endRemoval, counters_delete]

end ObjectVolume.Store.Memory
