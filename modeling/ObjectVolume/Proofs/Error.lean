import ObjectVolume.Error
/-!
# What an error tells

An error of an eviction is a tree: either of its two errors may be one of an eviction again. Followed to
the first errors, the tree ends at the error as which it reads, `Error.reading`. Followed to the second
errors, it passes through `Error.fallbacks`: these are its causes, and then those of the last of them.
Where the ways lead is said by a relation that knows of no tree: `Leads`.
-/
namespace ObjectVolume

/-- From an element on, as long as there is a next, the way goes along a path to an end. -/
inductive Leads {α : Type} (next? : α → Option α) : α → List α → α → Prop
  | ends {a} (last : next? a = none) : Leads next? a [] a
  | goes {a b path z} (next : next? a = some b) (on : Leads next? b path z) :
      Leads next? a (b :: path) z

namespace Leads

variable {α : Type} {next? : α → Option α} {a z z' : α} {path path' : List α}

theorem last (h : Leads next? a path z) : next? z = none := by
  induction h with
  | ends last => exact last
  | goes _ _ ih => exact ih

/-- A way that goes anywhere passes through its end at last. -/
theorem getLast?_of_ne_nil (h : Leads next? a path z) (moves : path ≠ []) : path.getLast? = some z := by
  induction h with
  | ends => exact absurd rfl moves
  | goes _ on ih =>
    cases on with
    | ends => rfl
    | goes => rw [List.getLast?_cons_cons, ih (List.cons_ne_nil _ _)]

/-- There is one way from an element. -/
theorem unique (h : Leads next? a path z) (h' : Leads next? a path' z') : path = path' ∧ z = z' := by
  induction h generalizing path' with
  | ends last =>
    cases h' with
    | ends => exact ⟨rfl, rfl⟩
    | goes next => simp [last] at next
  | goes next _ ih =>
    cases h' with
    | ends last => simp [last] at next
    | goes next' on =>
      cases next.symm.trans next'
      obtain ⟨rfl, rfl⟩ := ih on
      exact ⟨rfl, rfl⟩

end Leads

namespace Error

/-! ## The two ways through an error -/

/-- The error of the first way to evict, if both have failed. -/
def primary? : Error → Option Error
  | eviction primary _ => some primary
  | _ => none

/-- The error as which an error reads. -/
def reading : Error → Error
  | eviction primary _ => primary.reading
  | e => e

/-- The error of the second way to evict, the one of its second way, and so on. -/
def fallbacks : Error → List Error
  | eviction _ fallback => fallback :: fallback.fallbacks
  | _ => []

def lastFallback : Error → Error
  | eviction _ fallback => fallback.lastFallback
  | e => e

theorem leads_reading (e : Error) : ∃ primaries, Leads primary? e primaries e.reading := by
  induction e with
  | eviction primary _ ih _ =>
    obtain ⟨primaries, h⟩ := ih
    exact ⟨primary :: primaries, .goes rfl h⟩
  | _ => exact ⟨[], .ends rfl⟩

theorem message_reading (e : Error) : e.reading.message = e.message := by
  induction e with
  | eviction _ _ ih _ => exact ih
  | _ => rfl

theorem isRetryable_reading (e : Error) : e.reading.isRetryable = e.isRetryable := by
  induction e with
  | eviction _ _ ih _ => exact ih
  | _ => rfl

theorem leads_fallbacks (e : Error) : Leads fallback? e e.fallbacks e.lastFallback := by
  induction e with
  | eviction _ _ _ ih => exact .goes rfl ih
  | _ => exact .ends rfl

theorem causes_eq (e : Error) :
    e.causes = e.fallbacks.map message ++ e.lastFallback.causes := by
  induction e with
  | eviction _ fallback _ ih => exact congrArg (fallback.message :: ·) ih
  | _ => rfl

/-- What is not the error of an eviction ends the fallbacks. -/
theorem eq_lastFallback {e x : Error} (hx : x ∈ e.fallbacks) (leaf : x.fallback? = none) :
    e.lastFallback = x := by
  induction e with
  | eviction _ fallback _ ih =>
    rcases List.mem_cons.1 hx with rfl | hx
    · cases x with
      | eviction => cases leaf
      | _ => rfl
    · exact ih hx
  | _ => cases hx

theorem inContext_eq (context : String) (e : Error) : e.inContext context =
    ": ".intercalate
      (context :: e.reading.message :: (e.fallbacks.map message ++ e.lastFallback.causes)) := by
  rw [inContext, message_reading, ← causes_eq]

end Error

/-! ## Causes -/

/-- What stands among the causes of an error. -/
inductive Cause where
  | error (e : Error)
  /-- The token service has refused something. -/
  | refusal (e : Federation.Error)
  /-- An error of a library, known by its text and the texts of its own causes. -/
  | foreign (text : String) (causes : List String)

namespace Cause

def message : Cause → String
  | error e => e.message
  | refusal e => e.message
  | foreign text _ => text

/-- What is directly behind an error. `library` gives the texts of the causes that an error of a
library has of its own. -/
def ofError? (library : String → List String) : Error → Option Cause
  | .federation e => some (refusal e)
  | .eviction _ fallback => some (error fallback)
  | .serialization text => some (foreign text (library text))
  | .io text => some (foreign text (library text))
  | .client text => some (foreign text (library text))
  | _ => none

/-- What is directly behind a cause. -/
def cause? (library : String → List String) : Cause → Option Cause
  | error e => ofError? library e
  | refusal _ => none
  | foreign _ [] => none
  | foreign _ (text :: causes) => some (foreign text causes)

variable (library : String → List String)

/-- Behind an error of a library are the causes that it has of its own, and no errors. -/
theorem leads_foreign (text : String) (causes : List String) :
    ∃ path z, Leads (cause? library) (foreign text causes) path z ∧
      (∀ e, error e ∉ path) ∧ path.map message = causes := by
  induction causes generalizing text with
  | nil => exact ⟨[], _, .ends rfl, by simp, rfl⟩
  | cons text' causes ih =>
    obtain ⟨path, z, hleads, hforeign, rfl⟩ := ih text'
    exact ⟨_ :: path, z, .goes rfl hleads, by simpa using hforeign, rfl⟩

theorem leads_of_library {e : Error} {text : String}
    (behind : ofError? library e = some (foreign text (library text))) (known : e.causes = [text]) :
    ∃ own z, Leads (cause? library) (error e) own z ∧ (∀ x, error x ∉ own) ∧
      ((∀ text, library text = []) → own.map message = e.causes) := by
  obtain ⟨path, z, hleads, hforeign, hpath⟩ := leads_foreign library text (library text)
  refine ⟨_, z, .goes behind hleads, by simpa using hforeign, fun silent => ?_⟩
  rw [List.map_cons, hpath, silent, known]
  rfl

/-- Behind an error that is not one of an eviction, there are no errors. -/
theorem leads_own {e : Error} (leaf : e.fallback? = none) :
    ∃ own z, Leads (cause? library) (error e) own z ∧ (∀ x, error x ∉ own) ∧
      ((∀ text, library text = []) → own.map message = e.causes) := by
  cases e with
  | eviction => cases leaf
  | federation e => exact ⟨[refusal e], _, .goes rfl (.ends rfl), by simp, fun _ => rfl⟩
  | serialization text => exact leads_of_library library rfl rfl
  | io text => exact leads_of_library library rfl rfl
  | client text => exact leads_of_library library rfl rfl
  | _ => exact ⟨[], _, .ends rfl, by simp, fun _ => rfl⟩

/-- On the way to its last fallback, an error passes through the others. -/
theorem leads_error (e : Error) {path : List Cause} {z : Cause}
    (h : Leads (cause? library) (error e.lastFallback) path z) :
    Leads (cause? library) (error e) (e.fallbacks.map error ++ path) z := by
  induction e with
  | eviction _ _ _ ih => exact .goes rfl (ih h)
  | _ => exact h

end Cause

/-! ## Errors as they are told -/

/-- What an error tells. `library` gives the texts of the causes that an error of a library has of its
own. -/
structure Error.Tells (library : String → List String) (e : Error) : Prop where
  /-- It reads as the error to which the first errors lead. -/
  reads : ∃ primaries, Leads primary? e primaries e.reading
  message : e.message = e.reading.message
  isRetryable : e.isRetryable = e.reading.isRetryable
  falls_back : Leads fallback? e e.fallbacks e.lastFallback
  is_caused : ∃ path z, Leads (Cause.cause? library) (.error e) path z
  /-- Its causes are its fallbacks, and what is behind the last of them. No other errors are among
  them. -/
  causes : ∀ path z, Leads (Cause.cause? library) (.error e) path z →
    (∃ own, Leads (Cause.cause? library) (.error e.lastFallback) own z ∧
      path = e.fallbacks.map Cause.error ++ own) ∧
    (∀ x, Cause.error x ∈ path ↔ x ∈ e.fallbacks) ∧
    ((∀ text, library text = []) → path.map Cause.message = e.causes)
  /-- The counts of failed deletions are the last that it tells. -/
  counts : ∀ bucket scope failed total, partialEviction bucket scope failed total ∈ e.fallbacks →
    e.lastFallback = partialEviction bucket scope failed total ∧
    e.causes.getLast? = some (partialEviction bucket scope failed total).message

theorem Error.tells (library : String → List String) (e : Error) : e.Tells library := by
  obtain ⟨own, z, hown, hforeign, htexts⟩ := Cause.leads_own library e.leads_fallbacks.last
  have hcauses := Cause.leads_error library e hown
  constructor
  case reads => exact e.leads_reading
  case message => exact e.message_reading.symm
  case isRetryable => exact e.isRetryable_reading.symm
  case falls_back => exact e.leads_fallbacks
  case is_caused => exact ⟨_, z, hcauses⟩
  case causes =>
    intro path z' hpath
    obtain ⟨rfl, rfl⟩ := hpath.unique hcauses
    refine ⟨⟨own, hown, rfl⟩, fun x => ?_, fun silent => ?_⟩
    · simp [hforeign]
    · rw [causes_eq, List.map_append, htexts silent, List.map_map]
      rfl
  case counts =>
    intro bucket scope failed total hmem
    have hlast := eq_lastFallback hmem rfl
    have hend := e.leads_fallbacks.getLast?_of_ne_nil (List.ne_nil_of_mem hmem)
    rw [causes_eq, hlast]
    rw [hlast] at hend
    refine ⟨rfl, ?_⟩
    simp [causes, List.getLast?_map, hend]

/-- The second error of the primary is told nowhere. -/
example : (Error.eviction (.eviction (.io "reset") .cancelled)
    (.eviction (.client "refused") (.partialEviction "b" "" 1 3))).inContext "failed" =
      "failed: I/O error: reset: MinIO client error: refused: " ++
        "Failed to remove 1 objects out of total 3 of b/" := by
  decide +kernel

end ObjectVolume
