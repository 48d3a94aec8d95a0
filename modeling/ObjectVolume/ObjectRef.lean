import ObjectVolume.Json.Record
import ObjectVolume.Json.Value
import ObjectVolume.Text.Quoted
/-!
# References to stored objects

A reference is what one deletion removes: a key, or one version of a key.

| here | there |
| --- | --- |
| `ObjectRef` | `DeletionUnit` |
| `ObjectRef.text`, `ObjectRef.labelled` | its text, and how it is shown for debugging |
| `ObjectRef.toJson`, `ObjectRef.record` | `DeletionUnit` as JSON |
-/
namespace ObjectVolume

/-- A key, with the version that is meant where the bucket keeps versions. -/
structure ObjectRef where
  key : String
  version : Option String := none
  deriving DecidableEq, Inhabited

namespace ObjectRef

/-- The key, followed by the version as a query: `key?versionId=v`. -/
def text (r : ObjectRef) : String :=
  match r.version with
  | none => r.key
  | some v => r.key ++ "?versionId=" ++ v

def labelled (r : ObjectRef) : Text.Labelled where
  title := "DeletionUnit"
  fields := [("key", Text.quote r.key), ("version_id", Text.quoteOption r.version)]

/-! ## JSON -/

inductive Member where
  | key
  | version
  deriving DecidableEq

def toJson (r : ObjectRef) : Json.Value :=
  .object [("key", .text r.key), ("version_id", .ofTextOption r.version)]

/-- The version may be left out of an object, but not of a list. -/
def record : Json.Record ObjectRef where
  title := "struct DeletionUnit"
  Key := Member
  keys := [.key, .version]
  name
    | .key => "key"
    | .version => "version_id"
  Value
    | .key => String
    | .version => Option String
  read
    | .key => Json.readText
    | .version => Json.readOptional Json.readText
  absent
    | .key => none
    | .version => some none
  omitted _ := none
  build get := return { key := ← get .key, version := ← get .version }

end ObjectRef

end ObjectVolume
