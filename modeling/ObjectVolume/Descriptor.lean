import ObjectVolume.Prefix
import ObjectVolume.Json.Record
import ObjectVolume.Json.Value
/-!
# Volume descriptors

A volume is a bucket or a prefix of one. Its descriptor is a JSON object kept beside its data, one
for each storage root: `key_normalize`.

| here | there |
| --- | --- |
| `Descriptor` | `VolumeMeta` |
| `Descriptor.fileName` | `METADATA_FILE_NAME` |
| `Descriptor.key` | `VolumeMeta.object_key_for` |
| `Descriptor.toJson`, `Descriptor.record` | `VolumeMeta` as JSON; `null_as_empty` for its options |
| `Descriptor.stored` | what `MetadataOperations.set_volume_meta` puts |
| `Descriptor.shown` | what `Command.execute` prints of a descriptor |
-/
namespace ObjectVolume

/-- Where a volume's files live and how it is mounted. -/
structure Descriptor where
  bucket : String
  /-- The prefix that holds the volume, spelled as it was given; empty for a whole bucket. -/
  root : String
  mounter : String
  /-- In the order in which the mounter takes them. -/
  options : List String := []
  /-- Requested capacity in bytes. -/
  capacity : Int64
  deriving DecidableEq

namespace Descriptor

/-- Name of the descriptor object inside its directory. -/
def fileName : String := ".metadata.json"

/-- Key of the descriptor of the volume at `root`. -/
def key (root : String) : String :=
  if Prefix.isRoot root then fileName else Prefix.normalize root ++ "/" ++ fileName

theorem key_normalize (root : String) : key (Prefix.normalize root) = key root := by
  simp [key, Prefix.isRoot]

/-! ## JSON -/

inductive Member where
  | bucket
  | root
  | mounter
  | options
  | capacity
  deriving DecidableEq

def Member.name : Member → String
  | bucket => "Name"
  | root => "Prefix"
  | mounter => "Mounter"
  | options => "MountOptions"
  | capacity => "CapacityBytes"

def toJson (d : Descriptor) : Json.Value :=
  .object
    [(Member.bucket.name, .text d.bucket), (Member.root.name, .text d.root),
     (Member.mounter.name, .text d.mounter),
     (Member.options.name, .list (d.options.map .text)),
     (Member.capacity.name, .integer d.capacity.toInt)]

/-- Mount options may be left out, or be `null`. -/
def record : Json.Record Descriptor where
  title := "struct VolumeMeta"
  Key := Member
  keys := [.bucket, .root, .mounter, .options, .capacity]
  name := Member.name
  Value
    | .options => Option (List String)
    | .capacity => Int
    | _ => String
  read
    | .bucket | .root | .mounter => Json.readText
    | .options => Json.readOptional Json.readTextList
    | .capacity => Json.readInteger .signed
  absent
    | .options => some none
    | _ => none
  build get := return {
    bucket := ← get .bucket
    root := ← get .root
    mounter := ← get .mounter
    options := (← get .options).getD []
    capacity := .ofInt (← get .capacity) }

/-- The text that is stored. -/
def stored (d : Descriptor) : ByteArray :=
  (String.ofList d.toJson.compact).toUTF8

/-- The text that is shown to people. -/
def shown (d : Descriptor) : String :=
  String.ofList d.toJson.indented

end Descriptor

end ObjectVolume
