import ObjectVolume.Descriptor
import ObjectVolume.Eviction.Basic
/-!
# Volumes

What a client does with volumes: it creates buckets and prefixes, keeps a descriptor beside the data
of each volume, and removes prefixes and buckets with all they hold. Nothing is done on behalf of a
client that is cancelled.

| here | there |
| --- | --- |
| `bucketExists` | `BucketOperations.exists` |
| `createBucket`, `createPrefix` | `BucketOperations.create_bucket`, `BucketOperations.create_prefix` |
| `describe` | `S3Client.volume_meta` |
| `writeDescriptor`, `readDescriptor` | `MetadataOperations.set_volume_meta`, `MetadataOperations.get_volume_meta` |
| `removePrefix`, `removeBucket` | `EvictionOperations.remove_prefix`, `EvictionOperations.remove_bucket`, within `run_cancellable` |
-/
namespace ObjectVolume.Volume

variable {σ : Type}

def bucketExists (S : Store σ) (bucket : String) : Operation σ Bool :=
  Operation.cancellable (Operation.call (S.bucketExists bucket))

/-- Creates a bucket in the configured region. -/
def createBucket (S : Store σ) (c : Config) (bucket : String) : Operation σ Unit :=
  Operation.cancellable (Operation.call (S.makeBucket bucket c.region))

/-- Creates the marker of a prefix. The root needs none. -/
def createPrefix (S : Store σ) (bucket root : String) : Operation σ Unit :=
  if Prefix.isRoot root then pure ()
  else Operation.cancellable (Operation.call (S.putObject bucket (Prefix.marker root) .empty))

/-- The descriptor of a volume that is mounted as configured. -/
def describe (c : Config) (bucket root : String) (capacity : Int64) (options : List String) :
    Descriptor :=
  { bucket, root, mounter := c.mounter, options, capacity }

def writeDescriptor (S : Store σ) (d : Descriptor) : Operation σ Unit :=
  Operation.cancellable (Operation.call (S.putObject d.bucket (Descriptor.key d.root) d.stored))

def readDescriptor (S : Store σ) (bucket root : String) : Operation σ Descriptor := do
  let data ← Operation.cancellable (Operation.call (S.getObject bucket (Descriptor.key root)))
  match Descriptor.record.decodeBytes data with
  | .ok d => return d
  | .error text => Operation.fail (.serialization text)

/-- Deletes every object below a prefix, then its marker. -/
def removePrefix (S : Store σ) (c : Config) (bucket root : String) : Operation σ Unit :=
  Operation.cancellable (Eviction.removePrefix S c.parallelism.toNat bucket root)

/-- Deletes every object of a bucket, then the bucket. -/
def removeBucket (S : Store σ) (c : Config) (bucket : String) : Operation σ Unit :=
  Operation.cancellable (Eviction.removeBucket S c.parallelism.toNat bucket)

end ObjectVolume.Volume
