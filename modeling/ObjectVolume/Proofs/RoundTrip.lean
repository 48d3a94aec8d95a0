import ObjectVolume.ObjectRef
import ObjectVolume.Proofs.Descriptor
import ObjectVolume.Secret
/-!
# Records survive being written

Whatever texts and numbers they hold, descriptors, references to objects and secrets are read back as
what they were (`records_round_trip`). A descriptor is the same one whether it was stored or shown.
-/
namespace ObjectVolume

open Json (Form)
open Json.Source (Blank blank_nil)

/-! ## References to objects -/

namespace ObjectRef

theorem find?_name (k : record.Key) : record.find? (record.name k) = some k := by
  cases k <;> decide

def members (r : ObjectRef) : record.Members r where
  written
    | .key => .text r.key
    | .version => .ofTextOption r.version
  value
    | .key => r.key
    | .version => r.version
  readBack f k := by
    cases k with
    | key => exact f.readBack_text r.key
    | version => exact f.readBack_textOption r.version
  complete := rfl

theorem decodeBytes_toJson (f : Form) (r : ObjectRef) {after : List Char} (hafter : Blank after) :
    record.decodeBytes (String.ofList (f.write r.toJson ++ after)).toUTF8 = .ok r :=
  r.members.decodeBytes_object find?_name (by decide) (by decide) f hafter

end ObjectRef

/-! ## Secrets -/

namespace Secret

theorem find?_name (k : record.Key) : record.find? (record.name k) = some k := by
  cases k <;> decide

def members (s : Secret) : record.Members s where
  written
    | .accessKeyId => .text s.accessKeyId
    | .secretAccessKey => .text s.secretAccessKey
    | .region => .text s.region
    | .endpoint => .text s.endpoint
    | .roleArn => .ofTextOption s.roleArn
  value
    | .accessKeyId => s.accessKeyId
    | .secretAccessKey => s.secretAccessKey
    | .region => s.region
    | .endpoint => s.endpoint
    | .roleArn => s.roleArn
  readBack f k := by
    cases k with
    | accessKeyId => exact f.readBack_text s.accessKeyId
    | secretAccessKey => exact f.readBack_text s.secretAccessKey
    | region => exact f.readBack_text s.region
    | endpoint => exact f.readBack_text s.endpoint
    | roleArn => exact f.readBack_textOption s.roleArn
  complete := rfl

theorem decodeBytes_toJson (f : Form) (s : Secret) {after : List Char} (hafter : Blank after) :
    record.decodeBytes (String.ofList (f.write s.toJson ++ after)).toUTF8 = .ok s :=
  s.members.decodeBytes_object find?_name (by decide) (by decide) f hafter

end Secret

/-! ## All of them -/

/-- What is shown of a descriptor is its indented form, which ends with a line break where it is
printed. -/
theorem Descriptor.decodeBytes_shown (d : Descriptor) :
    record.decodeBytes d.shown.toUTF8 = .ok d ∧
      record.decodeBytes (d.shown ++ "\n").toUTF8 = .ok d := by
  have hbreak : Blank ['\n'] := Form.blank_newline 0
  have hplain := d.decodeBytes_toJson (.indented 0) blank_nil
  have hprinted := d.decodeBytes_toJson (.indented 0) hbreak
  rw [List.append_nil] at hplain
  rw [String.ofList_append] at hprinted
  exact ⟨hplain, hprinted⟩

/-- **Round trips.** A descriptor is read back from the text that is stored of it and from the text
that is shown of it; references to objects and secrets are read back from their text. -/
theorem records_round_trip :
    (∀ d : Descriptor, Descriptor.record.decodeBytes d.stored = .ok d ∧
      Descriptor.record.decodeBytes d.shown.toUTF8 = .ok d ∧
      Descriptor.record.decodeBytes (d.shown ++ "\n").toUTF8 = .ok d) ∧
    (∀ r : ObjectRef,
      ObjectRef.record.decodeBytes (String.ofList r.toJson.compact).toUTF8 = .ok r) ∧
    ∀ s : Secret, Secret.record.decodeBytes (String.ofList s.toJson.compact).toUTF8 = .ok s := by
  refine ⟨fun d => ⟨d.decodeBytes_stored, d.decodeBytes_shown⟩, fun r => ?_, fun s => ?_⟩
  · have hread := r.decodeBytes_toJson .compact blank_nil
    rwa [List.append_nil] at hread
  · have hread := s.decodeBytes_toJson .compact blank_nil
    rwa [List.append_nil] at hread

end ObjectVolume
