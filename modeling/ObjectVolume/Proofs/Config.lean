import ObjectVolume.Config
import ObjectVolume.Proofs.Json.Written
/-!
# Configurations are written without their secrets

What is written of credentials, or of a configuration with them, is read as the same without secret key
and session token (`withoutSecrets`). So the text tells the two apart from others exactly by what is left
of them: the secrets leave no trace in it, and everything else does (`Config.written_without_secrets`).
-/
namespace ObjectVolume

open Json (Form ReadBack Record readBack_integer)
open Json.Source (blank_nil)

/-! ## Texts that are read as a part -/

/-- If what is written is read as some part of it, and that part is written the same way, then the
texts are the same exactly if those parts are. -/
theorem Json.Form.write_eq_iff {α : Type} {R : Record α} {toJson : α → Json.Value} (f : Form)
    (part : α → α) (hread : ∀ a, ReadBack R.readRecord (f.write (toJson a)) (part a))
    (hpart : ∀ a, toJson (part a) = toJson a) (a b : α) :
    f.write (toJson a) = f.write (toJson b) ↔ part a = part b := by
  constructor
  · intro h
    have ha := Record.decodeBytes_of_readBack (hread a) blank_nil
    have hb := Record.decodeBytes_of_readBack (hread b) blank_nil
    rw [h, hb] at ha
    exact (Except.ok.inj ha).symm
  · intro h
    rw [← hpart a, h, hpart b]

/-! ## Credentials -/

namespace Credentials

variable (c c' : Credentials)

/-- What may be known of credentials: their access key. -/
def withoutSecrets : Credentials :=
  { accessKey := c.accessKey, secretKey := "", sessionToken := none }

theorem find?_name (k : record.Key) : record.find? (record.name k) = some k := by
  cases k <;> decide

/-- All members, of which two are never written. -/
def members : record.Members c.withoutSecrets where
  written
    | .accessKey => .text c.accessKey
    | .secretKey => .text ""
    | .sessionToken => .ofTextOption none
  value
    | .accessKey => c.accessKey
    | .secretKey => ""
    | .sessionToken => none
  readBack f k := by
    cases k with
    | accessKey => exact f.readBack_text c.accessKey
    | secretKey => exact f.readBack_text ""
    | sessionToken => exact f.readBack_textOption none
  complete := rfl

theorem readBack_toJson (f : Form) : ReadBack record.readRecord (f.write c.toJson) c.withoutSecrets :=
  c.members.readBack_object find?_name [.accessKey] (by decide) (by decide) rfl f

theorem write_eq_iff (f : Form) : f.write c.toJson = f.write c'.toJson ↔ c.accessKey = c'.accessKey := by
  rw [f.write_eq_iff withoutSecrets (fun c => c.readBack_toJson f) (fun _ => rfl) c c']
  simp [withoutSecrets]

end Credentials

/-! ## Configurations -/

namespace Config

variable (c c' : Config)

/-- What may be known of a configuration: all but the secrets of its credentials. -/
def withoutSecrets : Config :=
  { c with credentials := c.credentials.withoutSecrets }

theorem find?_name (k : record.Key) : record.find? (record.name k) = some k := by
  cases k <;> decide

/-- All numbers of 64 bits are read back. -/
theorem readBack_parallelism (f : Form) (n : UInt64) :
    ReadBack (Json.readInteger .unsigned) (f.write (.integer n.toNat)) n.toNat := by
  have hlt : n.toNat < 18446744073709551616 := n.toNat_lt
  have hgreatest : Json.IntegerKind.unsigned.greatest = 18446744073709551615 := rfl
  have hleast : Json.IntegerKind.unsigned.least = 0 := rfl
  have hmax : (Json.Numeral.maxSignificand : Int) = 18446744073709551615 := rfl
  rw [Form.write_integer]
  refine readBack_integer ⟨?_, ?_⟩ ⟨?_, ?_⟩
  · omega
  · omega
  · have hnegative : -((UInt64.size / 2 : Nat) : Int) ≤ 0 := by decide
    omega
  · omega

def members : record.Members c.withoutSecrets where
  written
    | .credentials => c.credentials.toJson
    | .region => .text c.region
    | .endpoint => .text c.endpoint
    | .mounter => .text c.mounter
    | .parallelism => .integer c.parallelism.toNat
  value
    | .credentials => c.credentials.withoutSecrets
    | .region => c.region
    | .endpoint => c.endpoint
    | .mounter => c.mounter
    | .parallelism => (c.parallelism.toNat : Int)
  readBack f k := by
    cases k with
    | credentials => exact c.credentials.readBack_toJson f
    | region => exact f.readBack_text c.region
    | endpoint => exact f.readBack_text c.endpoint
    | mounter => exact f.readBack_text c.mounter
    | parallelism => exact readBack_parallelism f c.parallelism
  complete := by
    simp [record, withoutSecrets, bind, Except.bind, pure, Except.pure]

theorem readBack_toJson (f : Form) : ReadBack record.readRecord (f.write c.toJson) c.withoutSecrets :=
  c.members.readBack_object find?_name record.keys (by decide) (by decide) c.members.complete f

/-- The texts of two configurations are the same if these differ in their secrets at most. -/
theorem write_eq_iff (f : Form) : f.write c.toJson = f.write c'.toJson ↔
    c.region = c'.region ∧ c.endpoint = c'.endpoint ∧ c.mounter = c'.mounter ∧
      c.parallelism = c'.parallelism ∧ c.credentials.accessKey = c'.credentials.accessKey := by
  rw [f.write_eq_iff withoutSecrets (fun c => c.readBack_toJson f) (fun _ => rfl) c c']
  simp only [withoutSecrets, Credentials.withoutSecrets, Config.mk.injEq, Credentials.mk.injEq, and_true]
  constructor
  · rintro ⟨hkey, hregion, hendpoint, hmounter, hparallelism⟩
    exact ⟨hregion, hendpoint, hmounter, hparallelism, hkey⟩
  · rintro ⟨hregion, hendpoint, hmounter, hparallelism, hkey⟩
    exact ⟨hkey, hregion, hendpoint, hmounter, hparallelism⟩

/-- **Secrets are not written.** The text of a configuration, on one line or several, is read as the
configuration with an empty secret key and no session token. It is the text of another configuration
exactly if nothing but secret key and session token tells the two apart. The same holds of credentials. -/
theorem written_without_secrets (f : Form) :
    (∀ c : Config, record.decodeBytes (String.ofList (f.write c.toJson)).toUTF8 =
      .ok { c with credentials := ⟨c.credentials.accessKey, "", none⟩ }) ∧
    (∀ c c' : Config, f.write c.toJson = f.write c'.toJson ↔
      c.region = c'.region ∧ c.endpoint = c'.endpoint ∧ c.mounter = c'.mounter ∧
        c.parallelism = c'.parallelism ∧ c.credentials.accessKey = c'.credentials.accessKey) ∧
    (∀ c : Credentials, Credentials.record.decodeBytes (String.ofList (f.write c.toJson)).toUTF8 =
      .ok ⟨c.accessKey, "", none⟩) ∧
    ∀ c c' : Credentials, f.write c.toJson = f.write c'.toJson ↔ c.accessKey = c'.accessKey := by
  refine ⟨fun c => ?_, fun c c' => c.write_eq_iff c' f, fun c => ?_, fun c c' => c.write_eq_iff c' f⟩
  · have hread := Record.decodeBytes_of_readBack (c.readBack_toJson f) blank_nil
    rwa [List.append_nil] at hread
  · have hread := Record.decodeBytes_of_readBack (c.readBack_toJson f) blank_nil
    rwa [List.append_nil] at hread

end Config

end ObjectVolume
