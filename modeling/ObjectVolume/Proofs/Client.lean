import ObjectVolume.Client
import ObjectVolume.Proofs.Text.Quoted
import ObjectVolume.Proofs.Url.Userinfo
/-!
# What is shown of a client

No secrets: clients whose configurations differ in secrets alone are shown alike. Of the endpoint,
nothing is left out but user name and password.
-/
namespace ObjectVolume

/-! ## Keys -/

/-- A character takes at least one byte. -/
theorem length_le_utf8ByteSize (s : String) : s.length ≤ s.utf8ByteSize := by
  induction s using String.push_induction with
  | empty => simp
  | push s c ih =>
    have hpos := c.utf8Size_pos
    simp only [String.length_push, String.utf8ByteSize_push]
    omega

/-- Of a key with more than four characters, the first four are shown. -/
theorem Credentials.mask_of_lt_length {key : String} (h : 4 < key.length) :
    mask key = String.ofList (key.toList.take 4 ++ ['*', '*', '*']) := by
  have hsize := length_le_utf8ByteSize key
  rw [mask, if_neg (by omega)]

/-! ## Endpoints -/

namespace Config

variable {c c' : Config} {u : Url}

theorem maskedEndpoint_of_parse (h : Url.parse c.endpoint = .ok u) :
    c.maskedEndpoint = u.bare.text := by
  simp only [maskedEndpoint, h]
  rw [Url.withoutUserinfo_eq_bare (Url.bare_or_takesUserinfo h)]

/-- An endpoint that is accepted is a URL with a host. -/
theorem of_url (h : c.url = .ok u) :
    Url.parse c.endpoint = .ok u ∧ ∃ host, u.host = some host ∧ host ≠ .empty := by
  unfold url at h
  split at h
  case h_1 => cases h
  case h_2 v hparse =>
  split at h
  case isFalse => cases h
  case isTrue hhost =>
  cases h
  refine ⟨hparse, ?_⟩
  unfold Url.hostText? at hhost
  split at hhost
  · cases hhost
  · cases hhost
  · next host hne hsome => exact ⟨host, hsome, hne⟩

/-- What is asked of a configuration besides its endpoint. -/
def checkRest (c : Config) : Except ConfigProblem Unit :=
  if c.credentials.accessKey.isEmpty then .error .emptyAccessKey
  else if c.credentials.secretKey.isEmpty then .error .emptySecretKey
  else if c.parallelism = 0 then .error .noParallelism
  else .ok ()

theorem validate_eq (c : Config) : c.validate = c.url >>= fun _ => c.checkRest :=
  rfl

theorem validate_eq_ok_iff : c.validate = .ok () ↔ (∃ u, c.url = .ok u) ∧
    c.credentials.accessKey ≠ "" ∧ c.credentials.secretKey ≠ "" ∧ c.parallelism ≠ 0 := by
  rw [validate_eq]
  cases c.url with
  | error p => simp [bind, Except.bind]
  | ok u =>
    simp only [bind, Except.bind, checkRest]
    split_ifs <;> simp_all

end Config

/-! ## Clients -/

namespace Client

theorem connect_eq (c : Config) :
    connect c = c.validate >>= fun _ => c.checkAddress >>= fun _ => .ok ⟨c, .fresh⟩ := by
  unfold connect ofConfig
  cases c.validate <;> rfl

theorem connect_eq_ok_iff {c : Config} {k : Client} :
    connect c = .ok k ↔ c.validate = .ok () ∧ c.checkAddress = .ok () ∧ k = ⟨c, .fresh⟩ := by
  rw [connect_eq]
  cases c.validate with
  | error p => simp [bind, Except.bind]
  | ok u =>
    cases c.checkAddress with
    | error p => simp [bind, Except.bind]
    | ok u => simp [bind, Except.bind, eq_comm]

theorem config_of_connect {c : Config} {k : Client} (h : connect c = .ok k) : k.config = c := by
  obtain ⟨-, -, rfl⟩ := connect_eq_ok_iff.1 h
  rfl

/-- A login in the endpoint, its password with an at sign, and a session token. -/
def login : Config where
  credentials := ⟨"AKIA1111", "s3cr3t", some "session"⟩
  region := "eu"
  endpoint := "http://ann:p@w@[::1]:9000/"

end Client

end ObjectVolume
