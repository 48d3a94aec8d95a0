import ObjectVolume.Federation.Resolver
import ObjectVolume.Proofs.Text.Utf8
/-!
# What a secret stands for

Without a role a secret stands for its static keys, and nobody is asked for others. With a role it
stands for the keys that are issued for the role, by a single request that carries the token as it is
in the file; there is no request unless the token can be read. The static keys then play no part
(`resolve_outcome`).
-/
namespace ObjectVolume

/-! ## Roles -/

theorem Secret.role?_eq_none_iff {s : Secret} :
    s.role? = none ↔ s.roleArn = none ∨ s.roleArn = some "" := by
  unfold Secret.role?
  cases s.roleArn with
  | none => simp
  | some role => simp [Option.filter_eq_none_iff]

theorem Secret.role?_eq_some_iff {s : Secret} {role : String} :
    s.role? = some role ↔ s.roleArn = some role ∧ role ≠ "" := by
  unfold Secret.role?
  simp [Option.filter_eq_some_iff]

namespace Federation

/-! ## Tokens -/

/-- The token of a file is the text in it. -/
theorem TokenFile.read_text (t : String) : (file t.toUTF8).read = .ok t := by
  simp only [TokenFile.read, Text.fromUTF8?_toUTF8]

/-- Whatever holds no text is no token. -/
theorem TokenFile.read_of_no_text {f : TokenFile} (h : ∀ t : String, f ≠ file t.toUTF8) :
    ∃ text, f.read = .error (.io text) := by
  cases f with
  | missing => exact ⟨_, rfl⟩
  | directory => exact ⟨_, rfl⟩
  | unreadable reason => exact ⟨_, rfl⟩
  | file content =>
    cases ht : String.fromUTF8? content with
    | none =>
      refine ⟨"stream did not contain valid UTF-8", ?_⟩
      simp only [TokenFile.read, ht]
    | some t => exact absurd (by rw [Text.toUTF8_of_fromUTF8? ht]) (h t)

/-! ## Resolutions -/

variable {s : Secret} {role : String}

/-- The configuration for the place that a secret names, with these credentials. -/
def configFor (s : Secret) (credentials : Credentials) : Config :=
  { credentials, region := s.region, endpoint := s.endpoint }

theorem resolve_of_no_role (service : Service) (tokenFile : Option TokenFile)
    (h : s.role? = none) : resolve service tokenFile s =
    ⟨.ok (configFor s ⟨s.accessKeyId, s.secretAccessKey, none⟩), []⟩ := by
  simp only [resolve, h, configFor]

theorem resolve_of_role (service : Service) (tokenFile : Option TokenFile)
    (h : s.role? = some role) : resolve service tokenFile s =
    ⟨(assumeRole service tokenFile role).1.map (configFor s),
      (assumeRole service tokenFile role).2⟩ := by
  simp only [resolve, h]
  rfl

/-- Of a secret with a role, the static keys play no part. -/
theorem resolve_eq_of_role (service : Service) (tokenFile : Option TokenFile) {s' : Secret}
    (h : s.role? = some role) (h' : s'.role? = some role) (hregion : s'.region = s.region)
    (hendpoint : s'.endpoint = s.endpoint) :
    resolve service tokenFile s' = resolve service tokenFile s := by
  have hconfig : configFor s' = configFor s := by
    funext credentials
    simp only [configFor, hregion, hendpoint]
  rw [resolve_of_role service tokenFile h, resolve_of_role service tokenFile h', hconfig]

/-- What a secret is resolved to is for the place that it names. -/
theorem resolve_eq_configFor {service : Service} {tokenFile : Option TokenFile} {c : Config}
    (h : (resolve service tokenFile s).result = .ok c) : ∃ credentials, c = configFor s credentials := by
  cases hrole : s.role? with
  | none =>
    rw [resolve_of_no_role service tokenFile hrole] at h
    cases h
    exact ⟨_, rfl⟩
  | some role =>
    rw [resolve_of_role service tokenFile hrole] at h
    cases hassume : (assumeRole service tokenFile role).1 with
    | error e =>
      rw [hassume] at h
      cases h
    | ok credentials =>
      rw [hassume] at h
      cases h
      exact ⟨credentials, rfl⟩

/-- The credentials that consist of issued keys. -/
def IssuedKeys.credentials (keys : IssuedKeys) : Credentials :=
  ⟨keys.accessKeyId, keys.secretAccessKey, some keys.sessionToken⟩

/-- A token that can be read is exchanged by one request. -/
theorem assumeRole_text (service : Service) (t role : String) :
    assumeRole service (some (.file t.toUTF8)) role =
      (((service ⟨role, sessionName, t⟩).map IssuedKeys.credentials).mapError .federation,
        [⟨role, sessionName, t⟩]) := by
  unfold assumeRole
  simp only [TokenFile.read_text]
  cases service ⟨role, sessionName, t⟩ with
  | error e => rfl
  | ok keys => rfl

theorem assumeRole_of_no_text (service : Service) (role : String) {f : TokenFile}
    (h : ∀ t : String, f ≠ .file t.toUTF8) :
    ∃ text, assumeRole service (some f) role = (.error (.io text), []) := by
  obtain ⟨text, hread⟩ := TokenFile.read_of_no_text h
  exact ⟨text, by simp only [assumeRole, hread]⟩

/-- **Resolutions.** A secret without a role, or with an empty one, stands for its static keys without
a session token, whatever the token file and the service are. One with a role gives a configuration
error if there is no token file and an I/O error if the file holds no text; else the text is exchanged
for keys by one request, and its refusal is the error. So it is resolved like any other secret with
that role for that place, whatever their static keys are. Region and endpoint are those of the
secret. -/
theorem resolve_outcome (service : Service) (tokenFile : Option TokenFile) (s : Secret) :
    (s.roleArn = none ∨ s.roleArn = some "" → resolve service tokenFile s =
      ⟨.ok (configFor s ⟨s.accessKeyId, s.secretAccessKey, none⟩), []⟩) ∧
    (∀ role, s.roleArn = some role → role ≠ "" →
      (tokenFile = none → ∃ p, resolve service tokenFile s = ⟨.error (.config p), []⟩) ∧
      (∀ f, tokenFile = some f → (∀ t : String, f ≠ .file t.toUTF8) →
        ∃ text, resolve service tokenFile s = ⟨.error (.io text), []⟩) ∧
      (∀ t : String, tokenFile = some (.file t.toUTF8) →
        (resolve service tokenFile s).requests = [⟨role, "bucketvol", t⟩] ∧
        (∀ e, service ⟨role, "bucketvol", t⟩ = .error e →
          (resolve service tokenFile s).result = .error (.federation e)) ∧
        ∀ keys, service ⟨role, "bucketvol", t⟩ = .ok keys →
          (resolve service tokenFile s).result = .ok (configFor s
            ⟨keys.accessKeyId, keys.secretAccessKey, some keys.sessionToken⟩)) ∧
      ∀ s' : Secret, s'.roleArn = some role → s'.region = s.region → s'.endpoint = s.endpoint →
        resolve service tokenFile s' = resolve service tokenFile s) ∧
    ∀ c, (resolve service tokenFile s).result = .ok c →
      c.region = s.region ∧ c.endpoint = s.endpoint := by
  refine ⟨fun hnone => resolve_of_no_role service tokenFile (Secret.role?_eq_none_iff.2 hnone), ?_, ?_⟩
  · intro role harn hrole
    have hrole? : s.role? = some role := Secret.role?_eq_some_iff.2 ⟨harn, hrole⟩
    have hresolve := resolve_of_role service tokenFile hrole?
    refine ⟨?_, ?_, ?_, ?_⟩
    · rintro rfl
      exact ⟨_, hresolve⟩
    · rintro f rfl hno_text
      obtain ⟨text, hassume⟩ := assumeRole_of_no_text service role hno_text
      rw [hresolve, hassume]
      exact ⟨text, rfl⟩
    · rintro t rfl
      rw [hresolve, assumeRole_text]
      refine ⟨rfl, fun e he => ?_, fun keys hkeys => ?_⟩
      · rw [sessionName, he]
        rfl
      · rw [sessionName, hkeys]
        rfl
    · intro s' harn' hregion hendpoint
      exact resolve_eq_of_role service tokenFile hrole?
        (Secret.role?_eq_some_iff.2 ⟨harn', hrole⟩) hregion hendpoint
  · intro c hc
    obtain ⟨credentials, rfl⟩ := resolve_eq_configFor hc
    exact ⟨rfl, rfl⟩

/-- A service that issues keys to everybody. -/
def generousService : Service :=
  fun request => .ok ⟨"ASIATEMP", "temporary", request.token⟩

def volumesSecret : Secret where
  accessKeyId := "AKIA"
  secretAccessKey := "secret"
  region := "eu-west-1"
  endpoint := "http://minio:9000"
  roleArn := some "arn:aws:iam::123456789012:role/volumes"

/-- The secret with its role, with a token and with a directory in its place, and without the role. -/
theorem resolve_outcome_volumes :
    (resolve generousService (some (.file "jwt\n".toUTF8)) volumesSecret).requests =
        [⟨"arn:aws:iam::123456789012:role/volumes", "bucketvol", "jwt\n"⟩] ∧
      (resolve generousService (some (.file "jwt\n".toUTF8)) volumesSecret).result =
        .ok (configFor volumesSecret ⟨"ASIATEMP", "temporary", some "jwt\n"⟩) ∧
      (∃ text, resolve generousService (some .directory) volumesSecret = ⟨.error (.io text), []⟩) ∧
      resolve generousService (some .directory) { volumesSecret with roleArn := some "" } =
        ⟨.ok (configFor volumesSecret ⟨"AKIA", "secret", none⟩), []⟩ := by
  have hrole : "arn:aws:iam::123456789012:role/volumes" ≠ "" := by decide
  obtain ⟨-, -, hexchange, -⟩ := (resolve_outcome generousService
    (some (.file "jwt\n".toUTF8)) volumesSecret).2.1 _ rfl hrole
  obtain ⟨hrequests, -, hissued⟩ := hexchange "jwt\n" rfl
  obtain ⟨-, hdirectory, -⟩ :=
    (resolve_outcome generousService (some .directory) volumesSecret).2.1 _ rfl hrole
  have hstatic := (resolve_outcome generousService (some .directory)
    { volumesSecret with roleArn := some "" }).1 (.inr rfl)
  exact ⟨hrequests, hissued _ rfl, hdirectory .directory rfl (by simp), hstatic⟩

end Federation

end ObjectVolume
