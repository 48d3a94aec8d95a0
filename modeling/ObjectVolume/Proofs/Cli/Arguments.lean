import ObjectVolume.Cli.Command
import ObjectVolume.Proofs.Cli.Options
/-!
# Invocations as arguments

An invocation is written as arguments by giving every option its value in one argument, those of the
verb after it and all others before it, and the bucket after two hyphens. Whatever the values are, these
arguments are read as that invocation, in any order of the options and with the shared ones on either
side of the verb (`read_arguments`). The environment has no say, but for a role that is not given and a
number of deletions that cannot be read.
-/
namespace ObjectVolume.Cli

/-! ## Invocations -/

namespace Command

def verb : Command → Verb
  | check _ => .check
  | create _ _ _ _ => .create
  | delete _ _ => .delete
  | describe _ _ => .describe

def bucket : Command → String
  | check bucket | create bucket _ _ _ | delete bucket _ | describe bucket _ => bucket

/-- The mount options, which are given one by one. -/
def mountOptions : Command → List String
  | create _ _ _ options => options
  | _ => []

/-- The values of the options of its verb. -/
def values : Command → List (String × String)
  | check _ => []
  | create _ root capacity options =>
    [("prefix", root), ("capacity-bytes", toString capacity.toInt)] ++ options.map ("mount-option", ·)
  | delete _ root | describe _ root => [("prefix", root)]

end Command

/-- The values of the options for a secret. A role is only given if there is one. -/
def secretValues (s : Secret) : List (String × String) :=
  [("access-key-id", s.accessKeyId), ("secret-access-key", s.secretAccessKey), ("region", s.region),
    ("endpoint", s.endpoint)] ++ s.roleArn.toList.map ("iam-role-arn", ·)

namespace Invocation

/-- The values of the options that may stand on either side of the verb. -/
def sharedValues (i : Invocation) : List (String × String) :=
  [("mounter", i.mounter), ("delete-parallelism", toString i.parallelism.toNat)]

/-- Arguments with the options `before` in front of the verb and `after` behind it. -/
def argumentsWith (i : Invocation) (before after : List (String × String)) : List String :=
  before.map written ++ i.command.verb.name :: (after.map written ++ ["--", i.command.bucket])

/-- The arguments of an invocation. -/
def arguments (i : Invocation) : List String :=
  i.argumentsWith (secretValues i.secret ++ i.sharedValues) i.command.values

/-- The options are on the side of the verb where they may stand, in any order, but for the mount
options, the order of which counts. -/
structure Arranged (i : Invocation) (before after : List (String × String)) : Prop where
  sides : ∃ early late, (early ++ late).Perm i.sharedValues ∧
    before.Perm (secretValues i.secret ++ early) ∧ after.Perm (i.command.values ++ late)
  mounts : (after.filter (·.1 == "mount-option")).map (·.2) = i.command.mountOptions

end Invocation

/-! ## What the commands take -/

variable {name value : String} {o : OptionSpec}

theorem accepts_parallelism (n : UInt64) : ValueKind.unsigned.accepts (toString n.toNat) = true := by
  rw [ValueKind.accepts, readUnsigned?_toString n.toNat_lt]
  rfl

theorem accepts_capacity (n : Int64) : ValueKind.signed.accepts (toString n.toInt) = true := by
  rw [ValueKind.accepts, readSigned?_toString n]
  rfl

theorem wellNamed_topSpec : topSpec.WellNamed := ⟨by decide, by decide⟩

theorem Verb.wellNamed_spec (v : Verb) : v.spec.WellNamed := by
  cases v <;> exact ⟨by decide, by decide⟩

theorem takes_topSpec (i : Invocation) :
    topSpec.Takes (secretValues i.secret ++ i.sharedValues) := by
  constructor
  case accepts =>
    intro g hg
    simp only [secretValues, Invocation.sharedValues, List.mem_append, List.mem_cons, List.mem_map,
      List.not_mem_nil, or_false] at hg
    obtain ((rfl | rfl | rfl | rfl) | ⟨role, -, rfl⟩) | rfl | rfl := hg
    case inr.inr => exact ⟨_, rfl, accepts_parallelism _⟩
    all_goals exact ⟨_, rfl, rfl⟩
  case once =>
    refine topSpec.once_of_nodup ?_
    unfold secretValues
    cases i.secret.roleArn with
    | none =>
      exact (by decide : ["access-key-id", "secret-access-key", "region", "endpoint", "mounter",
        "delete-parallelism"].Nodup)
    | some role =>
      exact (by decide : ["access-key-id", "secret-access-key", "region", "endpoint", "iam-role-arn",
        "mounter", "delete-parallelism"].Nodup)

/-- Every verb has the shared options. -/
theorem accepts_sharedValues (i : Invocation) (v : Verb) : ∀ g ∈ i.sharedValues,
    ∃ o, v.spec.options.find? (·.name == g.1) = some o ∧ o.kind.accepts g.2 := by
  intro g hg
  simp only [Invocation.sharedValues, List.mem_cons, List.not_mem_nil, or_false] at hg
  obtain rfl | rfl := hg
  · cases v <;> exact ⟨_, rfl, rfl⟩
  · cases v <;> exact ⟨_, rfl, accepts_parallelism _⟩

/-- A verb with no option of its own but the prefix. -/
theorem takes_prefix (i : Invocation) (v : Verb) (root : String)
    (hv : ∃ o, v.spec.options.find? (·.name == "prefix") = some o ∧ o.kind = .text) :
    v.spec.Takes ([("prefix", root)] ++ i.sharedValues) := by
  obtain ⟨o, hfind, hkind⟩ := hv
  constructor
  case accepts =>
    intro g hg
    rcases List.mem_append.1 hg with hg | hg
    · rw [List.mem_singleton.1 hg]
      exact ⟨o, hfind, by rw [hkind]; rfl⟩
    · exact accepts_sharedValues i v g hg
  case once =>
    exact v.spec.once_of_nodup (by decide : ["prefix", "mounter", "delete-parallelism"].Nodup)

theorem takes_create (i : Invocation) (bucket root : String) (capacity : Int64)
    (options : List String) : Verb.create.spec.Takes
      ((Command.create bucket root capacity options).values ++ i.sharedValues) := by
  constructor
  case accepts =>
    intro g hg
    simp only [Command.values, List.mem_append, List.mem_cons, List.mem_map, List.not_mem_nil,
      or_false] at hg
    obtain ((rfl | rfl) | ⟨option, -, rfl⟩) | hg := hg
    · exact ⟨_, rfl, rfl⟩
    · exact ⟨_, rfl, accepts_capacity _⟩
    · exact ⟨_, rfl, rfl⟩
    · exact accepts_sharedValues i .create g hg
  case once =>
    have hmounts : (options.map ("mount-option", ·)).Pairwise fun g h => g.1 = h.1 →
        ∃ o, Verb.create.spec.options.find? (·.name == g.1) = some o ∧ o.repeatable :=
      List.pairwise_map.2 (List.pairwise_of_forall fun _ _ _ => ⟨_, rfl, rfl⟩)
    -- Only mount options share a name, which is none of the other names.
    refine List.pairwise_append.2 ⟨List.pairwise_append.2 ⟨?_, hmounts, ?_⟩, ?_, ?_⟩
    · exact Spec.once_of_nodup _ (by decide : ["prefix", "capacity-bytes"].Nodup)
    · intro g hg h hh heq
      obtain ⟨option, -, rfl⟩ := List.mem_map.1 hh
      simp only [List.mem_cons, List.not_mem_nil, or_false] at hg
      obtain rfl | rfl := hg <;> simp at heq
    · exact Spec.once_of_nodup _ (by decide : ["mounter", "delete-parallelism"].Nodup)
    · intro g hg h hh heq
      simp only [List.mem_cons, List.not_mem_nil, or_false, Invocation.sharedValues] at hh
      rcases List.mem_append.1 hg with hg | hg
      · simp only [List.mem_cons, List.not_mem_nil, or_false] at hg
        obtain rfl | rfl := hg <;> obtain rfl | rfl := hh <;> simp at heq
      · obtain ⟨option, -, rfl⟩ := List.mem_map.1 hg
        obtain rfl | rfl := hh <;> simp at heq

theorem takes_spec (i : Invocation) :
    i.command.verb.spec.Takes (i.command.values ++ i.sharedValues) := by
  cases i.command with
  | check bucket =>
    exact ⟨accepts_sharedValues i .check,
      Spec.once_of_nodup _ (by decide : ["mounter", "delete-parallelism"].Nodup)⟩
  | create bucket root capacity options => exact takes_create i bucket root capacity options
  | delete bucket root => exact takes_prefix i .delete root ⟨_, rfl, rfl⟩
  | describe bucket root => exact takes_prefix i .describe root ⟨_, rfl, rfl⟩

/-! ## Reading an invocation -/

variable {env : Environment}

/-- The number of deletions in the environment can be read, if there is one. -/
def Environment.Readable (env : Environment) : Prop :=
  ∀ value, env "BUCKETVOL_DELETE_PARALLELISM" = some value → (readUnsigned? value).isSome

theorem Environment.Readable.accepts (readable : env.Readable) :
    ∀ o ∈ sharedOptions, ∀ value, o.envName?.bind env = some value → o.kind.accepts value := by
  intro o ho value hvalue
  simp only [sharedOptions, List.mem_cons, List.not_mem_nil, or_false] at ho
  obtain rfl | rfl := ho
  · rfl
  · exact readable value hvalue

theorem Environment.Readable.inherits_topSpec (readable : env.Readable) : topSpec.Inherits env := by
  intro o ho value hvalue
  rcases List.mem_append.1 ho with ho | ho
  · simp only [List.mem_cons, List.not_mem_nil, or_false] at ho
    obtain rfl | rfl | rfl | rfl | rfl := ho <;> rfl
  · exact readable.accepts o ho value hvalue

theorem Environment.Readable.inherits_spec (readable : env.Readable) (v : Verb) :
    v.spec.Inherits env := by
  intro o ho value hvalue
  rcases List.mem_append.1 ho with ho | ho
  · -- The options of one verb have no variables.
    have hnone : ∀ v : Verb, ∀ o ∈ v.options, o.envName? = none := by
      intro v
      cases v <;> decide
    simp [hnone v o ho] at hvalue
  · exact readable.accepts o ho value hvalue

/-- What stands after the verb. -/
theorem Verb.read_written (v : Verb) (readable : env.Readable) {after : List (String × String)}
    (takes : v.spec.Takes after) (bucket : String) :
    v.read env (after.map written ++ ["--", bucket]) =
      .ok ⟨after, inherited env after v.spec.options, some bucket⟩ := by
  have hread : v.spec.readAll {} (after.map written ++ ["--", bucket]) =
      .ok ({ values := after, trailing := true, positional := some bucket }, none) := by
    rw [v.wellNamed_spec.readAll_written rfl rfl (by simpa using takes)]
    exact Spec.readAll_trailing rfl rfl rfl rfl rfl bucket
  have hfinish := finish_eq (readable.inherits_spec v)
    (s := { values := after, trailing := true, positional := some bucket }) rfl
  have hrequired (given inherited : List (String × String)) :
      v.spec.checkRequired ⟨given, inherited, some bucket⟩ = .ok () := by
    have hoptions : ∀ v : Verb, ∀ o ∈ v.spec.options, o.required = false := by
      intro v
      cases v <;> decide
    unfold Spec.checkRequired
    rw [if_neg]
    simp only [Option.isNone_some, Bool.false_eq_true, and_false, or_false, List.any_eq_true,
      not_exists, not_and]
    intro o ho
    simp [hoptions v o ho]
  unfold read
  simp only [hread, hfinish, hrequired, bind, Except.bind]
  rfl

/-- What stands before the verb. -/
theorem readAll_topSpec (takes : topSpec.Takes given) (v : Verb) (rest : List String) :
    topSpec.readAll {} (given.map written ++ v.name :: rest) =
      .ok ({ values := given }, some (v.name, rest)) := by
  rw [wellNamed_topSpec.readAll_written rfl rfl (by simpa using takes)]
  cases v <;> rfl

namespace Invocation.Arranged

variable {i : Invocation} {before after : List (String × String)} {m ma : Matches}

theorem takes_before (h : i.Arranged before after) : topSpec.Takes before := by
  obtain ⟨early, late, hshared, hbefore, -⟩ := h.sides
  refine (takes_topSpec i).of_subperm (hbefore.subperm.trans ?_)
  exact (List.subperm_append_left _).2
    ((List.sublist_append_left early late).subperm.trans hshared.subperm)

theorem takes_after (h : i.Arranged before after) : i.command.verb.spec.Takes after := by
  obtain ⟨early, late, hshared, -, hafter⟩ := h.sides
  refine (takes_spec i).of_subperm (hafter.subperm.trans ?_)
  exact (List.subperm_append_left _).2
    ((List.sublist_append_right early late).subperm.trans hshared.subperm)

/-- The value of an option before the verb. -/
theorem value?_before (h : i.Arranged m.given after)
    (hfind : topSpec.options.find? (·.name == name) = some o) (hsingle : o.repeatable = false)
    (hmem : (name, value) ∈ m.given) : m.value? name = some value :=
  Matches.value?_eq_some hmem (h.takes_before.eq_of_mem hfind hsingle hmem)

/-- The value of an option after the verb. -/
theorem value?_after (h : i.Arranged before m.given)
    (hfind : i.command.verb.spec.options.find? (·.name == name) = some o)
    (hsingle : o.repeatable = false) (hmem : (name, value) ∈ m.given) :
    m.value? name = some value :=
  Matches.value?_eq_some hmem (h.takes_after.eq_of_mem hfind hsingle hmem)

theorem mem_before (h : i.Arranged before after) {g : String × String}
    (hg : g ∈ secretValues i.secret) : g ∈ before := by
  obtain ⟨early, late, -, hbefore, -⟩ := h.sides
  exact hbefore.symm.subset (List.mem_append_left _ hg)

theorem mem_after (h : i.Arranged before after) {g : String × String}
    (hg : g ∈ i.command.values) : g ∈ after := by
  obtain ⟨early, late, -, -, hafter⟩ := h.sides
  exact hafter.symm.subset (List.mem_append_left _ hg)

/-- A shared option has its value on one side of the verb. -/
theorem sharedValue?_eq (h : i.Arranged m.given ma.given)
    (hmem : (name, value) ∈ i.sharedValues) : sharedValue? m ma name = some value := by
  have hoption : ∀ v : Verb, ∃ o, v.spec.options.find? (·.name == name) = some o ∧
      topSpec.options.find? (·.name == name) = some o ∧ o.repeatable = false := by
    simp only [Invocation.sharedValues, List.mem_cons, List.not_mem_nil, or_false,
      Prod.mk.injEq] at hmem
    obtain ⟨rfl, -⟩ | ⟨rfl, -⟩ := hmem <;> intro v <;> cases v <;> exact ⟨_, rfl, rfl, rfl⟩
  obtain ⟨o, hfind, htop, hsingle⟩ := hoption i.command.verb
  obtain ⟨early, late, hshared, hbefore, hafter⟩ := h.sides
  have honly : ∀ g ∈ ma.given, g.1 = name → g.2 = value := by
    intro g hg
    refine (takes_spec i).eq_of_mem hfind hsingle (List.mem_append_right _ hmem) g ?_
    rcases List.mem_append.1 (hafter.subset hg) with hg | hg
    · exact List.mem_append_left _ hg
    · exact List.mem_append_right _ (hshared.subset (List.mem_append_right _ hg))
  unfold sharedValue?
  rcases List.mem_append.1 (hshared.symm.subset hmem) with hearly | hlate
  · rw [h.value?_before htop hsingle (hbefore.symm.subset (List.mem_append_right _ hearly))]
    by_cases hmem' : (name, value) ∈ ma.given
    · rw [Matches.argumentFor?_eq_some hmem' honly]
      rfl
    · rw [Matches.argumentFor?_eq_none]
      · rfl
      · rintro ⟨name', value'⟩ hg rfl
        exact hmem' (honly _ hg rfl ▸ hg)
  · rw [Matches.argumentFor?_eq_some (hafter.symm.subset (List.mem_append_right _ hlate)) honly]
    rfl

/-- Only the role may be left out, so that a role in the environment would take its place. -/
theorem value?_role (h : i.Arranged m.given after)
    (hm : m.inherited = inherited env m.given topSpec.options)
    (role : i.secret.roleArn = none → env "S3_IAM_ROLE_ARN" = none) :
    m.value? "iam-role-arn" = i.secret.roleArn := by
  cases harn : i.secret.roleArn with
  | some arn => exact h.value?_before rfl rfl (h.mem_before (by simp [secretValues, harn]))
  | none =>
    have hgiven : ∀ g ∈ m.given, g.1 ≠ "iam-role-arn" := by
      obtain ⟨early, late, hshared, hbefore, -⟩ := h.sides
      intro g hg
      rcases List.mem_append.1 (hbefore.subset hg) with hg | hg
      · simp only [secretValues, harn, Option.toList_none, List.map_nil, List.append_nil,
          List.mem_cons, List.not_mem_nil, or_false] at hg
        obtain rfl | rfl | rfl | rfl := hg <;> simp
      · have hg := hshared.subset (List.mem_append_left _ hg)
        simp only [Invocation.sharedValues, List.mem_cons, List.not_mem_nil, or_false] at hg
        obtain rfl | rfl := hg <;> simp
    have hvariable : ∀ o ∈ topSpec.options, o.name = "iam-role-arn" →
        o.envName? = some "S3_IAM_ROLE_ARN" := by
      decide
    have henv : ∀ o ∈ topSpec.options, o.name = "iam-role-arn" → o.envName?.bind env = none := by
      intro o ho hname
      rw [hvariable o ho hname]
      exact role harn
    unfold Matches.value?
    rw [Matches.argumentFor?_eq_none hgiven, hm, lookup_inherited_eq_none henv]
    rfl

/-- The secret is read back. -/
theorem readSecret_eq (h : i.Arranged m.given after)
    (hm : m.inherited = inherited env m.given topSpec.options)
    (role : i.secret.roleArn = none → env "S3_IAM_ROLE_ARN" = none) :
    readSecret m = i.secret := by
  have hid : m.value? "access-key-id" = some i.secret.accessKeyId :=
    h.value?_before rfl rfl (h.mem_before (by simp [secretValues]))
  have hkey : m.value? "secret-access-key" = some i.secret.secretAccessKey :=
    h.value?_before rfl rfl (h.mem_before (by simp [secretValues]))
  have hregion : m.value? "region" = some i.secret.region :=
    h.value?_before rfl rfl (h.mem_before (by simp [secretValues]))
  have hendpoint : m.value? "endpoint" = some i.secret.endpoint :=
    h.value?_before rfl rfl (h.mem_before (by simp [secretValues]))
  unfold readSecret
  rw [hid, hkey, hregion, hendpoint, h.value?_role hm role]
  rfl

/-- The command is read back. -/
theorem command_eq (h : i.Arranged before m.given) (hbucket : m.positional = some i.command.bucket) :
    i.command.verb.command m = i.command := by
  have hmounts : m.argumentsFor "mount-option" = i.command.mountOptions := by
    rw [Matches.argumentsFor_eq, h.mounts]
  obtain ⟨secret, mounter, parallelism, command⟩ := i
  cases command with
  | check bucket =>
    unfold Verb.command
    simp only [Command.verb, hbucket]
    rfl
  | create bucket root capacity options =>
    have hroot : m.value? "prefix" = some root :=
      h.value?_after rfl rfl (h.mem_after (by simp [Command.values]))
    have hcapacity : m.value? "capacity-bytes" = some (toString capacity.toInt) :=
      h.value?_after rfl rfl (h.mem_after (by simp [Command.values]))
    unfold Verb.command
    simp only [Command.verb, hbucket, hroot, hcapacity, hmounts, Option.bind_some,
      readSigned?_toString, Option.getD_some, Int64.ofInt_toInt]
    rfl
  | delete bucket root =>
    have hroot : m.value? "prefix" = some root :=
      h.value?_after rfl rfl (h.mem_after (by simp [Command.values]))
    unfold Verb.command
    simp only [Command.verb, hbucket, hroot]
    rfl
  | describe bucket root =>
    have hroot : m.value? "prefix" = some root :=
      h.value?_after rfl rfl (h.mem_after (by simp [Command.values]))
    unfold Verb.command
    simp only [Command.verb, hbucket, hroot]
    rfl

end Invocation.Arranged

theorem readSubcommand_name (v : Verb) (arguments : List String) :
    readSubcommand env v.name arguments = (v.read env arguments).map (v, ·) := by
  unfold readSubcommand
  rw [v.ofName?_name]
  simp only [bind, Except.bind]
  cases v.read env arguments <;> rfl

namespace Invocation

theorem Arranged.of_sides {i : Invocation} {early late : List (String × String)}
    (h : (early ++ late).Perm i.sharedValues) :
    i.Arranged (secretValues i.secret ++ early) (i.command.values ++ late) where
  sides := ⟨early, late, h, .refl _, .refl _⟩
  mounts := by
    have hlate : late.filter (·.1 == "mount-option") = [] := by
      rw [List.filter_eq_nil_iff]
      intro g hg
      have hg := h.subset (List.mem_append_right _ hg)
      simp only [sharedValues, List.mem_cons, List.not_mem_nil, or_false] at hg
      obtain rfl | rfl := hg <;> simp
    rw [List.filter_append, hlate, List.append_nil]
    cases i.command with
    | check bucket => rfl
    | create bucket root capacity options =>
      simp [Command.values, Command.mountOptions, List.filter_map, Function.comp_def]
    | delete bucket root => rfl
    | describe bucket root => rfl

/-- Arguments are read as the invocation that they are arranged from. -/
theorem Arranged.read_eq {i : Invocation} {before after : List (String × String)}
    (h : i.Arranged before after) (readable : env.Readable)
    (role : i.secret.roleArn = none → env "S3_IAM_ROLE_ARN" = none) :
    Invocation.read env (i.argumentsWith before after) = .ok i := by
  have hsub := i.command.verb.read_written readable h.takes_after i.command.bucket
  have htop := readAll_topSpec h.takes_before i.command.verb
    (after.map written ++ ["--", i.command.bucket])
  have hfinish := finish_eq readable.inherits_topSpec (s := { values := before }) rfl
  generalize hbefore : Matches.mk before (inherited env before topSpec.options) none = mb at hfinish
  generalize hafter : Matches.mk after (inherited env after i.command.verb.spec.options)
    (some i.command.bucket) = ma at hsub
  have harranged : i.Arranged mb.given ma.given := by
    rw [← hbefore, ← hafter]
    exact h
  have hrequired : topSpec.checkRequired mb = .ok () := by
    have hendpoint : mb.value? "endpoint" = some i.secret.endpoint :=
      harranged.value?_before rfl rfl (harranged.mem_before (by simp [secretValues]))
    have honly : ∀ o ∈ topSpec.options, o.required = true → o.name = "endpoint" := by
      decide
    unfold Spec.checkRequired
    rw [if_neg]
    simp only [topSpec, Bool.false_eq_true, false_and, or_false, List.any_eq_true, not_exists]
    rintro o ⟨ho, hlacking⟩
    rw [Bool.and_eq_true] at hlacking
    rw [honly o ho hlacking.1, hendpoint] at hlacking
    simp at hlacking
  have hparallelism :
      sharedValue? mb ma "delete-parallelism" = some (toString i.parallelism.toNat) :=
    harranged.sharedValue?_eq (by simp [sharedValues])
  have hmounter : sharedValue? mb ma "mounter" = some i.mounter :=
    harranged.sharedValue?_eq (by simp [sharedValues])
  have hsecret : readSecret mb = i.secret :=
    harranged.readSecret_eq (by rw [← hbefore]) role
  have hcommand : i.command.verb.command ma = i.command :=
    harranged.command_eq (by rw [← hafter])
  unfold Invocation.read argumentsWith
  rw [htop]
  simp only [readSubcommand_name, hsub, hfinish, hrequired, bind, Except.bind, Option.mapM_some,
    Functor.map, Except.map, hparallelism, hmounter, hsecret, hcommand, Option.bind_some,
    readUnsigned?_toString i.parallelism.toNat_lt, Option.getD_some, UInt64.ofNat_toNat]
  rfl

/-- **An invocation is read back from its arguments.** The shared options may stand on either side of
the verb, and the options on one side in any order. -/
theorem read_arguments (i : Invocation) (readable : env.Readable)
    (role : i.secret.roleArn = none → env "S3_IAM_ROLE_ARN" = none) :
    Invocation.read env i.arguments = .ok i ∧
      (∀ early late, (early ++ late).Perm i.sharedValues →
        Invocation.read env
          (i.argumentsWith (secretValues i.secret ++ early) (i.command.values ++ late)) = .ok i) ∧
      ∀ before after, i.Arranged before after →
        Invocation.read env (i.argumentsWith before after) = .ok i := by
  have hsides (early late : List (String × String))
      (hshared : (early ++ late).Perm i.sharedValues) : Invocation.read env
        (i.argumentsWith (secretValues i.secret ++ early) (i.command.values ++ late)) = .ok i :=
    (Arranged.of_sides hshared).read_eq readable role
  refine ⟨?_, hsides, fun before after h => h.read_eq readable role⟩
  have hbefore := hsides i.sharedValues [] (by rw [List.append_nil])
  rwa [List.append_nil] at hbefore

/-- An invocation whose values look like options. -/
def hyphenated : Invocation where
  secret :=
    { accessKeyId := "-h", secretAccessKey := "", region := "a=b", endpoint := "--", roleArn := none }
  mounter := "--mounter=goofys"
  parallelism := 18446744073709551615
  command := .create "--help" "" (-9223372036854775808) ["-o", "", "uid=0", "-o"]

/-- Nothing but the role and an unreadable number of deletions matters in the environment. -/
def crowded : Environment := fun name =>
  if name = "S3_IAM_ROLE_ARN" then none
  else if name = "BUCKETVOL_DELETE_PARALLELISM" then some "+4"
  else some "other"

/-- The shared options of that invocation stand on both sides of the verb. -/
theorem read_arguments_hyphenated :
    crowded.Readable ∧ crowded "S3_IAM_ROLE_ARN" = none ∧
      Invocation.read crowded
        ["--access-key-id=-h", "--secret-access-key=", "--region=a=b", "--endpoint=--",
          "--delete-parallelism=18446744073709551615", "create", "--prefix=",
          "--capacity-bytes=-9223372036854775808", "--mount-option=-o", "--mount-option=",
          "--mount-option=uid=0", "--mount-option=-o", "--mounter=--mounter=goofys", "--",
          "--help"] = .ok hyphenated := by
  have hreadable : crowded.Readable := by
    intro value hvalue
    have hvalue : some "+4" = some value := hvalue
    cases hvalue
    decide
  refine ⟨hreadable, by decide, ?_⟩
  exact (read_arguments hyphenated hreadable fun _ => by decide).2.1
    [("delete-parallelism", toString hyphenated.parallelism.toNat)] [("mounter", hyphenated.mounter)]
    (List.Perm.swap _ _ _)

end Invocation

end ObjectVolume.Cli
