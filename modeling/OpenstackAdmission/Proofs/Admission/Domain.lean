import OpenstackAdmission.Proofs.Admission.Lookup
import OpenstackAdmission.Proofs.Admission.Shoot
import OpenstackAdmission.Proofs.Checks.Credentials

/-!
# The domain of a shoot

The review of a binding demands the secret that the binding refers to. A shoot that names the binding looks for the
secret once more: from its own namespace, with no regard to the provider of the binding, and without a word if the
secret has no domain or none that is a text. If this led anywhere else, the rules of no domain would apply to the
shoot.

> `domain_of_review`: it leads to the secret that was demanded, and this one has a domain.

`Resource.credentialsUse?` is the way of a resource to its secret, and `exists_secret_of_review` what an admitted
resource finds there.
-/

namespace OpenstackAdmission

/-! ## What a secret holds -/

/-- Credentials have a domain. -/
theorem Credentials.exists_domain_of_check {secret : Secret} {path : FieldPath}
    (h : check secret path = []) :
    ∃ domain, secret.value domainName = .ok (some domain) ∧ domain ≠ "" ∧
      Text.blankEdged domain = false := by
  unfold check at h
  rw [List.append_eq_nil_iff, List.append_eq_nil_iff, List.flatMap_eq_nil_iff] at h
  exact exists_value_of_checkValue (h.1.1 domainName (.head _))

/-! ## The way of a resource to its secret -/

/-- The use that a resource makes of credentials, if the provider is to use any. -/
def Resource.credentialsUse? : Resource → Option CredentialsUse
  | .secretBinding binding => some binding.credentialsUse
  | .credentialsBinding binding => some binding.credentialsUse
  | .backupBucket bucket => some bucket.credentialsUse
  | .seed s => (s.spec.backup.filter (·.provider = openstackType)).map SeedBackup.credentialsUse
  | _ => none

section Use

variable {r : Resource} {old : Option Resource} {lookup : Lookup} {credentials : CredentialsUse}
  {key : SecretKey}

/-- What a reference demands is met exactly if the secret is found and nothing is wrong with its
credentials. -/
theorem Lookup.demandCredentials_eq_ok_iff :
    lookup.demandCredentials key = .ok () ↔
      ∃ secret, lookup.secret key.space key.name = some secret ∧
        Credentials.check secret (.root "data") = [] := by
  unfold Lookup.demandCredentials
  cases lookup.secret key.space key.name with
  | none => simp only [reduceCtorEq, false_and, exists_false]
  | some secret =>
    simp only [Option.some.injEq, exists_eq_left']
    cases Credentials.check secret (.root "data") with
    | nil => simp only
    | cons error rest => simp only [reduceCtorEq]

/-- A resource that uses credentials is checked for nothing else. -/
theorem Resource.check_of_credentialsUse? (h : r.credentialsUse? = some credentials) :
    r.check old lookup = lookup.checkCredentialsUse credentials := by
  cases r with
  | secretBinding binding =>
    obtain rfl := Option.some.inj h
    rfl
  | credentialsBinding binding =>
    obtain rfl := Option.some.inj h
    rfl
  | backupBucket bucket =>
    obtain rfl := Option.some.inj h
    rfl
  | seed s =>
    obtain ⟨backup, hbackup, rfl⟩ := Option.map_eq_some_iff.mp h
    unfold Resource.check
    dsimp only
    rw [hbackup]
  | _ => cases h

end Use

/-! ## Bindings -/

/-- The binding from which a shoot takes its credentials: the one it names among those of credentials, and only
if it names none there, the one among those of secrets. -/
inductive Shoot.UsesBinding (shoot : Shoot) (lookup : Lookup) : Resource → Prop where
  | credentials {name : String} {binding : CredentialsBinding}
    (hname : shoot.spec.credentialsBindingName = some name)
    (hfound : lookup.credentialsBinding shoot.metadata.referenceNamespace name = some binding) :
    UsesBinding shoot lookup (.credentialsBinding binding)
  | secret {name : String} {binding : SecretBinding}
    (hunset : shoot.spec.credentialsBindingName = none)
    (hname : shoot.spec.secretBindingName = some name)
    (hfound : lookup.secretBinding shoot.metadata.referenceNamespace name = some binding) :
    UsesBinding shoot lookup (.secretBinding binding)

/-- A secret binding leads to a key unless it states another provider; one that states none is taken to be
of this provider. -/
theorem SecretBinding.credentialsUse_eq_ok_iff {binding : SecretBinding} {key : SecretKey} :
    binding.credentialsUse = .ok key ↔
      binding.provider.filter (·.providerType ≠ openstackType) = none ∧
        binding.secretRef.key binding.metadata.referenceNamespace = key := by
  unfold SecretBinding.credentialsUse
  cases binding.provider.filter (·.providerType ≠ openstackType) with
  | some provider => simp only [reduceCtorEq, false_and]
  | none => simp only [Except.ok.injEq, true_and]

/-- A credentials binding has to state the provider, and its reference has to be one to a secret. -/
theorem CredentialsBinding.credentialsUse_eq_ok_iff {binding : CredentialsBinding}
    {key : SecretKey} :
    binding.credentialsUse = .ok key ↔
      binding.provider.providerType = openstackType ∧
        binding.credentialsRef.secretKey? binding.metadata.referenceNamespace = some key := by
  unfold CredentialsBinding.credentialsUse
  by_cases hprovider : binding.provider.providerType = openstackType
  · rw [if_neg (not_not_intro hprovider), and_iff_right hprovider]
    cases binding.credentialsRef.secretKey? binding.metadata.referenceNamespace with
    | none => simp only [reduceCtorEq]
    | some found => simp only [Except.ok.injEq, Option.some.injEq]
  · rw [if_pos hprovider]
    simp only [reduceCtorEq, hprovider, false_and]

namespace Shoot.UsesBinding

variable {shoot : Shoot} {lookup : Lookup} {binding : Resource} {key : SecretKey}

/-- An admitted binding leads to a secret that holds credentials. The two ways to refuse a binding before its
secret is looked up have an error each. -/
theorem exists_secret_of_review (h : shoot.UsesBinding lookup binding) {old : Option Resource}
    (hstays : binding.metadata.isDeleting = false) (hreview : binding.review old lookup = .ok ()) :
    ∃ key secret, binding.credentialsUse? = some (.ok key) ∧
      lookup.secret key.space key.name = some secret ∧
      Credentials.check secret (.root "data") = [] := by
  have hcheck := Resource.check_eq_ok_nil_of_review hreview hstays
  -- an empty list of errors would pass without a secret, so it has to be ruled out
  obtain ⟨credentials, huse, hsome⟩ :
      ∃ credentials, binding.credentialsUse? = some credentials ∧ credentials ≠ .error [] := by
    cases h with
    | @credentials _ binding =>
      refine ⟨_, rfl, ?_⟩
      unfold CredentialsBinding.credentialsUse
      split
      · exact nofun
      · split <;> exact nofun
    | @secret _ binding =>
      refine ⟨_, rfl, ?_⟩
      unfold SecretBinding.credentialsUse
      split <;> exact nofun
  rw [Resource.check_of_credentialsUse? huse] at hcheck
  cases credentials with
  | error errors => exact absurd (congrArg Except.error (Except.ok.inj hcheck)) hsome
  | ok key =>
    obtain ⟨⟨⟩, hdemand, -⟩ := map_eq_ok_iff.mp hcheck
    obtain ⟨secret, hsecret, hholds⟩ := Lookup.demandCredentials_eq_ok_iff.mp hdemand
    exact ⟨key, secret, huse, hsecret, hholds⟩

/-- From one namespace, shoot and binding go the same way. -/
theorem secretKey?_eq (h : shoot.UsesBinding lookup binding)
    (hspace : binding.metadata.referenceNamespace = shoot.metadata.referenceNamespace)
    (huse : binding.credentialsUse? = some (.ok key)) :
    shoot.secretKey? lookup = .ok (some key) := by
  unfold Shoot.secretKey?
  -- a shoot looks at its newer binding first, and at the older one only if that is not set
  cases h with
  | credentials hname hfound =>
    obtain ⟨-, hkey⟩ := CredentialsBinding.credentialsUse_eq_ok_iff.mp (Option.some.inj huse)
    rw [← hspace] at hfound ⊢
    simp only [hname, hfound]
    exact congrArg Except.ok hkey
  | secret hunset hname hfound =>
    obtain ⟨-, hkey⟩ := SecretBinding.credentialsUse_eq_ok_iff.mp (Option.some.inj huse)
    rw [← hspace] at hfound ⊢
    simp only [hunset, hname, hfound]
    exact congrArg (fun k => Except.ok (some k)) hkey

/-- The binding that is found among resources is one of them, and of the namespace of the shoot. -/
theorem of_ofResources {resources : List Resource}
    (h : shoot.UsesBinding (.ofResources resources) binding) :
    binding ∈ resources ∧ binding.metadata.space = some shoot.metadata.referenceNamespace := by
  obtain ⟨kind, name, hkind, hobject⟩ : ∃ kind name, kind ∈ ResourceKind.namespaced ∧
      (Lookup.ofResources resources).object? kind shoot.metadata.referenceNamespace name = some binding := by
    cases h with
    | @credentials name _ _ hfound =>
      exact ⟨.credentialsBinding, name, by decide, congrArg (Option.map Resource.credentialsBinding) hfound⟩
    | @secret name _ _ _ hfound =>
      exact ⟨.secretBinding, name, by decide, congrArg (Option.map Resource.secretBinding) hfound⟩
  rw [object?_ofResources hkind] at hobject
  obtain ⟨hmem, -, -, hspace⟩ := of_firstBeside hobject
  exact ⟨hmem, hspace⟩

end Shoot.UsesBinding

namespace Shoot

variable {shoot : Shoot} {binding : Resource}

/-- The domain of a shoot whose secret holds credentials is there. -/
theorem exists_domain_of_secretKey? {lookup : Lookup} {key : SecretKey} {secret : Secret}
    (hkey : shoot.secretKey? lookup = .ok (some key))
    (hsecret : lookup.secret key.space key.name = some secret)
    (hholds : Credentials.check secret (.root "data") = []) :
    ∃ domain, secret.value Credentials.domainName = .ok (some domain) ∧ domain ≠ "" ∧
      Text.blankEdged domain = false ∧ shoot.domain lookup = .ok (some domain) := by
  obtain ⟨domain, hdomain, hnonempty, hedges⟩ := Credentials.exists_domain_of_check hholds
  refine ⟨domain, hdomain, hnonempty, hedges, ?_⟩
  unfold Shoot.domain Secret.domain?
  simp only [hkey, hsecret, hdomain]

/-- **A shoot has the domain of the secret that its binding was admitted with.** -/
theorem domain_of_review {resources : List Resource} {old : Option Resource}
    (huses : shoot.UsesBinding (.ofResources resources) binding)
    (hstays : binding.metadata.isDeleting = false)
    (h : binding.review old (.ofResources resources) = .ok ()) :
    binding ∈ resources ∧ binding.metadata.space = some shoot.metadata.referenceNamespace ∧
      ∃ key secret domain, binding.credentialsUse? = some (.ok key) ∧
        (Lookup.ofResources resources).secret key.space key.name = some secret ∧
        Credentials.check secret (.root "data") = [] ∧
        secret.value Credentials.domainName = .ok (some domain) ∧ domain ≠ "" ∧
        Text.blankEdged domain = false ∧
        shoot.domain (.ofResources resources) = .ok (some domain) := by
  obtain ⟨hmem, hspace⟩ := huses.of_ofResources
  obtain ⟨key, secret, huse, hsecret, hholds⟩ := huses.exists_secret_of_review hstays h
  -- the lookup compares the namespaces that are stated, the key the ones that count
  have hreference : binding.metadata.referenceNamespace = shoot.metadata.referenceNamespace := by
    unfold ObjectMeta.referenceNamespace at hspace ⊢
    rw [hspace, Option.getD_some]
  obtain ⟨domain, hdomain⟩ :=
    exists_domain_of_secretKey? (huses.secretKey?_eq hreference huse) hsecret hholds
  exact ⟨hmem, hspace, key, secret, domain, huse, hsecret, hholds, hdomain⟩

/-! A binding to the secret of another namespace. One of the same name is in the namespace of the shoot. -/

def secretWithDomain (space domain : String) : Secret where
  metadata := { name := some "openstack", space := some space }
  stringData := some (Dict.ofList [("domainName", domain), ("tenantName", "dev"),
    ("username", "dev"), ("password", "dev")])

def bindingToOther : CredentialsBinding where
  metadata := { name := some "openstack", space := some "garden-dev" }
  credentialsRef :=
    { apiVersion := some "v1", kind := "Secret", name := "openstack", space := some "garden-credentials" }
  provider := { providerType := openstackType }

def resourcesWithBinding : List Resource :=
  [.secret (secretWithDomain "garden-dev" "default"),
    .secret (secretWithDomain "garden-credentials" "eu"), .credentialsBinding bindingToOther]

def shootWithBinding : Shoot :=
  { shootOnInternal with
    spec := { shootOnInternal.spec with credentialsBindingName := some "openstack" } }

/-- The binding leads to a secret in another namespace, and both are found. -/
theorem domain_shootWithBinding :
    shootWithBinding.UsesBinding (.ofResources resourcesWithBinding)
        (.credentialsBinding bindingToOther) ∧
      (Resource.credentialsBinding bindingToOther).metadata.isDeleting = false ∧
      (Resource.credentialsBinding bindingToOther).review none (.ofResources resourcesWithBinding) =
        .ok () ∧
      ∃ domain, shootWithBinding.domain (.ofResources resourcesWithBinding) = .ok (some domain) ∧
        domain ≠ "" ∧ Text.blankEdged domain = false := by
  have huses : shootWithBinding.UsesBinding (.ofResources resourcesWithBinding)
      (.credentialsBinding bindingToOther) :=
    .credentials rfl rfl
  have hreview : (Resource.credentialsBinding bindingToOther).review none
      (.ofResources resourcesWithBinding) = .ok () := by
    rfl
  obtain ⟨-, -, key, secret, domain, -, -, -, -, hnonempty, hedges, hdomain⟩ :=
    domain_of_review huses rfl hreview
  exact ⟨huses, rfl, hreview, domain, hdomain, hnonempty, hedges⟩

end Shoot

end OpenstackAdmission
