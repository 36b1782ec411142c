import OpenstackAdmission.Proofs.Admission.Domain

/-!
# Users of a secret

Bindings of secrets and of credentials, buckets and seeds all refer to a secret, and each in a way of its own: the
provider may be left out or not, a reference may be to a secret only or to anything, there may be two references of
which one counts, and the namespace that is left out may be that of the resource or the empty one. `Designates` says
where these ways lead.

> `judgedBySecret_of_designates`: whoever designates a secret is admitted exactly if the secret is there and holds
credentials, and is refused with what the review of the secret itself would find.

This is because all ways end in one demand, which is made of nothing but the secret
(`Resource.review_of_designates`). So no two users of a secret are told different things.
-/

namespace OpenstackAdmission

namespace Resource

/-- The resource is for the provider to check, and its reference leads to the secret of this key. -/
inductive Designates : Resource → SecretKey → Prop where
  | secretBinding {binding : SecretBinding}
    (hprovider : ∀ provider, binding.provider = some provider → provider.providerType = openstackType) :
    Designates (.secretBinding binding)
      ⟨binding.secretRef.space.getD (binding.metadata.space.getD ""), binding.secretRef.name⟩
  | credentialsBinding {binding : CredentialsBinding}
    (hprovider : binding.provider.providerType = openstackType)
    (hkind : binding.credentialsRef.kind = "Secret") :
    Designates (.credentialsBinding binding)
      ⟨binding.credentialsRef.space.getD (binding.metadata.space.getD ""), binding.credentialsRef.name⟩
  /-- The newer reference of a bucket counts, whatever the older one is. -/
  | bucketCredentials {bucket : BackupBucket} {reference : ObjectReference}
    (hprovider : bucket.spec.provider.providerType = openstackType)
    (hreference : bucket.spec.credentialsRef = some reference) (hkind : reference.kind = "Secret") :
    Designates (.backupBucket bucket)
      ⟨reference.space.getD (bucket.metadata.space.getD ""), reference.name⟩
  | bucketSecret {bucket : BackupBucket} {reference : SecretReference}
    (hprovider : bucket.spec.provider.providerType = openstackType)
    (hunset : bucket.spec.credentialsRef = none) (hreference : bucket.spec.secretRef = some reference) :
    Designates (.backupBucket bucket)
      ⟨reference.space.getD (bucket.metadata.space.getD ""), reference.name⟩
  /-- A seed has no namespace to look in. -/
  | seed {s : Seed} {backup : SeedBackup} {reference : ObjectReference}
    (hbackup : s.spec.backup = some backup) (hprovider : backup.provider = openstackType)
    (hreference : backup.credentialsRef = some reference) (hkind : reference.kind = "Secret") :
    Designates (.seed s) ⟨reference.space.getD "", reference.name⟩

end Resource

/-- A reference to a secret has its key. -/
theorem ObjectReference.secretKey?_of_kind {reference : ObjectReference} (hkind : reference.kind = "Secret")
    (space : String) :
    reference.secretKey? space = some ⟨reference.space.getD space, reference.name⟩ := by
  unfold secretKey?
  exact if_pos hkind

section Demand

variable {lookup : Lookup} {key : SecretKey} {secret : Secret}

/-- A secret that is not found is named in the error, with its namespace. -/
theorem Lookup.demandCredentials_of_missing (h : lookup.secret key.space key.name = none) :
    lookup.demandCredentials key = .error (.secretNotFound key.space key.name) := by
  unfold demandCredentials
  rw [h]

/-- A secret without usable credentials is named in the error, which holds all that is wrong with it. -/
theorem Lookup.demandCredentials_of_broken (h : lookup.secret key.space key.name = some secret)
    (hbroken : Credentials.check secret (.root "data") ≠ []) :
    lookup.demandCredentials key =
      .error (.invalidSecret key.space key.name (Credentials.check secret (.root "data"))) := by
  unfold demandCredentials
  cases hcheck : Credentials.check secret (.root "data") with
  | nil => exact absurd hcheck hbroken
  | cons first rest => simp only [h, hcheck]

end Demand

namespace Resource

variable {r : Resource} {old : Option Resource} {lookup : Lookup} {key : SecretKey}

/-- Every way to a secret is the way that the review goes. -/
theorem Designates.credentialsUse? (h : r.Designates key) : r.credentialsUse? = some (.ok key) := by
  -- a field that states a secret is read only where the newer one is not set
  cases h with
  | @secretBinding binding hprovider =>
    refine congrArg some (SecretBinding.credentialsUse_eq_ok_iff.mpr ⟨?_, rfl⟩)
    rw [Option.filter_eq_none_iff]
    intro provider hsome
    simp [hprovider provider hsome]
  | @credentialsBinding binding hprovider hkind =>
    exact congrArg some (CredentialsBinding.credentialsUse_eq_ok_iff.mpr
      ⟨hprovider, ObjectReference.secretKey?_of_kind hkind _⟩)
  | @bucketCredentials bucket reference hprovider hreference hkind =>
    refine congrArg some ?_
    unfold BackupBucket.credentialsUse
    simp only [hprovider, hreference, ObjectReference.secretKey?_of_kind hkind]
    rfl
  | @bucketSecret bucket reference hprovider hunset hreference =>
    refine congrArg some ?_
    unfold BackupBucket.credentialsUse
    simp only [hprovider, hunset, hreference]
    rfl
  | @seed s backup reference hbackup hprovider hreference hkind =>
    have hfilter : s.spec.backup.filter (·.provider = openstackType) = some backup := by
      rw [hbackup, Option.filter_some, if_pos (decide_eq_true hprovider)]
    refine Option.map_eq_some_iff.mpr ⟨backup, hfilter, ?_⟩
    unfold SeedBackup.credentialsUse
    simp only [hreference, ObjectReference.secretKey?_of_kind hkind]

/-- **The review of a user of a secret is the demand of the secret,** and nothing else. -/
theorem review_of_designates (h : r.Designates key) (hstays : r.metadata.isDeleting = false)
    (hmismatch : r.mismatch? old = none) :
    r.review old lookup = lookup.demandCredentials key := by
  unfold review
  rw [check_of_credentialsUse? h.credentialsUse?]
  simp only [hmismatch, hstays, Lookup.checkCredentialsUse, Bool.false_eq_true, if_false]
  cases lookup.demandCredentials key with
  | error e => rfl
  | ok _ => rfl

/-- The review of a resource is about the secret of a key only. -/
structure JudgedBySecret (r : Resource) (old : Option Resource) (lookup : Lookup) (key : SecretKey) : Prop where
  admitted_iff : r.review old lookup = .ok () ↔
    ∃ secret, lookup.secret key.space key.name = some secret ∧
      Credentials.check secret (.root "data") = []
  missing : lookup.secret key.space key.name = none →
    r.review old lookup = .error (.secretNotFound key.space key.name)
  /-- It is refused with the errors with which the secret itself is refused, unless that is being deleted. -/
  broken : ∀ secret, lookup.secret key.space key.name = some secret →
    Credentials.check secret (.root "data") ≠ [] →
      ∃ errors, r.review old lookup = .error (.invalidSecret key.space key.name errors) ∧
        (secret.metadata.isDeleting = false → ∀ oldSecret otherLookup,
          (Resource.secret secret).mismatch? oldSecret = none →
            (Resource.secret secret).review oldSecret otherLookup =
              .error (.invalid .secret (Resource.secret secret).objectName errors))
  /-- Other users of the secret are told the same. -/
  alike : ∀ (other : Resource) (oldOther : Option Resource), other.Designates key →
    other.metadata.isDeleting = false → other.mismatch? oldOther = none →
      other.review oldOther lookup = r.review old lookup

/-- **All users of a secret judge it alike,** and as it is judged itself. -/
theorem judgedBySecret_of_designates (h : r.Designates key) (hstays : r.metadata.isDeleting = false)
    (hmismatch : r.mismatch? old = none) : r.JudgedBySecret old lookup key := by
  have hreview : r.review old lookup = lookup.demandCredentials key := review_of_designates h hstays hmismatch
  -- the verdict is a function of the secret that was found, whoever refers to it
  constructor
  case admitted_iff =>
    rw [hreview]
    exact Lookup.demandCredentials_eq_ok_iff
  case missing =>
    intro hmissing
    rw [hreview]
    exact Lookup.demandCredentials_of_missing hmissing
  case broken =>
    intro secret hfound hbroken
    refine ⟨_, hreview.trans (Lookup.demandCredentials_of_broken hfound hbroken), ?_⟩
    intro hsecretStays oldSecret otherLookup hsecretMismatch
    exact review_eq_invalid_of_check hsecretMismatch hsecretStays rfl hbroken
  case alike =>
    intro other oldOther hother hotherStays hotherMismatch
    rw [hreview]
    exact review_of_designates hother hotherStays hotherMismatch

/-! A bucket with two references. The newer one states no namespace and leads to a secret without a domain, beside
which the older one names a good one. -/

def referenceToOpenstack : ObjectReference where
  apiVersion := some "v1"
  kind := "Secret"
  name := "openstack"
  space := none

def bucketWithBoth : BackupBucket where
  metadata := { name := some "backup", space := some "garden" }
  spec :=
    { provider := { providerType := openstackType, region := "eu-1" }
      credentialsRef := some referenceToOpenstack
      secretRef := some { name := "openstack", space := some "garden-dev" } }

def lookupTwoSecrets : Lookup :=
  .ofResources [.secret (Shoot.secretWithDomain "garden-dev" "default"),
    .secret (Shoot.secretWithDomain "garden" "")]

/-- The bucket is judged by the secret of the newer reference, in its own namespace; the good secret of the
older one does not help. -/
theorem judgedBySecret_bucketWithBoth :
    (Resource.backupBucket bucketWithBoth).Designates ⟨"garden", "openstack"⟩ ∧
      (Resource.backupBucket bucketWithBoth).metadata.isDeleting = false ∧
      (Resource.backupBucket bucketWithBoth).mismatch? none = none ∧
      ∃ errors, (Resource.backupBucket bucketWithBoth).review none lookupTwoSecrets =
          .error (.invalidSecret "garden" "openstack" errors) ∧
        (Resource.secret (Shoot.secretWithDomain "garden" "")).review none lookupTwoSecrets =
          .error (.invalid .secret "garden/openstack" errors) := by
  have hdesignates : (Resource.backupBucket bucketWithBoth).Designates ⟨"garden", "openstack"⟩ :=
    @Designates.bucketCredentials bucketWithBoth referenceToOpenstack rfl rfl rfl
  have hmismatch : (Resource.backupBucket bucketWithBoth).mismatch? none = none := rfl
  have hfound : lookupTwoSecrets.secret "garden" "openstack" =
      some (Shoot.secretWithDomain "garden" "") := by
    rfl
  have hbroken : Credentials.check (Shoot.secretWithDomain "garden" "") (.root "data") ≠ [] := by
    decide
  obtain ⟨errors, hrefused, hself⟩ :=
    (judgedBySecret_of_designates hdesignates rfl hmismatch).broken _ hfound hbroken
  exact ⟨hdesignates, rfl, hmismatch, errors, hrefused, hself rfl none lookupTwoSecrets rfl⟩

end Resource

end OpenstackAdmission
