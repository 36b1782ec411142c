import OpenstackAdmission.Proofs.Admission.SecretUsers

/-!
# References within a namespace

A reference that states no namespace leads to the namespace of the object that holds it. What this means where the
object states none either is decided twice: whoever follows the reference takes the empty namespace for it
(`ObjectMeta.referenceNamespace`), and a lookup takes an object without a namespace to be in none at all, which the
empty one is not.

> `foundFromNamespace`: an object is found from its own namespace exactly if it states one. If it does, what is found
is the first object of its kind and name beside it; if it does not, nothing is found but what states the empty
namespace.

So objects in namespaces find each other, and objects without one do not: neither does a binding find its secret,
nor a shoot its binding or its profile, and none of them is admitted (`not_review_of_missing`).
-/

namespace OpenstackAdmission

/-! ## What refers -/

/-- A resource of the provider refers to an object of this kind and name in the namespace that its references lead
to. -/
inductive Resource.RefersWithin : Resource → ResourceKind → String → Prop where
  | secret {r : Resource} {key : SecretKey} (hkey : r.Designates key)
    (hspace : key.space = r.metadata.referenceNamespace) :
    RefersWithin r .secret key.name
  | credentialsBinding {shoot : Shoot} {name : String}
    (hprovider : shoot.spec.provider.providerType = openstackType)
    (hname : shoot.spec.credentialsBindingName = some name) :
    RefersWithin (.shoot shoot) .credentialsBinding name
  /-- The binding of a secret counts only if there is no other. -/
  | secretBinding {shoot : Shoot} {name : String}
    (hprovider : shoot.spec.provider.providerType = openstackType)
    (hunset : shoot.spec.credentialsBindingName = none)
    (hname : shoot.spec.secretBindingName = some name) :
    RefersWithin (.shoot shoot) .secretBinding name
  | profile {shoot : Shoot} {reference : CloudProfileReference}
    (hprovider : shoot.spec.provider.providerType = openstackType)
    (hreference : shoot.spec.profileReference? = some reference)
    (hkind : reference.kind = "NamespacedCloudProfile") :
    RefersWithin (.shoot shoot) .namespacedCloudProfile reference.name

namespace Resource

variable {r : Resource} {old : Option Resource} {lookup : Lookup} {kind : ResourceKind} {name : String}

/-- What an admitted shoot of the provider refers to has been found. -/
theorem found_of_review {shoot : Shoot} (h : (Resource.shoot shoot).review old lookup = .ok ())
    (hstays : shoot.metadata.isDeleting = false)
    (hprovider : shoot.spec.provider.providerType = openstackType) :
    (∃ reference config, shoot.spec.profileReference? = some reference ∧
        Shoot.profileConfig reference shoot.metadata.referenceNamespace lookup = .ok config) ∧
      ∃ domain, shoot.domain lookup = .ok domain := by
  have hcheck : shoot.check (old.bind shoot?) lookup = .ok [] := check_eq_ok_nil_of_review h hstays
  rw [Shoot.check, if_neg (not_not_intro hprovider), Shoot.checkOpenstack_eq_nil_iff] at hcheck
  obtain ⟨c, s, haccepted⟩ := hcheck
  obtain ⟨reference, hreference, hs⟩ := haccepted.found
  obtain ⟨config, hconfig, hs⟩ := bind_eq_ok_iff.mp hs
  obtain ⟨domain, hdomain, -⟩ := bind_eq_ok_iff.mp hs
  exact ⟨⟨reference, config, hreference, hconfig⟩, domain, hdomain⟩

/-- **Without the object that it refers to, nothing is admitted.** -/
theorem not_review_of_missing (hrefers : r.RefersWithin kind name)
    (hmissing : lookup.object? kind r.metadata.referenceNamespace name = none)
    (hstays : r.metadata.isDeleting = false) : r.review old lookup ≠ .ok () := by
  intro h
  -- every kind of reference has its own lookup, and its own place where a missing object is noticed
  cases hrefers with
  | @secret _ key hkey hspace =>
    have hsecret : lookup.secret key.space key.name = none := by
      rw [hspace]
      exact Option.map_eq_none_iff.mp hmissing
    rw [review_of_designates hkey hstays (review_eq_ok_iff.mp h).1,
      Lookup.demandCredentials_of_missing hsecret] at h
    cases h
  | @credentialsBinding shoot _ hprovider hname =>
    have hbinding : lookup.credentialsBinding shoot.metadata.referenceNamespace name = none :=
      Option.map_eq_none_iff.mp hmissing
    obtain ⟨-, domain, hdomain⟩ := found_of_review h hstays hprovider
    unfold Shoot.domain Shoot.secretKey? at hdomain
    simp only [hname, hbinding, reduceCtorEq] at hdomain
  | @secretBinding shoot _ hprovider hunset hname =>
    have hbinding : lookup.secretBinding shoot.metadata.referenceNamespace name = none :=
      Option.map_eq_none_iff.mp hmissing
    obtain ⟨-, domain, hdomain⟩ := found_of_review h hstays hprovider
    unfold Shoot.domain Shoot.secretKey? at hdomain
    simp only [hunset, hname, hbinding, reduceCtorEq] at hdomain
  | @profile shoot reference hprovider hreference hkind =>
    have hprofile : lookup.namespacedCloudProfile shoot.metadata.referenceNamespace reference.name = none :=
      Option.map_eq_none_iff.mp hmissing
    have hkindName : reference.kind = ResourceKind.namespacedCloudProfile.name := hkind
    obtain ⟨⟨own, config, hown, hconfig⟩, -⟩ := found_of_review h hstays hprovider
    obtain rfl : reference = own := Option.some.inj (hreference.symm.trans hown)
    obtain ⟨parent, hparent, -⟩ := bind_eq_ok_iff.mp hconfig
    unfold Shoot.profileName at hparent
    rw [if_pos hkindName, hprofile] at hparent
    cases hparent

end Resource

/-! ## What is found from one namespace -/

/-- What references that state no namespace find of the kind and the name of an object. -/
structure FoundFromNamespace (resources : List Resource) (o : Resource) (name : String) : Prop where
  /-- There is something to find: the object itself, or another one before it. -/
  exists_first : ∃ first, firstBeside resources o.kind o.metadata.space name = some first
  found_iff : ∀ referrer : ObjectMeta, referrer.space = o.metadata.space →
    ((Lookup.ofResources resources).object? o.kind referrer.referenceNamespace name =
        firstBeside resources o.kind o.metadata.space name ↔
      o.metadata.space.isSome)
  /-- From no namespace, references lead to the empty one. -/
  unstated : ∀ referrer : ObjectMeta, referrer.space = none →
    (Lookup.ofResources resources).object? o.kind referrer.referenceNamespace name =
      firstBeside resources o.kind (some "") name
  /-- Where no object of the kind and the name states the empty namespace, what refers from no namespace is refused. -/
  refused : (∀ other ∈ resources, other.kind = o.kind → other.metadata.name = some name →
      other.metadata.space ≠ some "") →
    ∀ (r : Resource) (old : Option Resource), r.RefersWithin o.kind name → r.metadata.space = none →
      r.metadata.isDeleting = false → r.review old (.ofResources resources) ≠ .ok ()

/-- **From its own namespace an object is found exactly if it states one.** -/
theorem foundFromNamespace {resources : List Resource} {o : Resource} {name : String}
    (hkind : o.kind ∈ ResourceKind.namespaced) (ho : o ∈ resources) (hname : o.metadata.name = some name) :
    FoundFromNamespace resources o name := by
  have hunstated : ∀ referrer : ObjectMeta, referrer.space = none →
      (Lookup.ofResources resources).object? o.kind referrer.referenceNamespace name =
        firstBeside resources o.kind (some "") name := by
    intro referrer hreferrer
    rw [object?_ofResources hkind, ObjectMeta.referenceNamespace, hreferrer, Option.getD_none]
  obtain ⟨first, hfirst⟩ := exists_firstBeside ho hname
  constructor
  case exists_first => exact ⟨first, hfirst⟩
  case found_iff =>
    intro referrer hreferrer
    cases hspace : o.metadata.space with
    | some space =>
      rw [object?_ofResources hkind, ObjectMeta.referenceNamespace, hreferrer, hspace, Option.getD_some]
      simp only [Option.isSome_some]
    | none =>
      rw [hspace] at hfirst hreferrer
      rw [hunstated referrer hreferrer, hfirst]
      -- what is found states the empty namespace, so it is not what stands beside the object
      simp only [Option.isSome_none, Bool.false_eq_true, iff_false]
      intro hempty
      have hfirstSpace : first.metadata.space = none := (of_firstBeside hfirst).2.2.2
      have hemptySpace : first.metadata.space = some "" := (of_firstBeside hempty).2.2.2
      rw [hfirstSpace] at hemptySpace
      cases hemptySpace
  case unstated => exact hunstated
  case refused =>
    intro hnone r old hrefers hspace hstays
    refine Resource.not_review_of_missing hrefers ?_ hstays
    rw [hunstated r.metadata hspace]
    exact firstBeside_eq_none hnone

/-! Two secrets of one name in a namespace, beside one in another; and a secret, a binding to it and a shoot with
the binding, none of which states a namespace. -/

def secretInNowhere : Secret :=
  { Shoot.secretWithDomain "" "default" with metadata := { name := some "openstack" } }

def bindingInNowhere : SecretBinding where
  metadata := { name := some "openstack" }
  secretRef := { name := "openstack", space := none }
  provider := some { providerType := openstackType }

def shootInNowhere : Shoot where
  metadata := { name := some "dev" }
  spec := { shootOnInternal.spec with secretBindingName := some "openstack" }

def resourcesInNowhere : List Resource :=
  [.cloudProfile (profileWithConfig poolsWithClasses), .secret secretInNowhere, .secretBinding bindingInNowhere]

def resourcesWithTwin : List Resource :=
  [.secret (Shoot.secretWithDomain "garden" "eu"), .secret (Shoot.secretWithDomain "garden-dev" "default"),
    .secret (Shoot.secretWithDomain "garden-dev" "us")]

/-- The second secret of the namespace is passed over for the first. -/
theorem foundFromNamespace_resourcesWithTwin :
    let o : Resource := .secret (Shoot.secretWithDomain "garden-dev" "us")
    o.kind ∈ ResourceKind.namespaced ∧ o ∈ resourcesWithTwin ∧ o.metadata.name = some "openstack" ∧
      (Lookup.ofResources resourcesWithTwin).object? .secret shootOnInternal.metadata.referenceNamespace
          "openstack" =
        some (.secret (Shoot.secretWithDomain "garden-dev" "default")) := by
  intro o
  have hkind : o.kind ∈ ResourceKind.namespaced := by decide
  have ho : o ∈ resourcesWithTwin := .tail _ (.tail _ (.head _))
  have hfound := (foundFromNamespace hkind ho rfl).found_iff shootOnInternal.metadata rfl
  exact ⟨hkind, ho, rfl, hfound.mpr rfl⟩

/-- **Nothing that states no namespace is found,** though it is there: the binding does not find the secret, and the
shoot does not find the binding. -/
theorem unfound_resourcesInNowhere :
    firstBeside resourcesInNowhere .secret none "openstack" = some (.secret secretInNowhere) ∧
      (Lookup.ofResources resourcesInNowhere).object? .secret bindingInNowhere.metadata.referenceNamespace
          "openstack" = none ∧
      (Resource.secretBinding bindingInNowhere).review none (.ofResources resourcesInNowhere) =
        .error (.secretNotFound "" "openstack") ∧
      firstBeside resourcesInNowhere .secretBinding none "openstack" =
        some (.secretBinding bindingInNowhere) ∧
      (Lookup.ofResources resourcesInNowhere).object? .secretBinding shootInNowhere.metadata.referenceNamespace
          "openstack" = none ∧
      (Resource.shoot shootInNowhere).review none (.ofResources resourcesInNowhere) =
        .error (.bindingNotFound .secretBinding "" "openstack") := by
  exact ⟨rfl, rfl, rfl, rfl, rfl, rfl⟩

end OpenstackAdmission
