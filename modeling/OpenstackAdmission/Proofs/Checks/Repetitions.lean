import OpenstackAdmission.Proofs.Checks.CloudProfile
import OpenstackAdmission.Proofs.Checks.Offers
import OpenstackAdmission.Proofs.Checks.ProfilePlaces

/-!
# Repetitions in what a landscape offers

The check of a profile configuration goes through its fields one after the other, and last through its images.

> `repetitions_of_check`: in five lists, an item is reported exactly if there is an earlier one like it, and then once.

`Offers` has this for each list. The lists stand in different fields (`offerSections`), and the errors of images in
others again (`checkImages_places`). So what is reported of a list is what is reported of the profile in its field.
-/

namespace OpenstackAdmission

/-! ## Sections of a configuration -/

namespace CloudProfileConfig

/-- Servers are judged one by one, and each error stands at the index of its server. -/
theorem checkDnsServers_under (servers : List String) (path : FieldPath) :
    StandUnder path (checkDnsServers servers path) := by
  unfold checkDnsServers
  refine standUnder_checkEach (FieldPath.under_refl path) fun path server hpath => ?_
  exact standUnder_errorIf hpath

/-- The timeout is a duration or has one error, at its own place. -/
theorem checkTimeout_under (timeout : Option String) (path : FieldPath) :
    StandUnder path (checkTimeout timeout path) := by
  unfold checkTimeout
  cases timeout with
  | none => exact standUnder_nil
  | some text =>
    dsimp only
    cases Text.Duration.parse text with
    | ok => exact standUnder_nil
    | error e => exact standUnder_singleton (FieldPath.under_refl path)

/-- What is reported of a configuration but for its images, by field. -/
def offerSections (c : CloudProfileConfig) (path : FieldPath) :
    List (List Segment × List FieldError) :=
  let constraints := path.child "constraints"
  let keystone := path.child "keystoneURL"
  [([.field "constraints", .field "floatingPools"],
      FloatingPool.checkAll c.constraints.floatingPools (constraints.child "floatingPools")),
    ([.field "constraints", .field "loadBalancerProviders"],
      LoadBalancerProvider.checkAll c.constraints.loadBalancerProviders
        (constraints.child "loadBalancerProviders")),
    ([.field "keystoneURL"],
      errorIf (c.keystoneURL = "" && c.keystoneURLs = [])
        (.required keystone "must provide the URL to KeyStone")
      ++ if c.keystoneURL = "" then [] else checkUrl c.keystoneURL keystone),
    ([.field "keystoneURLs"], KeystoneURL.checkAll c.keystoneURLs (path.child "keystoneURLs")),
    ([.field "dnsServers"], checkDnsServers c.dnsServers (path.child "dnsServers")),
    ([.field "dhcpDomain"],
      errorIf (c.dhcpDomain = some "") (.required (path.child "dhcpDomain")
        "must provide a dhcp domain when the key is specified")),
    ([.field "requestTimeout"], checkTimeout c.requestTimeout (path.child "requestTimeout")),
    ([.field "serverGroupPolicies"],
      checkPolicies c.serverGroupPolicies (path.child "serverGroupPolicies")),
    ([.field "storageClasses"], StorageClass.checkAll c.storageClasses (path.child "storageClasses"))]

/-- The sections in a row are the check of everything but the images. -/
theorem checkOffers_eq (c : CloudProfileConfig) (path : FieldPath) :
    c.checkOffers path = (c.offerSections path).flatMap Prod.snd := by
  unfold checkOffers checkKeystone offerSections
  simp only [List.flatMap_cons, List.flatMap_nil, List.append_nil, List.append_assoc]

/-- The fields that the sections are about, none of which is a part of another one. -/
def offerFields : List (List Segment) :=
  [[.field "constraints", .field "floatingPools"],
    [.field "constraints", .field "loadBalancerProviders"], [.field "keystoneURL"],
    [.field "keystoneURLs"], [.field "dnsServers"], [.field "dhcpDomain"], [.field "requestTimeout"],
    [.field "serverGroupPolicies"], [.field "storageClasses"]]

/-- Errors of a section stand in its field, and the fields are apart. So an error tells the section it is
from. -/
theorem inSections_offers (c : CloudProfileConfig) (path : FieldPath) :
    InSections path (c.offerSections path) := by
  have hkeystone := FieldPath.under_refl (path.child "keystoneURL")
  constructor
  · unfold offerSections
    simp only [List.forall_mem_cons, List.not_mem_nil, false_implies, implies_true, and_true,
      FieldPath.follow_field, FieldPath.follow_nil]
    refine ⟨(FloatingPool.checkAll_reports _ _).1, (LoadBalancerProvider.checkAll_reports _ _).1,
      standUnder_append (standUnder_errorIf hkeystone) ?_, (KeystoneURL.checkAll_reports _ _).1,
      checkDnsServers_under _ _, standUnder_errorIf (FieldPath.under_refl _), checkTimeout_under _ _,
      (checkPolicies_reports _ _).1, (StorageClass.checkAll_reports _ _).1⟩
    split
    · exact standUnder_nil
    · exact checkUrl_under _ hkeystone
  · have hapart : ((c.offerSections path).map Prod.fst).Pairwise
        fun a b => ¬ a <+: b ∧ ¬ b <+: a := by
      have hfields : (c.offerSections path).map Prod.fst = offerFields := rfl
      rw [hfields]
      decide
    exact List.pairwise_map.mp hapart

/-! ## Images -/

/-- The fields of a profile that its images are checked in. -/
def imageFields : List (List Segment) :=
  [[.field "machineCapabilities"], [.field "machineImages"],
    [.field "providerConfig", .field "machineImages"]]

/-- What is reported of images stands in one of three fields, two of the profile and one of its
configuration. -/
theorem checkImages_places {c : CloudProfileConfig} {profileImages : List MachineImage}
    {definitions : List Versioned.CapabilityDefinition} {specPath : FieldPath} {e : FieldError}
    (he : e ∈ c.checkImages profileImages definitions specPath) :
    ∃ steps ∈ imageFields, e.path.Under (specPath.follow steps) := by
  have himages := FieldPath.under_refl ((specPath.child "providerConfig").child "machineImages")
  have hprovider (h : e.path.Under ((specPath.child "providerConfig").child "machineImages")) :
      ∃ steps ∈ imageFields, e.path.Under (specPath.follow steps) := by
    refine ⟨[.field "providerConfig", .field "machineImages"], by decide, ?_⟩
    rw [FieldPath.follow_field]
    exact h
  rcases List.mem_append.mp he with hown | hmatrix
  · refine hprovider (standUnder_append (standUnder_errorIf himages) ?_ e hown)
    refine standUnder_checkEach himages fun path image himage => ?_
    exact image.check_under _ himage
  · rcases ImageMatrix.check_places _ hmatrix with hprofile | hconfig
    · exact ⟨[.field "machineImages"], by decide, hprofile⟩
    · exact hprovider hconfig

/-- Who looks at one of the other fields finds what its section holds: nothing is reported there of images. -/
theorem filter_check {c : CloudProfileConfig} {profileImages : List MachineImage}
    {capabilities : List CapabilityDefinition} {specPath : FieldPath}
    {s : List Segment × List FieldError}
    (hs : s ∈ c.offerSections (specPath.child "providerConfig")) {selects : FieldError → Bool}
    (hselects : ∀ e, selects e = true → e.path.Under ((specPath.child "providerConfig").follow s.1)) :
    (c.check profileImages capabilities specPath).filter selects = s.2.filter selects := by
  have hfield : s.1 ∈ offerFields := List.mem_map.mpr ⟨s, hs, rfl⟩
  have hapart : ∀ steps ∈ imageFields, ∀ other ∈ offerFields,
      ¬ steps <+: .field "providerConfig" :: other ∧ ¬ .field "providerConfig" :: other <+: steps := by
    decide
  -- the images of the provider are beside the lists, not above or below them
  have hnone (e : FieldError) (hselected : selects e = true) :
      ¬ ∃ steps ∈ imageFields, e.path.Under (specPath.follow steps) := by
    rintro ⟨steps, hsteps, hunder⟩
    obtain ⟨hnot, hnot'⟩ := hapart steps hsteps s.1 hfield
    exact FieldPath.not_under_follow hnot hnot' hunder
      (FieldPath.follow_field ▸ hselects e hselected)
  unfold check
  rw [List.filter_append, checkOffers_eq, (inSections_offers c _).filter_eq hs hselects,
    List.append_right_eq_self, List.filter_eq_nil_iff]
  intro e he hselected
  refine hnone e hselected ?_
  split at he
  · rw [List.mem_singleton.mp he]
    exact ⟨[.field "machineCapabilities"], by decide, FieldPath.under_refl _⟩
  · exact checkImages_places he

/-! ## Repetitions -/

/-- Of five lists of a configuration, those items are reported that have an earlier one like them, each once. Items
without a text that they need are not compared. -/
structure RepetitionsReported (c : CloudProfileConfig) (path : FieldPath)
    (errors : List FieldError) : Prop where
  floatingPools : ∀ i pool, c.constraints.floatingPools[i]? = some pool →
    ReportsOnce errors
      (.duplicate ((((path.child "constraints").child "floatingPools").index i).child "name")
        (.str pool.name))
      (HasEarlier c.constraints.floatingPools i (·.key = pool.key))
  loadBalancerProviders : ∀ i provider, c.constraints.loadBalancerProviders[i]? = some provider →
    ReportsOnce errors
      (.duplicate ((((path.child "constraints").child "loadBalancerProviders").index i).child "name")
        (.str provider.name))
      (HasEarlier c.constraints.loadBalancerProviders i (·.key = provider.key))
  keystoneURLs : ∀ i u, c.keystoneURLs[i]? = some u →
    ReportsOnce errors
      (.duplicate (((path.child "keystoneURLs").index i).child "region") (.str u.region))
      (u.region ≠ "" ∧ HasEarlier c.keystoneURLs i (·.region = u.region))
  serverGroupPolicies : ∀ i policy, c.serverGroupPolicies[i]? = some policy →
    ReportsOnce errors (.duplicate ((path.child "serverGroupPolicies").index i) (.str policy))
      (policy ≠ "" ∧ HasEarlier c.serverGroupPolicies i (· = policy))
  storageClasses : ∀ i s, c.storageClasses[i]? = some s →
    ReportsOnce errors
      (.duplicate (((path.child "storageClasses").index i).child "name") (.str s.name))
      (s.name ≠ "" ∧ HasEarlier c.storageClasses i (·.name = s.name))
  defaults : ∀ i s, c.storageClasses[i]? = some s →
    ReportsOnce errors
      (.invalid (((path.child "storageClasses").index i).child "default") (.bool true)
        "only one default storage class is allowed")
      (s.isDefault = some true ∧ HasEarlier c.storageClasses i (·.isDefault = some true))

/-- What is offered is offered once. -/
structure DistinctOffers (c : CloudProfileConfig) : Prop where
  floatingPools : (c.constraints.floatingPools.map FloatingPool.key).Nodup
  loadBalancerProviders : (c.constraints.loadBalancerProviders.map LoadBalancerProvider.key).Nodup
  keystoneURLs : (c.keystoneURLs.map KeystoneURL.region).Nodup
  serverGroupPolicies : c.serverGroupPolicies.Nodup
  storageClasses : (c.storageClasses.map StorageClass.name).Nodup
  defaults : c.storageClasses.Pairwise fun a b => ¬ (a.isDefault = some true ∧ b.isDefault = some true)

variable (c : CloudProfileConfig) (profileImages : List MachineImage)
  (capabilities : List CapabilityDefinition) (specPath : FieldPath)

/-- The five lists are sections of the check, so their repetitions are reported there as they are by the
check of the list alone. -/
theorem repetitionsReported_check :
    RepetitionsReported c (specPath.child "providerConfig")
      (c.check profileImages capabilities specPath) := by
  -- the lists are addressed by the number of their section
  have hsection (n : Nat) {s : List Segment × List FieldError}
      (hs : (c.offerSections (specPath.child "providerConfig"))[n]? = some s) {error : FieldError}
      {fault : Prop} (hreports : ReportsOnce s.2 error fault)
      (hplace : error.path.Under ((specPath.child "providerConfig").follow s.1)) :
      ReportsOnce (c.check profileImages capabilities specPath) error fault := by
    refine hreports.of_filter_eq (filter_check (List.mem_of_getElem? hs) fun e he => ?_)
    rw [FieldError.path_of_isLike he]
    exact hplace
  constructor
  case floatingPools =>
    intro i pool hi
    refine hsection 0 rfl ((FloatingPool.checkAll_reports _ _).2 i pool hi) ?_
    rw [FieldPath.follow_field]
    exact ((FieldPath.under_refl _).index i).child "name"
  case loadBalancerProviders =>
    intro i provider hi
    refine hsection 1 rfl ((LoadBalancerProvider.checkAll_reports _ _).2 i provider hi) ?_
    rw [FieldPath.follow_field]
    exact ((FieldPath.under_refl _).index i).child "name"
  case keystoneURLs =>
    intro i u hi
    exact hsection 3 rfl ((KeystoneURL.checkAll_reports _ _).2 i u hi)
      (((FieldPath.under_refl _).index i).child "region")
  case serverGroupPolicies =>
    intro i policy hi
    exact hsection 7 rfl ((checkPolicies_reports _ _).2 i policy hi)
      ((FieldPath.under_refl _).index i)
  case storageClasses =>
    intro i s hi
    exact hsection 8 rfl ((StorageClass.checkAll_reports _ _).2 i s hi).1
      (((FieldPath.under_refl _).index i).child "name")
  case defaults =>
    intro i s hi
    exact hsection 8 rfl ((StorageClass.checkAll_reports _ _).2 i s hi).2
      (((FieldPath.under_refl _).index i).child "default")

/-- An accepted configuration has accepted lists, and an accepted list repeats nothing. -/
theorem distinctOffers_of_check (h : c.check profileImages capabilities specPath = []) :
    DistinctOffers c := by
  obtain ⟨hoffers, -⟩ := List.append_eq_nil_iff.mp h
  rw [checkOffers_eq] at hoffers
  have hsection (n : Nat) {s : List Segment × List FieldError}
      (hs : (c.offerSections (specPath.child "providerConfig"))[n]? = some s) : s.2 = [] :=
    List.flatMap_eq_nil_iff.mp hoffers s (List.mem_of_getElem? hs)
  constructor
  case floatingPools => exact (FloatingPool.checkAll_eq_nil_iff.mp (hsection 0 rfl)).2.1
  case loadBalancerProviders => exact LoadBalancerProvider.nodup_of_checkAll (hsection 1 rfl)
  case keystoneURLs => exact KeystoneURL.nodup_of_checkAll (hsection 3 rfl)
  case serverGroupPolicies => exact nodup_of_checkPolicies (hsection 7 rfl)
  case storageClasses => exact (StorageClass.nodup_of_checkAll (hsection 8 rfl)).1
  case defaults => exact (StorageClass.nodup_of_checkAll (hsection 8 rfl)).2

/-- **An item is reported exactly if an earlier one of its list is like it, and then once.** No other part of the check
reports such an error there. So in an accepted configuration all items differ, and at most one class is the default. -/
theorem repetitions_of_check :
    RepetitionsReported c (specPath.child "providerConfig")
        (c.check profileImages capabilities specPath) ∧
      (c.check profileImages capabilities specPath = [] → DistinctOffers c) :=
  ⟨repetitionsReported_check c profileImages capabilities specPath,
    distinctOffers_of_check c profileImages capabilities specPath⟩

/-! A pool that is there twice, and once for all regions. Policies without a text are not compared. -/

def landscapeWithRepetitions : CloudProfileConfig where
  constraints :=
    { floatingPools := [
        { poolWithClass "public" "default" with region := some "eu" },
        poolWithClass "public" "default",
        { poolWithClass "public" "internal" with region := some "eu" }] }
  serverGroupPolicies := ["affinity", "", "", "affinity"]
  storageClasses := [
    { name := "fast", isDefault := some true, provisioner := none, parameters := Dict.empty
      reclaimPolicy := none, volumeBindingMode := none },
    { name := "slow", isDefault := some true, provisioner := none, parameters := Dict.empty
      reclaimPolicy := none, volumeBindingMode := none }]

/-- The third pool repeats the first one, and the second class is a default beside the first. The pool for
all regions is no repetition, and neither is a second policy without a text. -/
theorem repetitions_landscapeWithRepetitions :
    let path := (FieldPath.root "spec").child "providerConfig"
    let pools := (path.child "constraints").child "floatingPools"
    let errors := landscapeWithRepetitions.check [] [] (.root "spec")
    let pool : FieldError := .duplicate ((pools.index 1).child "name") (.str "public")
    let poolAgain : FieldError := .duplicate ((pools.index 2).child "name") (.str "public")
    let policy : FieldError := .duplicate ((path.child "serverGroupPolicies").index 2) (.str "")
    let standard : FieldError :=
      .invalid (((path.child "storageClasses").index 1).child "default") (.bool true)
        "only one default storage class is allowed"
    errors.filter (·.isLike pool) = [] ∧ errors.filter (·.isLike poolAgain) = [poolAgain] ∧
      errors.filter (·.isLike policy) = [] ∧ errors.filter (·.isLike standard) = [standard] ∧
      configMappedTwice.check imagesDeclaredTwice twoArchitectures (.root "spec") = [] ∧
      DistinctOffers configMappedTwice := by
  obtain ⟨hreported, -⟩ := repetitions_of_check landscapeWithRepetitions [] [] (.root "spec")
  have haccepted : configMappedTwice.check imagesDeclaredTwice twoArchitectures (.root "spec") = [] := by
    rfl
  refine ⟨(hreported.floatingPools 1 _ rfl).never (by decide),
    (hreported.floatingPools 2 _ rfl).once (by decide),
    (hreported.serverGroupPolicies 2 _ rfl).never (by decide),
    (hreported.defaults 1 _ rfl).once (by decide), haccepted, ?_⟩
  exact (repetitions_of_check configMappedTwice imagesDeclaredTwice twoArchitectures (.root "spec")).2
    haccepted

end CloudProfileConfig

end OpenstackAdmission
