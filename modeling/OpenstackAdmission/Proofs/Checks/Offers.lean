import OpenstackAdmission.Proofs.Checks.LoadBalancer
import OpenstackAdmission.Proofs.Report.Items

/-!
# Lists of what a landscape offers

Pools, providers, addresses, policies and storage classes are lists whose items have to differ: in a name, in a name and
a region, in a region only. Each item is compared with those before it, by the check of its list.

> `checkAll_reports`: an item is reported exactly if there is an earlier one like it, and then once.

`Items` says that the report on a list is one on its items, so only the check of one item is opened here. Besides the
comparison it reports other things of the item, which are of another kind or of another field.
-/

namespace OpenstackAdmission

variable {root path : FieldPath}

/-! ## Places -/

/-- A class is told of its purpose in that field, and of several ways to choose a subnet at the class
itself. -/
theorem LoadBalancerClass.check_under (c : LoadBalancerClass) (h : path.Under root) :
    StandUnder root (c.check path) := by
  unfold check
  refine standUnder_append ?_ (standUnder_errorIf h)
  cases c.unknownPurpose? with
  | none => exact standUnder_nil
  | some purpose => exact standUnder_singleton (h.child "purpose")

/-- Errors of a list of classes stand in the list, those about a purpose that is taken twice at the list
itself. -/
theorem LoadBalancerClass.checkAll_under (classes : List LoadBalancerClass) (h : path.Under root) :
    StandUnder root (checkAll classes path) := by
  unfold checkAll
  refine standUnder_append ?_ (standUnder_flatMap fun purpose _ => standUnder_errorIf h)
  refine standUnder_checkEachAfter h fun path earlier c hc => ?_
  exact standUnder_append (standUnder_errorIf (hc.child "name")) (c.check_under hc)

/-- A URL has one error at most, at the place of the URL. -/
theorem checkUrl_under (url : String) (h : path.Under root) : StandUnder root (checkUrl url path) := by
  unfold checkUrl
  cases Net.Url.check url with
  | ok => exact standUnder_nil
  | error e => exact standUnder_singleton h

/-- A check that there is a URL goes no further than that of the URL. -/
theorem checkStatedUrl_under (url : String) (h : path.Under root) :
    StandUnder root
      (if url = "" then [.required path "must provide an url"] else checkUrl url path) := by
  split
  · exact standUnder_singleton h
  · exact checkUrl_under url h

/-- A field that may be left out, and has one of some texts otherwise. -/
theorem TextCheck.oneOf_under (allowed : List String) (stated : Option String)
    (h : path.Under root) :
    StandUnder root
      (match stated with
        | some text => oneOf allowed text path
        | none => []) := by
  cases stated with
  | none => exact standUnder_nil
  | some text => exact standUnder_errorIf h

/-! ## Pools and providers -/

/-- What no two providers of a landscape have in common. -/
def LoadBalancerProvider.key (provider : LoadBalancerProvider) : String × Option String :=
  (provider.name, provider.region)

/-- Pools may share a name as long as the region or the domain differs. A repetition is reported at the
name, and the classes of a pool have other places. -/
theorem FloatingPool.checkAll_reports (pools : List FloatingPool) (path : FieldPath) :
    StandUnder path (checkAll pools path) ∧ ∀ i pool, pools[i]? = some pool →
      ReportsOnce (checkAll pools path) (.duplicate ((path.index i).child "name") (.str pool.name))
        (HasEarlier pools i (·.key = pool.key)) := by
  unfold checkAll
  refine And.imp_right ?reports (reports_items_of_list ?place)
  case place =>
    intro path earlier pool
    have hself := FieldPath.under_refl path
    have hname := hself.child "name"
    refine standUnder_append (standUnder_append (standUnder_append (standUnder_append
      (standUnder_errorIf hname) ?_) ?_) (standUnder_errorIf hname)) ?_
    · exact standUnder_errorIf (hself.child "region")
    · exact standUnder_errorIf (hself.child "domain")
    · exact LoadBalancerClass.checkAll_under _ (hself.child "loadBalancerClasses")
  case reports =>
    intro hreports i pool hi
    refine hreports i pool hi _ _ ((FieldPath.under_refl _).child "name") ?_
    refine ReportsOnce.followed (ReportsOnce.preceded
      (reportsOnce_errorIf (any_take_iff fun p => ?same)) ?stated) ?classes
    case same => simp [key, and_assoc]
    case stated =>
      -- a missing name has the same place, but is another kind of problem
      simp [filter_isLike_errorIf]
    case classes =>
      exact filter_isLike_of_field (LoadBalancerClass.checkAll_under _ (FieldPath.under_refl _)) rfl
        (by decide)

/-- Providers differ in name or in region. A missing name is reported at the same place as a repetition, but
as another kind of error. -/
theorem LoadBalancerProvider.checkAll_reports (providers : List LoadBalancerProvider)
    (path : FieldPath) :
    StandUnder path (checkAll providers path) ∧ ∀ i provider, providers[i]? = some provider →
      ReportsOnce (checkAll providers path)
        (.duplicate ((path.index i).child "name") (.str provider.name))
        (HasEarlier providers i (·.key = provider.key)) := by
  unfold checkAll
  -- where the errors of one item stand decides which errors of the list are its own
  refine And.imp_right ?reports (reports_items_of_list ?place)
  case place =>
    intro path earlier provider
    have hself := FieldPath.under_refl path
    have hname := hself.child "name"
    exact standUnder_append (standUnder_append (standUnder_errorIf hname)
      (standUnder_errorIf (hself.child "region"))) (standUnder_errorIf hname)
  case reports =>
    intro hreports i provider hi
    refine hreports i provider hi _ _ ((FieldPath.under_refl _).child "name") ?_
    refine ReportsOnce.preceded (reportsOnce_errorIf (any_take_iff fun p => ?same)) ?stated
    case same => simp [key]
    case stated => simp [filter_isLike_errorIf]

/-- Accepted providers are all different, since every one is compared with all before it. -/
theorem LoadBalancerProvider.nodup_of_checkAll {providers : List LoadBalancerProvider}
    (h : checkAll providers path = []) : (providers.map key).Nodup := by
  obtain ⟨-, hitems⟩ := List.append_eq_nil_iff.mp h
  refine List.pairwise_map.mpr (pairwise_of_checkEachAfter hitems fun path earlier provider hitem => ?_)
  obtain ⟨-, hrepeated⟩ := List.append_eq_nil_iff.mp hitem
  simpa [key] using hrepeated

/-- Of the addresses of a landscape, no two are for one region. A region without a name is told that, and
counts as no repetition. -/
theorem KeystoneURL.checkAll_reports (urls : List KeystoneURL) (path : FieldPath) :
    StandUnder path (checkAll urls path) ∧ ∀ i u, urls[i]? = some u →
      ReportsOnce (checkAll urls path) (.duplicate ((path.index i).child "region") (.str u.region))
        (u.region ≠ "" ∧ HasEarlier urls i (·.region = u.region)) := by
  unfold checkAll
  refine And.imp_right ?reports (reports_items ?place)
  case place =>
    intro path earlier u
    have hself := FieldPath.under_refl path
    exact standUnder_append (standUnder_text (hself.child "region"))
      (checkStatedUrl_under _ (hself.child "url"))
  case reports =>
    intro hreports i u hi
    refine hreports i u hi _ _ ((FieldPath.under_refl _).child "region") ?_
    refine ReportsOnce.followed (reportsOnce_text (any_take_iff fun _ => decide_eq_true_iff)) ?_
    exact filter_isLike_of_field (checkStatedUrl_under _ (FieldPath.under_refl _)) rfl (by decide)

/-- Accepted addresses are for different regions. Missing names are no exception here, since none is
accepted. -/
theorem KeystoneURL.nodup_of_checkAll {urls : List KeystoneURL} (h : checkAll urls path = []) :
    (urls.map KeystoneURL.region).Nodup := by
  unfold checkAll at h
  refine List.pairwise_map.mpr (pairwise_of_checkEachAfter h fun path earlier u hitem => ?_)
  obtain ⟨hregion, -⟩ := List.append_eq_nil_iff.mp hitem
  simpa using repeated_of_text hregion

/-- A policy is a text and is compared as a whole. Its errors stand at the index, as there is no field below
it. -/
theorem CloudProfileConfig.checkPolicies_reports (policies : List String) (path : FieldPath) :
    StandUnder path (checkPolicies policies path) ∧ ∀ i policy, policies[i]? = some policy →
      ReportsOnce (checkPolicies policies path) (.duplicate (path.index i) (.str policy))
        (policy ≠ "" ∧ HasEarlier policies i (· = policy)) := by
  unfold checkPolicies
  refine And.imp_right ?reports (reports_items ?place)
  case place =>
    intro path earlier policy
    exact standUnder_text (FieldPath.under_refl path)
  case reports =>
    intro hreports i policy hi
    refine hreports i policy hi _ _ (FieldPath.under_refl _) (reportsOnce_text ?_)
    rw [decide_eq_true_eq, mem_take_iff]
    simp [HasEarlier]

/-- Accepted policies are all different. -/
theorem CloudProfileConfig.nodup_of_checkPolicies {policies : List String}
    (h : checkPolicies policies path = []) : policies.Nodup := by
  unfold checkPolicies at h
  refine pairwise_of_checkEachAfter h fun path earlier policy hitem => ?_
  have hnew := repeated_of_text hitem
  rw [decide_eq_false_iff_not] at hnew
  intro e he heq
  exact hnew (heq ▸ he)

/-- Storage classes have two comparisons, one of names and one of the mark for the default. A class behind
an earlier default is reported if it has the mark as well. -/
theorem StorageClass.checkAll_reports (classes : List StorageClass) (path : FieldPath) :
    StandUnder path (checkAll classes path) ∧ ∀ i c, classes[i]? = some c →
      ReportsOnce (checkAll classes path) (.duplicate ((path.index i).child "name") (.str c.name))
          (c.name ≠ "" ∧ HasEarlier classes i (·.name = c.name)) ∧
        ReportsOnce (checkAll classes path)
          (.invalid ((path.index i).child "default") (.bool true)
            "only one default storage class is allowed")
          (c.isDefault = some true ∧ HasEarlier classes i (·.isDefault = some true)) := by
  unfold checkAll
  refine And.imp_right ?reports (reports_items ?place)
  case place =>
    intro path earlier c
    have hself := FieldPath.under_refl path
    refine standUnder_append (standUnder_append (standUnder_append
      (standUnder_text (hself.child "name")) (standUnder_errorIf (hself.child "default"))) ?_) ?_
    · exact TextCheck.oneOf_under TextCheck.reclaimPolicies _ (hself.child "reclaimPolicy")
    · exact TextCheck.oneOf_under TextCheck.volumeBindingModes _ (hself.child "volumeBindingMode")
  case reports =>
    intro hreports i c hi
    have hself := FieldPath.under_refl (path.index i)
    have hreclaim := TextCheck.oneOf_under TextCheck.reclaimPolicies c.reclaimPolicy
      (FieldPath.under_refl ((path.index i).child "reclaimPolicy"))
    have hbinding := TextCheck.oneOf_under TextCheck.volumeBindingModes c.volumeBindingMode
      (FieldPath.under_refl ((path.index i).child "volumeBindingMode"))
    -- the four fields of a class are apart, so what is reported of one of them is left alone by the others
    constructor
    · refine hreports i c hi _ _ (hself.child "name") ?_
      refine ReportsOnce.followed (ReportsOnce.followed (ReportsOnce.followed
        (reportsOnce_text (any_take_iff fun _ => decide_eq_true_iff)) ?default) ?reclaim) ?binding
      case default =>
        exact filter_isLike_of_field (standUnder_errorIf (FieldPath.under_refl _)) rfl (by decide)
      case reclaim => exact filter_isLike_of_field hreclaim rfl (by decide)
      case binding => exact filter_isLike_of_field hbinding rfl (by decide)
    · refine hreports i c hi _ _ (hself.child "default") ?_
      refine ReportsOnce.followed (ReportsOnce.followed (ReportsOnce.preceded
        (reportsOnce_errorIf ?both) ?name) ?reclaim) ?binding
      case both =>
        rw [Bool.and_eq_true, decide_eq_true_iff, any_take_iff fun _ => decide_eq_true_iff]
      case name =>
        exact filter_isLike_of_field (standUnder_text (FieldPath.under_refl _)) rfl (by decide)
      case reclaim => exact filter_isLike_of_field hreclaim rfl (by decide)
      case binding => exact filter_isLike_of_field hbinding rfl (by decide)

/-- Accepted storage classes have different names, and one of them at most is the default. -/
theorem StorageClass.nodup_of_checkAll {classes : List StorageClass} (h : checkAll classes path = []) :
    (classes.map StorageClass.name).Nodup ∧
      classes.Pairwise fun a b => ¬ (a.isDefault = some true ∧ b.isDefault = some true) := by
  unfold checkAll at h
  constructor
  · refine List.pairwise_map.mpr (pairwise_of_checkEachAfter h fun path earlier c hitem => ?_)
    simp only [List.append_eq_nil_iff] at hitem
    simpa using repeated_of_text hitem.1.1.1
  · refine pairwise_of_checkEachAfter h fun path earlier c hitem => ?_
    simp only [List.append_eq_nil_iff, errorIf_eq_nil_iff, Bool.and_eq_false_iff,
      decide_eq_false_iff_not, List.any_eq_false, decide_eq_true_eq] at hitem
    intro e he hboth
    rcases hitem.1.1.2 with hnot | hnone
    · exact hnot hboth.2
    · exact hnone e he hboth.1

end OpenstackAdmission
