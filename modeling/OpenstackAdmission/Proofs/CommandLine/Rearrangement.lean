import Mathlib.Data.List.Perm.Basic
import OpenstackAdmission.CommandLine.Verdict
import OpenstackAdmission.Proofs.Admission.Shoot

/-!
# The order of manifests

What a resource refers to is the first resource with the name, and its previous state is the first one with its
kind and name. So the order of resources counts as far as several answer to one name, and where none do, it does
not count at all.

> `run_of_rearranged`: if resources are told apart by their addresses, and previous states by kind and name, then
documents may change their places, in a file and from file to file, and every resource has the same result.

A search that only one item can answer gives the same for every order of the items (`find?_eq_of_perm`). That is
all that a review asks of the order, because the review of a resource depends on other resources through lookups
only.
-/

namespace OpenstackAdmission

/-! ## Searches in another order -/

/-- If no two items answer a search, their order does not matter. -/
theorem find?_eq_of_perm {α : Type} {items items' : List α} {p : α → Bool} (h : items'.Perm items)
    (hapart : items.Pairwise fun a b => ¬ (p a = true ∧ p b = true)) :
    items'.find? p = items.find? p := by
  have hfilter := h.filter p
  rw [← List.head?_filter, ← List.head?_filter]
  -- at most one item answers, and lists of at most one item are equal if they are permutations
  cases hanswers : items.filter p with
  | nil =>
    rw [hanswers, List.perm_nil] at hfilter
    rw [hfilter]
  | cons a rest =>
    cases rest with
    | nil =>
      rw [hanswers, List.perm_singleton] at hfilter
      rw [hfilter]
    | cons b rest =>
      have hpair := List.pairwise_filter.mpr (hapart.imp fun hnot ha hb => hnot ⟨ha, hb⟩)
      rw [hanswers, List.pairwise_cons] at hpair
      exact (hpair.1 b (.head _)).elim

/-- By what others refer to a resource. -/
structure Address where
  kind : ResourceKind
  /-- Cloud profiles have no namespace. -/
  space : Option String
  name : String
  deriving DecidableEq

/-- The address of an object with a namespace. -/
def ObjectMeta.address? (m : ObjectMeta) (kind : ResourceKind) : Option Address :=
  m.space.bind fun space => m.name.map fun name => ⟨kind, some space, name⟩

/-- The address of a resource, if it states one. Nothing refers to shoots, buckets and seeds. -/
def Resource.address? : Resource → Option Address
  | .cloudProfile profile => profile.metadata.name.map fun name => ⟨.cloudProfile, none, name⟩
  | .namespacedCloudProfile profile => profile.metadata.address? .namespacedCloudProfile
  | .secret s => s.metadata.address? .secret
  | .secretBinding binding => binding.metadata.address? .secretBinding
  | .credentialsBinding binding => binding.metadata.address? .credentialsBinding
  | _ => none

/-- What tells the previous states of resources apart. -/
def Resource.state (r : Resource) : ResourceKind × String := (r.kind, r.objectName)

/-- An object that answers to a namespace and a name has the address that these make with its kind. -/
theorem ObjectMeta.address?_of_isAt {m : ObjectMeta} {space name : String} {kind : ResourceKind}
    (h : m.isAt space name = true) : m.address? kind = some ⟨kind, some space, name⟩ := by
  obtain ⟨hname, hspace⟩ := Bool.and_eq_true_iff.mp h
  unfold ObjectMeta.address?
  rw [of_decide_eq_true hspace, of_decide_eq_true hname]
  rfl

section Lookup

variable {resources resources' : List Resource}

/-- A search for an address has the same answer in any order. -/
theorem find?_filterMap_eq_of_perm {α : Type} {select : Resource → Option α} {p : α → Bool}
    {address : Address} (h : resources'.Perm resources)
    (haddresses : (resources.filterMap Resource.address?).Nodup)
    (haddress : ∀ r a, select r = some a → p a = true → r.address? = some address) :
    (resources'.filterMap select).find? p = (resources.filterMap select).find? p := by
  apply find?_eq_of_perm (h.filterMap select)
  unfold List.Nodup at haddresses
  rw [List.pairwise_filterMap] at haddresses ⊢
  refine haddresses.imp ?_
  intro r r' hapart a ha a' ha' hboth
  exact hapart _ (haddress r a ha hboth.1) _ (haddress r' a' ha' hboth.2) rfl

/-- A search for an object by namespace and name is one for its address. -/
theorem find?_isAt_eq_of_perm {α : Type} {select : Resource → Option α} {metadata : α → ObjectMeta}
    {kind : ResourceKind} (h : resources'.Perm resources)
    (haddresses : (resources.filterMap Resource.address?).Nodup)
    (hselect : ∀ r a, select r = some a → r.address? = (metadata a).address? kind)
    (space name : String) :
    (resources'.filterMap select).find? (fun a => (metadata a).isAt space name) =
      (resources.filterMap select).find? (fun a => (metadata a).isAt space name) := by
  apply find?_filterMap_eq_of_perm h haddresses
  intro r a hr hat
  rw [hselect r a hr]
  exact ObjectMeta.address?_of_isAt hat

/-- **Lookups do not depend on the order of resources** with addresses of their own. -/
theorem Lookup.ofResources_eq_of_perm (h : resources'.Perm resources)
    (haddresses : (resources.filterMap Resource.address?).Nodup) :
    Lookup.ofResources resources' = Lookup.ofResources resources := by
  unfold Lookup.ofResources
  congr 1
  case e_cloudProfile =>
    funext name
    have haddress (r : Resource) (profile : CloudProfile) (hr : r.cloudProfile? = some profile)
        (hname : profile.metadata.hasName name = true) :
        r.address? = some ⟨.cloudProfile, none, name⟩ := by
      cases r with
      | cloudProfile own =>
        obtain rfl := Option.some.inj hr
        exact congrArg (Option.map _) (of_decide_eq_true hname)
      | _ => cases hr
    exact find?_filterMap_eq_of_perm h haddresses haddress
  -- the other four are found by namespace and name, and the kind of a resource is that of its address
  all_goals
    funext space name
    apply find?_isAt_eq_of_perm h haddresses
    intro r a hr
    cases r <;> cases hr
    rfl

end Lookup

namespace Verdict

variable {resources resources' previous previous' context context' : List Resource}

/-- The previous state of a resource is found in any order, if previous states are told apart by kind and
name. -/
theorem previousState_eq_of_perm (h : previous'.Perm previous)
    (hstates : (previous.map Resource.state).Nodup) (r : Resource) :
    previousState r previous' = previousState r previous := by
  apply find?_eq_of_perm h
  unfold List.Nodup at hstates
  rw [List.pairwise_map] at hstates
  refine hstates.imp ?_
  intro old old' hapart hboth
  obtain ⟨hold, hold'⟩ := hboth
  rw [Bool.and_eq_true, decide_eq_true_eq, decide_eq_true_eq] at hold hold'
  exact hapart (Prod.ext (hold.1.trans hold'.1.symm) (hold.2.trans hold'.2.symm))

/-- A resource has the same verdict in every order. -/
theorem on_eq_of_perm (hresources : resources'.Perm resources) (hprevious : previous'.Perm previous)
    (hcontext : context'.Perm context)
    (haddresses : ((resources ++ context).filterMap Resource.address?).Nodup)
    (hstates : (previous.map Resource.state).Nodup) (r : Resource) :
    on (.ofResources (resources' ++ context')) previous' r =
      on (.ofResources (resources ++ context)) previous r := by
  unfold on
  rw [Lookup.ofResources_eq_of_perm (hresources.append hcontext) haddresses,
    previousState_eq_of_perm hprevious hstates]

end Verdict

/-! ## Files -/

namespace ManifestDocument

def resource? : ManifestDocument → Option Resource
  | .resource r => some r
  | _ => none

/-- The document has a resource or nothing. -/
def isReadable : ManifestDocument → Bool
  | .unreadable _ => false
  | _ => true

end ManifestDocument

namespace ManifestFile

variable {split : String → List ManifestDocument} {files files' : List ManifestFile}
  {documents documents' : List ManifestDocument} {resources : List Resource}

/-- The files can be read and hold these documents, one file after the other. -/
inductive Hold (split : String → List ManifestDocument) :
    List ManifestFile → List ManifestDocument → Prop where
  | none : Hold split [] []
  | more {file : ManifestFile} {text : String} {files : List ManifestFile}
    {documents : List ManifestDocument} (htext : file.text = .ok text)
    (h : Hold split files documents) : Hold split (file :: files) (split text ++ documents)

/-- The documents of some files, in another order and divided among other files. -/
def Rearranged (split : String → List ManifestDocument) (files files' : List ManifestFile) : Prop :=
  ∃ documents documents', Hold split files documents ∧ Hold split files' documents' ∧
    documents'.Perm documents

/-- Documents are read exactly if all of them are readable, and then what is read is what they hold. The
position only matters for the fault. -/
theorem resourcesFrom_eq_ok_iff {path : String} {index : Nat} :
    resourcesFrom path index documents = .ok resources ↔
      (∀ d ∈ documents, d.isReadable = true) ∧
        documents.filterMap ManifestDocument.resource? = resources := by
  induction documents generalizing index resources with
  | nil => simp [resourcesFrom]
  | cons d rest ih =>
    -- an empty document leaves nothing behind but its position, which only an error would tell
    cases d with
    | empty =>
      have hreadable : ManifestDocument.empty.isReadable = true := rfl
      rw [resourcesFrom, ih, List.forall_mem_cons, and_iff_right hreadable,
        List.filterMap_cons_none rfl]
    | resource r =>
      have hreadable : (ManifestDocument.resource r).isReadable = true := rfl
      have hresource : (ManifestDocument.resource r).resource? = some r := rfl
      rw [resourcesFrom, map_eq_ok_iff, List.forall_mem_cons, and_iff_right hreadable,
        List.filterMap_cons_some hresource]
      simp only [ih, and_assoc, exists_and_left, exists_eq_left']
    | unreadable cause =>
      constructor
      · intro h
        cases h
      · intro h
        cases h.1 _ (.head _)

/-- Files that can be read are loaded if their documents are readable, whichever file they are in. -/
theorem Hold.loadAll_eq_ok_iff (h : Hold split files documents) :
    loadAll split files = .ok resources ↔
      (∀ d ∈ documents, d.isReadable = true) ∧
        documents.filterMap ManifestDocument.resource? = resources := by
  induction h generalizing resources with
  | none => simp [loadAll]
  | @more file text files documents htext h ih =>
    unfold loadAll load
    rw [htext]
    simp only [bind_eq_ok_iff, resourcesFrom_eq_ok_iff, ih, List.forall_mem_append,
      List.filterMap_append]
    constructor
    · rintro ⟨own, ⟨hown, rfl⟩, others, ⟨hothers, rfl⟩, hall⟩
      exact ⟨⟨hown, hothers⟩, Except.ok.inj hall⟩
    · rintro ⟨⟨hown, hothers⟩, rfl⟩
      exact ⟨_, ⟨hown, rfl⟩, _, ⟨hothers, rfl⟩, rfl⟩

/-- What is loaded is loaded from other files too, in another order. -/
theorem Rearranged.exists_loadAll (h : Rearranged split files files')
    (hloaded : loadAll split files = .ok resources) :
    ∃ resources', loadAll split files' = .ok resources' ∧ resources'.Perm resources := by
  obtain ⟨documents, documents', hhold, hhold', hperm⟩ := h
  obtain ⟨hreadable, rfl⟩ := hhold.loadAll_eq_ok_iff.mp hloaded
  refine ⟨_, hhold'.loadAll_eq_ok_iff.mpr ⟨?_, rfl⟩, hperm.filterMap _⟩
  intro d hd
  exact hreadable d (hperm.mem_iff.mp hd)

end ManifestFile

/-- The number of rejected resources does not depend on their order. -/
theorem ValidationOutcome.rejected_eq_of_perm {verdicts verdicts' : List Verdict}
    (h : verdicts'.Perm verdicts) : rejected (.ok verdicts') = rejected (.ok verdicts) :=
  h.countP_eq _

/-- Nor does the exit status. -/
theorem ValidationOutcome.exitStatus_eq_of_perm {verdicts verdicts' : List Verdict}
    (h : verdicts'.Perm verdicts) : exitStatus (.ok verdicts') = exitStatus (.ok verdicts) := by
  have hall : verdicts'.all Verdict.isValid = verdicts.all Verdict.isValid := h.all_eq
  unfold exitStatus
  dsimp only
  rw [hall]

namespace ValidationRequest

variable {split : String → List ManifestDocument} {request request' : ValidationRequest}
  {resources previous context : List Resource}

/-- Everything is loaded, and these are the resources. -/
structure Loads (split : String → List ManifestDocument) (request : ValidationRequest)
    (resources previous context : List Resource) : Prop where
  manifests : ManifestFile.loadAll split request.manifests = .ok resources
  previous : ManifestFile.loadAll split request.previous = .ok previous
  context : ManifestFile.loadAll split request.context = .ok context

/-- The documents of each of the three lists have changed their places. -/
structure Rearranged (split : String → List ManifestDocument) (request request' : ValidationRequest) :
    Prop where
  manifests : ManifestFile.Rearranged split request.manifests request'.manifests
  previous : ManifestFile.Rearranged split request.previous request'.previous
  context : ManifestFile.Rearranged split request.context request'.context

/-- A run in which everything is loaded gives the verdicts on the resources of the manifests. -/
theorem Loads.run_eq (h : request.Loads split resources previous context) :
    request.run split = .ok (Verdict.onAll resources previous context) := by
  unfold run loadStage
  rw [h.manifests, h.previous, h.context]
  rfl

/-- **Verdicts do not depend on the order of manifests.** There is one result for each resource, whatever the
order. -/
theorem run_of_rearranged (hloads : request.Loads split resources previous context)
    (haddresses : ((resources ++ context).filterMap Resource.address?).Nodup)
    (hstates : (previous.map Resource.state).Nodup) (h : request.Rearranged split request') :
    ∃ (resources' : List Resource) (result : Resource → Except AdmissionError Unit),
      resources'.Perm resources ∧
        request.run split = .ok (resources.map fun r => ⟨r, result r⟩) ∧
        request'.run split = .ok (resources'.map fun r => ⟨r, result r⟩) ∧
        ValidationOutcome.rejected (request'.run split) =
          ValidationOutcome.rejected (request.run split) ∧
        ValidationOutcome.exitStatus (request'.run split) =
          ValidationOutcome.exitStatus (request.run split) := by
  obtain ⟨resources', hmanifests', hresources⟩ := h.manifests.exists_loadAll hloads.manifests
  obtain ⟨previous', hprevious', hprevious⟩ := h.previous.exists_loadAll hloads.previous
  obtain ⟨context', hcontext', hcontext⟩ := h.context.exists_loadAll hloads.context
  have hloads' : request'.Loads split resources' previous' context' :=
    ⟨hmanifests', hprevious', hcontext'⟩
  -- the result of a resource is the same beside any order of the others, so only the order of the
  -- verdicts changes
  have hsame : Verdict.onAll resources' previous' context' =
      resources'.map (Verdict.on (.ofResources (resources ++ context)) previous) :=
    List.map_congr_left fun r _ =>
      Verdict.on_eq_of_perm hresources hprevious hcontext haddresses hstates r
  have hverdicts : (Verdict.onAll resources' previous' context').Perm
      (Verdict.onAll resources previous context) := by
    rw [hsame]
    exact hresources.map _
  refine ⟨resources', fun r => r.review (Verdict.previousState r previous)
    (.ofResources (resources ++ context)), hresources, hloads.run_eq, ?_, ?_, ?_⟩
  · rw [hloads'.run_eq, hsame]
    rfl
  · rw [hloads.run_eq, hloads'.run_eq]
    exact ValidationOutcome.rejected_eq_of_perm hverdicts
  · rw [hloads.run_eq, hloads'.run_eq]
    exact ValidationOutcome.exitStatus_eq_of_perm hverdicts

/-! A profile without identity service and two shoots in one file, and in two files the other way round. One of
the shoots is admitted, and the rest is rejected. -/

def profileWithClasses : Resource := .cloudProfile (profileWithConfig poolsWithClasses)

def shootWithoutPool : Resource := .shoot (shootOnPool "fip-none" [])

/-- The documents of some texts. -/
def documentsByLetter : String → List ManifestDocument
  | "a" => [.resource profileWithClasses, .empty, .resource (.shoot shootOnInternal),
      .resource shootWithoutPool]
  | "b" => [.resource shootWithoutPool, .resource (.shoot shootOnInternal)]
  | "c" => [.empty, .resource profileWithClasses]
  | "d" => [.resource (.shoot shootOnInternal)]
  | _ => []

/-- A file with one letter of ASCII. -/
def fileOfLetter (letter : UInt8) : ManifestFile := ⟨"manifests.yaml", .ok [letter]⟩

def requestInOneFile : ValidationRequest := ⟨[fileOfLetter 97], [fileOfLetter 100], []⟩

def requestInTwoFiles : ValidationRequest :=
  ⟨[fileOfLetter 98, fileOfLetter 99], [fileOfLetter 100], []⟩

/-- The two files hold the same documents in the reverse order, and the previous state is in the same file
as before. -/
theorem rearranged_requestInTwoFiles :
    requestInOneFile.Rearranged documentsByLetter requestInTwoFiles where
  manifests := ⟨_, _, .more rfl .none, .more rfl (.more rfl .none), List.reverse_perm
    (documentsByLetter "a")⟩
  previous := ⟨_, _, .more rfl .none, .more rfl .none, .rfl⟩
  context := ⟨_, _, .none, .none, .rfl⟩

/-- Two of the three resources are rejected in either order, and the status is the same. -/
theorem run_requestInTwoFiles :
    ValidationOutcome.rejected (requestInTwoFiles.run documentsByLetter) = 2 ∧
      ValidationOutcome.exitStatus (requestInTwoFiles.run documentsByLetter) =
        ValidationOutcome.exitStatus (requestInOneFile.run documentsByLetter) := by
  have hloads : requestInOneFile.Loads documentsByLetter
      [profileWithClasses, .shoot shootOnInternal, shootWithoutPool] [.shoot shootOnInternal] [] :=
    ⟨rfl, rfl, rfl⟩
  obtain ⟨_, _, _, _, _, hrejected, hstatus⟩ := run_of_rearranged hloads (by decide) (by decide)
    rearranged_requestInTwoFiles
  exact ⟨hrejected.trans rfl, hstatus⟩

end ValidationRequest

end OpenstackAdmission
