import OpenstackAdmission.Proofs.CommandLine.Printed
import OpenstackAdmission.Proofs.CommandLine.Rearrangement

/-!
# All or nothing

A validation loads everything or prints no verdict. The first file with a fault, in the order of the stages, is the
fault of all, and in a file the first document that neither is empty nor holds a resource.

> `run_allOrNothing`: if a file has a fault, no verdict is printed, the status is two, and the error tells the first
fault, with the file and the index of the document; otherwise one verdict is printed for each document with a resource,
in order, and the status is zero if all resources are admitted and one if some are not.

An empty document is no fault, but it is counted: the position of a bad document is the number of all documents
before it (`firstUnreadable_of_resourcesFrom`). That the status is honest needs a second fact. A verdict is
printed in several ways, and only what is printed of an admitted resource says that it is valid
(`Verdict.Printed.eq_valid_iff`).
-/

namespace OpenstackAdmission

namespace ManifestDocument

/-- The document has no content. -/
def isEmpty : ManifestDocument → Bool
  | .empty => true
  | _ => false

/-- The first document that neither is empty nor holds a resource, with the number of documents before it. -/
def FirstUnreadable (documents : List ManifestDocument) (position : Nat) (cause : String) : Prop :=
  ∃ before after, documents = before ++ .unreadable cause :: after ∧
    (∀ d ∈ before, d.isReadable = true) ∧ position = before.length

/-- Readable documents hold one resource each, apart from the empty ones. -/
theorem filter_not_isEmpty {documents : List ManifestDocument} (h : ∀ d ∈ documents, d.isReadable = true) :
    documents.filter (!·.isEmpty) = (documents.filterMap resource?).map .resource := by
  induction documents with
  | nil => rfl
  | cons d rest ih =>
    obtain ⟨hd, hrest⟩ := List.forall_mem_cons.mp h
    cases d with
    | empty => exact ih hrest
    | resource r => exact congrArg (ManifestDocument.resource r :: ·) (ih hrest)
    | unreadable cause => cases hd

end ManifestDocument

namespace ManifestFile

variable {split : String → List ManifestDocument} {file : ManifestFile} {files : List ManifestFile}
  {documents : List ManifestDocument} {resources : List Resource} {fault : LoadFault}

/-- The file cannot be read, or a document of it neither is empty nor holds a resource. -/
def IsFaulty (split : String → List ManifestDocument) (file : ManifestFile) : Prop :=
  (∃ fault, file.text = .error fault) ∨
    ∃ text cause, file.text = .ok text ∧ ManifestDocument.unreadable cause ∈ split text

/-- The first fault of a file. -/
inductive HasFault (split : String → List ManifestDocument) (file : ManifestFile) : LoadFault → Prop where
  | unreadable {fault : ReadFault} (htext : file.text = .error fault) :
    HasFault split file (.unreadable file.path fault)
  | badDocument {text cause : String} {position : Nat} (htext : file.text = .ok text)
    (h : ManifestDocument.FirstUnreadable (split text) position cause) :
    HasFault split file (.badDocument file.path position cause)

/-- A file that has a first fault has a fault. -/
theorem HasFault.isFaulty (h : file.HasFault split fault) : file.IsFaulty split := by
  cases h with
  | unreadable htext => exact .inl ⟨_, htext⟩
  | @badDocument text cause position htext h =>
    obtain ⟨before, after, hsplit, -, -⟩ := h
    refine .inr ⟨text, cause, htext, ?_⟩
    rw [hsplit]
    exact List.mem_append_right _ (.head _)

/-! ## One file -/

/-- The induction is on the documents: the first one is the fault, or it moves the position on by one. -/
theorem firstUnreadable_of_resourcesFrom {path : String} {index : Nat}
    (h : resourcesFrom path index documents = .error fault) :
    ∃ position cause, ManifestDocument.FirstUnreadable documents position cause ∧
      fault = .badDocument path (index + position) cause := by
  induction documents generalizing index with
  | nil => cases h
  | cons d rest ih =>
    -- what the rest says, if the first document is readable
    have onward (hd : d.isReadable = true) (hrest : resourcesFrom path (index + 1) rest = .error fault) :
        ∃ position cause, ManifestDocument.FirstUnreadable (d :: rest) position cause ∧
          fault = .badDocument path (index + position) cause := by
      obtain ⟨_, cause, ⟨before, after, rfl, hbefore, rfl⟩, rfl⟩ := ih hrest
      refine ⟨before.length + 1, cause, ⟨d :: before, after, rfl, ?_, rfl⟩, ?_⟩
      · exact List.forall_mem_cons.mpr ⟨hd, hbefore⟩
      · rw [Nat.add_right_comm, Nat.add_assoc]
    cases d with
    | empty => exact onward rfl h
    | resource r =>
      rw [resourcesFrom] at h
      cases hrest : resourcesFrom path (index + 1) rest with
      | error e =>
        rw [hrest] at h
        exact onward rfl (hrest.trans h)
      | ok others => rw [hrest] at h; cases h
    | unreadable cause =>
      refine ⟨0, cause, ⟨[], rest, rfl, fun _ hd => absurd hd List.not_mem_nil, rfl⟩, ?_⟩
      exact (Except.error.inj h).symm

/-- A file that is not loaded has the fault that is reported: its text cannot be read, or the first bad
document is at the position that is told. -/
theorem hasFault_of_load (h : file.load split = .error fault) : file.HasFault split fault := by
  unfold load at h
  cases htext : file.text with
  | error e =>
    rw [htext] at h
    obtain rfl := Except.error.inj h
    exact .unreadable htext
  | ok text =>
    rw [htext] at h
    obtain ⟨position, cause, hfirst, rfl⟩ := firstUnreadable_of_resourcesFrom h
    rw [Nat.zero_add]
    exact .badDocument htext hfirst

/-- A file is loaded exactly if its text can be read and all its documents are readable; then its resources
are those of the documents. -/
theorem load_eq_ok_iff :
    file.load split = .ok resources ↔ ∃ text, file.text = .ok text ∧
      (∀ d ∈ split text, d.isReadable = true) ∧
        (split text).filterMap ManifestDocument.resource? = resources := by
  unfold load
  cases file.text with
  | error e => simp
  | ok text => simp [resourcesFrom_eq_ok_iff]

/-- A file that is loaded has no fault of either kind. -/
theorem not_isFaulty_of_load (h : file.load split = .ok resources) : ¬ file.IsFaulty split := by
  obtain ⟨text, htext, hreadable, -⟩ := load_eq_ok_iff.mp h
  rintro (⟨fault, hfault⟩ | ⟨other, cause, hother, hcause⟩)
  · rw [htext] at hfault
    cases hfault
  · rw [htext] at hother
    obtain rfl := Except.ok.inj hother
    cases hreadable _ hcause

/-! ## All files -/

/-- The files before the one with the fault have none. -/
theorem exists_hasFault_of_loadAll (h : loadAll split files = .error fault) :
    ∃ before file after, files = before ++ file :: after ∧ (∀ f ∈ before, ¬ f.IsFaulty split) ∧
      file.HasFault split fault := by
  induction files with
  | nil => cases h
  | cons first rest ih =>
    rw [loadAll, bind_eq_error_iff] at h
    obtain hfirst | ⟨own, hown, h⟩ := h
    · exact ⟨[], first, rest, rfl, fun _ hf => absurd hf List.not_mem_nil, hasFault_of_load hfirst⟩
    · obtain hrest | ⟨others, -, h⟩ := bind_eq_error_iff.mp h
      · obtain ⟨before, file, after, rfl, hbefore, hfault⟩ := ih hrest
        refine ⟨first :: before, file, after, rfl, ?_, hfault⟩
        exact List.forall_mem_cons.mpr ⟨not_isFaulty_of_load hown, hbefore⟩
      · cases h

/-- Files that are loaded can be read, and none of them has a fault. -/
theorem exists_hold_of_loadAll (h : loadAll split files = .ok resources) :
    (∀ f ∈ files, ¬ f.IsFaulty split) ∧ ∃ documents, Hold split files documents := by
  induction files generalizing resources with
  | nil => exact ⟨fun _ hf => absurd hf List.not_mem_nil, [], .none⟩
  | cons first rest ih =>
    rw [loadAll, bind_eq_ok_iff] at h
    obtain ⟨own, hown, h⟩ := h
    obtain ⟨others, hothers, -⟩ := bind_eq_ok_iff.mp h
    obtain ⟨text, htext, -⟩ := load_eq_ok_iff.mp hown
    obtain ⟨hrest, documents, hhold⟩ := ih hothers
    exact ⟨List.forall_mem_cons.mpr ⟨not_isFaulty_of_load hown, hrest⟩, _, .more htext hhold⟩

end ManifestFile

/-! ## Verdicts -/

/-- A verdict counts as valid exactly if its result is an admission. -/
theorem Verdict.isValid_iff {v : Verdict} : v.isValid = true ↔ v.result = .ok () := by
  unfold isValid
  split
  · next h => simp only [h]
  · next e h => simp only [h, Bool.false_eq_true, reduceCtorEq]

namespace ValidationOutcome

variable {verdicts : List Verdict}

/-- The status of verdicts is one if one of them is no admission. -/
theorem exitStatus_ok_cases (verdicts : List Verdict) :
    exitStatus (.ok verdicts) = 0 ∧ (∀ v ∈ verdicts, v.result = .ok ()) ∨
      exitStatus (.ok verdicts) = 1 ∧ ∃ v ∈ verdicts, ∃ e, v.result = .error e := by
  unfold exitStatus
  dsimp only
  by_cases hall : verdicts.all Verdict.isValid = true
  · exact .inl ⟨if_pos hall, fun v hv => Verdict.isValid_iff.mp (List.all_eq_true.mp hall v hv)⟩
  · obtain ⟨v, hv, hinvalid⟩ := List.all_eq_false.mp (Bool.eq_false_iff.mpr hall)
    rw [Verdict.isValid_iff] at hinvalid
    refine .inr ⟨if_neg hall, v, hv, ?_⟩
    cases hresult : v.result with
    | ok u => exact absurd hresult hinvalid
    | error e => exact ⟨e, rfl⟩

/-- The number of rejected resources, which is logged, is zero exactly if all are admitted. -/
theorem rejected_eq_zero_iff : rejected (.ok verdicts) = 0 ↔ ∀ v ∈ verdicts, v.result = .ok () := by
  unfold rejected
  simp only [List.countP_eq_zero, Bool.not_eq_true', Bool.not_eq_false, Verdict.isValid_iff]

end ValidationOutcome

namespace ValidationRequest

variable {split : String → List ManifestDocument} {request : ValidationRequest} {stage : LoadStage}
  {files : List ManifestFile} {fault : LoadFault} {failure : LoadFailure} {verdicts : List Verdict}

/-- The files of a request in the order in which they are loaded. -/
def staged (request : ValidationRequest) : List (LoadStage × ManifestFile) :=
  request.manifests.map (.manifests, ·) ++ request.previous.map (.previous, ·)
    ++ request.context.map (.context, ·)

/-- The fault of the first file that has one. -/
def FirstFault (split : String → List ManifestDocument) (request : ValidationRequest)
    (failure : LoadFailure) : Prop :=
  ∃ before file after, request.staged = before ++ (failure.stage, file) :: after ∧
    (∀ item ∈ before, ¬ item.2.IsFaulty split) ∧ file.HasFault split failure.fault

/-- A stage loads what its files hold; the stage is only named in the failure. -/
theorem loadStage_eq_ok_iff {resources : List Resource} :
    loadStage split stage files = .ok resources ↔ ManifestFile.loadAll split files = .ok resources := by
  unfold loadStage
  cases ManifestFile.loadAll split files <;> simp [Except.mapError]

/-- The files of a stage that is loaded have no faults. -/
theorem not_isFaulty_of_loadStage {resources : List Resource}
    (h : loadStage split stage files = .ok resources) :
    ∀ item ∈ files.map (stage, ·), ¬ item.2.IsFaulty split := by
  rw [List.forall_mem_map]
  exact (ManifestFile.exists_hold_of_loadAll (loadStage_eq_ok_iff.mp h)).1

/-- The fault of a stage is that of the request, if the files of the stages before it have none. -/
theorem firstFault_of_loadStage (front back : List (LoadStage × ManifestFile))
    (hstaged : request.staged = front ++ files.map (stage, ·) ++ back)
    (hfront : ∀ item ∈ front, ¬ item.2.IsFaulty split)
    (h : loadStage split stage files = .error failure) : request.FirstFault split failure := by
  unfold loadStage at h
  cases hload : ManifestFile.loadAll split files with
  | ok resources => rw [hload] at h; cases h
  | error fault =>
    rw [hload] at h
    obtain rfl := Except.error.inj h
    obtain ⟨before, file, after, rfl, hbefore, hfault⟩ := ManifestFile.exists_hasFault_of_loadAll hload
    refine ⟨front ++ before.map (stage, ·), file, after.map (stage, ·) ++ back, ?_, ?_, hfault⟩
    · rw [hstaged]
      simp only [List.map_append, List.map_cons, List.append_assoc, List.cons_append]
    · rw [List.forall_mem_append, List.forall_mem_map]
      exact ⟨hfront, hbefore⟩

/-- A stage that fails comes after stages without faults. -/
theorem firstFault_of_run (h : request.run split = .error failure) :
    request.FirstFault split failure := by
  obtain hfault | ⟨resources, hresources, h⟩ := bind_eq_error_iff.mp h
  · exact firstFault_of_loadStage [] _ (List.append_assoc ..) (fun _ hitem => absurd hitem List.not_mem_nil)
      hfault
  obtain hfault | ⟨previous, hprevious, h⟩ := bind_eq_error_iff.mp h
  · exact firstFault_of_loadStage _ _ rfl (not_isFaulty_of_loadStage hresources) hfault
  obtain hfault | ⟨context, -, h⟩ := bind_eq_error_iff.mp h
  · refine firstFault_of_loadStage _ [] (List.append_nil _).symm ?_ hfault
    rw [List.forall_mem_append]
    exact ⟨not_isFaulty_of_loadStage hresources, not_isFaulty_of_loadStage hprevious⟩
  · cases h

/-- Verdicts come from a run in which all three stages were loaded, and they are those on the resources of
the first. -/
theorem loads_of_run (h : request.run split = .ok verdicts) :
    ∃ resources previous context, request.Loads split resources previous context ∧
      verdicts = Verdict.onAll resources previous context := by
  obtain ⟨resources, hresources, h⟩ := bind_eq_ok_iff.mp h
  obtain ⟨previous, hprevious, h⟩ := bind_eq_ok_iff.mp h
  obtain ⟨context, hcontext, h⟩ := bind_eq_ok_iff.mp h
  rw [loadStage_eq_ok_iff] at hresources hprevious hcontext
  exact ⟨resources, previous, context, ⟨hresources, hprevious, hcontext⟩, (Except.ok.inj h).symm⟩

/-- If everything is loaded, no file has a fault. -/
theorem Loads.not_isFaulty {resources previous context : List Resource}
    (h : request.Loads split resources previous context) :
    ∀ item ∈ request.staged, ¬ item.2.IsFaulty split := by
  unfold staged
  simp only [List.forall_mem_append, List.forall_mem_map]
  exact ⟨⟨(ManifestFile.exists_hold_of_loadAll h.manifests).1,
    (ManifestFile.exists_hold_of_loadAll h.previous).1⟩, (ManifestFile.exists_hold_of_loadAll h.context).1⟩

/-- A validation that fails prints no verdict, and its error is the first fault. -/
structure Fails (split : String → List ManifestDocument) (request : ValidationRequest)
    (failure : LoadFailure) : Prop where
  first : request.FirstFault split failure
  run_eq : request.run split = .error failure
  output : ValidationOutcome.standardOutput (request.run split) = ""
  /-- The messages of the error name the file, and the index of a bad document. -/
  names : ∃ sentence message cause, failure.stage.Says sentence ∧ failure.fault.Says message cause ∧
    failure.messages = [sentence, message, cause]
  /-- The report of these messages is what is printed of the error. -/
  error : failure.Told (ValidationOutcome.standardError (request.run split))
  status : ValidationOutcome.exitStatus (request.run split) = 2

/-- A validation that succeeds prints a verdict on each resource of the manifests, and nothing else. -/
structure Reports (split : String → List ManifestDocument) (request : ValidationRequest)
    (verdicts : List Verdict) : Prop where
  run_eq : request.run split = .ok verdicts
  /-- Of the documents of the manifests, those that are not empty hold the resources, one each. -/
  resources : ∃ documents, ManifestFile.Hold split request.manifests documents ∧
    (documents.filter (!·.isEmpty)) = verdicts.map fun v => .resource v.resource
  /-- Each verdict is the review of its resource among all of them and the context. -/
  reviews : ∃ previous context, ManifestFile.loadAll split request.previous = .ok previous ∧
    ManifestFile.loadAll split request.context = .ok context ∧
    ∀ v ∈ verdicts, v.result = v.resource.review (Verdict.previousState v.resource previous)
      (.ofResources (verdicts.map Verdict.resource ++ context))
  /-- The verdicts are printed one by one, and what is printed of a resource tells whether it is admitted. -/
  output : ∃ pieces, ValidationOutcome.standardOutput (request.run split) = String.join pieces ∧
    List.Forall₂ Verdict.ToldBy verdicts pieces
  /-- What is logged is the number of verdicts, and how many of them are no admissions. -/
  logged : ∃ rejected, ValidationOutcome.logged (request.run split) =
    [⟨"validated resources", verdicts.length, rejected⟩] ∧ (rejected = 0 ↔ ∀ v ∈ verdicts, v.result = .ok ())
  status : ValidationOutcome.exitStatus (request.run split) = 0 ∧ (∀ v ∈ verdicts, v.result = .ok ()) ∨
    ValidationOutcome.exitStatus (request.run split) = 1 ∧ ∃ v ∈ verdicts, ∃ e, v.result = .error e

/-- Everything that the law says of a failure, put together from what the run is. -/
theorem fails_of_run (h : request.run split = .error failure) : request.Fails split failure where
  first := firstFault_of_run h
  run_eq := h
  output := by rw [h]; rfl
  names := failure.exists_messages
  error := by rw [h]; exact failure.told
  status := by rw [h]; rfl

/-- Everything that the law says of verdicts. The documents of the manifests are those that the files hold,
and without the empty ones they are the resources of the verdicts. -/
theorem reports_of_run (h : request.run split = .ok verdicts) : request.Reports split verdicts := by
  obtain ⟨resources, previous, context, hloads, rfl⟩ := loads_of_run h
  obtain ⟨-, documents, hhold⟩ := ManifestFile.exists_hold_of_loadAll hloads.manifests
  obtain ⟨hreadable, hresources⟩ := hhold.loadAll_eq_ok_iff.mp hloads.manifests
  have hmap : (Verdict.onAll resources previous context).map Verdict.resource = resources := by
    unfold Verdict.onAll
    rw [List.map_map]
    exact List.map_id resources
  refine
    { run_eq := h
      resources := ⟨documents, hhold, ?_⟩
      reviews := ⟨previous, context, hloads.previous, hloads.context, ?_⟩
      output := ⟨_, by rw [h]; rfl, Verdict.forall₂_toldBy _⟩
      logged := ⟨_, by rw [h]; rfl, ValidationOutcome.rejected_eq_zero_iff⟩
      status := by rw [h]; exact ValidationOutcome.exitStatus_ok_cases _ }
  · rw [ManifestDocument.filter_not_isEmpty hreadable, hresources, ← hmap, List.map_map, hmap]
    rfl
  · rw [hmap]
    exact List.forall_mem_map.mpr fun _ _ => rfl

/-- **All or nothing.** If a file of any stage has a fault, the first fault is all that comes of the validation;
otherwise a verdict on each resource of the manifests is printed, and the status tells whether all are admitted. -/
theorem run_allOrNothing (split : String → List ManifestDocument) (request : ValidationRequest) :
    ((∃ item ∈ request.staged, item.2.IsFaulty split) → ∃ failure, request.Fails split failure) ∧
      ((∀ item ∈ request.staged, ¬ item.2.IsFaulty split) → ∃ verdicts, request.Reports split verdicts) := by
  constructor
  · rintro ⟨item, hitem, hfaulty⟩
    cases h : request.run split with
    | error failure => exact ⟨failure, fails_of_run h⟩
    | ok verdicts =>
      obtain ⟨resources, previous, context, hloads, -⟩ := loads_of_run h
      exact absurd hfaulty (hloads.not_isFaulty item hitem)
  · intro hnone
    cases h : request.run split with
    | ok verdicts => exact ⟨verdicts, reports_of_run h⟩
    | error failure =>
      -- the first fault would be that of a file
      obtain ⟨before, file, after, hstaged, -, hfault⟩ := firstFault_of_run h
      have hmem : (failure.stage, file) ∈ request.staged := by
        rw [hstaged]
        exact List.mem_append_right _ (.head _)
      exact absurd hfault.isFaulty (hnone _ hmem)

/-! A shoot that is admitted, one with a pool of workers in no zone, and a binding to a secret that is not there; and a
file that begins with an empty document and goes on with bad ones. -/

def shootWithoutZones : Shoot := shootOnPool "fip-internal" [workerIn "pool" []]

def bindingWithoutSecret : SecretBinding where
  metadata := { name := some "openstack", space := some "garden-dev" }
  secretRef := { name := "openstack", space := none }
  provider := none

/-- The documents of some texts. -/
def printedByLetter : String → List ManifestDocument
  | "a" => [.resource (.shoot shootOnInternal), .empty, .resource (.shoot shootWithoutZones),
      .resource (.secretBinding bindingWithoutSecret)]
  | "b" => [.empty, .unreadable "missing field", .unreadable "unknown field"]
  | "c" => [.resource profileWithClasses]
  | _ => []

/-- The bad document is followed by another one, and by a file that is missing. -/
def requestWithBadDocument : ValidationRequest :=
  ⟨[fileOfLetter 97], [fileOfLetter 98], [⟨"context.yaml", .error .notFound⟩]⟩

def requestWithVerdicts : ValidationRequest := ⟨[fileOfLetter 97], [], [fileOfLetter 99]⟩

/-- The bad document is the second of its file, since the empty one counts, and with it nothing is printed of the shoots
and the binding. Without it there are three verdicts, one of each sort. -/
theorem printed_of_requests :
    (∃ failure, requestWithBadDocument.Fails printedByLetter failure) ∧
      ValidationOutcome.standardError (requestWithBadDocument.run printedByLetter) =
        "failed to load previous manifests\n\n" ++
        "Caused by these errors (recent errors listed first):\n" ++
        "  1: failed to parse document 1 of manifests.yaml\n" ++
        "  2: missing field\n\n" ∧
      (∃ verdicts, requestWithVerdicts.Reports printedByLetter verdicts) ∧
      ValidationOutcome.standardOutput (requestWithVerdicts.run printedByLetter) =
        "Shoot garden-dev/dev: valid\n" ++
        "Shoot garden-dev/dev: invalid\n" ++
        "  spec.provider.workers[0].zones: Required value: at least one zone must be configured\n" ++
        "SecretBinding garden-dev/openstack: secret garden-dev/openstack not found\n\n" ∧
      ValidationOutcome.exitStatus (requestWithVerdicts.run printedByLetter) = 1 := by
  have hfaulty : (fileOfLetter 98).IsFaulty printedByLetter :=
    .inr ⟨"b", "missing field", rfl, .tail _ (.head _)⟩
  have hloads : requestWithVerdicts.Loads printedByLetter
      [.shoot shootOnInternal, .shoot shootWithoutZones, .secretBinding bindingWithoutSecret] []
      [profileWithClasses] := ⟨rfl, rfl, rfl⟩
  have hfails := (run_allOrNothing printedByLetter requestWithBadDocument).1
    ⟨(.previous, fileOfLetter 98), .tail _ (.head _), hfaulty⟩
  have hreports := (run_allOrNothing printedByLetter requestWithVerdicts).2 hloads.not_isFaulty
  exact ⟨hfails, by decide +kernel, hreports, by decide +kernel, rfl⟩

end ValidationRequest

end OpenstackAdmission
