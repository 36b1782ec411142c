import Mathlib.Data.List.Infix
import OpenstackAdmission.CommandLine.Verdict
import OpenstackAdmission.Proofs.Report.ErrorChain

/-!
# What is printed

The texts that a validation prints, spelled out.

> `LoadFailure.told`: the report of a failure says what was to be loaded, names the file, and for a bad document its
index, and gives the cause.

> `Verdict.printed_text`: a verdict begins with the kind and the object of its resource; a line says whether it is
admitted, and if not, there are the errors of its fields or the report of another error.

The sentence about a stage is shown whole above every fault (`LoadStage.Says.whole`), because it does not end as faults
begin. A report may shorten what stands below it, but only by what the cause says again
(`ErrorChain.Shown`).
-/

namespace OpenstackAdmission

/-- What the report of a failure says of a stage. -/
inductive LoadStage.Says : LoadStage → String → Prop where
  | manifests : Says .manifests "failed to load manifests to validate"
  | previous : Says .previous "failed to load previous manifests"
  | context : Says .context "failed to load context manifests"

/-- What the report of a failure says of a fault: the file, the index of a bad document, and the cause. -/
inductive LoadFault.Says : LoadFault → String → String → Prop where
  | unreadable (path : String) (fault : ReadFault) :
    Says (.unreadable path fault) ("failed to read manifest file " ++ path) fault.message
  | badDocument (path : String) (index : Nat) (cause : String) :
    Says (.badDocument path index cause) ("failed to parse document " ++ toString index ++ " of " ++ path) cause

/-- The text names the stage, the file and the place in it, and gives the cause. -/
inductive LoadFailure.Told (failure : LoadFailure) : String → Prop where
  | intro {sentence message cause report : String} (hstage : failure.stage.Says sentence)
    (hfault : failure.fault.Says message cause) (hreport : ErrorChain.Reported [sentence] message cause report) :
    Told failure (report ++ "\n")

/-- What a verdict calls a kind of resources. -/
inductive ResourceKind.Says : ResourceKind → String → Prop where
  | shoot : Says .shoot "Shoot"
  | cloudProfile : Says .cloudProfile "CloudProfile"
  | namespacedCloudProfile : Says .namespacedCloudProfile "NamespacedCloudProfile"
  | secretBinding : Says .secretBinding "SecretBinding"
  | credentialsBinding : Says .credentialsBinding "CredentialsBinding"
  | backupBucket : Says .backupBucket "BackupBucket"
  | seed : Says .seed "Seed"
  | secret : Says .secret "Secret"

/-- What a verdict calls an object: its name, behind its namespace if it states one. A missing name is left empty. -/
inductive ObjectMeta.Says (m : ObjectMeta) : String → Prop where
  | alone {name : String} (hspace : m.space = none) (hname : m.name.getD "" = name) : Says m name
  | within {space name : String} (hspace : m.space = some space) (hname : m.name.getD "" = name) :
    Says m (space ++ "/" ++ name)

/-- What a verdict is about, by kind and object. -/
inductive Resource.Says (r : Resource) : String → Prop where
  | intro {kind object : String} (hkind : r.kind.Says kind) (hobject : r.metadata.Says object) :
    Says r (kind ++ " " ++ object)

/-- What is printed of a resource whose review has a result. -/
inductive Verdict.Printed (r : Resource) : Except AdmissionError Unit → String → Prop where
  | valid {subject : String} (hsubject : r.Says subject) : Printed r (.ok ()) (subject ++ ": valid\n")
  /-- Each error has a line of its own. -/
  | invalid {subject : String} (hsubject : r.Says subject) (kind : ResourceKind) (object : String)
    (errors : List FieldError) :
    Printed r (.error (.invalid kind object errors))
      (subject ++ ": invalid\n" ++ String.join (errors.map fun e => "  " ++ e.text ++ "\n"))
  | unread {subject report : String} (hsubject : r.Says subject) (field object : String) (cause : DecodeError)
    (hreport : ErrorChain.Reported [] ("failed to decode " ++ field ++ " of " ++ object) cause.message report) :
    Printed r (.error (.badPayload field object cause)) (subject ++ ": " ++ report ++ "\n")
  /-- Any other error has no cause. -/
  | refused {subject : String} (hsubject : r.Says subject) {e : AdmissionError}
    (hinvalid : ∀ kind object errors, e ≠ .invalid kind object errors)
    (hread : ∀ field object cause, e ≠ .badPayload field object cause) :
    Printed r (.error e) (subject ++ ": " ++ (e.message ++ "\n") ++ "\n")

/-! ## Failures -/

section Failure

variable {stage : LoadStage} {fault : LoadFault} {sentence message cause : String}

/-- The message of a stage is its sentence. -/
theorem LoadStage.says_message (stage : LoadStage) : stage.Says stage.message := by
  cases stage
  case manifests => exact .manifests
  case previous => exact .previous
  case context => exact .context

/-- The messages of a fault are those that name the file, and the index of a bad document, and the cause. -/
theorem LoadFault.exists_says (fault : LoadFault) :
    ∃ message cause, fault.Says message cause ∧ fault.messages = [message, cause] := by
  cases fault with
  | unreadable path fault => exact ⟨_, _, .unreadable path fault, rfl⟩
  | badDocument path index cause => exact ⟨_, _, .badDocument path index cause, rfl⟩

/-- A fault is told in one of two ways, which differ from the eleventh character on. -/
theorem LoadFault.Says.opening (h : fault.Says message cause) :
    "failed to r".toList <+: message.toList ∨ "failed to p".toList <+: message.toList := by
  cases h with
  | unreadable path fault =>
    have hwords : "failed to read manifest file " = "failed to r" ++ "ead manifest file " := rfl
    rw [hwords, String.append_assoc, String.toList_append]
    exact .inl (List.prefix_append _ _)
  | badDocument path index cause =>
    have hwords : "failed to parse document " = "failed to p" ++ "arse document " := rfl
    rw [hwords, String.append_assoc, String.append_assoc, String.append_assoc, String.toList_append]
    exact .inr (List.prefix_append _ _)

/-- No sentence about a stage ends as faults begin, nor with a blank or a colon. -/
theorem LoadStage.Says.ending (h : stage.Says sentence) :
    ¬ "failed to r".toList <:+: sentence.toList ∧ ¬ "failed to p".toList <:+: sentence.toList ∧
      ∃ c, sentence.toList.getLast? = some c ∧ Text.isBlank c = false ∧ c ≠ ':' := by
  cases h
  case manifests => exact ⟨by decide, by decide, 'e', rfl, rfl, by decide⟩
  case previous => exact ⟨by decide, by decide, 's', rfl, rfl, by decide⟩
  case context => exact ⟨by decide, by decide, 's', rfl, rfl, by decide⟩

/-- No sentence is empty, so none is dropped from a report. -/
theorem LoadStage.Says.ne_empty (h : stage.Says sentence) : sentence ≠ "" := by
  cases h <;> decide

/-- A report shows the sentence about a stage whole, whatever fault stands below it. -/
theorem LoadStage.Says.whole (hstage : stage.Says sentence) (hfault : fault.Says message cause) :
    ErrorChain.Whole sentence message := by
  obtain ⟨hread, hparse, c, hlast, hblank, hcolon⟩ := hstage.ending
  rintro own _ hsentence ⟨colons, blanks, times, hcolons, hblanks, rfl⟩
  -- one repetition of the fault would stand in the sentence with its opening
  have hnone : (List.replicate times message.toList).flatten = [] := by
    cases times with
    | zero => rfl
    | succ times =>
      have hinfix : message.toList <:+: sentence.toList := by
        rw [hsentence, List.replicate_succ, List.flatten_cons]
        refine ⟨own ++ (colons ++ blanks), (List.replicate times message.toList).flatten, ?_⟩
        simp only [List.append_assoc]
      rcases hfault.opening with hopening | hopening
      · exact absurd (hopening.isInfix.trans hinfix) hread
      · exact absurd (hopening.isInfix.trans hinfix) hparse
  rw [hnone, List.append_nil] at hsentence ⊢
  -- and the last character would be a blank or a colon
  cases hend : (colons ++ blanks).getLast? with
  | none => exact List.getLast?_eq_none_iff.mp hend
  | some d =>
    rw [hsentence, List.getLast?_append, hend] at hlast
    obtain rfl : d = c := Option.some.inj hlast
    rcases List.mem_append.mp (List.mem_of_getLast? hend) with hd | hd
    · exact absurd (hcolons d hd) hcolon
    · rw [hblanks d hd] at hblank
      cases hblank

/-- The messages of a failure are the sentence about the stage and those of the fault. -/
theorem LoadFailure.exists_messages (failure : LoadFailure) :
    ∃ sentence message cause, failure.stage.Says sentence ∧ failure.fault.Says message cause ∧
      failure.messages = [sentence, message, cause] := by
  obtain ⟨message, cause, hfault, hmessages⟩ := failure.fault.exists_says
  refine ⟨_, message, cause, failure.stage.says_message, hfault, ?_⟩
  unfold messages
  rw [hmessages]

/-- **What is told of a failure.** -/
theorem LoadFailure.told (failure : LoadFailure) :
    failure.Told (ErrorChain.report failure.messages ++ "\n") := by
  obtain ⟨sentence, message, cause, hstage, hfault, hmessages⟩ := failure.exists_messages
  rw [hmessages]
  exact .intro hstage hfault (ErrorChain.reported_report_below hstage.ne_empty (hstage.whole hfault) cause)

end Failure

/-! ## Verdicts -/

/-- A piece of the output tells a verdict, and reads as an admission only if it is one. -/
structure Verdict.ToldBy (v : Verdict) (piece : String) : Prop where
  printed : Printed v.resource v.result piece
  honest : ∀ subject, v.resource.Says subject → (piece = subject ++ ": valid\n" ↔ v.result = .ok ())

section Subject

variable {r : Resource} {kind : ResourceKind} {m : ObjectMeta} {word object subject : String}

/-- A kind is called by its name in manifests. -/
theorem ResourceKind.says_iff : kind.Says word ↔ word = kind.name := by
  constructor
  · intro h
    cases h <;> rfl
  · rintro rfl
    cases kind <;> constructor

/-- An object is called by its name behind its namespace. -/
theorem ObjectMeta.says_iff : m.Says object ↔ object = m.objectName := by
  unfold objectName
  constructor
  · intro h
    cases h with
    | alone hspace hname => rw [hspace, hname]
    | within hspace hname => rw [hspace, hname]
  · rintro rfl
    cases hspace : m.space with
    | none => exact .alone hspace rfl
    | some space => exact .within hspace rfl

/-- There is one way to say what a verdict is about. -/
theorem Resource.says_iff : r.Says subject ↔ subject = r.kind.name ++ " " ++ r.objectName := by
  constructor
  · rintro ⟨hkind, hobject⟩
    rw [ResourceKind.says_iff.mp hkind, ObjectMeta.says_iff.mp hobject]
    rfl
  · rintro rfl
    exact .intro (ResourceKind.says_iff.mpr rfl) (ObjectMeta.says_iff.mpr rfl)

end Subject

section Verdict

variable {r : Resource} {result : Except AdmissionError Unit} {e : AdmissionError} {subject text : String}

/-- An error whose payload could be read has no cause, and its report is its message. -/
theorem AdmissionError.report_eq_message (hread : ∀ field object cause, e ≠ .badPayload field object cause) :
    e.report = e.message ++ "\n" := by
  have hmessages : e.messages = [e.message] := by
    cases e
    case badPayload field object cause => exact absurd rfl (hread field object cause)
    all_goals rfl
  unfold report
  rw [hmessages, ErrorChain.report_singleton]

/-- What is printed of an error without a cause is its message, as its report has no other line. -/
theorem Verdict.printed_report (hsubject : r.Says subject)
    (hinvalid : ∀ kind object errors, e ≠ .invalid kind object errors)
    (hread : ∀ field object cause, e ≠ .badPayload field object cause) :
    Printed r (.error e) (subject ++ ": " ++ e.report ++ "\n") := by
  rw [AdmissionError.report_eq_message hread]
  exact .refused hsubject hinvalid hread

/-- **What is printed of a verdict.** -/
theorem Verdict.printed_text (v : Verdict) : Printed v.resource v.result v.text := by
  obtain ⟨r, result⟩ := v
  have hsubject : r.Says (r.kind.name ++ " " ++ r.objectName) := Resource.says_iff.mpr rfl
  unfold text
  dsimp only
  cases result with
  | ok u => exact .valid hsubject
  | error e =>
    cases e with
    | invalid kind object errors => exact .invalid hsubject kind object errors
    | badPayload field object cause =>
      exact .unread hsubject field object cause (ErrorChain.reported_report _ _)
    -- every other error is neither a list of errors nor a payload that cannot be read
    | _ => apply printed_report hsubject <;> (intros; simp only [ne_eq, reduceCtorEq, not_false_eq_true])

/-- What is printed of a resource reads as if it were admitted only if it is. A list of errors has another word at the
place, and a report of an error has more than one line. -/
theorem Verdict.Printed.eq_valid_iff (h : Printed r result text) (hsubject : r.Says subject) :
    text = subject ++ ": valid\n" ↔ result = .ok () := by
  -- the subject of the text is this one, as there is one way to say it
  have hreport {own : String} (hown : r.Says own) (reason : String) (hbreak : '\n' ∈ reason.toList) :
      own ++ ": " ++ reason ++ "\n" ≠ subject ++ ": valid\n" := by
    have hvalid : ": valid\n" = ": " ++ "valid" ++ "\n" := rfl
    rw [Resource.says_iff.mp hown, Resource.says_iff.mp hsubject, hvalid, ← String.append_assoc,
      ← String.append_assoc, Ne, String.append_left_inj, String.append_right_inj]
    rintro rfl
    exact absurd hbreak (by decide)
  cases h with
  | valid hown =>
    rw [Resource.says_iff.mp hown, Resource.says_iff.mp hsubject]
    exact ⟨fun _ => rfl, fun _ => rfl⟩
  | invalid hown kind object errors =>
    refine ⟨fun heq => ?_, nofun⟩
    rw [Resource.says_iff.mp hown, Resource.says_iff.mp hsubject, String.append_assoc,
      String.append_right_inj] at heq
    have hletter := congrArg (fun text => text.toList[2]?) heq
    rw [String.toList_append] at hletter
    have hsame : some 'i' = some 'v' := hletter
    exact absurd hsame (by decide)
  | unread hown field object cause hreported =>
    exact ⟨fun heq => absurd heq (hreport hown _ hreported.newline_mem), nofun⟩
  | refused hown =>
    refine ⟨fun heq => absurd heq (hreport hown _ ?_), nofun⟩
    rw [String.toList_append]
    exact List.mem_append_right _ (.head _)

/-- Verdicts are told by their texts, one by one. -/
theorem Verdict.forall₂_toldBy (verdicts : List Verdict) :
    List.Forall₂ ToldBy verdicts (verdicts.map Verdict.text) := by
  induction verdicts with
  | nil => exact .nil
  | cons v rest ih =>
    have hprinted := v.printed_text
    exact .cons ⟨hprinted, fun _ hsubject => hprinted.eq_valid_iff hsubject⟩ ih

end Verdict

end OpenstackAdmission
