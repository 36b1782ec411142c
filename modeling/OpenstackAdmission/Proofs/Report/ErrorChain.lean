import OpenstackAdmission.Report.ErrorChain

/-!
# What a report shows of a chain

A report prints the messages of a chain below each other, but not always whole: what a message says again of the
next one is left out at its end, and a star marks that something was left out.

> `reported_report`, `reported_report_below`: of a message and its cause, a report prints the message whole, if no end
of it is redundant; else it prints what stands before a redundant end, with a star, or only the cause, if all of the
message is redundant. A message in front of both that is not shortened itself stands above them.

What counts as redundant (`Redundant`) is read off the end of the message: repetitions of the cause, blanks before them,
and colons before the blanks. Both directions are needed. What is left out is redundant
(`exists_redundant_of_trimmed`), and a message that is left as it is has no redundant end (`trimmed_eq_iff`).
-/

namespace OpenstackAdmission.ErrorChain

/-- What a report leaves out at the end of a message: repetitions of the next message, the blanks before them, and the
colons before the blanks. -/
def Redundant (next rest : List Char) : Prop :=
  ∃ (colons blanks : List Char) (times : Nat), (∀ c ∈ colons, c = ':') ∧
    (∀ c ∈ blanks, Text.isBlank c = true) ∧ rest = colons ++ blanks ++ (List.replicate times next).flatten

/-- No end of the message is redundant before the next one. -/
def Whole (message next : String) : Prop :=
  ∀ own rest, message.toList = own ++ rest → Redundant next.toList rest → rest = []

/-- How a report shows a message and its cause, the last one of the chain: as lines, and with a note on what is left
out of them. -/
inductive Shown (message cause : String) : List String → String → Prop where
  | whole (hmessage : message ≠ "") (h : Whole message cause) : Shown message cause [message, cause] ""
  | shortened {own : String} {rest : List Char} (hown : own ≠ "") (hrest : rest ≠ [])
    (hmessage : message.toList = own.toList ++ rest) (h : Redundant cause.toList rest) :
    Shown message cause [own ++ " *", cause] (noteText .endings)
  | dropped (h : Redundant cause.toList message.toList) : Shown message cause [cause] (noteText .messages)

/-- Lines as a report prints them: the first one for itself, and below it those of its causes with numbers. -/
inductive Listed : List String → String → Prop where
  | one (m : String) : Listed [m] (m ++ "\n")
  | two (m c : String) : Listed [m, c] (m ++ "\n\nCaused by this error:\n  1: " ++ c ++ "\n")
  | three (m c d : String) :
    Listed [m, c, d]
      (m ++ "\n\nCaused by these errors (recent errors listed first):\n  1: " ++ c ++ "\n  2: " ++ d ++ "\n")

/-- The text of a report of a message and its cause below other messages that are shown whole. -/
inductive Reported (front : List String) (message cause : String) : String → Prop where
  | intro {lines : List String} {note body : String} (hshown : Shown message cause lines note)
    (hbody : Listed (front ++ lines) body) : Reported front message cause (body ++ note)

variable {message next cause head body : String} {messages lines : List String} {cs suffix : List Char}

/-! ## What is left out -/

/-- What is dropped from the front are repetitions of what is looked for. -/
theorem exists_replicate_dropRepeated (suffix : List Char) (fuel : Nat) (cs : List Char) :
    ∃ times, cs = (List.replicate times suffix).flatten ++ dropRepeated suffix fuel cs := by
  induction fuel generalizing cs with
  | zero => exact ⟨0, rfl⟩
  | succ fuel ih =>
    unfold dropRepeated
    split
    · next hbegins =>
      obtain ⟨rest, rfl⟩ := List.isPrefixOf_iff_prefix.mp (Bool.and_eq_true_iff.mp hbegins).2
      obtain ⟨times, htimes⟩ := ih rest
      refine ⟨times + 1, ?_⟩
      rw [List.drop_left, List.replicate_succ, List.flatten_cons, List.append_assoc, ← htimes]
    · exact ⟨0, rfl⟩

/-- What `dropWhile` takes off the front of a list satisfies the test. -/
theorem exists_append_dropWhile (p : Char → Bool) (cs : List Char) :
    ∃ front, cs = front ++ cs.dropWhile p ∧ ∀ c ∈ front, p c = true :=
  ⟨cs.takeWhile p, List.takeWhile_append_dropWhile.symm, List.all_eq_true.mp List.all_takeWhile⟩

/-- A message is what is shown of it and a redundant rest. The three parts of the rest come off the reversed message one
after the other. -/
theorem exists_redundant_of_trimmed (message next : String) :
    ∃ rest, message.toList = (trimmed message next).toList ++ rest ∧ Redundant next.toList rest := by
  obtain ⟨times, htimes⟩ := exists_replicate_dropRepeated next.toList.reverse
    (message.toList.reverse.length + 1) message.toList.reverse
  -- cut off are repetitions of the next message, then white space, and then colons
  unfold trimmed
  dsimp only
  generalize dropRepeated next.toList.reverse (message.toList.reverse.length + 1)
    message.toList.reverse = own at htimes ⊢
  obtain ⟨blanks, hown, hblanks⟩ := exists_append_dropWhile Text.isBlank own
  generalize own.dropWhile Text.isBlank = unblanked at hown ⊢
  obtain ⟨colons, hunblanked, hcolons⟩ := exists_append_dropWhile (· = ':') unblanked
  generalize unblanked.dropWhile (· = ':') = shown at hunblanked ⊢
  refine ⟨colons.reverse ++ blanks.reverse ++ (List.replicate times next.toList).flatten, ?_, colons.reverse,
    blanks.reverse, times, ?_, ?_, rfl⟩
  · have hmessage := congrArg List.reverse htimes
    rw [List.reverse_reverse] at hmessage
    rw [hmessage, hown, hunblanked, String.toList_ofList]
    simp only [List.reverse_append, List.reverse_flatten, List.map_replicate, List.reverse_replicate,
      List.reverse_reverse, List.append_assoc]
  · intro c hc
    exact of_decide_eq_true (hcolons c (List.mem_reverse.mp hc))
  · intro c hc
    exact hblanks c (List.mem_reverse.mp hc)

/-! ## What is left as it is -/

/-- Dropping characters from the front leaves an end. -/
theorem dropRepeated_suffix (suffix : List Char) (fuel : Nat) (cs : List Char) :
    dropRepeated suffix fuel cs <:+ cs := by
  obtain ⟨times, htimes⟩ := exists_replicate_dropRepeated suffix fuel cs
  exact ⟨_, htimes.symm⟩

/-- Where nothing is dropped, there are no repetitions in front, other than of nothing. -/
theorem eq_nil_of_dropRepeated {fuel times : Nat} {back : List Char}
    (h : dropRepeated suffix (fuel + 1) ((List.replicate times suffix).flatten ++ back) =
      (List.replicate times suffix).flatten ++ back) : (List.replicate times suffix).flatten = [] := by
  cases times with
  | zero => rfl
  | succ times =>
    rw [List.replicate_succ, List.flatten_cons, List.append_assoc] at h
    by_cases hsuffix : suffix = []
    · simp [hsuffix]
    · -- one repetition would have been dropped
      have hbegins (rest : List Char) : (suffix ≠ [] && suffix.isPrefixOf (suffix ++ rest)) = true := by
        simp [hsuffix, List.isPrefixOf_iff_prefix]
      unfold dropRepeated at h
      rw [if_pos (hbegins _), List.drop_left] at h
      have hlength := (h ▸ dropRepeated_suffix suffix fuel _).length_le
      rw [List.length_append] at hlength
      have hpos := List.length_pos_iff.mpr hsuffix
      omega

/-- Where `dropWhile` drops nothing, nothing in front satisfies the test. -/
theorem eq_nil_of_dropWhile {p : Char → Bool} {front back : List Char}
    (h : (front ++ back).dropWhile p = front ++ back) (hfront : ∀ c ∈ front, p c = true) : front = [] := by
  cases front with
  | nil => rfl
  | cons c front =>
    rw [List.cons_append, List.dropWhile_cons_of_pos (hfront c (.head _))] at h
    have hlength := (List.dropWhile_suffix p (l := front ++ back)).length_le
    rw [h, List.length_cons] at hlength
    omega

/-- A message that is shown as it is went through all three steps as it is. -/
theorem steps_of_trimmed (h : trimmed message next = message) :
    dropRepeated next.toList.reverse (message.toList.reverse.length + 1) message.toList.reverse =
        message.toList.reverse ∧
      message.toList.reverse.dropWhile Text.isBlank = message.toList.reverse ∧
      message.toList.reverse.dropWhile (· = ':') = message.toList.reverse := by
  have hreversed := congrArg (fun text => text.toList.reverse) h
  unfold trimmed at hreversed
  dsimp only at hreversed
  rw [String.toList_ofList, List.reverse_reverse] at hreversed
  have hfirst := dropRepeated_suffix next.toList.reverse (message.toList.reverse.length + 1) message.toList.reverse
  generalize dropRepeated next.toList.reverse (message.toList.reverse.length + 1) message.toList.reverse = own
    at hreversed hfirst ⊢
  have hsecond := List.dropWhile_suffix Text.isBlank (l := own)
  have hthird := List.dropWhile_suffix (· = ':') (l := own.dropWhile Text.isBlank)
  rw [hreversed] at hthird
  -- each step leaves an end of what was there, and in the end all is there
  obtain rfl := hfirst.eq_of_length_le (hthird.trans hsecond).length_le
  have hblanks := hsecond.eq_of_length_le hthird.length_le
  rw [hblanks] at hreversed
  exact ⟨rfl, hblanks, hreversed⟩

/-- A message that is shown as it is has no redundant end. -/
theorem whole_of_trimmed (h : trimmed message next = message) : Whole message next := by
  rintro own _ hmessage ⟨colons, blanks, times, hcolons, hblanks, rfl⟩
  obtain ⟨hrepeated, hunblanked, hshown⟩ := steps_of_trimmed h
  have hreversed : message.toList.reverse = (List.replicate times next.toList.reverse).flatten ++
      (blanks.reverse ++ (colons.reverse ++ own.reverse)) := by
    rw [hmessage]
    simp only [List.reverse_append, List.reverse_flatten, List.map_replicate, List.reverse_replicate,
      List.append_assoc]
  -- from the end to the front, each part of a redundant end is empty
  rw [hreversed] at hrepeated hunblanked hshown
  have hnone := eq_nil_of_dropRepeated hrepeated
  rw [hnone, List.nil_append] at hunblanked hshown
  have hblanksNil := eq_nil_of_dropWhile hunblanked fun c hc => hblanks c (List.mem_reverse.mp hc)
  rw [hblanksNil, List.nil_append] at hshown
  have hcolonsNil := eq_nil_of_dropWhile hshown fun c hc => decide_eq_true (hcolons c (List.mem_reverse.mp hc))
  have hnext : (List.replicate times next.toList).flatten = [] := by
    rw [← List.reverse_eq_nil_iff, List.reverse_flatten, List.map_replicate, List.reverse_replicate]
    exact hnone
  rw [List.reverse_eq_nil_iff.mp hblanksNil, List.reverse_eq_nil_iff.mp hcolonsNil, hnext]
  rfl

/-- A message is shown as it is exactly if no end of it is redundant. -/
theorem trimmed_eq_iff : trimmed message next = message ↔ Whole message next := by
  constructor
  · exact whole_of_trimmed
  · intro h
    obtain ⟨rest, hmessage, hrest⟩ := exists_redundant_of_trimmed message next
    rw [h _ _ hmessage hrest, List.append_nil] at hmessage
    exact (String.toList_injective hmessage).symm

/-! ## Reports -/

/-- What is marked of a message and its cause is what a report shows of them, and the note says what is left out. -/
theorem shown_markedMessages (message cause : String) :
    Shown message cause (markedMessages [message, cause]) (noteText (omission [message, cause])) := by
  obtain ⟨rest, hmessage, hrest⟩ := exists_redundant_of_trimmed message cause
  -- nothing of the message is left, all of it, or a part that is marked
  by_cases hown : trimmed message cause = ""
  · have hlines : markedMessages [message, cause] = [cause] := by simp [markedMessages, hown]
    have hnote : omission [message, cause] = .messages := by simp [omission, hown]
    rw [hlines, hnote]
    rw [hown] at hmessage
    exact .dropped (hmessage ▸ hrest)
  · by_cases hsame : trimmed message cause = message
    · have hne : message ≠ "" := hsame ▸ hown
      have hlines : markedMessages [message, cause] = [message, cause] := by
        simp [markedMessages, hsame, hne]
      have hnote : omission [message, cause] = .nothing := by simp [omission, hsame, hne]
      rw [hlines, hnote]
      exact .whole hne (trimmed_eq_iff.mp hsame)
    · have hlines : markedMessages [message, cause] = [trimmed message cause ++ " *", cause] := by
        simp [markedMessages, hsame, hown]
      have hnote : omission [message, cause] = .endings := by simp [omission, hsame, hown]
      have hrestNe : rest ≠ [] := by
        rintro rfl
        rw [List.append_nil] at hmessage
        exact hsame (String.toList_injective hmessage).symm
      rw [hlines, hnote]
      exact .shortened hown hrestNe hmessage hrest

/-- A message in front that is shown as it is changes nothing of what is shown below it. -/
theorem markedMessages_cons_of_whole (hhead : head ≠ "") (h : Whole head message) (rest : List String) :
    markedMessages (head :: message :: rest) = head :: markedMessages (message :: rest) ∧
      omission (head :: message :: rest) = omission (message :: rest) := by
  rw [markedMessages, omission]
  simp [trimmed_eq_iff.mpr h, hhead]

/-- A report is what is marked, as lines, and the note behind them. -/
theorem report_eq_of_listed (hlines : markedMessages messages = lines) (h : Listed lines body) :
    report messages = body ++ noteText (omission messages) := by
  unfold report
  rw [hlines]
  -- one cause and several causes are announced in different words
  cases h with
  | one m =>
    have hcauses : causeLines [] = "" := rfl
    dsimp only
    rw [hcauses, String.append_empty, String.append_empty]
  | two m c =>
    have hcauses : causeLines [c] = "  1: " ++ c ++ "\n" := by
      show String.join ["  1: " ++ c ++ "\n"] = _
      rw [String.join_cons, String.join_nil, String.append_empty]
    have hwords : "\n\nCaused by this error:\n  1: " = "\n" ++ "\nCaused by this error:\n" ++ "  1: " := rfl
    dsimp only
    rw [hcauses, hwords]
    simp only [String.append_assoc]
  | three m c d =>
    have hcauses : causeLines [c, d] = "  1: " ++ c ++ "\n" ++ ("  2: " ++ d ++ "\n") := by
      show String.join ["  1: " ++ c ++ "\n", "  2: " ++ d ++ "\n"] = _
      rw [String.join_cons, String.join_cons, String.join_nil, String.append_empty]
    have hwords : "\n\nCaused by these errors (recent errors listed first):\n  1: " =
        "\n" ++ "\nCaused by these errors (recent errors listed first):\n" ++ "  1: " := rfl
    have hmiddle : "\n  2: " = "\n" ++ "  2: " := rfl
    dsimp only
    rw [hcauses, hwords, hmiddle]
    simp only [String.append_assoc]

/-- A message without a cause is reported as it is. -/
theorem report_singleton (message : String) : report [message] = message ++ "\n" := by
  have hlines : markedMessages [message] = [message] := rfl
  rw [report_eq_of_listed hlines (.one message)]
  exact String.append_empty

/-- There are at most two lines to show, which can be listed for themselves and below one more. -/
theorem Shown.exists_listed {note : String} (h : Shown message cause lines note) :
    (∃ body, Listed lines body) ∧ ∀ head, ∃ body, Listed (head :: lines) body := by
  cases h with
  | whole => exact ⟨⟨_, .two ..⟩, fun _ => ⟨_, .three ..⟩⟩
  | shortened => exact ⟨⟨_, .two ..⟩, fun _ => ⟨_, .three ..⟩⟩
  | dropped => exact ⟨⟨_, .one _⟩, fun _ => ⟨_, .two ..⟩⟩

/-- **The report of a message and its cause.** -/
theorem reported_report (message cause : String) : Reported [] message cause (report [message, cause]) := by
  have hshown := shown_markedMessages message cause
  generalize hlines : markedMessages [message, cause] = lines at hshown
  obtain ⟨body, hbody⟩ := hshown.exists_listed.1
  rw [report_eq_of_listed hlines hbody]
  exact .intro hshown hbody

/-- **The report of a message and its cause below a message that is shown whole.** -/
theorem reported_report_below (hhead : head ≠ "") (hwhole : Whole head message) (cause : String) :
    Reported [head] message cause (report [head, message, cause]) := by
  have hshown := shown_markedMessages message cause
  obtain ⟨hlines, hnote⟩ := markedMessages_cons_of_whole hhead hwhole [cause]
  generalize markedMessages [message, cause] = lines at hshown hlines
  obtain ⟨body, hbody⟩ := hshown.exists_listed.2 head
  rw [report_eq_of_listed hlines hbody, hnote]
  exact .intro hshown hbody

/-- Every line ends with a line break. -/
theorem Listed.newline_mem (h : Listed lines body) : '\n' ∈ body.toList := by
  cases h with
  | _ =>
    rw [String.toList_append, List.mem_append]
    exact .inr (.head _)

/-- A report has a line break behind its first message. -/
theorem Reported.newline_mem {front : List String} {text : String} (h : Reported front message cause text) :
    '\n' ∈ text.toList := by
  obtain ⟨hshown, hbody⟩ := h
  rw [String.toList_append, List.mem_append]
  exact .inl hbody.newline_mem

end OpenstackAdmission.ErrorChain
