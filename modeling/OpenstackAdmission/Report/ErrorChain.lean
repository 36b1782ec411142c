import OpenstackAdmission.Text.Blank

/-!
# Reports of errors with causes

A report gives the message of an error, and below it those of its causes, numbered. What a message repeats
of the next one at its end is left out, and so are spaces and colons there; such a message is marked.

What the command line prints of an error and its causes (specification, section 11.1).
-/

namespace OpenstackAdmission.ErrorChain

/-- Takes a suffix off the end as often as it stands there. Both are given in reverse order. -/
def dropRepeated (reversedSuffix : List Char) : Nat → List Char → List Char
  | 0, cs => cs
  | fuel + 1, cs =>
    if reversedSuffix ≠ [] && reversedSuffix.isPrefixOf cs then
      dropRepeated reversedSuffix fuel (cs.drop reversedSuffix.length)
    else cs

/-- A message without what the next one says again. -/
def trimmed (message next : String) : String :=
  let reversed := message.toList.reverse
  let own := dropRepeated next.toList.reverse (reversed.length + 1) reversed
  String.ofList ((own.dropWhile Text.isBlank).dropWhile (· = ':')).reverse

/-- Messages with marks, where something was left out. A message of which nothing is left is dropped. -/
def markedMessages : List String → List String
  | [] => []
  | [message] => [message]
  | message :: next :: rest =>
    let own := trimmed message next
    if own = "" then markedMessages (next :: rest)
    else (if own = message then message else own ++ " *") :: markedMessages (next :: rest)

/-- What was left out of messages. -/
inductive Omission where
  | nothing
  | messages
  | endings
  deriving DecidableEq

/-- What is left out of a chain. -/
def omission : List String → Omission
  | [] => .nothing
  | [_] => .nothing
  | message :: next :: rest =>
    let own := trimmed message next
    if own ≠ "" && own ≠ message then .endings
    else if own = "" && omission (next :: rest) = .nothing then .messages
    else omission (next :: rest)

/-- A note on what was left out. -/
def noteText : Omission → String
  | .nothing => ""
  | .messages => "\nNOTE: Some redundant information has been removed. " ++
      "Set SNAFU_RAW_ERROR_MESSAGES=1 to disable this behavior.\n"
  | .endings => "\nNOTE: Some redundant information has been removed from the lines marked " ++
      "with *. Set SNAFU_RAW_ERROR_MESSAGES=1 to disable this behavior.\n"

/-- A number at the width of three. -/
def numberText (n : Nat) : String :=
  let text := toString n
  String.ofList (List.replicate (3 - text.length) ' ') ++ text

/-- Numbered lines. -/
def causeLines (messages : List String) : String :=
  String.join (messages.zipIdx.map fun (message, i) =>
    numberText (i + 1) ++ ": " ++ message ++ "\n")

/-- The report of an error, given its message and those of its causes. -/
def report (messages : List String) : String :=
  match markedMessages messages with
  | [] => ""
  | head :: causes =>
    let heading := match causes with
      | [] => ""
      | [_] => "\nCaused by this error:\n"
      | _ => "\nCaused by these errors (recent errors listed first):\n"
    head ++ "\n" ++ heading ++ causeLines causes ++ noteText (omission messages)

end OpenstackAdmission.ErrorChain
