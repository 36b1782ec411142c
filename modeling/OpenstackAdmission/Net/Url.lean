import OpenstackAdmission.Net.Host

/-!
# URLs

`Url.check` tells whether a text is an absolute URL, by the rules of browsers. Only the part between the
scheme and the path can be at fault: the user, the host and the port.
-/

namespace OpenstackAdmission.Net.Url

/-- How the text after a scheme is read. -/
inductive SchemeKind where
  | file
  /-- The schemes of the web. -/
  | web
  | other
  deriving DecidableEq, Repr

def SchemeKind.ofName (name : String) : SchemeKind :=
  if name = "file" then .file
  else if name ∈ ["http", "https", "ws", "wss", "ftp"] then .web
  else .other

/-- Schemes in which a backslash counts as a slash. -/
def SchemeKind.isSpecial (kind : SchemeKind) : Bool := kind ≠ .other

/-- The text that counts: without control characters and spaces at its ends, and without tabs and line
breaks. -/
def relevant (s : String) : List Char :=
  let edge := fun (c : Char) => decide (c.toNat ≤ 0x20)
  let cs := ((s.toList.dropWhile edge).reverse.dropWhile edge).reverse
  cs.filter fun c => c ≠ '\t' && c ≠ '\n' && c ≠ '\r'

def isSchemeChar (c : Char) : Bool :=
  c.isAlpha || c.isDigit || c = '+' || c = '-' || c = '.'

/-- The scheme before the first colon, in lower case, and what follows the colon. -/
def scheme? (cs : List Char) : Option (String × List Char) :=
  match cs with
  | [] => none
  | first :: _ =>
    if !first.isAlpha then none
    else
      match cs.dropWhile isSchemeChar with
      | ':' :: rest =>
        some (String.ofList ((cs.takeWhile isSchemeChar).map Char.toLower), rest)
      | _ => none

/-- The character ends the part of a URL that holds the host. -/
def endsAuthority (kind : SchemeKind) (c : Char) : Bool :=
  c = '/' || c = '?' || c = '#' || (kind.isSpecial && c = '\\')

/-- User and password before the last at sign. -/
def splitUser (authority : List Char) : Option (List Char) × List Char :=
  if '@' ∈ authority then
    let reversed := authority.reverse
    (some ((reversed.dropWhile (· != '@')).drop 1).reverse,
      (reversed.takeWhile (· != '@')).reverse)
  else (none, authority)

/-- The host ends at the first colon outside brackets. -/
def splitPort (inBrackets : Bool) : List Char → List Char × Option (List Char)
  | [] => ([], none)
  | c :: cs =>
    if c = ':' && !inBrackets then ([], some cs)
    else
      let (host, port) := splitPort (if c = '[' then true else if c = ']' then false else inBrackets) cs
      (c :: host, port)

/-- A port is a number of at most 65535, or nothing. A backslash ends it in every scheme. -/
def isPort (cs : List Char) : Bool :=
  let digits := cs.takeWhile (· != '\\')
  digits.all Char.isDigit && Host.valueOf 10 digits ≤ 65535

/-- The user information is written into the URL: a lone colon is not. -/
def isWrittenUser (user : List Char) : Bool := user ≠ [] && user ≠ [':']

/-- The part of a URL that holds user, host and port. `atEnd` says that nothing follows it. -/
def checkAuthority (kind : SchemeKind) (authority : List Char) (atEnd : Bool) :
    Except UrlError Unit :=
  let (user, hostPort) := splitUser authority
  if user = some [] && hostPort = [] && !atEnd then .error .emptyHost
  else
    let (host, port) := splitPort false hostPort
    if host = [] && kind.isSpecial then .error .emptyHost
    else
      match if kind.isSpecial then Host.checkWeb host else Host.checkOpaque host with
      | .error e => .error e
      | .ok () =>
        if host = [] && port.isSome then .error .emptyHost
        else if port.any (!isPort ·) then .error .invalidPort
        else if host = [] && user.any isWrittenUser then .error .emptyHost
        else .ok ()

/-- A drive letter, which is a part of the path and not a host. -/
def isDriveLetter : List Char → Bool
  | [letter, sign] => letter.isAlpha && (sign = ':' || sign = '|')
  | _ => false

/-- A slash in the schemes that take both. -/
def isSlash (c : Char) : Bool := c = '/' || c = '\\'

/-- What follows the scheme of a file. -/
def checkFile : List Char → Except UrlError Unit
  | a :: b :: rest =>
    if isSlash a && isSlash b then
      let host := rest.takeWhile (!endsAuthority .file ·)
      if host = [] || isDriveLetter host then .ok () else Host.checkWeb host
    else .ok ()
  | _ => .ok ()

/-- The text is an absolute URL. -/
def check (s : String) : Except UrlError Unit :=
  match scheme? (relevant s) with
  | none => .error .relativeWithoutBase
  | some (name, rest) =>
    let kind := SchemeKind.ofName name
    let authorityOf (rest : List Char) :=
      checkAuthority kind (rest.takeWhile (!endsAuthority kind ·))
        (rest.dropWhile (!endsAuthority kind ·) = [])
    match kind with
    | .file => checkFile rest
    | .web => authorityOf (rest.dropWhile isSlash)
    | .other =>
      match rest with
      | '/' :: '/' :: rest => authorityOf rest
      | _ => .ok ()

end OpenstackAdmission.Net.Url
