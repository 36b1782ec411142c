import OpenstackAdmission.Net.Address
import OpenstackAdmission.Net.Name
import OpenstackAdmission.Text.Hexadecimal
import OpenstackAdmission.Text.Utf8

/-!
# Hosts of URLs

The host of a URL is an address of either family or a name. In the schemes of the web, escapes in a name
are resolved first, and a name whose last label is a number has to be an IPv4 address; in all other schemes
a name may hold any text without separators.
-/

namespace OpenstackAdmission.Net

inductive UrlError where
  | relativeWithoutBase
  | emptyHost
  | invalidPort
  | invalidIpv4Address
  | invalidIpv6Address
  | invalidInternationalName
  | invalidNameCharacter
  deriving DecidableEq, Repr

def UrlError.message : UrlError → String
  | .relativeWithoutBase => "relative URL without a base"
  | .emptyHost => "empty host"
  | .invalidPort => "invalid port number"
  | .invalidIpv4Address => "invalid IPv4 address"
  | .invalidIpv6Address => "invalid IPv6 address"
  | .invalidInternationalName => "invalid international domain name"
  | .invalidNameCharacter => "invalid domain character"

namespace Host

/-! ## Addresses -/

/-- A host in brackets. -/
def bracketed? : List Char → Option (Except UrlError Unit)
  | '[' :: cs =>
    let inner := cs.dropLast
    if cs.getLast? = some ']' && (Address.parseGroups? inner).isSome then some (.ok ())
    else some (.error .invalidIpv6Address)
  | _ => none

def isOctal (c : Char) : Bool := '0' ≤ c && c ≤ '7'

/-- The value of digits in a base. -/
def valueOf (base : Nat) (cs : List Char) : Nat :=
  cs.foldl (fun n c => n * base + (Text.hexValue? c).getD 0) 0

/-- A number as the parts of IPv4 addresses are written: decimal, octal after a zero, or hexadecimal after
`0x`. -/
def number? (cs : List Char) : Option Nat :=
  match cs with
  | [] => none
  | '0' :: x :: digits =>
    if x = 'x' || x = 'X' then
      if digits.all Text.isHexDigit then some (valueOf 16 digits) else none
    else if (x :: digits).all isOctal then some (valueOf 8 (x :: digits)) else none
  | digits => if digits.all Char.isDigit then some (valueOf 10 digits) else none

/-- The labels of a name without an empty one at the end. -/
def labelsOf (name : List Char) : List (List Char) :=
  let labels := Text.splitAt '.' name
  if labels.getLast? = some [] then labels.dropLast else labels

/-- The last label is a number, so that the name has to be an address. -/
def endsInNumber (name : List Char) : Bool :=
  match (labelsOf name).getLast? with
  | none => false
  | some label => (label ≠ [] && label.all Char.isDigit) || (number? label).isSome

/-- The numbers make an address: at most four, of which the last fills the remaining bytes. -/
def fitsAddress (numbers : List Nat) : Bool :=
  match numbers.reverse with
  | [] => false
  | last :: front =>
    front.length ≤ 3 && front.all (· ≤ 255) && last < Nat.pow 256 (4 - front.length)

/-- A name that ends in a number is the text of an IPv4 address. -/
def isIpv4 (name : List Char) : Bool :=
  match (labelsOf name).mapM number? with
  | none => false
  | some numbers => fitsAddress numbers

/-! ## Names -/

/-- Resolves escapes of bytes; a percent sign without two digits stands for itself. -/
def unescaped : List UInt8 → List UInt8
  | [] => []
  | [a] => [a]
  | [a, b] => [a, b]
  | a :: b :: c :: rest =>
    match (if a = 0x25 then Text.hexValue? (Char.ofNat b.toNat) else none),
        Text.hexValue? (Char.ofNat c.toNat) with
    | some high, some low => UInt8.ofNat (high * 16 + low) :: unescaped rest
    | _, _ => a :: unescaped (b :: c :: rest)

/-- The characters that count of a name with escapes, unless it is no name. -/
def nameOf? (host : List Char) : Option (List Char) :=
  match Text.Utf8.decode (unescaped (Text.Utf8.encode (String.ofList host))) with
  | .ok s => Name.counting? s.toList
  | .error _ => none

/-- A host in the schemes of the web. -/
def checkWeb (host : List Char) : Except UrlError Unit :=
  match bracketed? host with
  | some result => result
  | none =>
    match nameOf? host with
    | none => .error .invalidInternationalName
    | some name =>
      if name = [] then .error .emptyHost
      else if endsInNumber name && !isIpv4 name then .error .invalidIpv4Address
      else .ok ()

/-- A host in any other scheme. -/
def checkOpaque (host : List Char) : Except UrlError Unit :=
  match bracketed? host with
  | some result => result
  | none =>
    if host.any (fun c => c = '\x00' || c ∈ "\t\n\r #/:<>?@[\\]^|".toList) then
      .error .invalidNameCharacter
    else .ok ()

end Host

end OpenstackAdmission.Net
