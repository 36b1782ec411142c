import OpenstackAdmission.Net.Address

/-!
# Networks

A network is an address and a prefix length, as in `10.250.0.0/16`: all addresses that agree with it in
so many first bits.

The type `Cidr` with `is_canonical` and `contains` (specification, section 12.2).
-/

namespace OpenstackAdmission.Net

/-- Why a text is no prefix length. -/
inductive LengthError where
  | empty
  | invalidDigit
  | tooLarge
  deriving DecidableEq, Repr

def LengthError.message : LengthError → String
  | .empty => "cannot parse integer from empty string"
  | .invalidDigit => "invalid digit found in string"
  | .tooLarge => "number too large to fit in target type"

/-- Digits after the value `n`; the number stays below 256. -/
def scanLength (n : Nat) : List Char → Except LengthError Nat
  | [] => .ok n
  | c :: cs =>
    match Address.digitValue? c with
    | none => .error .invalidDigit
    | some v => if 255 < n * 10 + v then .error .tooLarge else scanLength (n * 10 + v) cs

/-- A number below 256; a plus may stand before it and zeros count for nothing. -/
def parseLength : List Char → Except LengthError Nat
  | [] => .error .empty
  | ['+'] => .error .invalidDigit
  | '+' :: cs => scanLength 0 cs
  | cs => scanLength 0 cs

/-- Why a text is no network. -/
inductive CidrError where
  | missingPrefixLength
  | badAddress
  | badPrefixLength (cause : LengthError)
  | prefixLengthTooLong (length max : Nat)
  deriving DecidableEq, Repr

def CidrError.message : CidrError → String
  | .missingPrefixLength => "missing prefix length, expected <address>/<prefix length>"
  | .badAddress => "failed to parse address"
  | .badPrefixLength _ => "failed to parse prefix length"
  | .prefixLengthTooLong length max => s!"prefix length {length} exceeds {max}"

/-- The cause of an error, where the error has one. -/
def CidrError.cause? : CidrError → Option String
  | .badAddress => some "invalid IP address syntax"
  | .badPrefixLength cause => some cause.message
  | _ => none

/-- An address with the length of the prefix that its network shares. -/
structure Cidr where
  address : Address
  prefixLength : Nat
  prefixLength_le : prefixLength ≤ address.family.width
  deriving DecidableEq

namespace Cidr

/-- Reads an address and a prefix length around the first slash. -/
def parse (s : String) : Except CidrError Cidr :=
  let cs := s.toList
  match cs.dropWhile (· != '/') with
  | [] => .error .missingPrefixLength
  | _ :: lengthText =>
    match Address.parse? (cs.takeWhile (· != '/')) with
    | none => .error .badAddress
    | some address =>
      match parseLength lengthText with
      | .error cause => .error (.badPrefixLength cause)
      | .ok length =>
        if h : length ≤ address.family.width then .ok ⟨address, length, h⟩
        else .error (.prefixLengthTooLong length address.family.width)

def text (c : Cidr) : String :=
  String.ofList (c.address.text ++ '/' :: Address.decimalText c.prefixLength)

/-- A word that is wide enough for both families, shifted to the left. A shift by its width or more has no
result. -/
def shiftLeft? (w : BitVec 128) (count : Nat) : Option (BitVec 128) :=
  if count < 128 then some (w <<< count) else none

/-- Ones with `hostBits` zeros behind them: nothing but zeros where the shift has no result. -/
def mask (hostBits : Nat) : BitVec 128 := (shiftLeft? (BitVec.allOnes 128) hostBits).getD 0

/-- The number of bits of an address after a prefix. An address has no prefix longer than itself. -/
def hostBits? (a : Address) (prefixLength : Nat) : Option Nat :=
  if prefixLength ≤ a.family.width then some (a.family.width - prefixLength) else none

/-- The word of an address with all bits after a prefix cleared. -/
def maskedWord? (a : Address) (prefixLength : Nat) : Option (BitVec 128) :=
  (hostBits? a prefixLength).map (a.word &&& mask ·)

/-- No bit after the prefix is set. -/
def isCanonical (c : Cidr) : Bool := maskedWord? c.address c.prefixLength = some c.address.word

/-- Every address of the other network belongs to this one. Both are masked with the prefix of this network,
which the other address has only if it is of the same family. -/
def contains (c other : Cidr) : Bool :=
  c.address.family = other.address.family && c.prefixLength ≤ other.prefixLength &&
    maskedWord? c.address c.prefixLength = maskedWord? other.address c.prefixLength

end Cidr

end OpenstackAdmission.Net
