import OpenstackAdmission.Text.Hexadecimal

/-!
# Internet addresses

Addresses of both families, their texts, and reading them. IPv4 addresses have four decimal parts; IPv6
addresses have eight groups of hexadecimal digits, of which one run of zeros may be left out as `::`, and
the last two of which may be an IPv4 address.
-/

namespace OpenstackAdmission.Net

inductive Family where
  | v4
  | v6
  deriving DecidableEq, Repr

/-- The number of bits of an address. -/
def Family.width : Family → Nat
  | .v4 => 32
  | .v6 => 128

/-- An address, as a number of the width of its family. -/
structure Address where
  family : Family
  bits : Nat
  bits_lt : bits < Nat.pow 2 family.width
  deriving DecidableEq

/-- Parts of `base`, the most significant first, as one number. -/
def joinParts (base : Nat) (parts : List Nat) : Nat := parts.foldl (fun n p => n * base + p) 0

/-- The last `count` parts of a number in a base, the most significant first. -/
def splitParts (base : Nat) : Nat → Nat → List Nat
  | 0, _ => []
  | count + 1, n => splitParts base count (n / base) ++ [n % base]

namespace Address

/-- The address of a number, cut to the width of its family. -/
def ofNat (family : Family) (n : Nat) : Address :=
  ⟨family, n % Nat.pow 2 family.width, Nat.mod_lt _ (Nat.two_pow_pos _)⟩

/-- The bits of an address at the end of a word. -/
def word (a : Address) : BitVec 128 := BitVec.ofNat 128 a.bits

/-- The IPv4 address of four parts. -/
def ofOctets (octets : List Nat) : Address := ofNat .v4 (joinParts 256 octets)

/-- The IPv6 address of eight groups. -/
def ofGroups (groups : List Nat) : Address := ofNat .v6 (joinParts 65536 groups)

/-! ## Texts -/

def decimalText (n : Nat) : List Char := Nat.toDigits 10 n

/-- Texts with a sign between them. -/
def joined (sign : Char) : List (List Char) → List Char
  | [] => []
  | [part] => part
  | part :: rest => part ++ sign :: joined sign rest

def octetsText (octets : List Nat) : List Char := joined '.' (octets.map decimalText)

def groupsText (groups : List Nat) : List Char := joined ':' (groups.map Text.hexDigits)

/-- The number of zeros at the front. -/
def leadingZeros (groups : List Nat) : Nat := (groups.takeWhile (· == 0)).length

/-- The start and the length of the longest run of zeros, the first one if several are as long. -/
def longestZeros : List Nat → Nat × Nat
  | [] => (0, 0)
  | g :: rest =>
    let here := leadingZeros (g :: rest)
    let (start, length) := longestZeros rest
    if length ≤ here then (0, here) else (start + 1, length)

/-- Groups of an IPv6 address. The longest run of at least two zeros is left out. -/
def textOfGroups (groups : List Nat) : List Char :=
  let (start, length) := longestZeros groups
  if 2 ≤ length then
    groupsText (groups.take start) ++ [':', ':'] ++ groupsText (groups.drop (start + length))
  else groupsText groups

/-- The text of an address. IPv4 addresses mapped into IPv6 keep their dots. -/
def text (a : Address) : List Char :=
  match a.family with
  | .v4 => octetsText (splitParts 256 4 a.bits)
  | .v6 =>
    if a.bits / Nat.pow 2 32 = 0xffff then
      "::ffff:".toList ++ octetsText (splitParts 256 4 (a.bits % Nat.pow 2 32))
    else textOfGroups (splitParts 65536 8 a.bits)

/-! ## Reading -/

def digitValue? (c : Char) : Option Nat := if c.isDigit then some (c.toNat - 48) else none

/-- Up to `count` digits from the front: their number, their value after `n`, and the rest. -/
def scanDigits (value? : Char → Option Nat) (base : Nat) : Nat → Nat → List Char →
    Nat × Nat × List Char
  | 0, n, cs => (0, n, cs)
  | _ + 1, n, [] => (0, n, [])
  | count + 1, n, c :: cs =>
    match value? c with
    | none => (0, n, c :: cs)
    | some v =>
      let (taken, n, rest) := scanDigits value? base count (n * base + v) cs
      (taken + 1, n, rest)

/-- A part of an IPv4 address from the front: at most 255, without leading zeros. -/
def scanOctet? (cs : List Char) : Option (Nat × List Char) :=
  match scanDigits digitValue? 10 3 0 cs with
  | (0, _, _) => none
  | (taken, n, rest) =>
    if (cs.head? = some '0' && taken ≠ 1) || 255 < n || rest.head?.any Char.isDigit then none
    else some (n, rest)

/-- What follows a sign. -/
def after? (sign : Char) : List Char → Option (List Char)
  | c :: cs => if c = sign then some cs else none
  | [] => none

/-- An IPv4 address from the front. -/
def scanOctets? (cs : List Char) : Option (List Nat × List Char) := do
  let (a, cs) ← scanOctet? cs
  let (b, cs) ← scanOctet? (← after? '.' cs)
  let (c, cs) ← scanOctet? (← after? '.' cs)
  let (d, cs) ← scanOctet? (← after? '.' cs)
  return ([a, b, c, d], cs)

/-- A group of an IPv6 address from the front. -/
def scanGroup? (cs : List Char) : Option (Nat × List Char) :=
  match scanDigits Text.hexValue? 16 4 0 cs with
  | (0, _, _) => none
  | (_, n, rest) => if rest.head?.any Text.isHexDigit then none else some (n, rest)

/-- The two groups of an IPv4 address. -/
def groupsOfOctets : List Nat → List Nat
  | [a, b, c, d] => [a * 256 + b, c * 256 + d]
  | _ => []

/-- What the next group is read from: the front of the text, or what follows a colon. -/
def groupStart? (first : Bool) (cs : List Char) : Option (List Char) :=
  if first then some cs else after? ':' cs

/-- At most `limit` groups from the front, whether they end with an IPv4 address, and the rest. -/
def scanGroups (first : Bool) : Nat → List Char → List Nat × Bool × List Char
  | 0, cs => ([], false, cs)
  | limit + 1, cs =>
    match groupStart? first cs with
    | none => ([], false, cs)
    | some start =>
      match (if limit = 0 then none else scanOctets? start) with
      | some (octets, rest) => (groupsOfOctets octets, true, rest)
      | none =>
        match scanGroup? start with
        | none => ([], false, cs)
        | some (g, rest) =>
          let (groups, dotted, rest) := scanGroups false limit rest
          (g :: groups, dotted, rest)

/-- The eight groups of an IPv6 address. -/
def parseGroups? (cs : List Char) : Option (List Nat) :=
  match scanGroups true 8 cs with
  | (front, dotted, rest) =>
    if front.length = 8 then if rest = [] then some front else none
    else if dotted then none
    else match rest with
      | ':' :: ':' :: rest =>
        match scanGroups true (7 - front.length) rest with
        | (back, _, []) =>
          some (front ++ List.replicate (8 - front.length - back.length) 0 ++ back)
        | _ => none
      | _ => none

/-- Reads an address of either family. -/
def parse? (cs : List Char) : Option Address :=
  match scanOctets? cs with
  | some (octets, []) => some (ofOctets octets)
  | _ => (parseGroups? cs).map ofGroups

end Address

end OpenstackAdmission.Net
