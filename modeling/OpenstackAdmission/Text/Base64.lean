/-!
# Base64

The standard alphabet with padding. Reading accepts exactly what writing produces: padding must be
there, and the bits that no byte takes must be zero.
-/

namespace OpenstackAdmission.Text.Base64

/-- Why a text is not the written form of any bytes. -/
inductive Fault where
  /-- The byte at `offset` belongs to no digit. -/
  | invalidByte (offset : Nat) (byte : UInt8)
  /-- No number of bytes takes that many digits. -/
  | invalidLength (length : Nat)
  /-- The last digit sets bits that no byte takes. -/
  | invalidLastSymbol (offset : Nat) (byte : UInt8)
  | invalidPadding
  deriving DecidableEq, Repr

def Fault.message : Fault → String
  | .invalidByte offset byte => s!"Invalid symbol {byte.toNat}, offset {offset}."
  | .invalidLength length => s!"Invalid input length: {length}"
  | .invalidLastSymbol offset byte => s!"Invalid last symbol {byte.toNat}, offset {offset}."
  | .invalidPadding => "Invalid padding"

/-- The 64 digits in the order of their values. -/
def alphabet : List Char :=
  "ABCDEFGHIJKLMNOPQRSTUVWXYZabcdefghijklmnopqrstuvwxyz0123456789+/".toList

/-- The digit of a value below 64. -/
def digit (value : Nat) : Char := alphabet.getD value '='

/-- The value of a byte that is a digit. -/
def value? (byte : UInt8) : Option Nat :=
  let n := byte.toNat
  if 0x41 ≤ n && n ≤ 0x5a then some (n - 0x41)
  else if 0x61 ≤ n && n ≤ 0x7a then some (n - 0x61 + 26)
  else if 0x30 ≤ n && n ≤ 0x39 then some (n - 0x30 + 52)
  else if n = 0x2b then some 62
  else if n = 0x2f then some 63
  else none

/-- Three bytes make four digits; the rest of one or two bytes is padded. -/
def encodeChars : List UInt8 → List Char
  | [] => []
  | [a] =>
    let n := a.toNat * 16
    [digit (n / 64), digit (n % 64), '=', '=']
  | [a, b] =>
    let n := (a.toNat * 256 + b.toNat) * 4
    [digit (n / 4096), digit (n / 64 % 64), digit (n % 64), '=']
  | a :: b :: c :: rest =>
    let n := (a.toNat * 256 + b.toNat) * 256 + c.toNat
    digit (n / 262144) :: digit (n / 4096 % 64) :: digit (n / 64 % 64) :: digit (n % 64)
      :: encodeChars rest

def encode (bytes : List UInt8) : String := String.ofList (encodeChars bytes)

/-- The byte of the padding sign. -/
def padding : UInt8 := 0x3d

/-- Four digits make three bytes, unless one of them is none. -/
def quad (offset : Nat) (a b c d : UInt8) : Except Fault (List UInt8) :=
  match value? a, value? b, value? c, value? d with
  | none, _, _, _ => .error (.invalidByte offset a)
  | _, none, _, _ => .error (.invalidByte (offset + 1) b)
  | _, _, none, _ => .error (.invalidByte (offset + 2) c)
  | _, _, _, none => .error (.invalidByte (offset + 3) d)
  | some a, some b, some c, some d =>
    let n := ((a * 64 + b) * 64 + c) * 64 + d
    .ok [UInt8.ofNat (n / 65536), UInt8.ofNat (n / 256), UInt8.ofNat n]

/--
The digits and padding signs of the last group, up to four bytes. `seen` are the digits before, the
last one first; `pads` counts the padding signs after them and `firstPad` is where they began.
-/
def scanLast (offset : Nat) (seen : List (UInt8 × Nat)) (pads firstPad : Nat) :
    List UInt8 → Except Fault (List (UInt8 × Nat) × Nat × Nat)
  | [] => .ok (seen, pads, firstPad)
  | b :: rest =>
    let position := seen.length + pads
    if b = padding then
      -- A padding sign may stand in the third and fourth place only.
      if position < 2 then .error (.invalidByte (offset + position) b)
      else scanLast offset seen (pads + 1) (if pads = 0 then position else firstPad) rest
    else if pads > 0 then .error (.invalidByte (offset + firstPad) padding)
    else match value? b with
      | none => .error (.invalidByte (offset + position) b)
      | some v => scanLast offset ((b, v) :: seen) pads firstPad rest

/-- The bytes of the last group. -/
def lastGroup (offset : Nat) (group : List UInt8) : Except Fault (List UInt8) := do
  let (seen, pads, _) ← scanLast offset [] 0 0 group
  match seen.reverse with
  | [] => if pads = 0 then .ok [] else .error .invalidPadding
  | [_] => .error (.invalidLength (offset + 1))
  | digits =>
    if (digits.length + pads) % 4 ≠ 0 then .error .invalidPadding
    else
      let n := digits.foldl (fun n d => n * 64 + d.2) 0
      match digits, seen with
      | [_, _], (b, v) :: _ =>
        if v % 16 ≠ 0 then .error (.invalidLastSymbol (offset + 1) b)
        else .ok [UInt8.ofNat (n / 16)]
      | [_, _, _], (b, v) :: _ =>
        if v % 4 ≠ 0 then .error (.invalidLastSymbol (offset + 2) b)
        else .ok [UInt8.ofNat (n / 1024), UInt8.ofNat (n / 4)]
      | _, _ => .ok [UInt8.ofNat (n / 65536), UInt8.ofNat (n / 256), UInt8.ofNat n]

/-- The bytes written from `offset` on. -/
def decodeFrom (offset : Nat) : List UInt8 → Except Fault (List UInt8)
  | a :: b :: c :: d :: e :: rest => do
    let front ← quad offset a b c d
    let back ← decodeFrom (offset + 4) (e :: rest)
    return front ++ back
  | group => lastGroup offset group

/-- A single byte after the last group of four which is no digit, such as a line break. -/
def strayEnd? (text : List UInt8) : Option Fault :=
  match text.getLast? with
  | some b =>
    if text.length % 4 = 1 && b != padding && (value? b).isNone then
      some (.invalidByte (text.length - 1) b)
    else none
  | none => none

/-- The bytes that a text, given in UTF-8, stands for. A stray byte at the end is named before any
other fault. -/
def decode (text : List UInt8) : Except Fault (List UInt8) :=
  match strayEnd? text with
  | some fault => .error fault
  | none => decodeFrom 0 text

end OpenstackAdmission.Text.Base64
