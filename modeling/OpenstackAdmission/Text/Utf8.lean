/-!
# UTF-8

`Utf8.decode` reads bytes as text. A fault names the first byte of the first sequence that is no
character, and how many bytes a reader has to skip: the longest beginning of a character that the
bytes hold, or nothing if the bytes end inside one.
-/

namespace OpenstackAdmission.Text.Utf8

/-- Bytes which are no text from `index` on. -/
inductive Fault where
  /-- The `skipped` bytes from `index` on begin no character. -/
  | invalid (index skipped : Nat)
  /-- The bytes end inside a character that begins at `index`. -/
  | incomplete (index : Nat)
  deriving DecidableEq, Repr

def Fault.message : Fault → String
  | .invalid index skipped => s!"invalid utf-8 sequence of {skipped} bytes from index {index}"
  | .incomplete index => s!"incomplete utf-8 byte sequence from index {index}"

/-- A byte that continues a character. -/
def isTail (b : UInt8) : Bool := 0x80 ≤ b && b ≤ 0xbf

/-- The second bytes that may follow a first byte; they exclude long forms, surrogates and code points
above the last plane. -/
def secondRange (first : UInt8) : UInt8 × UInt8 :=
  if first = 0xe0 then (0xa0, 0xbf)
  else if first = 0xed then (0x80, 0x9f)
  else if first = 0xf0 then (0x90, 0xbf)
  else if first = 0xf4 then (0x80, 0x8f)
  else (0x80, 0xbf)

/-- The number of bytes of a character by its first byte. -/
def width? (first : UInt8) : Option Nat :=
  if first ≤ 0x7f then some 1
  else if 0xc2 ≤ first && first ≤ 0xdf then some 2
  else if 0xe0 ≤ first && first ≤ 0xef then some 3
  else if 0xf0 ≤ first && first ≤ 0xf4 then some 4
  else none

/-- The low six bits, which a continuing byte adds. -/
def payload (b : UInt8) : Nat := b.toNat % 64

/-- One character from the front, how many bytes it takes, or a fault at `index`. -/
def next (index : Nat) : List UInt8 → Except Fault (Char × Nat)
  | [] => .error (.incomplete index)
  | a :: rest =>
    match width? a with
    | none => .error (.invalid index 1)
    | some 1 => .ok (Char.ofNat a.toNat, 1)
    | some w =>
      let (low, high) := secondRange a
      match rest with
      | [] => .error (.incomplete index)
      | b :: rest =>
        if !(low ≤ b && b ≤ high) then .error (.invalid index 1)
        else if w = 2 then .ok (Char.ofNat (a.toNat % 32 * 64 + payload b), 2)
        else match rest with
          | [] => .error (.incomplete index)
          | c :: rest =>
            if !isTail c then .error (.invalid index 2)
            else if w = 3 then
              .ok (Char.ofNat ((a.toNat % 16 * 64 + payload b) * 64 + payload c), 3)
            else match rest with
              | [] => .error (.incomplete index)
              | d :: _ =>
                if !isTail d then .error (.invalid index 3)
                else
                  .ok (Char.ofNat (((a.toNat % 8 * 64 + payload b) * 64 + payload c) * 64
                    + payload d), 4)

/-- Characters from `index` on; `pending` counts the bytes of the last character still to pass. -/
def decodeFrom (index pending : Nat) : List UInt8 → Except Fault (List Char)
  | [] => .ok []
  | b :: rest =>
    match pending with
    | k + 1 => decodeFrom (index + 1) k rest
    | 0 =>
      match next index (b :: rest) with
      | .error fault => .error fault
      | .ok (c, width) => (decodeFrom (index + 1) (width - 1) rest).map (c :: ·)

/-- The text that bytes hold. -/
def decode (bytes : List UInt8) : Except Fault String :=
  (decodeFrom 0 0 bytes).map String.ofList

/-- The bytes of a text. -/
def encode (s : String) : List UInt8 := s.toUTF8.toList

end OpenstackAdmission.Text.Utf8
