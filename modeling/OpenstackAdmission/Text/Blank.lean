/-!
# White space

The characters of the Unicode property `White_Space`, and texts without it at their ends.
-/

namespace OpenstackAdmission.Text

/-- The property `White_Space`. -/
def isBlank (c : Char) : Bool :=
  let n := c.toNat
  (0x9 ≤ n && n ≤ 0xd) || n == 0x20 || n == 0x85 || n == 0xa0 || n == 0x1680 ||
    (0x2000 ≤ n && n ≤ 0x200a) || n == 0x2028 || n == 0x2029 || n == 0x202f || n == 0x205f ||
    n == 0x3000

/-- The text begins or ends with white space. -/
def blankEdged (s : String) : Bool :=
  s.toList.head?.any isBlank || s.toList.getLast?.any isBlank

end OpenstackAdmission.Text
