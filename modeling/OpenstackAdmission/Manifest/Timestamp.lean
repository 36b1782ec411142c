import OpenstackAdmission.Codec.Basic
import OpenstackAdmission.Time.Reader

/-!
# Points in time

Manifests tell times with their offset from UTC; they are written in UTC, to the second.
-/

namespace OpenstackAdmission

/-- A second of UTC, counted from the start of 1970. -/
structure Timestamp where
  seconds : Int
  deriving DecidableEq, Repr

namespace Timestamp

/-- The text in UTC. -/
def text (t : Timestamp) : String :=
  let date := Time.Date.ofDays (t.seconds.fdiv 86400)
  let rest := (t.seconds.fmod 86400).toNat
  let two := Time.Date.padded 2
  date.text ++ "T" ++ two (rest / 3600) ++ ":" ++ two (rest / 60 % 60) ++ ":" ++ two (rest % 60) ++ "Z"

instance : Codec Timestamp where
  encode t := .str t.text
  decode
    | .str s =>
      match Time.read s with
      | .ok seconds => .ok ⟨seconds⟩
      | .error fault => .error (.notTime fault)
    | other => .error (.wrongType other.found "a timestamp string")

end Timestamp

end OpenstackAdmission
