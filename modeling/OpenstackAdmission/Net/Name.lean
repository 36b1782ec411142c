import OpenstackAdmission.Net.Name.Direction
import OpenstackAdmission.Net.Name.Label

/-!
# Names of hosts

Names may be written in any script. What counts of a name are the images of its characters in normal form;
they have to make labels that a name may have, and that keep their order next to each other.
-/

namespace OpenstackAdmission.Net.Name

/-- The characters of a name that count, unless the text is no name. -/
def counting? (text : List Char) : Option (List Char) := do
  let name ← mapped? text
  let texts ← (Text.splitAt '.' name).mapM Label.text?
  if !texts.all Label.isFit || !directionsAreFit texts then none
  return name

end OpenstackAdmission.Net.Name
