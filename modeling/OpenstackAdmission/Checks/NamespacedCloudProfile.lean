import OpenstackAdmission.Checks.ProviderImage
import OpenstackAdmission.Config.CloudProfile
import OpenstackAdmission.Images.Matrix

/-!
# Provider configuration of namespaced cloud profiles

A namespaced profile only adds versions of images to its parent: its configuration holds images alone, and
none that the parent maps.

The operation `validate_namespaced_cloud_profile_config` (specification, last rule of section 4.4).
-/

namespace OpenstackAdmission

namespace CloudProfileConfig

/-- Checks that the parent maps none of the versions. -/
def checkNotInParent (images : List ProviderImage) (parentImages : List Versioned.MachineImage)
    (path : FieldPath) : List FieldError :=
  checkEach path images fun path image =>
    checkEach (path.child "versions") image.versions fun path v =>
      errorIf (findVersion? parentImages image.name v.version).isSome
        (.forbidden path ("machine image version " ++ ImageMatrix.versionName image.name v.version
          ++ " is already defined in the parent CloudProfile"))

/-- Checks the configuration of a namespaced profile against its images and its parent; `specPath` leads
to the specification of the profile. -/
def checkNamespaced (c : CloudProfileConfig) (profileImages : List MachineImage)
    (parent : Versioned.CloudProfileSpec) (specPath : FieldPath) : List FieldError :=
  let configPath := specPath.child "providerConfig"
  let path := configPath.child "machineImages"
  let matrix : ImageMatrix :=
    { profileImages
      providerImages := c.machineImages
      parentImages := parent.machineImages
      definitions := parent.machineCapabilities
      profileKind := "NamespacedCloudProfile" }
  errorIf (c ≠ c.imagesOnly) (.forbidden configPath "must only set machineImages")
  ++ checkEach path c.machineImages (fun path image => image.check parent.machineCapabilities path)
  ++ checkNotInParent c.machineImages parent.machineImages path
  ++ matrix.check (specPath.child "machineImages") path

end CloudProfileConfig

end OpenstackAdmission
