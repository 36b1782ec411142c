import OpenstackAdmission.Config.CloudProfile
import OpenstackAdmission.Config.ControlPlane
import OpenstackAdmission.Config.Infrastructure
import OpenstackAdmission.Config.Worker
import OpenstackAdmission.Proofs.Codec.RoundTrip

/-!
# Configurations are read back

The configurations of the provider have no payloads in them, and all of their values are read back. So are those of
versioned profiles, up to their provider configuration.
-/

namespace OpenstackAdmission

instance : LawfulCodec TypeMeta :=
  ⟨fun m =>
    have written : m.entries = m.entries ++ [] := (List.append_nil _).symm
    .of_record (congrArg Json.record written) fun _ => rfl⟩

/-! ## Versioned profiles -/

instance : LawfulCodec Versioned.CapabilityValues where
  readsBack v := by
    have hvalues := (LawfulCodec.readsBack v.values).decode_encode
    refine ⟨?_, rfl⟩
    show (decode (encode v.values)).map Versioned.CapabilityValues.mk = .ok v
    rw [hvalues]
    rfl

instance : LawfulCodec Versioned.CapabilityDefinition :=
  ⟨fun _ => .of_record rfl fun _ => rfl⟩

instance : LawfulCodec Versioned.MachineImageFlavor :=
  ⟨fun _ => .of_record rfl fun _ => rfl⟩

instance : LawfulCodec Versioned.MachineImageVersion :=
  ⟨fun _ => .of_record rfl fun _ => rfl⟩

instance : LawfulCodec Versioned.MachineImage :=
  ⟨fun _ => .of_record rfl fun _ => rfl⟩

/-! ## Cloud profiles -/

instance : LawfulCodec LoadBalancerProvider :=
  ⟨fun _ => .of_record rfl fun _ => rfl⟩

instance : LawfulCodec LoadBalancerClass :=
  ⟨fun _ => .of_record rfl fun _ => rfl⟩

instance : LawfulCodec FloatingPool :=
  ⟨fun _ => .of_record rfl fun _ => rfl⟩

instance : LawfulCodec Constraints :=
  ⟨fun _ => .of_record rfl fun _ => rfl⟩

instance : LawfulCodec KeystoneURL :=
  ⟨fun _ => .of_record rfl fun _ => rfl⟩

instance : LawfulCodec RegionImage :=
  ⟨fun _ => .of_record rfl fun _ => rfl⟩

instance : LawfulCodec ProviderFlavor :=
  ⟨fun _ => .of_record rfl fun _ => rfl⟩

instance : LawfulCodec ProviderImageVersion :=
  ⟨fun _ => .of_record rfl fun _ => rfl⟩

instance : LawfulCodec ProviderImage :=
  ⟨fun _ => .of_record rfl fun _ => rfl⟩

instance : LawfulCodec StorageClass :=
  ⟨fun _ => .of_record rfl fun _ => rfl⟩

instance : LawfulCodec CloudProfileConfig :=
  ⟨fun _ => .of_record rfl (fun _ => rfl)
    (h := by unfold CloudProfileConfig.fields; infer_instance)⟩

/-! ## Shoots -/

instance : LawfulCodec Router :=
  ⟨fun _ => .of_record rfl fun _ => rfl⟩

instance : LawfulCodec ShareNetwork :=
  ⟨fun _ => .of_record rfl fun _ => rfl⟩

instance : LawfulCodec Networks :=
  ⟨fun _ => .of_record rfl fun _ => rfl⟩

instance : LawfulCodec InfrastructureConfig :=
  ⟨fun _ => .of_record rfl fun _ => rfl⟩

instance : LawfulCodec CsiManila :=
  ⟨fun _ => .of_record rfl fun _ => rfl⟩

instance : LawfulCodec Storage :=
  ⟨fun _ => .of_record rfl fun _ => rfl⟩

instance : LawfulCodec ControlPlaneConfig :=
  ⟨fun _ => .of_record rfl fun _ => rfl⟩

instance : LawfulCodec ServerGroup :=
  ⟨fun _ => .of_record rfl fun _ => rfl⟩

instance : LawfulCodec MachineLabel :=
  ⟨fun _ => .of_record rfl fun _ => rfl⟩

instance : LawfulCodec WorkerConfig :=
  ⟨fun _ => .of_record rfl fun _ => rfl⟩

end OpenstackAdmission
