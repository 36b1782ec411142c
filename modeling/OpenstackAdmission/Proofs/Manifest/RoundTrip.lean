import OpenstackAdmission.Manifest.Resource
import OpenstackAdmission.Proofs.Codec.Yields
import OpenstackAdmission.Proofs.Config.RoundTrip

/-!
# What is written is read back

Everything in a manifest but the metadata of its object, and every configuration of the provider, keeps its content
when it is written and read again. The exception is a payload that is null: it is written, and then read as none.

> `readBack_of_mem`: for each of these types, every value without such a payload is read back; and what has been
read is read back in any case, so that writing what was read changes nothing after the first time.

A payload that has been read is not null, since a null in its place is read as none (`Fields.Yields.payload`).
-/

namespace OpenstackAdmission

instance : LawfulCodec CapabilityDefinition :=
  ⟨fun _ => .of_record rfl fun _ => rfl⟩

instance : LawfulCodec CapabilityFlavor :=
  ⟨fun _ => .of_record rfl fun _ => rfl⟩

instance : LawfulCodec MachineImageVersion :=
  ⟨fun _ => .of_record rfl fun _ => rfl⟩

instance : LawfulCodec MachineImage :=
  ⟨fun _ => .of_record rfl fun _ => rfl⟩

instance : LawfulCodec CloudProfileReference :=
  ⟨fun _ => .of_record rfl fun _ => rfl⟩

instance : LawfulCodec SecretReference :=
  ⟨fun _ => .of_record rfl fun _ => rfl⟩

instance : LawfulCodec ObjectReference :=
  ⟨fun _ => .of_record rfl fun _ => rfl⟩

instance : LawfulCodec Networking :=
  ⟨fun _ => .of_record rfl fun _ => rfl⟩

instance : LawfulCodec BindingProvider :=
  ⟨fun _ => .of_record rfl fun _ => rfl⟩

instance : LawfulCodec RegionalProvider :=
  ⟨fun _ => .of_record rfl fun _ => rfl⟩

instance : LawfulCodec BackupBucketSpec :=
  ⟨fun _ => .of_record rfl fun _ => rfl⟩

instance : LawfulCodec SeedBackup :=
  ⟨fun _ => .of_record rfl fun _ => rfl⟩

instance : LawfulCodec SeedSpec :=
  ⟨fun _ => .of_record rfl fun _ => rfl⟩

/-! ## Types and their payloads -/

/-- A type of values with a JSON form, and the payloads that stand in its values as they are. -/
structure Format where
  Value : Type
  codec : Codec Value
  payloads : Value → List Json

namespace Format

instance (t : Format) : Codec t.Value := t.codec

/-- A type without payloads. -/
def plain (α : Type) [codec : Codec α] : Format := ⟨α, codec, fun _ => []⟩

/-- A type with payloads. -/
def carrying {α : Type} [codec : Codec α] (payloads : α → List Json) : Format := ⟨α, codec, payloads⟩

/-- Values without payloads that are null are read back, and no other values are ever read. -/
structure Lawful (t : Format) : Prop where
  readsBack : ∀ a : t.Value, NoNull (t.payloads a) → ReadsBack a
  noNull_of_decode : ∀ json (a : t.Value), decode json = .ok a → NoNull (t.payloads a)

theorem lawful_plain (α : Type) [Codec α] [LawfulCodec α] : (plain α).Lawful where
  readsBack (a : α) _ := LawfulCodec.readsBack a
  noNull_of_decode _ _ _ := nofun

/-! ## Records with payloads -/

/-- A payload stands for itself, unless it is null. -/
theorem mayReadBack_payload {payload : Option Json} (h : NoNull payload.toList) :
    MayReadBack payload where
  readsBack json hjson := by
    refine ⟨rfl, h json ?_⟩
    rw [hjson]
    exact .head _

section Payload

variable {α : Type} [Codec α] {record : String} {fields : Fields α}

/-- A format with payloads is read back as long as no payload is null. As null is read as a missing payload,
nothing that is read holds one. -/
theorem lawful_carrying {payloads : α → List Json}
    (hdecode : ∀ json, decode json = Codec.decodeRecord record fields json)
    (hyields : fields.Yields fun a => NoNull (payloads a))
    (hback : ∀ a, NoNull (payloads a) → ReadsBack a) : (carrying payloads).Lawful where
  readsBack := hback
  noNull_of_decode json _ h := hyields.of_decode ((hdecode json).symm.trans h)

/-- The law of a record with one payload, which is its last field. -/
theorem lawful_payload {name : String} {payload : α → Option Json}
    {front : Fields (Option Json → α)}
    (hdecode : ∀ json, decode json = Codec.decodeRecord record (front <*> .optional name) json)
    (hfront : front.Yields fun make => ∀ json, payload (make json) = json)
    (hback : ∀ a, MayReadBack (payload a) → ReadsBack a) :
    (carrying fun a => (payload a).toList).Lawful := by
  refine lawful_carrying hdecode (.seq ?_ .payload) fun a h => hback a (mayReadBack_payload h)
  intro layout place make hmake json hjson
  rw [hfront layout place make hmake]
  exact hjson

end Payload

theorem lawful_versionedProfile :
    (carrying fun s : Versioned.CloudProfileSpec => s.providerConfig.toList).Lawful :=
  lawful_payload (fun _ => rfl) (.seqAny (.seqAny (.mapAny fun _ _ _ _ => rfl)))
    fun _ _ => .of_record rfl fun _ => rfl

theorem lawful_profile : (carrying fun s : CloudProfileSpec => s.providerConfig.toList).Lawful :=
  lawful_payload (fun _ => rfl) (.seqAny (.seqAny (.mapAny fun _ _ _ _ => rfl)))
    fun _ _ => .of_record rfl fun _ => rfl

theorem lawful_namespacedProfile :
    (carrying fun s : NamespacedCloudProfileSpec => s.providerConfig.toList).Lawful :=
  lawful_payload (fun _ => rfl) (.seqAny (.mapAny fun _ _ _ => rfl))
    fun _ _ => .of_record rfl fun _ => rfl

theorem lawful_worker : (carrying fun w : Worker => w.providerConfig.toList).Lawful :=
  lawful_payload (fun _ => rfl) (.seqAny (.seqAny (.mapAny fun _ _ _ _ => rfl)))
    fun _ _ => .of_record rfl fun _ => rfl

/-- The payloads of a shoot and of its workers. -/
def shootPayloads (p : ShootProvider) : List Json :=
  p.infrastructureConfig.toList ++ p.controlPlaneConfig.toList ++
    p.workers.flatMap fun w => w.providerConfig.toList

/-- The payloads of a shoot are those of its sections and of its pools. -/
theorem noNull_shootPayloads_iff {p : ShootProvider} : NoNull (shootPayloads p) ↔
    NoNull p.infrastructureConfig.toList ∧ NoNull p.controlPlaneConfig.toList ∧
      ∀ w ∈ p.workers, NoNull w.providerConfig.toList := by
  unfold shootPayloads
  rw [noNull_append, noNull_append, and_assoc]
  exact and_congr_right' (and_congr_right' List.forall_mem_flatMap)

theorem lawful_shootProvider : (carrying shootPayloads).Lawful := by
  have hworkers : (Fields.defaulted "workers" [] : Fields (List Worker)).Yields
      fun workers => ∀ w ∈ workers, NoNull w.providerConfig.toList :=
    .defaulted nofun fun _ _ h => forall_mem_of_decode h lawful_worker.noNull_of_decode
  refine lawful_carrying (fun _ => rfl)
    (.seq (.seq (.seq (.mapAny ?yields) .payload) .payload) hworkers) ?back
  case yields =>
    intro providerType infrastructure hinfrastructure controlPlane hcontrolPlane workers hworkers
    exact noNull_shootPayloads_iff.mpr ⟨hinfrastructure, hcontrolPlane, hworkers⟩
  case back =>
    intro p h
    obtain ⟨hinfrastructure, hcontrolPlane, hworkers⟩ := noNull_shootPayloads_iff.mp h
    have := mayReadBack_payload hinfrastructure
    have := mayReadBack_payload hcontrolPlane
    have : ReadsBack p.workers := .list fun w hw => lawful_worker.readsBack w (hworkers w hw)
    exact .of_record rfl fun _ => rfl

theorem lawful_shoot : (carrying fun s : ShootSpec => shootPayloads s.provider).Lawful := by
  have hprovider : (Fields.required "provider" : Fields ShootProvider).Yields
      fun p => NoNull (shootPayloads p) :=
    .required lawful_shootProvider.noNull_of_decode
  refine lawful_carrying (fun _ => rfl)
    (.seq (.seqAny (.seqAny (.seqAny (.seqAny (.seqAny (.mapAny ?yields)))))) hprovider) ?back
  case yields =>
    intro _ _ _ _ _ _ provider hp
    exact hp
  case back =>
    intro s h
    have : ReadsBack s.provider := lawful_shootProvider.readsBack s.provider h
    exact .of_record rfl fun _ => rfl

/-! ## All types -/

/-- The configurations of the provider. -/
def configurations : List Format :=
  [plain CloudProfileConfig, plain Constraints, plain FloatingPool, plain LoadBalancerProvider,
    plain LoadBalancerClass, plain KeystoneURL, plain ProviderImage, plain ProviderImageVersion,
    plain RegionImage, plain ProviderFlavor, plain StorageClass, plain InfrastructureConfig,
    plain Networks, plain Router, plain ShareNetwork, plain ControlPlaneConfig, plain Storage,
    plain CsiManila, plain WorkerConfig, plain ServerGroup, plain MachineLabel, plain TypeMeta]

/-- Versioned profiles and their parts. -/
def versionedProfiles : List Format :=
  [plain Versioned.CapabilityValues, plain Versioned.Capabilities,
    plain Versioned.CapabilityDefinition, plain Versioned.MachineImageFlavor,
    plain Versioned.MachineImage, plain Versioned.MachineImageVersion,
    carrying fun s : Versioned.CloudProfileSpec => s.providerConfig.toList]

/-- What manifests hold besides the metadata of objects. -/
def specifications : List Format :=
  [plain Capabilities, plain CapabilityDefinition, plain CapabilityFlavor, plain MachineImage,
    plain MachineImageVersion, plain CloudProfileReference,
    carrying fun s : CloudProfileSpec => s.providerConfig.toList,
    carrying fun s : NamespacedCloudProfileSpec => s.providerConfig.toList,
    carrying fun s : ShootSpec => shootPayloads s.provider, plain Networking,
    carrying shootPayloads, carrying fun w : Worker => w.providerConfig.toList,
    plain SecretReference, plain ObjectReference, plain BindingProvider, plain BackupBucketSpec,
    plain RegionalProvider, plain SeedSpec, plain SeedBackup]

def all : List Format := configurations ++ versionedProfiles ++ specifications

/-- The formats one by one: most of them are read back without a condition, and six carry payloads. -/
theorem lawful_of_mem {t : Format} (h : t ∈ all) : t.Lawful := by
  revert t
  simp only [all, configurations, versionedProfiles, specifications, List.forall_mem_append,
    List.forall_mem_cons, lawful_plain, lawful_versionedProfile, lawful_profile,
    lawful_namespacedProfile, lawful_worker, lawful_shootProvider, lawful_shoot,
    List.not_mem_nil, false_imp_iff, implies_true, and_true]

/-- Reads a value and writes it again. -/
def rewrite (t : Format) (json : Json) : Except DecodeError Json :=
  (decode json : Except DecodeError t.Value).map encode

namespace Lawful

variable {t : Format} {json json' : Json} {a : t.Value}

/-- What has been read is read back. -/
theorem decode_encode_of_decode (ht : t.Lawful) (h : decode json = .ok a) :
    decode (encode a) = .ok a :=
  (ht.readsBack a (ht.noNull_of_decode json a h)).decode_encode

/-- Writing what was read changes nothing after the first time. -/
theorem rewrite_again (ht : t.Lawful) (h : t.rewrite json = .ok json') :
    t.rewrite json' = .ok json' := by
  obtain ⟨a, ha, rfl⟩ := map_eq_ok_iff.mp h
  exact map_eq_ok_iff.mpr ⟨a, ht.decode_encode_of_decode ha, rfl⟩

end Lawful

/-- **Reading undoes writing**, for every type without metadata of objects. -/
theorem readBack_of_mem {t : Format} (ht : t ∈ all) :
    (∀ a : t.Value, NoNull (t.payloads a) → decode (encode a) = .ok a) ∧
      (∀ json (a : t.Value), decode json = .ok a → decode (encode a) = .ok a) ∧
        ∀ json json', t.rewrite json = .ok json' → t.rewrite json' = .ok json' := by
  have hlawful := lawful_of_mem ht
  exact ⟨fun a ha => (hlawful.readsBack a ha).decode_encode,
    fun _ _ => hlawful.decode_encode_of_decode, fun _ _ => hlawful.rewrite_again⟩

/-! A shoot with payloads, and a pool of workers with one that is null. -/

def poolWithConfig (providerConfig : Json) : Worker where
  name := "pool"
  zones := ["eu-1a"]
  labels := Dict.empty
  providerConfig := some providerConfig

def shootWithPayloads : ShootSpec where
  cloudProfileName := some "openstack"
  cloudProfile := none
  region := "eu-1"
  secretBindingName := none
  credentialsBindingName := none
  networking := none
  provider :=
    { providerType := "openstack"
      infrastructureConfig := some (.obj [("floatingPoolName", .str "fip")])
      controlPlaneConfig := some (.obj [])
      workers := [poolWithConfig (.obj [])] }

/-- A shoot with payloads of every kind is read back as it is. -/
theorem readBack_shootWithPayloads : decode (encode shootWithPayloads) = .ok shootWithPayloads := by
  have hmem : (carrying fun s : ShootSpec => shootPayloads s.provider) ∈ all := by
    simp only [all, specifications, List.mem_append, List.mem_cons, true_or, or_true]
  have hnoNull : NoNull (shootPayloads shootWithPayloads.provider) := by
    show NoNull [.obj [("floatingPoolName", .str "fip")], .obj [], .obj []]
    simp only [NoNull, List.forall_mem_cons]
    exact ⟨rfl, rfl, rfl, nofun⟩
  exact (readBack_of_mem hmem).1 shootWithPayloads hnoNull

example : (decode (encode (poolWithConfig .null)) : Except DecodeError Worker) =
    .ok { poolWithConfig .null with providerConfig := none } := by
  rfl

end Format

end OpenstackAdmission
