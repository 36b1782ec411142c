import OpenstackAdmission.Manifest.ObjectMeta
import OpenstackAdmission.Manifest.Reference

/-!
# Backups

Buckets for backups, and the seeds that write them.
-/

namespace OpenstackAdmission

/-- A provider with a region. -/
structure RegionalProvider where
  providerType : String
  region : String
  deriving DecidableEq

instance : Codec RegionalProvider where
  encode p := .record [Codec.field "type" p.providerType, Codec.field "region" p.region]
  decode := Codec.decodeRecord "RegionalProvider"
    (RegionalProvider.mk <$> Fields.required "type" <*> Fields.defaulted "region" "")

structure BackupBucketSpec where
  provider : RegionalProvider
  credentialsRef : Option ObjectReference
  secretRef : Option SecretReference
  deriving DecidableEq

instance : Codec BackupBucketSpec where
  encode s := .record [
    Codec.field "provider" s.provider,
    Codec.field? "credentialsRef" s.credentialsRef,
    Codec.field? "secretRef" s.secretRef]
  decode := Codec.decodeRecord "BackupBucketSpec"
    (BackupBucketSpec.mk <$> Fields.required "provider" <*> Fields.optional "credentialsRef"
      <*> Fields.optional "secretRef")

structure BackupBucket where
  metadata : ObjectMeta
  spec : BackupBucketSpec

instance : Codec BackupBucket where
  encode b := .record [Codec.field "metadata" b.metadata, Codec.field "spec" b.spec]
  decode := Codec.decodeRecord "BackupBucket"
    (BackupBucket.mk <$> Fields.defaulted "metadata" {} <*> Fields.required "spec")

structure SeedBackup where
  provider : String
  region : Option String
  credentialsRef : Option ObjectReference
  deriving DecidableEq

instance : Codec SeedBackup where
  encode b := .record [
    Codec.field "provider" b.provider,
    Codec.field? "region" b.region,
    Codec.field? "credentialsRef" b.credentialsRef]
  decode := Codec.decodeRecord "SeedBackup"
    (SeedBackup.mk <$> Fields.required "provider" <*> Fields.optional "region"
      <*> Fields.optional "credentialsRef")

structure SeedSpec where
  provider : RegionalProvider
  backup : Option SeedBackup
  deriving DecidableEq

instance : Codec SeedSpec where
  encode s := .record [Codec.field "provider" s.provider, Codec.field? "backup" s.backup]
  decode := Codec.decodeRecord "SeedSpec"
    (SeedSpec.mk <$> Fields.required "provider" <*> Fields.optional "backup")

structure Seed where
  metadata : ObjectMeta
  spec : SeedSpec

instance : Codec Seed where
  encode s := .record [Codec.field "metadata" s.metadata, Codec.field "spec" s.spec]
  decode := Codec.decodeRecord "Seed"
    (Seed.mk <$> Fields.defaulted "metadata" {} <*> Fields.required "spec")

end OpenstackAdmission
