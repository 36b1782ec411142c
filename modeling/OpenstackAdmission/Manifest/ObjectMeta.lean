import OpenstackAdmission.Codec.Record
import OpenstackAdmission.Manifest.Timestamp

/-!
# Metadata of objects

What every object carries about itself: its name and namespace, its labels, and whether it is being
deleted.
-/

namespace OpenstackAdmission

/-- An object that another one belongs to. Texts that are missing are empty. -/
structure OwnerReference where
  apiVersion : String
  blockOwnerDeletion : Option Bool
  controller : Option Bool
  kind : String
  name : String
  uid : String
  deriving DecidableEq

/-- Which fields of an object somebody manages. -/
structure ManagedFieldsEntry where
  apiVersion : Option String
  fieldsType : Option String
  fieldsV1 : Option Json
  manager : Option String
  operation : Option String
  subresource : Option String
  time : Option Timestamp

structure ObjectMeta where
  annotations : Option (Dict String) := none
  creationTimestamp : Option Timestamp := none
  deletionGracePeriodSeconds : Option Int64 := none
  deletionTimestamp : Option Timestamp := none
  finalizers : Option (List String) := none
  generateName : Option String := none
  generation : Option Int64 := none
  labels : Option (Dict String) := none
  managedFields : Option (List ManagedFieldsEntry) := none
  name : Option String := none
  space : Option String := none
  ownerReferences : Option (List OwnerReference) := none
  resourceVersion : Option String := none
  selfLink : Option String := none
  uid : Option String := none

namespace OwnerReference

/-- A text that may be left out or null, and is empty then. -/
private def ownerText (name : String) : Fields String :=
  (fun text : Option String => text.getD "") <$> Fields.optional name

def fields : Fields OwnerReference :=
  OwnerReference.mk <$> ownerText "apiVersion" <*> Fields.optional "blockOwnerDeletion"
    <*> Fields.optional "controller" <*> ownerText "kind" <*> ownerText "name"
    <*> ownerText "uid"

instance : Codec OwnerReference where
  encode r := .record [
    Codec.field "apiVersion" r.apiVersion,
    Codec.field? "blockOwnerDeletion" r.blockOwnerDeletion,
    Codec.field? "controller" r.controller,
    Codec.field "kind" r.kind,
    Codec.field "name" r.name,
    Codec.field "uid" r.uid]
  decode := Codec.decodeNamed "OwnerReference" fields

end OwnerReference

namespace ManagedFieldsEntry

def fields : Fields ManagedFieldsEntry :=
  ManagedFieldsEntry.mk <$> Fields.optional "apiVersion" <*> Fields.optional "fieldsType"
    <*> Fields.optional "fieldsV1" <*> Fields.optional "manager"
    <*> Fields.optional "operation" <*> Fields.optional "subresource"
    <*> Fields.optional "time"

instance : Codec ManagedFieldsEntry where
  encode m := .record [
    Codec.field? "apiVersion" m.apiVersion,
    Codec.field? "fieldsType" m.fieldsType,
    Codec.field? "fieldsV1" m.fieldsV1,
    Codec.field? "manager" m.manager,
    Codec.field? "operation" m.operation,
    Codec.field? "subresource" m.subresource,
    Codec.field? "time" m.time]
  decode := Codec.decodeNamed "ManagedFieldsEntry" fields

end ManagedFieldsEntry

namespace ObjectMeta

/-- The object is on its way out. -/
def isDeleting (m : ObjectMeta) : Bool := m.deletionTimestamp.isSome

/-- The namespace that references of the object lead to unless they state one: its own, or the empty
text. -/
def referenceNamespace (m : ObjectMeta) : String := m.space.getD ""

/-- The name of the object behind its namespace, if it has one. -/
def objectName (m : ObjectMeta) : String :=
  let name := m.name.getD ""
  match m.space with
  | some space => space ++ "/" ++ name
  | none => name

def fields : Fields ObjectMeta :=
  ObjectMeta.mk <$> Fields.optional "annotations" <*> Fields.optional "creationTimestamp"
    <*> Fields.optional "deletionGracePeriodSeconds" <*> Fields.optional "deletionTimestamp"
    <*> Fields.optional "finalizers" <*> Fields.optional "generateName"
    <*> Fields.optional "generation" <*> Fields.optional "labels"
    <*> Fields.optional "managedFields" <*> Fields.optional "name"
    <*> Fields.optional "namespace" <*> Fields.optional "ownerReferences"
    <*> Fields.optional "resourceVersion" <*> Fields.optional "selfLink"
    <*> Fields.optional "uid"

instance : Codec ObjectMeta where
  encode m := .record [
    Codec.field? "annotations" m.annotations,
    Codec.field? "creationTimestamp" m.creationTimestamp,
    Codec.field? "deletionGracePeriodSeconds" m.deletionGracePeriodSeconds,
    Codec.field? "deletionTimestamp" m.deletionTimestamp,
    Codec.field? "finalizers" m.finalizers,
    Codec.field? "generateName" m.generateName,
    Codec.field? "generation" m.generation,
    Codec.field? "labels" m.labels,
    Codec.field? "managedFields" m.managedFields,
    Codec.field? "name" m.name,
    Codec.field? "namespace" m.space,
    Codec.field? "ownerReferences" m.ownerReferences,
    Codec.field? "resourceVersion" m.resourceVersion,
    Codec.field? "selfLink" m.selfLink,
    Codec.field? "uid" m.uid]
  decode := Codec.decodeNamed "ObjectMeta" fields

end ObjectMeta

end OpenstackAdmission
