import OpenstackAdmission.Admission.Lookup

/-!
# What a lookup of resources finds

A lookup has a search of its own for every kind, and that of a list of resources goes through the objects of the kind.
All of these are one search of the list: `object?_ofResources` finds the first resource of the kind with the namespace
and the name (`firstBeside`).
-/

namespace OpenstackAdmission

/-- The kinds whose objects are found by namespace and name. -/
def ResourceKind.namespaced : List ResourceKind :=
  [.namespacedCloudProfile, .secret, .secretBinding, .credentialsBinding]

/-- What a lookup finds for a kind. Kinds that nobody refers to are not found. -/
def Lookup.object? (lookup : Lookup) (kind : ResourceKind) (space name : String) : Option Resource :=
  match kind with
  | .cloudProfile => (lookup.cloudProfile name).map .cloudProfile
  | .namespacedCloudProfile => (lookup.namespacedCloudProfile space name).map .namespacedCloudProfile
  | .secret => (lookup.secret space name).map .secret
  | .secretBinding => (lookup.secretBinding space name).map .secretBinding
  | .credentialsBinding => (lookup.credentialsBinding space name).map .credentialsBinding
  | .shoot | .backupBucket | .seed => none

/-- The first resource of a kind with this name that has this namespace, or has none either. -/
def firstBeside (resources : List Resource) (kind : ResourceKind) (space : Option String) (name : String) :
    Option Resource :=
  resources.find? fun r => r.kind = kind && (r.metadata.hasName name && r.metadata.space = space)

section FirstBeside

variable {resources : List Resource} {kind : ResourceKind} {space : Option String} {name : String}

/-- What the search gives is one of the resources and has the kind, the name and the namespace that were
asked for. -/
theorem of_firstBeside {r : Resource} (h : firstBeside resources kind space name = some r) :
    r ∈ resources ∧ r.kind = kind ∧ r.metadata.name = some name ∧ r.metadata.space = space := by
  have hfound := List.find?_some h
  simp only [ObjectMeta.hasName, Bool.and_eq_true, decide_eq_true_eq] at hfound
  exact ⟨List.mem_of_find?_eq_some h, hfound⟩

/-- A resource is beside itself, so there is a first one. -/
theorem exists_firstBeside {o : Resource} (ho : o ∈ resources) (hname : o.metadata.name = some name) :
    ∃ first, firstBeside resources o.kind o.metadata.space name = some first := by
  apply Option.isSome_iff_exists.mp
  refine List.find?_isSome.mpr ⟨o, ho, ?_⟩
  simp only [ObjectMeta.hasName, hname, decide_true, Bool.and_self]

/-- The search gives nothing where no resource of the kind and the name has the namespace. -/
theorem firstBeside_eq_none (h : ∀ r ∈ resources, r.kind = kind → r.metadata.name = some name →
    r.metadata.space ≠ space) : firstBeside resources kind space name = none := by
  cases hfirst : firstBeside resources kind space name with
  | none => rfl
  | some r =>
    obtain ⟨hmem, hkind, hname, hspace⟩ := of_firstBeside hfirst
    exact absurd hspace (h r hmem hkind hname)

/-- To search the resources of one kind is to search all of them for that kind. -/
theorem map_find?_filterMap {α : Type} {part : Resource → Option α} {whole : α → Resource} {p : α → Bool}
    {q : Resource → Bool} (hwhole : ∀ r a, part r = some a → whole a = r)
    (hq : ∀ r, q r = (part r).any p) (resources : List Resource) :
    ((resources.filterMap part).find? p).map whole = resources.find? q := by
  induction resources with
  | nil => rfl
  | cons r rest ih =>
    rw [List.find?_cons, hq]
    cases hpart : part r with
    | none =>
      rw [List.filterMap_cons_none hpart, ih]
      rfl
    | some a =>
      rw [List.filterMap_cons_some hpart, List.find?_cons, Option.any_some]
      cases p a with
      | true => exact congrArg some (hwhole r a hpart)
      | false => exact ih

/-- The lookup of resources finds the first one of the kind with this namespace and name. -/
theorem object?_ofResources (hkind : kind ∈ ResourceKind.namespaced) (space name : String) :
    (Lookup.ofResources resources).object? kind space name =
      firstBeside resources kind (some space) name := by
  simp only [ResourceKind.namespaced, List.mem_cons, List.not_mem_nil, or_false] at hkind
  rcases hkind with rfl | rfl | rfl | rfl
  all_goals
    refine map_find?_filterMap ?_ ?_ resources
    · intro r a hpart
      cases r <;> cases hpart
      rfl
    · intro r
      cases r <;> rfl

end FirstBeside

end OpenstackAdmission
