import Mathlib.Data.List.Basic
import Mathlib.Tactic.Tauto
import OpenstackAdmission.Checks.Credentials

/-!
# Credentials that authenticate

A secret with credentials is read under eight keys and no others, the texts under `stringData` before the bytes
under `data`. Where all values are texts, the secret is accepted exactly if it holds one way to authenticate:

> `check_eq_nil_iff_usable`: the check finds nothing exactly if the values are usable, and it looks at nothing but
the values.

The way is chosen by the secret of an application credential, and bytes that are no text count like a missing
value there. Each way looks at its own keys beside those that every way needs (`examinedKeys`).

> `invalid_mem_check`: bytes under an examined key that are no text are reported at this key.

Keys of the other way may hold anything: `check_secretWithStrayBytes`.
-/

namespace OpenstackAdmission.Credentials

/-- The keys under which a secret is read. -/
def recognisedKeys : List String :=
  [domainName, tenantName, username, password, applicationCredentialID, applicationCredentialName,
    applicationCredentialSecret, authURL]

/-- The keys that every way to authenticate looks at. -/
def commonKeys : List String := [domainName, tenantName, username, authURL]

/-- The keys that are looked at for an application credential only. -/
def applicationCredentialKeys : List String :=
  [applicationCredentialID, applicationCredentialName, applicationCredentialSecret]

/-- A text that is not empty stands under the key. -/
def IsSet (value : String → Option String) (key : String) : Prop :=
  ∃ text, value key = some text ∧ text ≠ ""

/-- No text with white space at its ends stands under the key. -/
def IsTrimmed (value : String → Option String) (key : String) : Prop :=
  ∀ text, value key = some text → Text.blankEdged text = false

/-- A way to authenticate, with the keys that it looks at beside the common ones. -/
inductive Authenticates (value : String → Option String) : List String → Prop where
  /-- An application credential goes by its ID, or by its name and its owner. -/
  | byApplicationCredential (credential : IsSet value applicationCredentialSecret)
      (alone : ¬ IsSet value password)
      (named : IsSet value applicationCredentialID ∨
        IsSet value applicationCredentialName ∧ IsSet value username) :
    Authenticates value applicationCredentialKeys
  | byPassword (alone : ¬ IsSet value applicationCredentialSecret) (user : IsSet value username)
      (secret : IsSet value password) : Authenticates value [password]

/-- What the values of a secret have to be like. -/
structure Usable (value : String → Option String) : Prop where
  domain : IsSet value domainName
  tenant : IsSet value tenantName
  authenticates : ∃ keys, Authenticates value keys ∧ ∀ key ∈ commonKeys ++ keys, IsTrimmed value key
  url : ∀ text, value authURL = some text → text ≠ "" → Net.Url.check text = .ok ()

/-! ## Values -/

section Value

variable {secret other : Secret} {path : FieldPath} {key : String} {required : Bool}
  {value : String → Option String}

/-- A value that is a text has two conditions: it is not empty if it is required, and there is no white
space at its ends. -/
theorem checkValue_eq_nil_iff (h : secret.value key = .ok (value key)) :
    checkValue secret path required key = [] ↔
      (required = true → IsSet value key) ∧ IsTrimmed value key := by
  unfold checkValue IsSet IsTrimmed
  rw [h]
  cases value key with
  | none => simp
  | some text =>
    by_cases hempty : text = ""
    · -- the empty text has no ends
      have hedges : Text.blankEdged "" = false := rfl
      simp [hempty, hedges]
    · simp [hempty]

/-- Bytes that are no text are the only error of their key. -/
theorem checkValue_of_fault {fault : Text.Utf8.Fault} (h : secret.value key = .error fault) :
    checkValue secret path required key =
      [.invalid (path.key key) .null
        ("field " ++ Text.quoted key ++ " in secret must be valid UTF-8: " ++ fault.message)] := by
  unfold checkValue
  rw [h]

/-- A required value is a text, not empty, without white space at its ends. -/
theorem exists_value_of_checkValue (h : checkValue secret path true key = []) :
    ∃ text, secret.value key = .ok (some text) ∧ text ≠ "" ∧ Text.blankEdged text = false := by
  cases hvalue : secret.value key with
  | error fault =>
    rw [checkValue_of_fault hvalue] at h
    cases h
  | ok text? =>
    have hpassed := (@checkValue_eq_nil_iff secret path key true (fun _ => text?) hvalue).mp h
    obtain ⟨text, rfl, hne⟩ := hpassed.1 rfl
    exact ⟨text, rfl, hne, hpassed.2 text rfl⟩

/-- The key counts as present if a text stands under it that is not empty. An empty text is as good as none.
-/
theorem isSome_nonEmptyValue?_iff {text? : Option String} (h : secret.value key = .ok text?) :
    (secret.nonEmptyValue? key).isSome = true ↔ ∃ text, text? = some text ∧ text ≠ "" := by
  unfold Secret.nonEmptyValue?
  rw [h]
  cases text? with
  | none => simp
  | some text =>
    by_cases hempty : text = ""
    · simp [hempty]
    · simp [hempty]

/-- Whether a key counts as present is read off its value, not off the place where the value is written. -/
theorem nonEmptyValue?_congr (h : other.value key = secret.value key) :
    other.nonEmptyValue? key = secret.nonEmptyValue? key := by
  unfold Secret.nonEmptyValue?
  rw [h]

/-- The check of one key looks at its value only. It does not matter whether bytes or a text stand for it.
-/
theorem checkValue_congr (h : other.value key = secret.value key) :
    checkValue other path required key = checkValue secret path required key := by
  unfold checkValue
  rw [h]

/-- Bytes count where no text stands before them. -/
theorem value_eq_error {bytes : Bytes} {fault : Text.Utf8.Fault}
    (habsent : secret.stringData.bind (·.find? key) = none)
    (hbytes : secret.data.bind (·.find? key) = some bytes)
    (hfault : Text.Utf8.decode bytes.bytes = .error fault) : secret.value key = .error fault := by
  unfold Secret.value
  rw [habsent, hbytes]
  dsimp only
  rw [hfault]
  rfl

end Value

/-! ## Ways -/

section Ways

variable {value : String → Option String} {P : List String → Prop}

/-- The secret of an application credential decides for it. -/
theorem exists_authenticates_of_isSet (h : IsSet value applicationCredentialSecret) :
    (∃ keys, Authenticates value keys ∧ P keys) ↔
      (¬ IsSet value password ∧ (IsSet value applicationCredentialID ∨
        IsSet value applicationCredentialName ∧ IsSet value username)) ∧
      P applicationCredentialKeys := by
  constructor
  · rintro ⟨keys, hway, hkeys⟩
    cases hway with
    | byApplicationCredential credential alone named => exact ⟨⟨alone, named⟩, hkeys⟩
    | byPassword alone => exact absurd h alone
  · rintro ⟨⟨halone, hnamed⟩, hkeys⟩
    exact ⟨_, .byApplicationCredential h halone hnamed, hkeys⟩

/-- Without the secret of an application credential, the password is the only way left. It wants a user as
well. -/
theorem exists_authenticates_of_not_isSet (h : ¬ IsSet value applicationCredentialSecret) :
    (∃ keys, Authenticates value keys ∧ P keys) ↔
      (IsSet value username ∧ IsSet value password) ∧ P [password] := by
  constructor
  · rintro ⟨keys, hway, hkeys⟩
    cases hway with
    | byApplicationCredential credential => exact absurd credential h
    | byPassword alone user secret => exact ⟨⟨user, secret⟩, hkeys⟩
  · rintro ⟨⟨huser, hpassword⟩, hkeys⟩
    exact ⟨_, .byPassword h huser hpassword, hkeys⟩

/-- Usable values, with the conditions in the order of the checks: what is always required, the way to
authenticate, and the address. -/
theorem usable_iff : Usable value ↔ (IsSet value domainName ∧ IsSet value tenantName) ∧
    (∃ keys, Authenticates value keys ∧ ∀ key ∈ commonKeys ++ keys, IsTrimmed value key) ∧
    ∀ text, value authURL = some text → text ≠ "" → Net.Url.check text = .ok () := by
  constructor
  · intro h
    exact ⟨⟨h.domain, h.tenant⟩, h.authenticates, h.url⟩
  · rintro ⟨⟨hdomain, htenant⟩, hway, hurl⟩
    exact ⟨hdomain, htenant, hway, hurl⟩

end Ways

/-! ## Where all values are texts -/

section Texts

variable {secret : Secret} {path : FieldPath} {value : String → Option String}
  (hvalue : ∀ key ∈ recognisedKeys, secret.value key = .ok (value key))

include hvalue

/-- Several keys that are checked in a row pass if each of them does, since the error of one leaves the
others alone. -/
theorem flatMap_checkValue_eq_nil_iff {keys : List String} {required : Bool}
    (hkeys : ∀ key ∈ keys, key ∈ recognisedKeys) :
    keys.flatMap (checkValue secret path required) = [] ↔
      ∀ key ∈ keys, (required = true → IsSet value key) ∧ IsTrimmed value key := by
  rw [List.flatMap_eq_nil_iff]
  exact forall₂_congr fun key hmem => checkValue_eq_nil_iff (hvalue key (hkeys key hmem))

/-- An application credential stands alone and is named, by its ID or by its own name and the user who owns
it. -/
theorem checkApplicationCredential_eq_nil_iff :
    checkApplicationCredential secret path = [] ↔
      (¬ IsSet value password ∧ (IsSet value applicationCredentialID ∨
        IsSet value applicationCredentialName ∧ IsSet value username)) ∧
      ∀ key ∈ username :: applicationCredentialKeys, IsTrimmed value key := by
  have hset (key : String) (hkey : key ∈ recognisedKeys) :
      IsSet value key ↔ (secret.nonEmptyValue? key).isSome = true :=
    (isSome_nonEmptyValue?_iff (hvalue key hkey)).symm
  have htrimmed : (username :: applicationCredentialKeys).flatMap (checkValue secret path false) = [] ↔
      ∀ key ∈ username :: applicationCredentialKeys, IsTrimmed value key := by
    rw [flatMap_checkValue_eq_nil_iff hvalue (by decide)]
    simp only [Bool.false_eq_true, false_implies, true_and]
  rw [← htrimmed, hset password (by decide), hset applicationCredentialID (by decide),
    hset applicationCredentialName (by decide), hset username (by decide)]
  unfold checkApplicationCredential
  rw [List.append_eq_nil_iff]
  refine and_congr ?_ Iff.rfl
  simp only [List.append_eq_nil_iff, errorIf_eq_nil_iff]
  -- the two conditions on a missing ID are one on what names the credential
  cases (secret.nonEmptyValue? applicationCredentialID).isSome <;>
    cases (secret.nonEmptyValue? applicationCredentialName).isSome <;>
      simp

/-- The address may be missing or empty. What else stands there is a URL, and has no white space at its
ends. -/
theorem checkAuthURL_eq_nil_iff :
    checkAuthURL secret path = [] ↔ IsTrimmed value authURL ∧
      ∀ text, value authURL = some text → text ≠ "" → Net.Url.check text = .ok () := by
  have hurl := hvalue authURL (by decide)
  unfold checkAuthURL Secret.nonEmptyValue?
  rw [List.append_eq_nil_iff, checkValue_eq_nil_iff hurl, hurl]
  refine and_congr (by simp only [Bool.false_eq_true, false_implies, true_and]) ?_
  cases value authURL with
  | none => simp
  | some text =>
    by_cases hempty : text = ""
    · simp [hempty]
    · cases hcheck : Net.Url.check text with
      | error e => simp [hempty, hcheck]
      | ok u => simp [hempty, hcheck]

/-- The acceptance of a secret whose values are texts. The cases are the two ways, which the secret of an
application credential tells apart. -/
theorem check_eq_nil_iff_of_texts : check secret path = [] ↔ Usable value := by
  have hcredential := isSome_nonEmptyValue?_iff (hvalue applicationCredentialSecret (by decide))
  unfold check
  rw [List.append_eq_nil_iff, List.append_eq_nil_iff, flatMap_checkValue_eq_nil_iff hvalue (by decide),
    checkAuthURL_eq_nil_iff hvalue, usable_iff]
  by_cases hset : IsSet value applicationCredentialSecret
  · rw [if_pos (hcredential.mpr hset), checkApplicationCredential_eq_nil_iff hvalue,
      exists_authenticates_of_isSet hset]
    simp only [commonKeys, List.forall_mem_append, List.forall_mem_cons, List.not_mem_nil, false_implies,
      implies_true, and_true, true_implies]
    tauto
  · rw [if_neg (fun h => hset (hcredential.mp h)), flatMap_checkValue_eq_nil_iff hvalue (by decide),
      exists_authenticates_of_not_isSet hset]
    simp only [commonKeys, List.forall_mem_append, List.forall_mem_cons, List.not_mem_nil, false_implies,
      implies_true, and_true, true_implies]
    tauto

end Texts

/-! ## Secrets of one content -/

section Secrets

variable {secret other : Secret} {path : FieldPath}

/-- Secrets with the same values are checked alike, wherever the values stand. -/
theorem check_congr (h : ∀ key ∈ recognisedKeys, other.value key = secret.value key) :
    check other path = check secret path := by
  have hvalues {required : Bool} (keys : List String) (hkeys : ∀ key ∈ keys, key ∈ recognisedKeys) :
      keys.flatMap (checkValue other path required) = keys.flatMap (checkValue secret path required) :=
    List.flatMap_congr fun key hmem => checkValue_congr (h key (hkeys key hmem))
  have hset (key : String) (hkey : key ∈ recognisedKeys) :
      other.nonEmptyValue? key = secret.nonEmptyValue? key :=
    nonEmptyValue?_congr (h key hkey)
  unfold check checkApplicationCredential checkAuthURL
  rw [hvalues [domainName, tenantName] (by decide), hvalues [username, password] (by decide),
    hvalues [username, applicationCredentialID, applicationCredentialName, applicationCredentialSecret]
      (by decide), checkValue_congr (h authURL (by decide)),
    hset applicationCredentialSecret (by decide), hset password (by decide),
    hset applicationCredentialID (by decide), hset applicationCredentialName (by decide),
    hset username (by decide), hset authURL (by decide)]

/-- **Credentials are accepted exactly if they are one way to authenticate.** The check depends on the values under
the recognised keys and on nothing else. -/
theorem check_eq_nil_iff_usable (secret : Secret) (path : FieldPath) :
    (∀ value : String → Option String,
        (∀ key ∈ recognisedKeys, secret.value key = .ok (value key)) →
          (check secret path = [] ↔ Usable value)) ∧
      ∀ other : Secret, (∀ key ∈ recognisedKeys, other.value key = secret.value key) →
        check other path = check secret path :=
  ⟨fun _ hvalue => check_eq_nil_iff_of_texts hvalue, fun _ hsame => check_congr hsame⟩

/-! A secret with an application credential that goes by its name. The password that stands in the data is covered
by an empty text. -/

def secretWithNamedCredential : Secret where
  data := some (Dict.ofList [("password", ⟨[0x64, 0x65, 0x76]⟩), ("tenantName", ⟨[0x64, 0x65, 0x76]⟩)])
  stringData := some (Dict.ofList [("domainName", "default"), ("username", "dev"), ("password", ""),
    ("applicationCredentialName", "dev"), ("applicationCredentialSecret", "dev"),
    ("authURL", "urn:keystone")])

/-- The values of the secret. -/
def valuesWithNamedCredential (key : String) : Option String :=
  Entries.find? key [("domainName", "default"), ("tenantName", "dev"), ("username", "dev"), ("password", ""),
    ("applicationCredentialName", "dev"), ("applicationCredentialSecret", "dev"),
    ("authURL", "urn:keystone")]

/-- The empty text under `password` counts before the bytes, so this credential stands alone and is
accepted. -/
theorem usable_secretWithNamedCredential :
    (∀ key ∈ recognisedKeys,
        secretWithNamedCredential.value key = .ok (valuesWithNamedCredential key)) ∧
      check secretWithNamedCredential (.root "data") = [] ∧ Usable valuesWithNamedCredential := by
  have hvalue : ∀ key ∈ recognisedKeys,
      secretWithNamedCredential.value key = .ok (valuesWithNamedCredential key) := by
    decide
  have hcheck : check secretWithNamedCredential (.root "data") = [] := by
    rfl
  exact ⟨hvalue, hcheck, ((check_eq_nil_iff_usable _ _).1 _ hvalue).mp hcheck⟩

end Secrets

/-! ## Bytes that are no text -/

/-- The keys that the way of a secret looks at, and the common ones. Bytes that are no text choose no way. -/
def examinedKeys (secret : Secret) : List String :=
  commonKeys ++
    if (secret.nonEmptyValue? applicationCredentialSecret).isSome then applicationCredentialKeys
    else [password]

section Faults

variable {secret : Secret} {path : FieldPath} {key : String} {fault : Text.Utf8.Fault}

/-- Among keys that are checked in a row, the errors of each one are errors of the row. -/
theorem subset_flatMap_checkValue {keys : List String} {required : Bool} (hkey : key ∈ keys) :
    checkValue secret path required key ⊆ keys.flatMap (checkValue secret path required) :=
  fun _ he => List.mem_flatMap.mpr ⟨key, hkey, he⟩

/-- Every examined key is checked, as one that is required or as one that is not. -/
theorem checkValue_subset_check (hkey : key ∈ examinedKeys secret) :
    ∃ required, checkValue secret path required key ⊆ check secret path := by
  have hbase : [domainName, tenantName].flatMap (checkValue secret path true) ⊆ check secret path :=
    List.Subset.trans (List.subset_append_left _ _) (List.subset_append_left _ _)
  have hurl : checkValue secret path false authURL ⊆ check secret path :=
    List.Subset.trans (List.subset_append_left _ _) (List.subset_append_right _ _)
  -- the keys of a way are checked in its branch only
  by_cases hset : (secret.nonEmptyValue? applicationCredentialSecret).isSome = true
  · have hway : (username :: applicationCredentialKeys).flatMap (checkValue secret path false) ⊆
        check secret path := by
      unfold check
      rw [if_pos hset]
      exact List.Subset.trans (List.subset_append_right _ _)
        (List.Subset.trans (List.subset_append_right _ _) (List.subset_append_left _ _))
    have hkeys : key ∈ [domainName, tenantName] ∨ key ∈ username :: applicationCredentialKeys ∨
        key = authURL := by
      unfold examinedKeys commonKeys at hkey
      rw [if_pos hset] at hkey
      simp only [List.mem_append, List.mem_cons, List.not_mem_nil, or_false] at hkey ⊢
      tauto
    rcases hkeys with hkey | hkey | rfl
    · exact ⟨true, List.Subset.trans (subset_flatMap_checkValue hkey) hbase⟩
    · exact ⟨false, List.Subset.trans (subset_flatMap_checkValue hkey) hway⟩
    · exact ⟨false, hurl⟩
  · have hway : [username, password].flatMap (checkValue secret path true) ⊆ check secret path := by
      unfold check
      rw [if_neg hset]
      exact List.Subset.trans (List.subset_append_right _ _) (List.subset_append_left _ _)
    have hkeys : key ∈ [domainName, tenantName] ∨ key ∈ [username, password] ∨ key = authURL := by
      unfold examinedKeys commonKeys at hkey
      rw [if_neg hset] at hkey
      simp only [List.mem_append, List.mem_cons, List.not_mem_nil, or_false] at hkey ⊢
      tauto
    rcases hkeys with hkey | hkey | rfl
    · exact ⟨true, List.Subset.trans (subset_flatMap_checkValue hkey) hbase⟩
    · exact ⟨true, List.Subset.trans (subset_flatMap_checkValue hkey) hway⟩
    · exact ⟨false, hurl⟩

/-- A fault of an examined key is reported at this key. -/
theorem invalid_mem_check_of_error (hkey : key ∈ examinedKeys secret)
    (hfault : secret.value key = .error fault) :
    FieldError.invalid (path.key key) .null
      ("field " ++ Text.quoted key ++ " in secret must be valid UTF-8: " ++ fault.message) ∈
        check secret path := by
  obtain ⟨required, hchecked⟩ := checkValue_subset_check hkey
  apply hchecked
  rw [checkValue_of_fault hfault]
  exact .head _

/-- A secret of an application credential that is no text chooses nothing, so the password is looked at. -/
theorem password_mem_examinedKeys_of_error
    (h : secret.value applicationCredentialSecret = .error fault) : password ∈ examinedKeys secret := by
  have hnone : secret.nonEmptyValue? applicationCredentialSecret = none := by
    unfold Secret.nonEmptyValue?
    rw [h]
  unfold examinedKeys
  rw [hnone]
  decide

/-- An application credential is accepted without a password only. -/
theorem isSome_password_of_check (h : check secret path = [])
    (hcredential : (secret.nonEmptyValue? applicationCredentialSecret).isSome = true) :
    (secret.nonEmptyValue? password).isSome = false := by
  unfold check at h
  rw [if_pos hcredential, List.append_eq_nil_iff, List.append_eq_nil_iff] at h
  have hway := h.1.2
  unfold checkApplicationCredential at hway
  simp only [List.append_eq_nil_iff, errorIf_eq_nil_iff] at hway
  exact hway.1.1.1

/-- **Bytes that are no text are reported under the keys that matter.** Whatever the other keys hold, an examined
key has the error. Of a password and an application credential that are both texts, or both none, an accepted secret
has one at most. -/
theorem invalid_mem_check (secret : Secret) (path : FieldPath) :
    (∀ key ∈ examinedKeys secret, ∀ (bytes : Bytes) (fault : Text.Utf8.Fault),
        secret.stringData.bind (·.find? key) = none →
          secret.data.bind (·.find? key) = some bytes →
            Text.Utf8.decode bytes.bytes = .error fault →
              FieldError.invalid (path.key key) .null
                ("field " ++ Text.quoted key ++ " in secret must be valid UTF-8: " ++ fault.message) ∈
                  check secret path) ∧
      (check secret path = [] →
        (∀ user credential : String, secret.value password = .ok (some user) →
            secret.value applicationCredentialSecret = .ok (some credential) →
              user = "" ∨ credential = "") ∧
          ∀ fault fault' : Text.Utf8.Fault, secret.value password = .error fault →
            secret.value applicationCredentialSecret ≠ .error fault') := by
  constructor
  · intro key hkey bytes fault habsent hbytes hfault
    exact invalid_mem_check_of_error hkey (value_eq_error habsent hbytes hfault)
  · intro haccepted
    constructor
    -- two texts that are not empty would be a password beside an application credential
    · intro user credential huser hcredential
      by_contra hboth
      rw [not_or] at hboth
      have hset : (secret.nonEmptyValue? applicationCredentialSecret).isSome = true :=
        (isSome_nonEmptyValue?_iff hcredential).mpr ⟨credential, rfl, hboth.2⟩
      have hpassword : (secret.nonEmptyValue? password).isSome = true :=
        (isSome_nonEmptyValue?_iff huser).mpr ⟨user, rfl, hboth.1⟩
      rw [isSome_password_of_check haccepted hset] at hpassword
      cases hpassword
    -- a credential that is no text leaves the password to be looked at, which has a fault too
    · intro fault fault' hpassword hcredential
      have hreported : _ ∈ check secret path :=
        invalid_mem_check_of_error (password_mem_examinedKeys_of_error hcredential) hpassword
      rw [haccepted] at hreported
      cases hreported

/-! A user whose password is no text. -/

def secretWithBrokenPassword : Secret where
  data := some (Dict.ofList [("password", ⟨[0x73, 0xff, 0xfe]⟩)])
  stringData := some (Dict.ofList [("domainName", "default"), ("tenantName", "dev"), ("username", "dev")])

/-- The second byte of this password starts no character, and the error under the key says so. -/
theorem invalid_mem_check_secretWithBrokenPassword :
    password ∈ examinedKeys secretWithBrokenPassword ∧
      secretWithBrokenPassword.stringData.bind (·.find? password) = none ∧
      secretWithBrokenPassword.data.bind (·.find? password) = some ⟨[0x73, 0xff, 0xfe]⟩ ∧
      Text.Utf8.decode [0x73, 0xff, 0xfe] = .error (.invalid 1 1) ∧
      FieldError.invalid ((FieldPath.root "data").key password) .null
          ("field " ++ Text.quoted password ++ " in secret must be valid UTF-8: " ++
            (Text.Utf8.Fault.invalid 1 1).message) ∈
        check secretWithBrokenPassword (.root "data") := by
  have hexamined : password ∈ examinedKeys secretWithBrokenPassword := by
    decide
  have habsent : secretWithBrokenPassword.stringData.bind (·.find? password) = none := by
    decide
  have hbytes : secretWithBrokenPassword.data.bind (·.find? password) = some ⟨[0x73, 0xff, 0xfe]⟩ := by
    decide
  have hfault : Text.Utf8.decode [0x73, 0xff, 0xfe] = .error (.invalid 1 1) := by
    rfl
  exact ⟨hexamined, habsent, hbytes, hfault,
    (invalid_mem_check _ _).1 password hexamined _ _ habsent hbytes hfault⟩

/-! A user with a password, and bytes that are no text under the ID of an application credential. -/

def secretWithStrayBytes : Secret where
  data := some (Dict.ofList [("applicationCredentialID", ⟨[0xff]⟩)])
  stringData := some (Dict.ofList [("domainName", "default"), ("tenantName", "dev"), ("username", "dev"),
    ("password", "dev")])

/-- **The other way is not looked at.** What stands under its keys need not be texts. -/
theorem check_secretWithStrayBytes :
    applicationCredentialID ∈ recognisedKeys ∧
      secretWithStrayBytes.stringData.bind (·.find? applicationCredentialID) = none ∧
      secretWithStrayBytes.data.bind (·.find? applicationCredentialID) = some ⟨[0xff]⟩ ∧
      Text.Utf8.decode [0xff] = .error (.invalid 0 1) ∧
      check secretWithStrayBytes (.root "data") = [] := by
  refine ⟨by decide, by decide, by decide, rfl, ?_⟩
  rfl

end Faults

end OpenstackAdmission.Credentials
