import OpenstackAdmission.Manifest.Secret
import OpenstackAdmission.Net.Url
import OpenstackAdmission.Report.FieldError
import OpenstackAdmission.Text.Blank

/-!
# Credentials

A secret with credentials holds a domain, a tenant, and either a user with a password or an application
credential. The latter is named by its ID, or by its name and the user that owns it.

The operation `validate_credentials_secret` with `validate_value` (specification, section 12.5).
-/

namespace OpenstackAdmission.Credentials

def domainName : String := "domainName"

def tenantName : String := "tenantName"

def username : String := "username"

def password : String := "password"

def applicationCredentialID : String := "applicationCredentialID"

def applicationCredentialName : String := "applicationCredentialName"

def applicationCredentialSecret : String := "applicationCredentialSecret"

def authURL : String := "authURL"

/-- Checks the value of a key: bytes are a text, a required value is not empty, and no white space stands
at its ends. -/
def checkValue (secret : Secret) (path : FieldPath) (required : Bool) (key : String) :
    List FieldError :=
  let path := path.key key
  let name := Text.quoted key
  match secret.value key with
  | .error fault =>
    [.invalid path .null
      ("field " ++ name ++ " in secret must be valid UTF-8: " ++ fault.message)]
  | .ok none => errorIf required (.required path ("missing " ++ name ++ " field in secret"))
  | .ok (some value) =>
    if value = "" then
      errorIf required (.required path ("field " ++ name ++ " in secret cannot be empty"))
    else
      errorIf (Text.blankEdged value)
        (.invalid path (.str value)
          ("field " ++ name ++ " in secret must not contain leading or trailing whitespace"))

/-- Checks an application credential. -/
def checkApplicationCredential (secret : Secret) (path : FieldPath) : List FieldError :=
  let hasId := (secret.nonEmptyValue? applicationCredentialID).isSome
  let hasName := (secret.nonEmptyValue? applicationCredentialName).isSome
  errorIf (secret.nonEmptyValue? password).isSome
    (.forbidden (path.key password)
      ("must not be set together with " ++ Text.quoted applicationCredentialSecret))
  ++ errorIf (!hasId && !hasName)
    (.required (path.key applicationCredentialID)
      ("either " ++ Text.quoted applicationCredentialID ++ " or "
        ++ Text.quoted applicationCredentialName ++ " must be set for application credentials"))
  ++ errorIf (hasName && !hasId && (secret.nonEmptyValue? username).isNone)
    (.required (path.key username)
      ("must be set when using " ++ Text.quoted applicationCredentialName))
  ++ [username, applicationCredentialID, applicationCredentialName,
      applicationCredentialSecret].flatMap (checkValue secret path false)

/-- Checks the address of the identity service. -/
def checkAuthURL (secret : Secret) (path : FieldPath) : List FieldError :=
  checkValue secret path false authURL
  ++ match secret.nonEmptyValue? authURL with
    | none => []
    | some url =>
      match Net.Url.check url with
      | .ok () => []
      | .error e =>
        [.invalid (path.key authURL) (.str url) ("must be a valid URL: " ++ e.message)]

/-- Checks a secret with credentials; `path` leads to its values. -/
def check (secret : Secret) (path : FieldPath) : List FieldError :=
  [domainName, tenantName].flatMap (checkValue secret path true)
  ++ (if (secret.nonEmptyValue? applicationCredentialSecret).isSome then
      checkApplicationCredential secret path
    else [username, password].flatMap (checkValue secret path true))
  ++ checkAuthURL secret path

end OpenstackAdmission.Credentials
