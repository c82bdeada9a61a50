import ThreatGraph.Failure
import ThreatGraph.Text.Blank
import ThreatGraph.Text.Quoted

/-!
# Credentials

Who calls the service: an access token, and the identity and secret of an app if they are known.
Descriptions of credentials (`Credentials.description`) show neither the token nor the secret.
-/

set_option autoImplicit false

namespace ThreatGraph

/-- The identity of a caller. -/
structure Credentials where
  accessToken : String
  appId : Option String := none
  appSecret : Option String := none
  deriving DecidableEq, Repr, Inhabited

namespace Credentials

/-- Credentials have to hold a token that is not blank. -/
def validate (c : Credentials) : Except Failure Unit :=
  if isBlankText c.accessToken then .error (.config "access token must not be empty") else .ok ()

/-- What a description shows in place of a secret. -/
def redacted : String := quoted "<redacted>"

/-- The description of credentials. -/
def description (c : Credentials) : String :=
  describeFields "Credentials"
    [("access_token", redacted), ("app_id", describeOption quoted c.appId),
     ("app_secret", describeOption (fun _ => redacted) c.appSecret)]

/-- An optional text: `null` and a value that is not there are both none. -/
def optionalText? : Option Json → Option (Option String)
  | none | some .null => some none
  | some (.string s) => some (some s)
  | some _ => none

/-- Credentials from JSON: an object, or an array of the token, the app and its secret. -/
def ofJson? : Json → Option Credentials
  | .object fields => do
    let token ← (Assoc.lookup? "access_token" fields).bind Json.asString?
    let appId ← optionalText? (Assoc.lookup? "app_id" fields)
    let appSecret ← optionalText? (Assoc.lookup? "app_secret" fields)
    pure ⟨token, appId, appSecret⟩
  | .array (.string token :: rest) => do
    let appId ← optionalText? rest[0]?
    let appSecret ← optionalText? rest[1]?
    if rest.length ≤ 2 then pure ⟨token, appId, appSecret⟩ else none
  | _ => none

end Credentials

end ThreatGraph
