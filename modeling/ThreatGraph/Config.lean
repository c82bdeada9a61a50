import ThreatGraph.Duration
import ThreatGraph.Failure
import ThreatGraph.Text.Blank
import ThreatGraph.Text.Quoted
import ThreatGraph.Throttle

/-!
# Configuration

The settings of a client. `Config.validate` refuses settings that cannot work, `Config.toJson` is
the form in which settings are saved, and `Config.description` shows them.
-/

set_option autoImplicit false

namespace ThreatGraph

/-- The settings of a client. -/
structure Config where
  /-- The address of the service, without a version. -/
  baseUrl : String := "https://graph.facebook.com"
  /-- The version of the service. -/
  apiVersion : String := "v19.0"
  /-- The time that each attempt may take. -/
  timeout : Duration := .ofSeconds 30
  /-- Whether to wait and try again once a rate limit is reached. -/
  retryOnRateLimit : Bool := true
  /-- How often to try again. -/
  maxRetries : Nat := 3
  /-- The number of items asked for in a page. -/
  defaultPageSize : Nat := 500
  /-- The number of pages after which to stop. -/
  maxPages : Option Nat := none
  /-- The rate at which requests may be sent. -/
  throttle : Option ThrottleRate := none
  /-- How the client names itself. -/
  userAgent : String := "threatexchange-client/0.1.0"
  deriving DecidableEq, Repr, Inhabited

namespace Config

/-- The settings that hold unless others are given. -/
def standard : Config := {}

/-- Addresses have to be there, and times and sizes cannot be zero. -/
def validate (c : Config) : Except Failure Unit :=
  if isBlankText c.baseUrl then .error (.config "base_url must not be empty")
  else if isBlankText c.apiVersion then .error (.config "api_version must not be empty")
  else if c.timeout.nanos = 0 then .error (.config "timeout must be greater than zero")
  else if c.defaultPageSize = 0 then
    .error (.config "default_page_size must be greater than zero")
  else .ok ()

/-- The form in which settings are saved. Of the time for an attempt it keeps the whole seconds. -/
def toJson (c : Config) : Json :=
  .record
    [("base_url", .string c.baseUrl), ("api_version", .string c.apiVersion),
     ("timeout_secs", .nat c.timeout.wholeSeconds),
     ("retry_on_rate_limit", .bool c.retryOnRateLimit), ("max_retries", .nat c.maxRetries),
     ("default_page_size", .nat c.defaultPageSize), ("max_pages", .option .nat c.maxPages),
     ("throttle", .option ThrottleRate.toJson c.throttle), ("user_agent", .string c.userAgent)]

/-- A truth value in a description. -/
def describeBool (b : Bool) : String := if b then "true" else "false"

/-- The settings of a throttle in a description. -/
def describeThrottle (r : ThrottleRate) : String :=
  describeFields "ThrottleConfig"
    [("requests_per_second", toString r.perSecond), ("burst_size", toString r.burst)]

/-- The description of settings. -/
def description (c : Config) : String :=
  describeFields "ClientConfig"
    [("base_url", quoted c.baseUrl), ("api_version", quoted c.apiVersion),
     ("timeout", c.timeout.text), ("retry_on_rate_limit", describeBool c.retryOnRateLimit),
     ("max_retries", toString c.maxRetries), ("default_page_size", toString c.defaultPageSize),
     ("max_pages", describeOption toString c.maxPages),
     ("throttle", describeOption describeThrottle c.throttle),
     ("user_agent", quoted c.userAgent)]

end Config

end ThreatGraph
