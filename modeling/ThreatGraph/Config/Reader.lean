import ThreatGraph.Config
import ThreatGraph.Yaml

/-!
# Reading a configuration

`Config.ofYaml` reads settings from a YAML document. What the document does not set keeps its
standard value, and what it sets beyond the settings of a client counts for nothing.
-/

set_option autoImplicit false

namespace ThreatGraph

open Yaml

/-- The settings of a throttle, both of which have to be given. -/
def ThrottleRate.ofNode? (d : Document) (node : Node) : Option ThrottleRate := do
  let fields ← d.record? ["requests_per_second", "burst_size"] node
  let number := fun name => d.field? fields name (Document.nat? maxUnsigned32) none
  pure ⟨← number "requests_per_second", ← number "burst_size"⟩

namespace Config

/-- The names of the settings. -/
def fieldNames : List String :=
  ["base_url", "api_version", "timeout_secs", "retry_on_rate_limit", "max_retries",
   "default_page_size", "max_pages", "throttle", "user_agent"]

/-- The settings in a document. -/
def ofDocument? (d : Document) : Option Config := do
  let fields ← d.record? fieldNames d.root
  let text := fun name absent => d.field? fields name Document.text? (some absent)
  let number := fun name absent =>
    d.field? fields name (Document.nat? maxUnsigned32) (some absent)
  pure
    { baseUrl := ← text "base_url" standard.baseUrl
      apiVersion := ← text "api_version" standard.apiVersion
      timeout := ← d.field? fields "timeout_secs"
        (fun d node => (d.nat? maxUnsigned64 node).map Duration.ofSeconds) (some standard.timeout)
      retryOnRateLimit := ← d.field? fields "retry_on_rate_limit" Document.bool?
        (some standard.retryOnRateLimit)
      maxRetries := ← number "max_retries" standard.maxRetries
      defaultPageSize := ← number "default_page_size" standard.defaultPageSize
      maxPages := ← d.field? fields "max_pages"
        (Document.optional? (Document.nat? maxUnsigned64)) (some standard.maxPages)
      throttle := ← d.field? fields "throttle" (Document.optional? ThrottleRate.ofNode?)
        (some standard.throttle)
      userAgent := ← text "user_agent" standard.userAgent }

/-- The settings in a YAML text, if they can be read and can work. -/
def ofYaml (text : String) : Except Failure Config :=
  match (Document.parse? text).bind ofDocument? with
  | none => .error .unreadableYaml
  | some config => config.validate.map fun _ => config

end Config

end ThreatGraph
