import ThreatGraph.Config.Reader
import ThreatGraph.Proofs.Json.Fields

/-!
# Configurations saved and loaded

A configuration is saved as the compact text of its JSON form, made fit for a YAML stream, and
loaded again from there.

The form keeps of the timeout its whole seconds.  `Config.survives_saving` says that nothing else
is lost, whatever the texts in a configuration contain.
-/

set_option autoImplicit false

namespace ThreatGraph

open Yaml

/-! ## Forms that can be read

A form is read back if its keys are short and its numbers are words, and the form of a configuration
is of this kind whatever the settings are.  Each setting is then found under its key, since the keys
are different, and read by the reader of its type. -/

namespace Json

/-- Digits are characters of a word. -/
theorem isWordChar_of_isDigit {c : Char} (h : isDigit c = true) : isWordChar c = true := by
  have hbounds : '0' ≤ c ∧ c ≤ '9' := by
    by_contra hout
    rw [isDigit, digitValue?, if_neg hout] at h
    cases h
  simp [isWordChar, hbounds]

/-- A number is written as a word. -/
theorem fits_nat (n : Nat) : Fits (nat n) :=
  Fits.number (fun _ hc => isWordChar_of_isDigit (isDigit_of_mem_toString hc)) (toString_ne_empty n)

/-- What may be missing is written as null then. -/
theorem fits_option {α : Type} {encode : α → Json} {o : Option α}
    (h : ∀ a ∈ o, Fits (encode a)) : Fits (option encode o) := by
  cases o with
  | none => exact Fits.null
  | some a => exact h a rfl

/-- A record fits if its values do and its keys are short. -/
theorem fits_record {pairs : List (String × Json)}
    (h : ∀ f ∈ pairs, Fits f.2 ∧ f.1.length ≤ keyLength) : Fits (record pairs) :=
  Fits.object (fun f hf => (h f (Assoc.mem_ofPairs hf)).1)
    fun f hf => (h f (Assoc.mem_ofPairs hf)).2

end Json

theorem ThrottleRate.fits_toJson (r : ThrottleRate) : r.toJson.Fits := by
  refine Json.fits_record ?_
  simp only [List.forall_mem_cons]
  exact ⟨⟨Json.fits_nat _, by decide⟩, ⟨Json.fits_nat _, by decide⟩, nofun⟩

/-- The rate of a throttle is read from its form. -/
theorem ThrottleRate.ofNode?_toJson (d : Document) {r : ThrottleRate}
    (hrate : r.perSecond ≤ maxUnsigned32) (hburst : r.burst ≤ maxUnsigned32) :
    ThrottleRate.ofNode? d r.toJson.node = some r := by
  have hkeys : ([("requests_per_second", Json.nat r.perSecond),
      ("burst_size", Json.nat r.burst)].map (·.1)).Nodup := by
    change ["requests_per_second", "burst_size"].Nodup
    decide
  have hlimit : maxUnsigned32 ≤ maxUnsigned64 := by decide
  rw [ThrottleRate.ofNode?, ThrottleRate.toJson, Json.record?_record, Option.bind_eq_bind,
    Option.bind_some]
  simp only
  rw [Json.field?_record d hkeys (by decide) rfl, Json.field?_record d hkeys (by decide) rfl,
    Json.nat?_node d hlimit hrate, Json.nat?_node d hlimit hburst]
  rfl

/-- Where a throttle may be missing, one that is there is read as itself. -/
theorem ThrottleRate.optional?_toJson (d : Document) {r : ThrottleRate}
    (hrate : r.perSecond ≤ maxUnsigned32) (hburst : r.burst ≤ maxUnsigned32) :
    d.optional? ThrottleRate.ofNode? r.toJson.node = some (some r) := by
  change (ThrottleRate.ofNode? d r.toJson.node).map some = _
  rw [ThrottleRate.ofNode?_toJson d hrate hburst, Option.map_some]

namespace Config

/-- The numbers in a configuration fit the widths that they are given: 32 bits, and 64 for the
seconds of the timeout and the number of pages. -/
structure InRange (c : Config) : Prop where
  seconds : c.timeout.wholeSeconds ≤ maxUnsigned64
  maxRetries : c.maxRetries ≤ maxUnsigned32
  defaultPageSize : c.defaultPageSize ≤ maxUnsigned32
  maxPages : ∀ n ∈ c.maxPages, n ≤ maxUnsigned64
  throttle : ∀ r ∈ c.throttle, r.perSecond ≤ maxUnsigned32 ∧ r.burst ≤ maxUnsigned32

/-- A configuration as a document. -/
def saved (c : Config) : String := Json.portable c.toJson.compact

/-- A configuration with no more of the timeout than its whole seconds. -/
def inSeconds (c : Config) : Config := { c with timeout := .ofSeconds c.timeout.wholeSeconds }

/-- The form of every configuration can be read. -/
theorem fits_toJson (c : Config) : c.toJson.Fits := by
  refine Json.fits_record ?_
  simp only [List.forall_mem_cons]
  exact ⟨⟨.string _, by decide⟩, ⟨.string _, by decide⟩, ⟨Json.fits_nat _, by decide⟩,
    ⟨.bool _, by decide⟩, ⟨Json.fits_nat _, by decide⟩, ⟨Json.fits_nat _, by decide⟩,
    ⟨Json.fits_option fun _ _ => Json.fits_nat _, by decide⟩,
    ⟨Json.fits_option fun r _ => r.fits_toJson, by decide⟩, ⟨.string _, by decide⟩, nofun⟩

/-- The fields of the form of a configuration. -/
def entries (c : Config) : List (String × Json) :=
  [("base_url", .string c.baseUrl), ("api_version", .string c.apiVersion),
   ("timeout_secs", .nat c.timeout.wholeSeconds),
   ("retry_on_rate_limit", .bool c.retryOnRateLimit), ("max_retries", .nat c.maxRetries),
   ("default_page_size", .nat c.defaultPageSize), ("max_pages", .option .nat c.maxPages),
   ("throttle", .option ThrottleRate.toJson c.throttle), ("user_agent", .string c.userAgent)]

variable {c : Config}

/-- Each setting is read from its field. -/
theorem ofDocument?_of_root (h : c.InRange) {d : Document} (hroot : d.root = c.toJson.node) :
    ofDocument? d = some c.inSeconds := by
  have hkeys : (c.entries.map (·.1)).Nodup := by
    change fieldNames.Nodup
    decide
  have hrecord : d.record? fieldNames d.root =
      some (Json.known fieldNames (Assoc.ofPairs c.entries)) := by
    rw [hroot]
    exact Json.record?_record d fieldNames c.entries
  generalize hknown : Json.known fieldNames (Assoc.ofPairs c.entries) = known at hrecord
  have hfield : ∀ {α : Type} (name : String) (v : Json) (read : Document → Node → Option α)
      (absent : Option α), fieldNames.contains name = true →
        Assoc.lookup? name c.entries = some v → d.field? known name read absent = read d v.node :=
    fun name v read absent hname hv => hknown ▸ Json.field?_record d hkeys hname hv read absent
  have hlimit : maxUnsigned32 ≤ maxUnsigned64 := by decide
  have hpages := Json.optional?_node d fun n hn =>
    Json.optional?_nat d (Nat.le_refl maxUnsigned64) (h.maxPages n hn)
  have hthrottle := Json.optional?_node d fun r hr =>
    ThrottleRate.optional?_toJson d (h.throttle r hr).1 (h.throttle r hr).2
  have hseconds := Json.nat?_node d (Nat.le_refl maxUnsigned64) h.seconds
  simp only [ofDocument?, hrecord, Option.bind_eq_bind, Option.bind_some,
    hfield "base_url" (.string c.baseUrl) _ _ (by decide) rfl,
    hfield "api_version" (.string c.apiVersion) _ _ (by decide) rfl,
    hfield "timeout_secs" (.nat c.timeout.wholeSeconds) _ _ (by decide) rfl,
    hfield "retry_on_rate_limit" (.bool c.retryOnRateLimit) _ _ (by decide) rfl,
    hfield "max_retries" (.nat c.maxRetries) _ _ (by decide) rfl,
    hfield "default_page_size" (.nat c.defaultPageSize) _ _ (by decide) rfl,
    hfield "max_pages" (.option .nat c.maxPages) _ _ (by decide) rfl,
    hfield "throttle" (.option ThrottleRate.toJson c.throttle) _ _ (by decide) rfl,
    hfield "user_agent" (.string c.userAgent) _ _ (by decide) rfl, Json.text?_node,
    Json.bool?_node, Json.nat?_node d hlimit h.maxRetries,
    Json.nat?_node d hlimit h.defaultPageSize, hseconds, hpages, hthrottle, Option.map_some]
  rfl

/-! ## Loading what was saved

Loading checks the settings once more.  All of them pass as they did before, but for a timeout of
less than a second, of which nothing is saved. -/

/-- Settings can work if the two texts are not blank and the two numbers not zero. -/
theorem validate_eq_ok_iff : c.validate = .ok () ↔
    ¬isBlankText c.baseUrl = true ∧ ¬isBlankText c.apiVersion = true ∧ c.timeout.nanos ≠ 0 ∧
      c.defaultPageSize ≠ 0 := by
  rw [validate]
  split
  · next hbase => simp [hbase]
  split
  · next hversion => simp [hversion]
  split
  · next htimeout => simp [htimeout]
  split
  · next hsize => simp [hsize]
  · next hbase hversion htimeout hsize =>
    exact iff_of_true rfl ⟨hbase, hversion, htimeout, hsize⟩

/-- A configuration that can work still does without the fraction of the last second of its
timeout, unless there is nothing else. -/
theorem validate_inSeconds (hvalid : c.validate = .ok ()) :
    c.inSeconds.validate =
      if c.timeout.wholeSeconds = 0 then .error (.config "timeout must be greater than zero")
      else .ok () := by
  obtain ⟨hbase, hversion, -, hsize⟩ := validate_eq_ok_iff.1 hvalid
  have hnanos : c.inSeconds.timeout.nanos = 0 ↔ c.timeout.wholeSeconds = 0 := by
    change c.timeout.wholeSeconds * Duration.second = 0 ↔ _
    rw [Nat.mul_eq_zero]
    exact or_iff_left (by decide)
  change (if isBlankText c.baseUrl = true then _ else if isBlankText c.apiVersion = true then _
    else if c.inSeconds.timeout.nanos = 0 then _ else if c.defaultPageSize = 0 then _ else _) = _
  rw [if_neg hbase, if_neg hversion, if_neg hsize]
  exact if_congr hnanos rfl rfl

/-- What is loaded of a saved configuration. -/
theorem ofYaml_saved (h : c.InRange) (hvalid : c.validate = .ok ()) :
    ofYaml c.saved =
      if c.timeout.wholeSeconds = 0 then .error (.config "timeout must be greater than zero")
      else .ok c.inSeconds := by
  have hparse : Document.parse? c.saved = some ⟨c.toJson.node, Anchors.empty⟩ :=
    Json.parse?_portable c.fits_toJson nofun
  rw [ofYaml, hparse, Option.bind_some, ofDocument?_of_root h rfl]
  simp only [validate_inSeconds hvalid]
  split <;> rfl

/-- Nothing is lost of a timeout exactly if it is a whole number of seconds. -/
theorem inSeconds_eq_self_iff : c.inSeconds = c ↔ ∃ n, c.timeout = .ofSeconds n := by
  constructor
  · intro h
    exact ⟨c.timeout.wholeSeconds, (congrArg timeout h).symm⟩
  · rintro ⟨n, hn⟩
    have hwhole : Duration.ofSeconds c.timeout.wholeSeconds = c.timeout := by
      rw [hn]
      change Duration.ofSeconds (n * Duration.second / Duration.second) = _
      rw [Nat.mul_div_cancel n (by decide : 0 < Duration.second)]
    rw [inSeconds, hwhole]

/-- **A configuration survives being saved and loaded.**  Let the numbers of a configuration fit
their widths, and let it be one that can work.  Its saved form is loaded as the configuration itself
exactly if the timeout is a whole number of seconds.  Otherwise the timeout has lost its fraction of
a second, and with nothing left of it the form is refused.  All other settings are as they were,
whatever their texts contain.  The saved form is the compact JSON text, unless a line break or
another character that cannot stand in a stream has to be escaped there. -/
theorem survives_saving (h : c.InRange) (hvalid : c.validate = .ok ()) :
    (ofYaml c.saved = .ok c ↔ ∃ n, c.timeout = .ofSeconds n) ∧
      (0 < c.timeout.wholeSeconds → ofYaml c.saved = .ok c.inSeconds) ∧
      (c.timeout.wholeSeconds = 0 →
        ofYaml c.saved = .error (.config "timeout must be greater than zero")) ∧
      ((∀ ch ∈ c.toJson.compact.toList, isInline ch = true) → c.saved = c.toJson.compact) := by
  have hload := ofYaml_saved h hvalid
  refine ⟨?_, fun hpos => ?_, fun hzero => ?_, Json.portable_eq_self⟩
  · rw [← inSeconds_eq_self_iff, hload]
    split
    -- A configuration that can work has a timeout of more than nothing.
    · next hzero =>
      refine iff_of_false nofun fun hself => (validate_eq_ok_iff.1 hvalid).2.2.1 ?_
      have hnanos : c.timeout.wholeSeconds * Duration.second = c.timeout.nanos :=
        congrArg (fun c => c.timeout.nanos) hself
      rw [← hnanos, hzero, Nat.zero_mul]
    · exact ⟨Except.ok.inj, congrArg _⟩
  · rw [hload, if_neg (Nat.ne_of_gt hpos)]
  · rw [hload, if_pos hzero]

/-- A configuration of which no setting is a standard one, with texts that have to be escaped. -/
def unusual : Config where
  baseUrl := "http://h/\"\\\x85"
  apiVersion := "# \u2028: null"
  timeout := .ofSeconds 7
  retryOnRateLimit := false
  maxRetries := 0
  defaultPageSize := 20
  maxPages := some 3
  throttle := some ⟨2, 5⟩
  userAgent := " ~\n"

/-- Its texts are saved and loaded as they are. -/
theorem survives_saving_of_unusual :
    (unusual.InRange ∧ unusual.validate = .ok ()) ∧ ofYaml unusual.saved = .ok unusual := by
  have hrange : unusual.InRange :=
    ⟨by decide, by decide, by decide, fun n hn => Option.some.inj hn ▸ by decide,
      fun r hr => Option.some.inj hr ▸ by decide⟩
  have hvalid : unusual.validate = .ok () :=
    validate_eq_ok_iff.2 ⟨by decide, by decide, by decide, by decide⟩
  exact ⟨⟨hrange, hvalid⟩, (survives_saving hrange hvalid).1.2 ⟨7, rfl⟩⟩

/-- A timeout of half a second works, and what is saved of it cannot be loaded. -/
theorem half_second_is_not_loaded :
    (InRange { timeout := .ofMillis 500 } ∧ validate { timeout := .ofMillis 500 } = .ok ()) ∧
      ofYaml (saved { timeout := .ofMillis 500 }) =
        .error (.config "timeout must be greater than zero") := by
  have hrange : InRange { timeout := .ofMillis 500 } :=
    ⟨by decide, by decide, by decide, nofun, nofun⟩
  have hvalid : validate { timeout := .ofMillis 500 } = .ok () :=
    validate_eq_ok_iff.2 ⟨by decide, by decide, by decide, by decide⟩
  refine ⟨⟨hrange, hvalid⟩, ?_⟩
  rw [ofYaml_saved hrange hvalid]
  exact if_pos rfl

end Config

end ThreatGraph
