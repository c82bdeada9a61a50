import ThreatGraph.Proofs.CommandLine.Asking
import ThreatGraph.Proofs.Pager.Ending
import ThreatGraph.Proofs.Pager.Mapping
import ThreatGraph.Proofs.Program.Layout

/-!
# What the program writes

A command that lists records writes what a pager gives.  The program makes the client, and then goes
through the pager of the same collection that anyone else would get from that client: what it writes
is one record for each item, in order, up to the end of the items or the first failure.

* `Invocation.Equips` says which client a command has, from its settings, the file that they name
  and the version that wins over the file.  `Invocation.client_eq_ok_iff` says that there is no
  other.
* `Command.Lists` says which collection a command lists, with the limit and the search of the
  command.
* `Program.Writes` says what an output shows of some items, in terms of the layouts of their records
  (`Json.LaidOut`).
* `Program.Transcribes` relates the calls of a pager to what a run comes to, and
  `Program.run_transcribes` says that runs are so related.  The command itself is the one that the
  words of the command line ask for (`CommandLine.Asks`), so the filters of the search are those
  that were typed.
-/

set_option autoImplicit false

namespace ThreatGraph

variable {α : Type}

/-! ## The client of a command

Which client a command has is told by what it would take to have it: a token, a file that can be
read if one is named, and settings that can work.  The program makes and checks these in some order,
and with its own failures, but whether there is a client, and which, does not depend on the
order. -/

/-- Settings that can work can with another version, if that is not blank. -/
theorem Config.validate_withVersion {config : Config} (h : config.validate = .ok ())
    (version : String) : ({ config with apiVersion := version } : Config).validate = .ok () ↔
      isBlankText version = false := by
  rw [validate] at h ⊢
  grind

/-- The standard settings can work. -/
theorem Config.validate_standard : standard.validate = .ok () := rfl

/-- Settings that are read can work. -/
theorem Config.validate_of_yaml {text : String} {config : Config} (h : ofYaml text = .ok config) :
    config.validate = .ok () := by
  rw [ofYaml] at h
  split at h
  · cases h
  · next config' _ =>
    cases hvalid : config'.validate with
    | error failure => simp [hvalid, Except.map] at h
    | ok _ =>
      rw [hvalid] at h
      cases h
      exact hvalid

/-- A client is made of credentials and settings that can work, and of no others. -/
theorem Client.create_eq_ok_iff {credentials : Credentials} {config : Config} {c : Client} :
    create credentials config = .ok c ↔
      isBlankText credentials.accessToken = false ∧ config.validate = .ok () ∧
        config.userAgent.toList.all isHeaderChar = true ∧ c = ⟨credentials, config⟩ := by
  rw [create, Credentials.validate]
  cases isBlankText credentials.accessToken <;> cases config.validate <;>
    cases config.userAgent.toList.all isHeaderChar <;>
    simp [bind, Except.bind, pure, Except.pure, throw, throwThe, MonadExceptOf.throw, eq_comm]

namespace Invocation

/-- The settings that a command starts from: those in the file that it names, or the standard
ones. -/
inductive Settings (i : Invocation) (w : World) : Config → Prop where
  | standard (h : i.config = none) : Settings i w .standard
  | file {path : String} {bytes : List UInt8} {chars : List Char} {config : Config}
      (h : i.config = some path) (hread : w.files path = .ok bytes)
      (hdecode : decodeStrict? bytes = some chars)
      (hyaml : Config.ofYaml (String.ofList chars) = .ok config) : Settings i w config

/-- The client that a command has: it bears the token and the settings of the command, and all of
them can work. -/
structure Equips (i : Invocation) (w : World) (c : Client) : Prop where
  credentials_eq : c.credentials = ⟨i.accessToken.getD "", i.appId, none⟩
  config_eq : ∃ config, Settings i w config ∧
    c.config = { config with apiVersion := i.apiVersion.getD config.apiVersion }
  token : isBlankText (i.accessToken.getD "") = false
  version : ∀ version ∈ i.apiVersion, isBlankText version = false
  userAgent : c.config.userAgent.toList.all Client.isHeaderChar = true

/-- The bytes of a file of settings are read as text in UTF-8. -/
theorem readConfig_of_read {path : String} {w : World} {bytes : List UInt8}
    (h : w.files path = .ok bytes) : readConfig path w =
      match decodeStrict? bytes with
      | some chars => Config.ofYaml (String.ofList chars)
      | none => .error (.io "stream did not contain valid UTF-8") := by
  rw [readConfig, h]
  show (match decodeStrict? bytes with
    | some chars => Config.ofYaml (String.ofList chars)
    | none => throw (Failure.io "stream did not contain valid UTF-8")) = _
  cases decodeStrict? bytes <;> rfl

theorem readConfig_eq_ok_iff {path : String} {w : World} {config : Config} :
    readConfig path w = .ok config ↔ ∃ bytes chars, w.files path = .ok bytes ∧
      decodeStrict? bytes = some chars ∧ Config.ofYaml (String.ofList chars) = .ok config := by
  cases hread : w.files path with
  | error reason =>
    have hfail : readConfig path w = .error (.io reason) := by
      rw [readConfig, hread]
      rfl
    simp [hfail]
  | ok bytes =>
    rw [readConfig_of_read hread]
    cases hdecode : decodeStrict? bytes <;> simp [hdecode]

/-- Settings that a command starts from can work. -/
theorem Settings.validate {i : Invocation} {w : World} {config : Config}
    (h : Settings i w config) : config.validate = .ok () := by
  cases h with
  | standard _ => exact Config.validate_standard
  | file _ _ _ hyaml => exact Config.validate_of_yaml hyaml

/-- The settings that a command starts from, if there are any. -/
def settings (i : Invocation) (w : World) : Except Failure Config :=
  match i.config with
  | some path => readConfig path w
  | none => .ok .standard

theorem settings_eq_ok_iff {i : Invocation} {w : World} {config : Config} :
    i.settings w = .ok config ↔ Settings i w config := by
  rw [settings]
  cases hconfig : i.config with
  | none =>
    refine ⟨fun h => ?_, fun h => ?_⟩
    · cases h
      exact .standard hconfig
    · cases h with
      | standard _ => rfl
      | file h => simp [hconfig] at h
  | some path =>
    refine ⟨fun h => ?_, fun h => ?_⟩
    · obtain ⟨bytes, chars, hread, hdecode, hyaml⟩ := readConfig_eq_ok_iff.1 h
      exact .file hconfig hread hdecode hyaml
    · cases h with
      | standard h => simp [hconfig] at h
      | file h hread hdecode hyaml =>
        obtain rfl : path = _ := Option.some.inj (hconfig.symm.trans h)
        exact readConfig_eq_ok_iff.2 ⟨_, _, hread, hdecode, hyaml⟩

/-- A command without a token has no client. -/
theorem client_of_no_token {i : Invocation} (h : i.accessToken.getD "" = "") (w : World) :
    i.client w = .error (.config missingToken) := by
  rw [client]
  rw [if_pos h]
  rfl

/-- A command with a token has the client that its settings make. -/
theorem client_of_token {i : Invocation} (h : i.accessToken.getD "" ≠ "") (w : World) :
    i.client w = (i.settings w).bind fun config =>
      Client.create ⟨i.accessToken.getD "", i.appId, none⟩
        { config with apiVersion := i.apiVersion.getD config.apiVersion } := by
  rw [client, settings]
  rw [if_neg h]
  cases i.config <;> rfl

/-- **A command has a client** exactly if there is one that it may be equipped with, and it is that
one. -/
theorem client_eq_ok_iff {i : Invocation} {w : World} {c : Client} :
    i.client w = .ok c ↔ Equips i w c := by
  by_cases htoken : i.accessToken.getD "" = ""
  · rw [client_of_no_token htoken]
    refine ⟨fun h => (nomatch h), fun h => ?_⟩
    have hblank := h.token
    rw [htoken] at hblank
    exact absurd hblank (by decide)
  -- Settings that can work still can with the version of the command, unless that is blank.
  have hversion {config : Config} (hconfig : config.validate = .ok ()) :
      ({ config with apiVersion := i.apiVersion.getD config.apiVersion } : Config).validate = .ok ()
        ↔ ∀ version ∈ i.apiVersion, isBlankText version = false := by
    cases i.apiVersion with
    | none => simpa using hconfig
    | some version => simpa using Config.validate_withVersion hconfig version
  rw [client_of_token htoken]
  refine ⟨fun h => ?_, fun h => ?_⟩
  · cases hsettings : i.settings w with
    | error failure =>
      rw [hsettings] at h
      cases h
    | ok config =>
      rw [hsettings] at h
      obtain ⟨hblank, hvalid, hagent, rfl⟩ := Client.create_eq_ok_iff.1 h
      have hfrom := settings_eq_ok_iff.1 hsettings
      exact ⟨rfl, ⟨config, hfrom, rfl⟩, hblank, (hversion hfrom.validate).1 hvalid, hagent⟩
  · obtain ⟨config, hfrom, hconfig⟩ := h.config_eq
    rw [settings_eq_ok_iff.2 hfrom]
    refine Client.create_eq_ok_iff.2 ⟨h.token, (hversion hfrom.validate).2 h.version, ?_, ?_⟩
    · rw [← hconfig]
      exact h.userAgent
    · rw [← hconfig, ← h.credentials_eq]

end Invocation

/-! ## What a command lists

Each command that lists something names a collection, a limit and a form to write records in.  The
relation gives them independently of the program, so that the pager of a command can be compared
with the pager that a caller of the client gets. -/

/-- The collection that a command lists, with the limit on its items and the form in which an item
is written. -/
inductive Command.Lists : Command → {α : Type} → Collection α → Option Nat → (α → Json) → Prop where
  | descriptors (search : DescriptorSearch) :
      Lists (.descriptors search) (.descriptors search) search.limit Descriptor.toJson
  | indicators (search : IndicatorSearch) :
      Lists (.indicators search) (.indicators search) search.limit Indicator.toJson
  | tags (text : String) (limit : Option Nat) :
      Lists (.tags text limit) (.tags text) limit Tag.toJson
  | members (limit : Option Nat) : Lists (.members limit) (.members []) limit Member.toJson
  | updates (group : String) (query : UpdatesQuery) :
      Lists (.updates group query) (.updates group query) query.limit Update.toJson

namespace Command

/-- A command that does not ask who is calling lists a collection. -/
theorem exists_lists {command : Command} (h : command ≠ .whoami) :
    ∃ (α : Type) (k : Collection α) (limit : Option Nat) (encode : α → Json),
      command.Lists k limit encode := by
  cases command with
  | whoami => exact absurd rfl h
  | descriptors search => exact ⟨_, _, _, _, .descriptors search⟩
  | indicators search => exact ⟨_, _, _, _, .indicators search⟩
  | tags text limit => exact ⟨_, _, _, _, .tags text limit⟩
  | members limit => exact ⟨_, _, _, _, .members limit⟩
  | updates group query => exact ⟨_, _, _, _, .updates group query⟩

/-- The records of a command are those of a new pager over the collection that it lists. -/
theorem Lists.records_eq {command : Command} {k : Collection α} {limit : Option Nat}
    {encode : α → Json} (h : command.Lists k limit encode) (c : Client) :
    ∃ endpoint params transform,
      k.pager c limit = .ok (.start c endpoint params limit transform) ∧
      Invocation.records? c command =
        some ((Pager.start c endpoint params limit transform).map encode) := by
  cases h <;> exact ⟨_, _, _, rfl, rfl⟩

end Command

/-! ## The log of a traversal

The program notes how many records it wrote.  The client and the pager write to the same log, so
their entries have to be told apart by where they come from. -/

/-- The entries that a part of the program made in the log. -/
def World.notesOf (origin : Origin) (w : World) : List Note :=
  w.log.filter fun note => note.origin = origin

/-- Going through a pager makes no entry in the name of the program. -/
theorem Pager.notesOf_runner_drain (p : Pager α) (w : World) :
    (p.drain w).2.2.2.notesOf .runner = w.notesOf .runner := by
  obtain ⟨items, fault, p', events, hrun, houtlay⟩ := p.drain_runsTo w
  have hworld := congrArg Prod.snd hrun.eq
  change (p.drain w).2.2.2 = _ at hworld
  have hnone : (Event.notedIn events).filter (fun note => note.origin = .runner) = [] := by
    refine List.filter_eq_nil_iff.2 fun note hmem => ?_
    rcases houtlay.notes note hmem with horigin | horigin <;> simp [horigin]
  rw [hworld, World.notesOf, World.log_advance, List.filter_append, hnone, List.append_nil]
  rfl

/-- Where no rules are given the log is shown up to the level of the command. -/
theorem LogFilter.shows_of_no_rules (verbose : Bool) (note : Note) :
    (Program.filter "" verbose).shows note =
      decide (note.level.rank ≤ if verbose then Level.debug.rank else Level.info.rank) := by
  have hparse : parse "" = [] := by decide +kernel
  rw [Program.filter, hparse]
  rfl

namespace Program

/-! ## Runs

A run writes while it goes through the pager, and stops at the end or at a failure.  `Transcribes`
has one case for each, and says of it what was written, what the log says last, and in which world
the run ends.  What is written is given by the layouts and not by the function that renders a
record. -/

/-- What is written of some items: a line for each of them, in order. -/
def lines (layout : Layout) (encode : α → Json) (items : List α) : String :=
  String.join (items.map fun item => Invocation.render layout (encode item) ++ "\n")

/-- The output is the records of some items in order, each as it is to be laid out and with a line
feed after it. -/
def Writes (layout : Layout) (encode : α → Json) (items : List α) (output : String) : Prop :=
  ∃ texts, List.Forall₂ (fun item text => Json.LaidOut layout 0 (encode item) text) items texts ∧
    output.toList = texts.flatMap (· ++ ['\n'])

/-- The lines of some items are their records, each laid out and followed by a line feed. -/
theorem writes_lines (layout : Layout) (encode : α → Json) (items : List α) :
    Writes layout encode items (lines layout encode items) := by
  refine ⟨items.map fun item => (Invocation.render layout (encode item)).toList, ?_, ?_⟩
  · exact (forall₂_iff_map (R := fun item text => Json.LaidOut layout 0 (encode item) text)
      fun item _ text => Json.laidOut_iff).2 rfl
  · induction items with
    | nil => rfl
    | cons item items ih =>
      rw [lines, List.map_cons, String.join_cons, String.toList_append, String.toList_append,
        List.map_cons, List.flatMap_cons, ← ih]
      rfl

/-- A run writes what the calls of a pager give, one after the other, up to the first that gives no
item. -/
inductive Transcribes (layout : Layout) (encode : α → Json) (p : Pager α) (w : World)
    (r : Result) : Prop where
  /-- The items come to their end, and the log says how many there were and on how many pages. -/
  | whole {items : List α} {pages : List (Page α)} {p' : Pager α} {w' : World}
      (calls : p.calls w (items.length + 1) = ⟨items.map (.ok ∘ some) ++ [.ok none], p', w'⟩)
      (fetched : Pager.Moment p pages (items.map (.ok ∘ some) ++ [.ok none]) p')
      (output : Writes layout encode items r.output)
      (error : r.error = none)
      (exitCode : r.exitCode = 0)
      (world : r.world = w'.note .info .runner ("Wrote " ++ toString items.length
        ++ " records from " ++ toString pages.length ++ " pages"))
      (quiet : w'.notesOf .runner = w.notesOf .runner)
  /-- A call fails after some items, which are written, and the log has nothing more. -/
  | broken {items : List α} {failure : Failure} {p' : Pager α} {w' : World}
      (calls : p.calls w (items.length + 1) =
        ⟨items.map (.ok ∘ some) ++ [.error failure], p', w'⟩)
      (output : Writes layout encode items r.output)
      (error : r.error = some ("Error: " ++ failure.message ++ "\n"))
      (exitCode : r.exitCode = 1)
      (world : r.world = w')
      (quiet : w'.notesOf .runner = w.notesOf .runner)

/-- What a run of a command is to those who start the program, with the log as it is shown. -/
def report (run : ThreatGraph.Run) (log : List Note) : Result :=
  ⟨if run.failure.isSome then 1 else 0, run.output,
    run.failure.map fun failure => "Error: " ++ failure.message ++ "\n", log, run.world⟩

/-- A run of a command line that is read comes to what its command comes to. -/
theorem run_of_parse {env : Environment} {args : List String} {i : Invocation}
    (hparse : CommandLine.parse env args = .ok i) (rules : String) (w : World) :
    run env rules args w =
      report (i.run w) ((i.run w).world.log.filter (filter rules i.verbose).shows) := by
  rw [run, hparse, report]
  dsimp only
  cases (i.run w).failure <;> rfl

/-- What is written of the records of a pager, in terms of its items. -/
theorem writeAll_map (layout : Layout) (encode : α → Json) (p : Pager α) (w : World) :
    Invocation.writeAll layout (p.map encode) w =
      ⟨lines layout encode (p.drain w).1, (p.drain w).2.1,
        match (p.drain w).2.1 with
        | some _ => (p.drain w).2.2.2
        | none => (p.drain w).2.2.2.note .info .runner
            (Invocation.writtenNote (p.drain w).2.2.1.progress)⟩ := by
  rw [Invocation.writeAll, Pager.drain_map]
  dsimp only
  rw [List.map_map]
  cases (p.drain w).2.1 <;> rfl

/-- Writing the records of a new pager transcribes it. -/
theorem transcribes_writeAll {p : Pager α} {c : Client} {endpoint : String} {params : Params}
    {limit : Option Nat} {transform : Json → α}
    (hnew : p = .start c endpoint params limit transform)
    (layout : Layout) (encode : α → Json) (w : World) (log : List Note) :
    Transcribes layout encode p w (report (Invocation.writeAll layout (p.map encode) w) log) := by
  have hcalls := p.calls_of_drain w
  have hquiet := p.notesOf_runner_drain w
  obtain ⟨pages, hmoment⟩ := p.moment_calls w ((p.drain w).1.length + 1)
  rw [hcalls] at hmoment
  rw [writeAll_map]
  generalize p.drain w = drained at hcalls hquiet hmoment ⊢
  obtain ⟨items, fault, p', w'⟩ := drained
  cases fault with
  | some failure => exact .broken hcalls (writes_lines layout encode items) rfl rfl rfl hquiet
  | none =>
    have hfaithful := (hnew ▸ hmoment).faithful
    refine .whole hcalls hmoment (writes_lines layout encode items) rfl rfl ?_ hquiet
    have hyielded : p'.progress.yielded = items.length := by
      rw [hfaithful.yielded_eq]
      simp [Pager.given]
    show w'.note .info .runner (Invocation.writtenNote p'.progress) = _
    rw [Invocation.writtenNote, hyielded, hfaithful.pages_eq]

/-- **The program agrees with its pagers.**  For every command line that asks for a list of records,
every content of the files, every network and every script:
* the command and its settings are those that the words of the command line ask for, filter by
  filter;
* with the client that its settings make, the run transcribes the pager of that client over the
  collection that the command lists, with its limit;
* if its settings make no client, because the token is blank, or the file that they name cannot be
  read or holds no usable settings, or the version is blank, then nothing is written, nothing
  happens in the world, and the run fails;
* the log is shown as far as its filter lets it through, which without rules goes by the level. -/
theorem run_transcribes {env : Environment} {args : List String} {i : Invocation}
    (hparse : CommandLine.parse env args = .ok i) (hlists : i.command ≠ .whoami) (rules : String)
    (w : World) :
    let r := run env rules args w
    CommandLine.Asks env args i ∧
    (∀ c, i.Equips w c → ∃ (α : Type) (k : Collection α) (limit : Option Nat) (encode : α → Json)
      (p : Pager α), i.command.Lists k limit encode ∧ k.pager c limit = .ok p ∧
        Transcribes i.layout encode p w r) ∧
    ((¬ ∃ c, i.Equips w c) → r.output = "" ∧ r.world = w ∧ r.exitCode = 1 ∧
      ∃ failure, i.client w = .error failure ∧
        r.error = some ("Error: " ++ failure.message ++ "\n")) ∧
    (isBlankText (i.accessToken.getD "") = true ∨ (∀ config, ¬ i.Settings w config) ∨
      (∃ version ∈ i.apiVersion, isBlankText version = true) → ¬ ∃ c, i.Equips w c) ∧
    r.log = r.world.log.filter (filter rules i.verbose).shows ∧
    (rules = "" → r.log = r.world.log.filter fun note =>
      note.level.rank ≤ if i.verbose then Level.debug.rank else Level.info.rank) := by
  intro r
  have hr : r = report (i.run w) ((i.run w).world.log.filter (filter rules i.verbose).shows) :=
    run_of_parse hparse rules w
  have hlog : r.log = r.world.log.filter (filter rules i.verbose).shows := by rw [hr, report]
  refine ⟨CommandLine.asks_of_parse hparse, fun c hc => ?_, fun hnone => ?_, ?_, hlog,
    fun hrules => ?_⟩
  · obtain ⟨α, k, limit, encode, h⟩ := Command.exists_lists hlists
    obtain ⟨endpoint, params, transform, hpager, hrecords⟩ := h.records_eq c
    refine ⟨α, k, limit, encode, _, h, hpager, ?_⟩
    have hrun : i.run w = Invocation.writeAll i.layout
        ((Pager.start c endpoint params limit transform).map encode) w := by
      rw [Invocation.run, Invocation.client_eq_ok_iff.2 hc]
      dsimp only
      rw [hrecords]
    rw [hr, hrun]
    exact transcribes_writeAll rfl i.layout encode w _
  · cases hclient : i.client w with
    | ok c => exact absurd ⟨c, Invocation.client_eq_ok_iff.1 hclient⟩ hnone
    | error failure =>
      have hrun : i.run w = ⟨"", some failure, w⟩ := by rw [Invocation.run, hclient]
      rw [hr, hrun]
      exact ⟨rfl, rfl, rfl, failure, rfl, rfl⟩
  · rintro hcause ⟨c, hc⟩
    rcases hcause with hblank | hsettings | ⟨version, hversion, hblank⟩
    · simp [hc.token] at hblank
    · obtain ⟨config, hfrom, _⟩ := hc.config_eq
      exact hsettings config hfrom
    · simp [hc.version version hversion] at hblank
  · rw [hlog, hrules]
    exact List.filter_congr fun note _ => LogFilter.shows_of_no_rules i.verbose note

/-- The words that ask for one indicator of a type, with settings on both sides of the command. -/
def evilArgs : List String :=
  ["-vfpretty", "indicators", "--text", "evil", "--type=DOMAIN", "--strict-text", "--limit", "1",
    "--app-id", "7"]

/-- The search that these words ask for. -/
def evilSearch : IndicatorSearch :=
  { text := some "evil", indicatorType := some (.known .domain), strictText := true,
    limit := some 1 }

/-- What these words ask for, with the token that the environment gives. -/
def evilInvocation : Invocation :=
  ⟨some "t", some "7", none, none, .pretty, true, .indicators evilSearch⟩

/-- The client for these words. -/
def evilClient : Client := ⟨⟨"t", some "7", none⟩, .standard⟩

/-- A network that answers with a page of two indicators. -/
def twoIndicators : World :=
  ⟨["https"],
    [.answered ⟨200, [], utf8Bytes ("\x7b\"data\":[\x7b\"id\":\"1\",\"indicator\":\"evil.com\","
      ++ "\"type\":\"DOMAIN\"\x7d,\x7b\"id\":\"2\"\x7d]\x7d").toList, false⟩],
    fun _ => .ok [], []⟩

/-- The first of two indicators is written, the filters are in the request that is sent, and the log
tells of one record. -/
theorem indicator_transcribed :
    CommandLine.parse ⟨some "t", none⟩ evilArgs = .ok evilInvocation ∧
      evilInvocation.command ≠ .whoami ∧ evilInvocation.Equips twoIndicators evilClient ∧
      CommandLine.Asks ⟨some "t", none⟩ evilArgs evilInvocation ∧
      let r := run ⟨some "t", none⟩ "" evilArgs twoIndicators
      Transcribes .pretty Indicator.toJson (evilClient.searchIndicators evilSearch)
        twoIndicators r ∧
      r.output = "\x7b\n  \"added_on\": null,\n  \"id\": \"1\",\n  \"indicator\": \"evil.com\",\n"
        ++ "  \"last_updated\": null,\n  \"type\": \"DOMAIN\"\n\x7d\n" ∧
      ⟨.info, .runner, "Wrote 1 records from 1 pages"⟩ ∈ r.log ∧
      r.world.sent.map (fun message => message.url.query) =
        [some "access_token=t&limit=500&strict_text=true&text=evil&type=DOMAIN"] := by
  have hparse : CommandLine.parse ⟨some "t", none⟩ evilArgs = .ok evilInvocation := rfl
  have hequips : evilInvocation.Equips twoIndicators evilClient :=
    Invocation.client_eq_ok_iff.1 rfl
  obtain ⟨hasks, hrun, -⟩ := run_transcribes hparse Command.noConfusion "" twoIndicators
  obtain ⟨α, k, limit, encode, p, hlists, hpager, htranscribes⟩ := hrun _ hequips
  cases hlists
  cases hpager
  refine ⟨hparse, Command.noConfusion, hequips, hasks, htranscribes, ?_⟩
  -- The traversal is evaluated once, as far as its parts are compared below.
  have hgiven : ((evilClient.searchIndicators evilSearch).drainWithin 4 twoIndicators).map
        (fun given => (lines .pretty Indicator.toJson given.1, given.2.1.isSome,
          Invocation.writtenNote given.2.2.1.progress,
          given.2.2.2.sent.map fun message => message.url.query)) =
      some ("\x7b\n  \"added_on\": null,\n  \"id\": \"1\",\n  \"indicator\": \"evil.com\",\n"
        ++ "  \"last_updated\": null,\n  \"type\": \"DOMAIN\"\n\x7d\n", false,
        "Wrote 1 records from 1 pages",
        [some "access_token=t&limit=500&strict_text=true&text=evil&type=DOMAIN"]) := by
    decide +kernel
  obtain ⟨⟨items, failure, p', w'⟩, hdrain, hparts⟩ := Option.map_eq_some_iff.1 hgiven
  simp only [Prod.mk.injEq] at hparts
  obtain ⟨houtput, hfailure, hnote, hsent⟩ := hparts
  obtain rfl : failure = none := by simpa using hfailure
  have hwrites : evilInvocation.run twoIndicators = Invocation.writeAll .pretty
      ((evilClient.searchIndicators evilSearch).map Indicator.toJson) twoIndicators := rfl
  rw [run_of_parse hparse, hwrites, writeAll_map, Pager.drain_of_drainWithin hdrain]
  refine ⟨houtput, ?_, ?_⟩
  · show _ ∈ (w'.note .info .runner (Invocation.writtenNote p'.progress)).log.filter _
    rw [World.note_eq_advance, World.log_advance, hnote]
    exact List.mem_filter.2 ⟨List.mem_append_right _ List.mem_cons_self, by decide +kernel⟩
  · show (w'.note .info .runner _).sent.map _ = _
    rw [World.note_eq_advance, World.sent_advance]
    simpa [Event.sentIn] using hsent

end Program

end ThreatGraph
