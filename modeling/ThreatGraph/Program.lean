import ThreatGraph.Catalog
import ThreatGraph.CommandLine
import ThreatGraph.Config.Reader
import ThreatGraph.Json.Writer
import ThreatGraph.LogFilter

/-!
# The program

What the program does with a command: it makes a client of the settings, asks the service, and
writes the records that it gets, each in the chosen layout and with a line feed after it. Records
are written as they come, so that those before a failure are there.

* `Invocation.run` carries out a command.
* `Program.run` is a whole run of the program, from the words of the command line to the exit code.
-/

set_option autoImplicit false

namespace ThreatGraph

/-- The name of the program. -/
def Program.name : String := "threatexchange"

/-- The name of the package that the program belongs to. -/
def Program.package : String := "threatexchange-client"

/-- The version of the program. -/
def Program.version : String := "0.1.0"

/-- What a command comes to: what it has written, its failure, and the world that it leaves. -/
structure Run where
  output : String
  failure : Option Failure
  world : World

namespace Invocation

/-- The settings of a client in a file. -/
def readConfig (path : String) (w : World) : Except Failure Config := do
  let bytes ← (w.files path).mapError Failure.io
  match decodeStrict? bytes with
  | some chars => Config.ofYaml (String.ofList chars)
  | none => throw (.io "stream did not contain valid UTF-8")

/-- The message where no token is given. -/
def missingToken : String :=
  "Access token not specified (use --access-token or THREATEXCHANGE_ACCESS_TOKEN)"

/-- The client for a command. -/
def client (i : Invocation) (w : World) : Except Failure Client := do
  let token := i.accessToken.getD ""
  if token = "" then throw (.config missingToken)
  let config ← match i.config with
    | some path => readConfig path w
    | none => pure .standard
  Client.create ⟨token, i.appId, none⟩
    { config with apiVersion := i.apiVersion.getD config.apiVersion }

/-- A record in a layout. -/
def render (layout : Layout) (record : Json) : String :=
  match layout with
  | .json => record.compact
  | .pretty => record.indented 0

/-- A record as it is written. -/
def line (layout : Layout) (record : Json) : String := render layout record ++ "\n"

/-- The entry of the log when all records are written. -/
def writtenNote (p : Progress) : String :=
  "Wrote " ++ toString p.yielded ++ " records from " ++ toString p.pages ++ " pages"

/-- Writes the records of a pager. -/
def writeAll (layout : Layout) (p : Pager Json) (w : World) : Run :=
  let (items, failure, p, w) := p.drain w
  let output := String.join (items.map (line layout))
  match failure with
  | some failure => ⟨output, some failure, w⟩
  | none => ⟨output, none, w.note .info .runner (writtenNote p.progress)⟩

/-- The record of the app and the token. -/
def identity (app token : Json) : Json :=
  .record [("app", app), ("token", (token.get? "data").getD token)]

/-- Writes the record of the app and the token. -/
def writeIdentity (layout : Layout) (c : Client) (w : World) : Run :=
  match c.me w with
  | (.error failure, w) => ⟨"", some failure, w⟩
  | (.ok app, w) =>
    match c.debugToken w with
    | (.error failure, w) => ⟨"", some failure, w⟩
    | (.ok token, w) => ⟨line layout (identity app token), none, w⟩

/-- The records that a command asks for, if it asks for a list of them. -/
def records? (c : Client) : Command → Option (Pager Json)
  | .whoami => none
  | .descriptors search => some ((c.searchDescriptors search).map Descriptor.toJson)
  | .indicators search => some ((c.searchIndicators search).map Indicator.toJson)
  | .tags text limit => some ((c.searchTags text limit).map Tag.toJson)
  | .members limit => some ((c.listMembers [] limit).map Member.toJson)
  | .updates group query => some ((c.listUpdates group query).map Update.toJson)

/-- Carries out a command. -/
def run (i : Invocation) (w : World) : Run :=
  match i.client w with
  | .error failure => ⟨"", some failure, w⟩
  | .ok c =>
    match records? c i.command with
    | some pager => writeAll i.layout pager w
    | none => writeIdentity i.layout c w

end Invocation

namespace Program

/-- The text of an asked-for version. -/
def versionText : String := name ++ " " ++ version ++ "\n"

/-- The text that tells how the program is used. -/
def usageText : String :=
  "Usage: " ++ name ++ " [OPTIONS] <COMMAND>\n\nCommands:\n"
    ++ String.join (CommandLine.rootLevel.commands.map fun c => "  " ++ c ++ "\n")
    ++ "\nOptions:\n"
    ++ String.join (CommandLine.rootLevel.switches.map fun s => "  --" ++ s.name ++ "\n")

/-- What is told of a command line that is not carried out. -/
def refusalText : CommandLine.Refusal → String
  | .help | .helpForNothing => usageText
  | .version => versionText
  | .unknownArgument => "error: unexpected argument\n"
  | .unknownCommand => "error: unrecognized subcommand\n"
  | .missingCommand => "error: a subcommand is required\n"
  | .missingArgument => "error: a required argument was not provided\n"
  | .badChoice => "error: invalid or missing value for an option\n"
  | .badValue => "error: invalid value for an option\n"
  | .tooManyValues => "error: unexpected value for an option\n"
  | .conflict => "error: an option cannot be used multiple times\n"

/-- What a run of the program comes to: the exit code, what goes to the standard output, the message
of a refusal or failure, the log as far as it is shown, and the world. -/
structure Result where
  exitCode : Nat
  output : String
  error : Option String
  log : List Note
  world : World

/-- The filter for the log: that of the environment, but in general the level of the command. -/
def filter (logRules : String) (verbose : Bool) : LogFilter :=
  (LogFilter.parse logRules).add
    ⟨none, [], if verbose then Level.debug.rank else Level.info.rank⟩

/-- A line of the log. -/
def logLine (n : Note) : String := n.level.text ++ " " ++ n.origin.target ++ ": " ++ n.text

/-- A run of the program, with the words of the command line after its name. `logRules` is the text
of the filter for the log. -/
def run (env : Environment) (logRules : String) (args : List String) (w : World) : Result :=
  match CommandLine.parse env args with
  | .error refusal =>
    if refusal.isAsked then ⟨0, refusalText refusal, none, [], w⟩
    else ⟨2, "", some (refusalText refusal), [], w⟩
  | .ok invocation =>
    let r := invocation.run w
    let log := r.world.log.filter (filter logRules invocation.verbose).shows
    match r.failure with
    | some failure => ⟨1, r.output, some ("Error: " ++ failure.message ++ "\n"), log, r.world⟩
    | none => ⟨0, r.output, none, log, r.world⟩

end Program

end ThreatGraph
