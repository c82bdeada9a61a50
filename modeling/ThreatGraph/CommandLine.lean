import ThreatGraph.CommandLine.Grammar
import ThreatGraph.Search

/-!
# The commands of the program

The grammar of the command line and what it asks for: a command with its options, and settings that
stand before or after the name of the command. A setting after the name wins over one before it, and
both win over the environment.

`CommandLine.parse` reads a command line.
-/

set_option autoImplicit false

namespace ThreatGraph

open CommandLine

/-- How records are written: one a line, or indented. -/
inductive Layout where
  | json
  | pretty
  deriving DecidableEq, Repr, Inhabited

/-- What the program is asked to do. -/
inductive Command where
  | whoami
  | descriptors (search : DescriptorSearch)
  | indicators (search : IndicatorSearch)
  | tags (text : String) (limit : Option Nat)
  | members (limit : Option Nat)
  | updates (group : String) (query : UpdatesQuery)
  deriving DecidableEq, Repr, Inhabited

/-- A command with the settings that go with it. -/
structure Invocation where
  accessToken : Option String
  appId : Option String
  config : Option String
  apiVersion : Option String
  layout : Layout
  verbose : Bool
  command : Command
  deriving DecidableEq, Repr, Inhabited

/-- The settings that the environment gives. -/
structure Environment where
  accessToken : Option String := none
  appId : Option String := none
  deriving DecidableEq, Repr, Inhabited

namespace CommandLine

/-- The words for the layouts. -/
def layoutWords : List String := ["json", "pretty"]

/-- The options that may stand before and after the name of a command. -/
def globalSwitches : List Switch :=
  [⟨"access-token", none, .text⟩, ⟨"app-id", none, .text⟩, ⟨"config", some 'C', .path⟩,
   ⟨"api-version", none, .text⟩, ⟨"format", some 'f', .choice layoutWords⟩,
   ⟨"verbose", some 'v', .flag⟩, ⟨"help", some 'h', .shows .help⟩]

/-- A command of the program: its name, its own options and its further word. -/
structure CommandGrammar where
  name : String
  switches : List Switch
  word : Option String

/-- An option of a command that takes values of a kind. -/
def option (name : String) (kind : Kind) : Switch := ⟨name, none, kind⟩

/-- The option for the number of records after which to stop. -/
def limitSwitch : Switch := option "limit" .count

/-- The options for the time of records. -/
def timeSwitches : List Switch := [option "since" .signed, option "until" .signed]

/-- The commands of the program. -/
def commandGrammars : List CommandGrammar :=
  [⟨"whoami", [], none⟩,
   ⟨"descriptors",
    [option "text" .text, option "type" .text, option "status" .text, option "share-level" .text,
     option "owner" .text, option "tags" .list, option "strict-text" .flag,
     option "fields" .list, limitSwitch] ++ timeSwitches, none⟩,
   ⟨"indicators",
    [option "text" .text, option "type" .text, option "strict-text" .flag, limitSwitch]
      ++ timeSwitches, none⟩,
   ⟨"tags", [limitSwitch], some "TEXT"⟩,
   ⟨"members", [limitSwitch], none⟩,
   ⟨"updates", [option "types" .list, limitSwitch] ++ timeSwitches, some "PRIVACY_GROUP_ID"⟩]

/-- The name of the command that shows help. -/
def helpCommand : String := "help"

/-- The level in front of the name of a command. -/
def rootLevel : Level :=
  ⟨globalSwitches ++ [⟨"version", some 'V', .shows .version⟩], none,
   commandGrammars.map CommandGrammar.name ++ [helpCommand]⟩

/-- The level of a command. -/
def CommandGrammar.level (g : CommandGrammar) : Level :=
  ⟨g.switches ++ globalSwitches, g.word, []⟩

/-- What comes of the command that shows help: it takes the name of one command. -/
def helpFor : List String → Refusal
  | [] => .help
  | [name] => if rootLevel.commands.contains name then .help else .unknownCommand
  | _ => .unknownCommand

/-- Ends a level: the last value is checked, and the further word has to be there. -/
def Level.finish (l : Level) (r : Reading) : Except Refusal Reading := do
  let r ← r.settle
  match l.word with
  | some name => if r.has name then pure r else throw .missingArgument
  | none => pure r

/-- The number after which to stop. -/
def limitOf (r : Reading) : Option Nat := (r.value? "limit").bind readUnsigned64?

/-- A time that an option gives. -/
def timeOf (name : String) (r : Reading) : Option Int := (r.value? name).bind readSigned64?

/-- A term that an option gives. -/
def termOf {α : Type} [Vocabulary α] (name : String) (r : Reading) : Option (Term α) :=
  (r.value? name).map Term.ofText

/-- The command of a name and what is read of its level. -/
def commandOf (name : String) (r : Reading) : Command :=
  if name = "descriptors" then
    .descriptors
      { text := r.value? "text"
        descriptorType := termOf "type" r
        status := termOf "status" r
        shareLevel := termOf "share-level" r
        owner := r.value? "owner"
        tags := r.values "tags"
        since := timeOf "since" r
        untilTime := timeOf "until" r
        strictText := r.has "strict-text"
        fields := r.values "fields"
        limit := limitOf r }
  else if name = "indicators" then
    .indicators
      { text := r.value? "text"
        indicatorType := termOf "type" r
        since := timeOf "since" r
        untilTime := timeOf "until" r
        strictText := r.has "strict-text"
        limit := limitOf r }
  else if name = "tags" then .tags ((r.value? "TEXT").getD "") (limitOf r)
  else if name = "members" then .members (limitOf r)
  else if name = "updates" then
    .updates ((r.value? "PRIVACY_GROUP_ID").getD "")
      { since := timeOf "since" r
        untilTime := timeOf "until" r
        types := r.values "types"
        limit := limitOf r }
  else .whoami

/-- The invocation of a command, from what is read of the levels before and after its name. -/
def invocation (env : Environment) (before after : Reading) (name : String) : Invocation :=
  let setting := fun key => after.value? key <|> before.value? key
  { accessToken := setting "access-token" <|> env.accessToken
    appId := setting "app-id" <|> env.appId
    config := setting "config"
    apiVersion := setting "api-version"
    layout := if setting "format" = some "pretty" then .pretty else .json
    verbose := after.has "verbose" || before.has "verbose"
    command := commandOf name after }

/-- The refusal of a command line without a command. -/
def refuseNothing (env : Environment) (r : Reading) : Refusal :=
  if r.given.isEmpty && env.accessToken.isNone && env.appId.isNone then .helpForNothing
  else .missingCommand

/-- Reads a command line, without the name of the program. -/
def parse (env : Environment) (args : List String) : Except Refusal Invocation := do
  let (before, command) ← rootLevel.read false .empty args
  match command with
  | none => throw (refuseNothing env (← rootLevel.finish before))
  | some (name, rest) =>
    match commandGrammars.find? fun g => g.name = name with
    | none => throw (helpFor rest)
    | some g =>
      let (after, _) ← g.level.read false .empty rest
      let after ← g.level.finish after
      let before ← rootLevel.finish before
      pure (invocation env before after name)

end CommandLine

end ThreatGraph
