import ThreatGraph.Text.Numeral
import ThreatGraph.Text.Split

/-!
# Command lines

Reading the words of a command line against a grammar. A grammar lists options, which may take a
value, and at most one further word; and it may list commands, after whose name the grammar of the
command takes over.

* `Level.read` reads the words of one level, up to the name of a command.
* The value of an option is checked when the next option comes, or at the end of its level. So the
  words of a command are read before the last value in front of its name is checked.
-/

set_option autoImplicit false

namespace ThreatGraph.CommandLine

/-- Why a command line is not carried out. -/
inductive Refusal where
  | help
  | helpForNothing
  | version
  | unknownArgument
  | unknownCommand
  | missingCommand
  | missingArgument
  | badChoice
  | badValue
  | tooManyValues
  | conflict
  deriving DecidableEq, Repr, Inhabited

/-- Whether the user asked for what is shown in place of carrying out the command line. -/
def Refusal.isAsked : Refusal → Bool
  | .help | .version => true
  | _ => false

/-- What an option takes. -/
inductive Kind where
  /-- No value: the option is given or not. -/
  | flag
  /-- No value: what the option asks for is shown at once. -/
  | shows (what : Refusal)
  | text
  /-- A text that is not empty. -/
  | path
  /-- One of some words. -/
  | choice (words : List String)
  /-- A signed number of 64 bits. -/
  | signed
  /-- An unsigned number of 64 bits. -/
  | count
  /-- Texts between commas. The option may be given more than once. -/
  | list
  deriving DecidableEq, Repr, Inhabited

/-- Whether an option takes a value. -/
def Kind.takesValue : Kind → Bool
  | .flag | .shows _ => false
  | _ => true

/-- The values in the text of a value, if it is one that the option takes. -/
def Kind.read (text : String) : Kind → Except Refusal (List String)
  | .path => if text = "" then .error .badChoice else .ok [text]
  | .choice words => if words.contains text then .ok [text] else .error .badChoice
  | .signed => if (readSigned64? text).isSome then .ok [text] else .error .badValue
  | .count => if (readUnsigned64? text).isSome then .ok [text] else .error .badValue
  | .list => .ok ((splitOn ',' text.toList).map String.ofList)
  | _ => .ok [text]

/-- An option, with its long name and its short one. -/
structure Switch where
  name : String
  short : Option Char
  kind : Kind
  deriving DecidableEq, Repr, Inhabited

/-- The grammar of a level: its options, the name of its further word, and its commands. -/
structure Level where
  switches : List Switch
  word : Option String
  commands : List String
  deriving DecidableEq, Repr, Inhabited

/-- What is read of a level: the values of what is given, and an option that waits for its value, or
whose value is not checked yet. -/
structure Reading where
  given : List (String × List String)
  pending : Option (Switch × Option String)
  deriving Repr, Inhabited

namespace Reading

/-- Nothing is read. -/
def empty : Reading := ⟨[], none⟩

/-- The values of an option or word. -/
def values? (name : String) (r : Reading) : Option (List String) :=
  (r.given.find? fun entry => entry.1 = name).map Prod.snd

/-- The only value of an option or word. -/
def value? (name : String) (r : Reading) : Option String := (r.values? name).bind List.head?

/-- All values of an option. -/
def values (name : String) (r : Reading) : List String := (r.values? name).getD []

/-- Whether an option or word is given. -/
def has (name : String) (r : Reading) : Bool := (r.values? name).isSome

/-- Takes values of an option or word. -/
def add (name : String) (values : List String) (r : Reading) : Reading :=
  { r with
    given := (name, r.values name ++ values) :: r.given.filter fun entry => entry.1 ≠ name }

/-- Takes the value of an option, which is given once at most unless it takes a list. -/
def accept (s : Switch) (text : String) (r : Reading) : Except Refusal Reading :=
  if s.kind ≠ .list && r.has s.name then .error .conflict
  else (s.kind.read text).map fun values => r.add s.name values

/-- Checks the value of the option that waits. -/
def settle (r : Reading) : Except Refusal Reading :=
  match r.pending with
  | none => .ok r
  | some (_, none) => .error .badChoice
  | some (s, some text) => { r with pending := none }.accept s text

/-- Whether an option waits for its value. -/
def waits (r : Reading) : Bool :=
  match r.pending with
  | some (_, none) => true
  | _ => false

/-- Takes an option without a value. -/
def takeFlag (s : Switch) (r : Reading) : Except Refusal Reading := do
  let r ← r.settle
  match s.kind with
  | .shows what => .error what
  | _ => if r.has s.name then .error .conflict else .ok (r.add s.name [])

/-- Takes an option with its value. -/
def takeAttached (s : Switch) (text : String) (r : Reading) : Except Refusal Reading := do
  (← r.settle).accept s text

/-- Takes an option whose value is the next word. -/
def await (s : Switch) (r : Reading) : Except Refusal Reading := do
  pure { ← r.settle with pending := some (s, none) }

end Reading

namespace Level

/-- The option of a long name. -/
def long? (l : Level) (name : String) : Option Switch := l.switches.find? (·.name = name)

/-- The option of a short name. -/
def short? (l : Level) (c : Char) : Option Switch := l.switches.find? (·.short = some c)

/-- Takes a word of a long name and perhaps a value. -/
def takeLong (l : Level) (name : String) (value : Option String) (r : Reading) :
    Except Refusal Reading :=
  match l.long? name with
  | none => .error .unknownArgument
  | some s =>
    if s.kind.takesValue then
      match value with
      | some text => r.takeAttached s text
      | none => r.await s
    else if value.isSome then .error .tooManyValues
    else r.takeFlag s

/-- Takes a word of short names, the last of which may have a value attached. -/
def takeShort (l : Level) : List Char → Reading → Except Refusal Reading
  | [], r => .ok r
  | c :: cs, r =>
    match l.short? c with
    | none => .error .unknownArgument
    | some s =>
      if s.kind.takesValue then
        if cs.isEmpty then r.await s
        else r.takeAttached s (String.ofList ((afterStart? ['='] cs).getD cs))
      else do takeShort l cs (← r.takeFlag s)

/-- Takes a word that is no option. -/
def takeWord (l : Level) (trailing : Bool) (text : String) (r : Reading) :
    Except Refusal Reading :=
  match l.word with
  | some name =>
    if r.has name then .error .unknownArgument
    else do pure ((← r.settle).add name [text])
  | none =>
    if trailing && l.commands.contains text then .error .unknownArgument
    else if l.commands.isEmpty then .error .unknownArgument
    else .error .unknownCommand

/-- Reads the words of a level, and gives the name of a command and the words after it. After two
dashes no word is an option or a command. -/
def read (l : Level) (trailing : Bool) (r : Reading) :
    List String → Except Refusal (Reading × Option (String × List String))
  | [] => .ok (r, none)
  | text :: rest =>
    if trailing then do read l true (← l.takeWord true text r) rest
    else if !r.waits && l.commands.contains text then .ok (r, some (text, rest))
    else
      match text.toList with
      | ['-', '-'] => read l true r rest
      | '-' :: '-' :: cs => do
        let (name, value) := splitFirst '=' cs
        read l false (← l.takeLong (String.ofList name) (value.map String.ofList) r) rest
      | '-' :: c :: cs => do read l false (← l.takeShort (c :: cs) r) rest
      | _ =>
        match r.pending with
        | some (s, none) => read l false { r with pending := some (s, some text) } rest
        | _ => do read l false (← l.takeWord false text r) rest

end Level

end ThreatGraph.CommandLine
