import ThreatGraph.Network
import ThreatGraph.Text.Split

/-!
# Filters of the log

Which entries of the log are shown. A filter is a list of rules; a rule lets entries up to a level
through, of all parts of the program or of those whose names begin in a given way. The rule of the
longest such beginning decides.

A filter is written as rules between commas: a level, a name, or a name, an equals sign and a level.
Text that is no rule counts for nothing.
-/

set_option autoImplicit false

namespace ThreatGraph

/-- The rank of a level: the higher, the less important. -/
def Level.rank : Level → Nat
  | .error => 1
  | .warn => 2
  | .info => 3
  | .debug => 4
  | .trace => 5

/-- A rule: the beginning of the names that it is for, the fields that an entry has to have, and the
greatest rank that it lets through. -/
structure LogRule where
  target : Option String
  fields : List String
  rank : Nat
  deriving DecidableEq, Repr, Inhabited

/-- A filter: its rules, no two of them for the same entries. -/
abbrev LogFilter := List LogRule

namespace LogFilter

/-- The words and digits for the greatest rank that is let through. -/
def rankWords : List (String × Nat) :=
  [("off", 0), ("error", 1), ("warn", 2), ("info", 3), ("debug", 4), ("trace", 5), ("0", 0),
   ("1", 1), ("2", 2), ("3", 3), ("4", 4), ("5", 5)]

/-- The rank of a word, in letters of either case. -/
def rank? (word : String) : Option Nat :=
  (rankWords.find? fun entry => entry.1 = word.toLower).map Prod.snd

/-- Whether a character may stand in the name of a part of the program. -/
def isTargetChar (c : Char) : Bool :=
  c.isAlphanum || c == '_' || c == ':' || c == '-' || 0x80 ≤ c.toNat

/-- The fields in a bracket of a rule. A bracket that names a span, or the value of a field, is for
entries inside of spans, of which there are none. -/
def bracketFields? (inner : List Char) : Option (List String) :=
  match inner with
  | [] => some []
  | '\x7b' :: rest =>
    let fields := rest.takeWhile (· ≠ '\x7d')
    if fields.contains '=' then none
    else some (((splitOn ' ' fields).filter (· ≠ [])).map String.ofList)
  | _ => none

/-- The target and the fields of a rule. -/
def readScope (cs : List Char) : Option (Option String × List String) :=
  let name := cs.takeWhile isTargetChar
  let target := if name.isEmpty then none else some (String.ofList name)
  match cs.drop name.length with
  | [] => some (target, [])
  | '[' :: rest =>
    let inner := rest.takeWhile (· ≠ ']')
    if rest.drop inner.length = [']'] then (bracketFields? inner).map (target, ·) else none
  | _ => none

/-- The rule that a text writes, if it writes one. -/
def readRule (cs : List Char) : Option LogRule :=
  match rank? (String.ofList cs) with
  | some rank => some ⟨none, [], rank⟩
  | none =>
    let (scope, level) := splitFirst '=' cs
    if scope.isEmpty then none
    else do
      let (target, fields) ← readScope scope
      let rank ← match level with
        | none | some [] => some Level.trace.rank
        | some word => rank? (String.ofList word)
      pure ⟨target, fields, rank⟩

/-- A filter with one more rule, which replaces a rule for the same entries. -/
def add (rule : LogRule) (filter : LogFilter) : LogFilter :=
  rule :: filter.filter fun r => r.target ≠ rule.target ∨ r.fields ≠ rule.fields

/-- The filter that a text writes. -/
def parse (text : String) : LogFilter :=
  ((splitOn ',' text.toList).filterMap readRule).foldl (fun filter rule => filter.add rule) []

/-- The fields of an entry of the log: only its text. -/
def noteFields : List String := ["message"]

/-- Whether a rule is for an entry. -/
def concerns (rule : LogRule) (note : Note) : Bool :=
  (match rule.target with
    | some target => (afterStart? target.toList note.origin.target.toList).isSome
    | none => true)
  && rule.fields.all noteFields.contains

/-- How closely a rule tells which entries it is for. -/
def closeness (rule : LogRule) : Nat × Nat :=
  (match rule.target with
    | some target => target.utf8ByteSize + 1
    | none => 0, rule.fields.length)

/-- The closer of two rules. -/
def closer (best : Option LogRule) (rule : LogRule) : Option LogRule :=
  match best with
  | none => some rule
  | some r =>
    let (a, b) := closeness r
    let (c, d) := closeness rule
    if a < c ∨ (a = c ∧ b < d) then some rule else some r

/-- Whether a filter shows an entry. -/
def shows (filter : LogFilter) (note : Note) : Bool :=
  match (filter.filter (concerns · note)).foldl closer none with
  | some rule => note.level.rank ≤ rule.rank
  | none => false

end LogFilter

end ThreatGraph
