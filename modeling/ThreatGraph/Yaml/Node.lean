import ThreatGraph.Text.Utf8
import ThreatGraph.Yaml.Token

/-!
# YAML documents

The tree of nodes that the tokens of a stream describe. An alias is the number that its anchor had
when the alias was met, and the document keeps what each number stands for.

The number of an anchor is the number of different anchor names before it. An anchor whose name was
used before takes a new number in this way, which a later anchor of a new name then shares.

* `Document.ofTokens?` reads a stream of exactly one document, which may be empty.
* `Document.resolve?` replaces an alias by what it stands for.
-/

set_option autoImplicit false

namespace ThreatGraph.Yaml

/-- A node of a document. -/
inductive Node where
  | alias (number : Nat)
  | scalar (style : Style) (tag : Option (List UInt8)) (text : String)
  | sequence (items : List Node)
  | mapping (entries : List (Node × Node))
  deriving Repr, Inhabited

/-- The anchors of a document so far. -/
structure Anchors where
  /-- The anchor names in use and their numbers. -/
  numbers : List (String × Nat)
  /-- How many anchors have begun. -/
  begun : Nat
  /-- Of each node with an anchor that is complete: the number, the place of the anchor among all
  anchors, and the node. -/
  nodes : List (Nat × Nat × Node)
  deriving Repr, Inhabited

/-- A document: its root and the nodes that its aliases stand for. -/
structure Document where
  root : Node
  anchors : Anchors
  deriving Repr, Inhabited

namespace Anchors

/-- No anchors. -/
def empty : Anchors := ⟨[], 0, []⟩

/-- Begins a node with an anchor: its number and its place. -/
def begin (name : String) (a : Anchors) : Anchors × Nat × Nat :=
  let number := a.numbers.length
  let others := a.numbers.filter fun entry => entry.1 ≠ name
  (⟨(name, number) :: others, a.begun + 1, a.nodes⟩, number, a.begun)

/-- Completes a node with an anchor. -/
def complete (number place : Nat) (node : Node) (a : Anchors) : Anchors :=
  { a with nodes := (number, place, node) :: a.nodes }

/-- The number of an anchor name. -/
def number? (name : String) (a : Anchors) : Option Nat :=
  (a.numbers.find? fun entry => entry.1 = name).map Prod.snd

/-- The node that a number stands for: of the nodes with that number the one that began last. -/
def node? (number : Nat) (a : Anchors) : Option Node :=
  (a.nodes.foldl (fun (best : Option (Nat × Node)) entry =>
    if entry.1 = number then
      match best with
      | some (place, _) => if place < entry.2.1 then some entry.2 else best
      | none => some entry.2
    else best) none).map Prod.snd

end Anchors

/-! ## Handles -/

/-- The beginning of the tags of the language itself. -/
def coreTag : List UInt8 := utf8Bytes "tag:yaml.org,2002:".toList

/-- The beginnings of tags that handles stand for. -/
abbrev Handles := List (String × List UInt8)

/-- The handles that need no directive. -/
def standardHandles : Handles := [("!", utf8Bytes ['!']), ("!!", coreTag)]

/-- The tag of a handle and a text. -/
def expandTag? (handles : Handles) (handle : String) (text : List UInt8) : Option (List UInt8) :=
  if handle = "" then some text
  else (handles.find? fun entry => entry.1 = handle).map (·.2 ++ text)

/-! ## Reading nodes -/

/-- A reader of nodes takes tokens from the front and keeps the anchors. -/
structure Reading where
  tokens : List Token
  anchors : Anchors
  deriving Repr, Inhabited

/-- The next token is one of those for which `p` holds. -/
def Reading.nextIs (p : Token → Bool) (r : Reading) : Bool :=
  match r.tokens with
  | t :: _ => p t
  | [] => false

/-- The tokens after the first. -/
def Reading.skip (r : Reading) : Reading := { r with tokens := r.tokens.drop 1 }

/-- A node without content. -/
def emptyNode : Node := .scalar .plain none ""

/-- The properties in front of a node: the anchor name and the tag. -/
def readProperties (handles : Handles) (tokens : List Token) :
    Option (Option String × Option (List UInt8) × List Token) :=
  match tokens with
  | .anchor name :: .tag handle text :: rest | .tag handle text :: .anchor name :: rest =>
    (expandTag? handles handle text).map fun tag => (some name, some tag, rest)
  | .anchor name :: rest => some (some name, none, rest)
  | .tag handle text :: rest => (expandTag? handles handle text).map (none, some ·, rest)
  | rest => some (none, none, rest)

/-- Whether a token ends what may stand after a dash. -/
def endsItem : Token → Bool
  | .blockEntry | .blockEnd => true
  | _ => false

/-- Whether a token ends what may stand after a dash that no block holds. -/
def endsLooseItem : Token → Bool
  | .blockEntry | .key | .value | .blockEnd => true
  | _ => false

/-- Whether a token ends what may stand for a key or a value in a block. -/
def endsBlockField : Token → Bool
  | .key | .value | .blockEnd => true
  | _ => false

/-- Whether a token ends what may stand for a key in a flow collection. -/
def endsFlowKey (kind : Collection) : Token → Bool
  | .value | .flowEntry => true
  | .flowEnd k => k = kind
  | _ => false

/-- Whether a token ends what may stand for a value in a flow collection. -/
def endsFlowValue (kind : Collection) : Token → Bool
  | .flowEntry => true
  | .flowEnd k => k = kind
  | _ => false

/-- Where a node stands: whether a block may begin, and whether dashes may stand without a block of
their own. -/
structure Place where
  allowsBlock : Bool
  allowsDashes : Bool

/-- In a block sequence, or at the root. -/
def Place.item : Place := ⟨true, false⟩

/-- In a block mapping. -/
def Place.field : Place := ⟨true, true⟩

/-- In a flow collection. -/
def Place.flow : Place := ⟨false, false⟩

/-- Reads a node of properties alone. -/
def readEmpty (tag : Option (List UInt8)) (isNamed : Bool) (r : Reading) :
    Option (Node × Reading) :=
  if isNamed || tag.isSome then some (.scalar .plain tag "", r) else none

mutual

/-- Reads a node. -/
def readNode (handles : Handles) (place : Place) : Nat → Reading → Option (Node × Reading)
  | 0, _ => none
  | fuel + 1, r =>
    match r.tokens with
    | .alias name :: rest =>
      (r.anchors.number? name).map fun n => (.alias n, { r with tokens := rest })
    | tokens => do
      let (name, tag, tokens) ← readProperties handles tokens
      match name with
      | none => readContent handles place tag false fuel { r with tokens := tokens }
      | some name =>
        let (anchors, number, order) := r.anchors.begin name
        let (node, r) ← readContent handles place tag true fuel ⟨tokens, anchors⟩
        pure (node, { r with anchors := r.anchors.complete number order node })

/-- Reads what follows the properties of a node. -/
def readContent (handles : Handles) (place : Place) (tag : Option (List UInt8)) (isNamed : Bool) :
    Nat → Reading → Option (Node × Reading)
  | 0, _ => none
  | fuel + 1, r =>
    match r.tokens with
    | .blockEntry :: _ =>
      if place.allowsDashes then
        (readLooseItems handles fuel r).map fun a => (.sequence a.1, a.2)
      else readEmpty tag isNamed r
    | .scalar style text :: _ => some (.scalar style tag text, r.skip)
    | .flowStart .sequence :: _ =>
      (readFlowItems handles true fuel r.skip).map fun a => (.sequence a.1, a.2)
    | .flowStart .mapping :: _ =>
      (readFlowFields handles true fuel r.skip).map fun a => (.mapping a.1, a.2)
    | .blockStart .sequence :: _ =>
      if place.allowsBlock then
        (readItems handles fuel r.skip).map fun a => (.sequence a.1, a.2)
      else readEmpty tag isNamed r
    | .blockStart .mapping :: _ =>
      if place.allowsBlock then
        (readFields handles fuel r.skip).map fun a => (.mapping a.1, a.2)
      else readEmpty tag isNamed r
    | _ => readEmpty tag isNamed r

/-- Reads a node, or none at all in front of a token that ends its place. -/
def readNodeOrEmpty (handles : Handles) (place : Place) (ends : Token → Bool) :
    Nat → Reading → Option (Node × Reading)
  | 0, _ => none
  | fuel + 1, r => if r.nextIs ends then some (emptyNode, r) else readNode handles place fuel r

/-- Reads the items of a block sequence and its end. -/
def readItems (handles : Handles) : Nat → Reading → Option (List Node × Reading)
  | 0, _ => none
  | fuel + 1, r =>
    match r.tokens with
    | .blockEntry :: _ => do
      let (node, r) ← readNodeOrEmpty handles .item endsItem fuel r.skip
      let (nodes, r) ← readItems handles fuel r
      pure (node :: nodes, r)
    | .blockEnd :: _ => some ([], r.skip)
    | _ => none

/-- Reads the items of a sequence without a block of its own. -/
def readLooseItems (handles : Handles) : Nat → Reading → Option (List Node × Reading)
  | 0, _ => none
  | fuel + 1, r =>
    match r.tokens with
    | .blockEntry :: _ => do
      let (node, r) ← readNodeOrEmpty handles .item endsLooseItem fuel r.skip
      let (nodes, r) ← readLooseItems handles fuel r
      pure (node :: nodes, r)
    | _ => some ([], r)

/-- Reads the fields of a block mapping and its end. -/
def readFields (handles : Handles) : Nat → Reading → Option (List (Node × Node) × Reading)
  | 0, _ => none
  | fuel + 1, r =>
    match r.tokens with
    | .key :: _ => do
      let (key, r) ← readNodeOrEmpty handles .field endsBlockField fuel r.skip
      let (value, r) ←
        if r.nextIs (· = .value) then readNodeOrEmpty handles .field endsBlockField fuel r.skip
        else some (emptyNode, r)
      let (fields, r) ← readFields handles fuel r
      pure ((key, value) :: fields, r)
    | .blockEnd :: _ => some ([], r.skip)
    | _ => none

/-- Reads a value of a flow collection, if the colon in front of it is there. -/
def readFlowValue (handles : Handles) (kind : Collection) :
    Nat → Reading → Option (Node × Reading)
  | 0, _ => none
  | fuel + 1, r =>
    if r.nextIs (· = .value) then readNodeOrEmpty handles .flow (endsFlowValue kind) fuel r.skip
    else some (emptyNode, r)

/-- Reads the items of a flow sequence and its end. Before all but the first stands a comma. A key
begins an item that is a mapping of one field; where the key is empty, the token after its mark
counts as part of it. -/
def readFlowItems (handles : Handles) (first : Bool) :
    Nat → Reading → Option (List Node × Reading)
  | 0, _ => none
  | fuel + 1, r =>
    if r.nextIs (· = .flowEnd .sequence) then some ([], r.skip)
    else if !first && !r.nextIs (· = .flowEntry) then none
    else
      let r := if first then r else r.skip
      match r.tokens with
      | .key :: _ => do
        let (key, r) ←
          if r.skip.nextIs (endsFlowKey .sequence) then some (emptyNode, r.skip.skip)
          else readNode handles .flow fuel r.skip
        let (value, r) ← readFlowValue handles .sequence fuel r
        let (items, r) ← readFlowItems handles false fuel r
        pure (.mapping [(key, value)] :: items, r)
      | .flowEnd .sequence :: _ => some ([], r.skip)
      | _ => do
        let (node, r) ← readNode handles .flow fuel r
        let (items, r) ← readFlowItems handles false fuel r
        pure (node :: items, r)

/-- Reads the fields of a flow mapping and its end. Before all but the first stands a comma. -/
def readFlowFields (handles : Handles) (first : Bool) :
    Nat → Reading → Option (List (Node × Node) × Reading)
  | 0, _ => none
  | fuel + 1, r =>
    if r.nextIs (· = .flowEnd .mapping) then some ([], r.skip)
    else if !first && !r.nextIs (· = .flowEntry) then none
    else
      let r := if first then r else r.skip
      match r.tokens with
      | .key :: _ => do
        let (key, r) ← readNodeOrEmpty handles .flow (endsFlowKey .mapping) fuel r.skip
        let (value, r) ← readFlowValue handles .mapping fuel r
        let (fields, r) ← readFlowFields handles false fuel r
        pure ((key, value) :: fields, r)
      | .flowEnd .mapping :: _ => some ([], r.skip)
      | _ => do
        let (key, r) ← readNode handles .flow fuel r
        let (fields, r) ← readFlowFields handles false fuel r
        pure ((key, emptyNode) :: fields, r)

end

/-! ## Documents -/

/-- Reads the directives in front of a document. The version is given once at most, and so is each
handle. -/
def readDirectives (hasVersion : Bool) (handles : Handles) :
    List Token → Option (Handles × List Token)
  | .version major minor :: rest =>
    if hasVersion || major ≠ 1 || (minor ≠ 1 && minor ≠ 2) then none
    else readDirectives true handles rest
  | .handle name start :: rest =>
    if handles.any fun entry => entry.1 = name then none
    else readDirectives hasVersion (handles ++ [(name, start)]) rest
  | rest => some (handles, rest)

/-- Whether a token stands outside of documents. -/
def isOutside : Token → Bool
  | .version _ _ | .handle _ _ | .documentStart | .documentEnd => true
  | _ => false

/-- Reads the root of the document. After a start mark there may be none. -/
def readRoot (handles : Handles) (isMarked : Bool) (tokens : List Token) :
    Option (Node × Reading) :=
  let r : Reading := ⟨tokens, Anchors.empty⟩
  if isMarked && (tokens.isEmpty || r.nextIs isOutside) then some (emptyNode, r)
  else readNode (handles ++ standardHandles) .item (4 * tokens.length + 8) r

namespace Document

/-- The document of a stream, unless there is more than one or any fault in it. -/
def ofTokens? (tokens : List Token) : Option Document := do
  let (handles, rest) ← readDirectives false [] tokens
  let isMarked := rest.head? = some .documentStart
  if handles.isEmpty && tokens.length = rest.length && !isMarked then
    if tokens.isEmpty then pure ⟨emptyNode, Anchors.empty⟩
    else finish (← readRoot [] false tokens)
  else if isMarked then finish (← readRoot handles true (rest.drop 1))
  else none
where
  /-- Nothing but end marks may follow the root. -/
  finish : Node × Reading → Option Document
    | (root, r) => if r.tokens.all (· = .documentEnd) then some ⟨root, r.anchors⟩ else none

/-- A node, with an alias replaced by what it stands for. -/
def resolve? (d : Document) : Node → Option Node
  | .alias n => d.anchors.node? n
  | node => some node

end Document

end ThreatGraph.Yaml
