import ThreatGraph.Proofs.Yaml.Tokens
import ThreatGraph.Yaml

/-!
# Documents of one line

`Flow` is a grammar of nodes: words, texts in quotes, and flow collections of such, without any
blanks.  It relates a node to its characters and to its tokens.

* The lexer cuts the characters into the tokens (`Flow.cuts`).
* The reader of nodes makes the node of the tokens (`Flow.reads`).
* A flow collection by itself is a document with this root (`Flow.parse?`).
-/

set_option autoImplicit false

namespace ThreatGraph.Yaml

open Lexing

/-! ## The grammar

Each form of a node has its characters and its tokens side by side, and so the lexer and the reader
of nodes can be dealt with one after the other. -/

/-- A field of a flow mapping: its key and how it is written, and the node of its value with the
characters and tokens. -/
structure FlowField where
  key : List Char
  spelling : List Char
  value : Node
  text : List Char
  tokens : List Token

namespace FlowField

/-- The nodes of the key and of the value. -/
def node (f : FlowField) : Node × Node := (.scalar .quoted none (String.ofList f.key), f.value)

/-- A field as an entry of a flow collection. -/
def entry (f : FlowField) : List Char × List Token :=
  ('"' :: f.spelling ++ '"' :: ':' :: f.text,
    .key :: .scalar .quoted (String.ofList f.key) :: .value :: f.tokens)

end FlowField

/-- Nodes on one line without blanks, in their characters and tokens. -/
inductive Flow : Node → List Char → List Token → Prop where
  | word {w : List Char} (hw : ∀ c ∈ w, isWordChar c = true) (hne : w ≠ []) :
      Flow (.scalar .plain none (String.ofList w)) w [.scalar .plain (String.ofList w)]
  | quoted {text cs : List Char} (htext : SpellsText text cs) :
      Flow (.scalar .quoted none (String.ofList text)) ('"' :: cs ++ ['"'])
        [.scalar .quoted (String.ofList text)]
  | sequence {items : List (Node × List Char × List Token)}
      (hitems : ∀ i ∈ items, Flow i.1 i.2.1 i.2.2) :
      Flow (.sequence (items.map Prod.fst)) (collectionText .sequence (items.map Prod.snd))
        (collectionTokens .sequence (items.map Prod.snd))
  | mapping {fields : List FlowField} (hvalues : ∀ f ∈ fields, Flow f.value f.text f.tokens)
      (hkeys : ∀ f ∈ fields, SpellsText f.key f.spelling ∧ f.spelling.length + 2 ≤ keyLimit) :
      Flow (.mapping (fields.map FlowField.node))
        (collectionText .mapping (fields.map FlowField.entry))
        (collectionTokens .mapping (fields.map FlowField.entry))

variable {node : Node} {cs : List Char} {ts : List Token}

/-- The lexer cuts the characters of a node into its tokens. -/
theorem Flow.cuts (h : Flow node cs ts) : Cuts false cs ts := by
  induction h with
  | word hw hne => exact cuts_word hw hne
  | quoted htext => exact cuts_quoted htext
  | sequence _ ih =>
    refine cuts_collection (List.forall_mem_map.2 fun i hi => ?_) .sequence
    exact (ih i hi).of_any true
  | mapping _ hkeys ih =>
    refine cuts_collection (List.forall_mem_map.2 fun f hf => ?_) .mapping
    exact cuts_field (hkeys f hf).1 (hkeys f hf).2 (ih f hf)

/-! ## Reading nodes

The reader of nodes goes down one unit of fuel with each call, and some calls take no token.  Four
units for each token are enough for all of them. -/

/-- Whether a token begins a node of the grammar. -/
def startsNode : Token → Bool
  | .scalar _ _ | .flowStart _ => true
  | _ => false

/-- Tokens are read as a node, with four units of fuel for each of them. -/
structure Reads (node : Node) (ts : List Token) : Prop where
  starts : ∃ t rest, ts = t :: rest ∧ startsNode t = true
  reads : ∀ handles place fuel rest anchors, 4 * ts.length ≤ fuel →
    readNode handles place fuel ⟨ts ++ rest, anchors⟩ = some (node, ⟨rest, anchors⟩)

/-- A scalar is one token. -/
theorem reads_scalar (style : Style) (text : String) :
    Reads (.scalar style none text) [.scalar style text] where
  starts := ⟨_, _, rfl, rfl⟩
  reads handles place fuel rest anchors hfuel := by
    obtain ⟨fuel, rfl⟩ := Nat.exists_eq_add_of_le' hfuel
    rfl

/-- The first token of a node is none of those that cannot begin one. -/
theorem Reads.nextIs (h : Reads node ts) {p : Token → Bool}
    (hp : ∀ t, startsNode t = true → p t = false) (rest : List Token) (anchors : Anchors) :
    Reading.nextIs p ⟨ts ++ rest, anchors⟩ = false := by
  obtain ⟨t, tail, rfl, ht⟩ := h.starts
  exact hp t ht

/-- A token that ends a key, a value or an item does not begin one. -/
theorem endsFlowKey_of_startsNode (kind : Collection) {t : Token} (h : startsNode t = true) :
    endsFlowKey kind t = false ∧ endsFlowValue kind t = false := by
  cases t <;> first | exact ⟨rfl, rfl⟩ | cases h

/-- Where a node may be missing it is read if it is there. -/
theorem Reads.readNodeOrEmpty (h : Reads node ts) {ends : Token → Bool}
    (hends : ∀ t, startsNode t = true → ends t = false) (handles : Handles) (place : Place)
    {fuel : Nat} (hfuel : 4 * ts.length + 1 ≤ fuel) (rest : List Token) (anchors : Anchors) :
    Yaml.readNodeOrEmpty handles place ends fuel ⟨ts ++ rest, anchors⟩ =
      some (node, ⟨rest, anchors⟩) := by
  obtain ⟨fuel, rfl⟩ := Nat.exists_eq_add_of_le' hfuel
  rw [← Nat.add_assoc, Yaml.readNodeOrEmpty, h.nextIs hends, if_neg Bool.false_ne_true,
    h.reads handles place _ rest anchors (Nat.le_add_left ..)]

/-- A colon and the tokens of a node are read as the value of a field. -/
theorem Reads.readFlowValue (h : Reads node ts) (handles : Handles) (kind : Collection) {fuel : Nat}
    (hfuel : 4 * ts.length + 2 ≤ fuel) (rest : List Token) (anchors : Anchors) :
    Yaml.readFlowValue handles kind fuel ⟨.value :: (ts ++ rest), anchors⟩ =
      some (node, ⟨rest, anchors⟩) := by
  obtain ⟨fuel, rfl⟩ := Nat.exists_eq_add_of_le' hfuel
  rw [← Nat.add_assoc _ _ 1, ← Nat.add_assoc, Yaml.readFlowValue]
  exact h.readNodeOrEmpty (fun t ht => (endsFlowKey_of_startsNode kind ht).2) handles .flow
    (by omega) rest anchors

/-- The comma in front of an entry, which is not there before the first. -/
def commaBefore (first : Bool) : List Token := if first then [] else [.flowEntry]

/-- One item is read from the front of a flow sequence. -/
theorem Reads.readFlowItems (h : Reads node ts) (handles : Handles) (first : Bool) {fuel : Nat}
    (hfuel : 4 * ts.length ≤ fuel) (rest : List Token) (anchors : Anchors) :
    Yaml.readFlowItems handles first (fuel + 1) ⟨commaBefore first ++ ts ++ rest, anchors⟩ =
      (Yaml.readFlowItems handles false fuel ⟨rest, anchors⟩).map fun a => (node :: a.1, a.2) := by
  have hitem : ((readNode handles .flow fuel ⟨ts ++ rest, anchors⟩).bind fun a =>
        (Yaml.readFlowItems handles false fuel a.2).bind fun b => some (a.1 :: b.1, b.2)) =
      (Yaml.readFlowItems handles false fuel ⟨rest, anchors⟩).map fun a => (node :: a.1, a.2) := by
    rw [h.reads handles .flow fuel rest anchors hfuel, Option.bind_some]
    cases Yaml.readFlowItems handles false fuel ⟨rest, anchors⟩ <;> rfl
  obtain ⟨t, tail, rfl, ht⟩ := h.starts
  cases first <;> cases t <;> first | exact hitem | cases ht

/-- One field is read from the front of a flow mapping. -/
theorem readFlowFields_field {f : FlowField} (h : Reads f.value f.tokens) (handles : Handles)
    (first : Bool) {fuel : Nat} (hfuel : 4 * f.tokens.length + 5 ≤ fuel) (rest : List Token)
    (anchors : Anchors) :
    readFlowFields handles first (fuel + 1)
        ⟨commaBefore first ++ f.entry.2 ++ rest, anchors⟩ =
      (readFlowFields handles false fuel ⟨rest, anchors⟩).map fun a => (f.node :: a.1, a.2) := by
  have hkey := (reads_scalar .quoted (String.ofList f.key)).readNodeOrEmpty
    (fun t ht => (endsFlowKey_of_startsNode .mapping ht).1) handles .flow
    (Nat.le_trans (Nat.le_add_left 5 _) hfuel) (.value :: (f.tokens ++ rest)) anchors
  have hvalue := h.readFlowValue handles .mapping
    (Nat.le_trans (Nat.add_le_add_left (by decide : 2 ≤ 5) _) hfuel) rest anchors
  have hfield : ((Yaml.readNodeOrEmpty handles .flow (endsFlowKey .mapping) fuel
        ⟨[.scalar .quoted (String.ofList f.key)] ++ .value :: (f.tokens ++ rest), anchors⟩).bind
      fun a => (readFlowValue handles .mapping fuel a.2).bind fun b =>
        (readFlowFields handles false fuel b.2).bind fun c =>
          some ((a.1, b.1) :: c.1, c.2)) =
      (readFlowFields handles false fuel ⟨rest, anchors⟩).map fun a => (f.node :: a.1, a.2) := by
    rw [hkey, Option.bind_some, hvalue, Option.bind_some]
    cases readFlowFields handles false fuel ⟨rest, anchors⟩ <;> rfl
  cases first <;> exact hfield

section Entries

variable {ι α : Type} (kind : Collection) (tokens : ι → List Token) (result : ι → α)

/-- A reader that takes entries of a flow collection from the front, one after the other, reads
them all up to the end of the collection. -/
theorem readEntries (read : Bool → Nat → Reading → Option (List α × Reading))
    (hend : ∀ first fuel rest anchors,
      read first (fuel + 1) ⟨.flowEnd kind :: rest, anchors⟩ = some ([], ⟨rest, anchors⟩))
    {entries : List ι} (hentries : ∀ e ∈ entries, ∀ first fuel rest anchors,
      4 * (tokens e).length ≤ fuel →
        read first (fuel + 1) ⟨commaBefore first ++ tokens e ++ rest, anchors⟩ =
          (read false fuel ⟨rest, anchors⟩).map fun a => (result e :: a.1, a.2))
    {fuel : Nat} (hfuel : 4 * (joinSep Token.flowEntry (entries.map tokens)).length + 2 ≤ fuel)
    (rest : List Token) (anchors : Anchors) :
    read true fuel ⟨joinSep .flowEntry (entries.map tokens) ++ .flowEnd kind :: rest, anchors⟩ =
      some (entries.map result, ⟨rest, anchors⟩) := by
  have hmore : ∀ first, entries ≠ [] →
      read first fuel ⟨commaBefore first ++ joinSep .flowEntry (entries.map tokens) ++
          .flowEnd kind :: rest, anchors⟩ = some (entries.map result, ⟨rest, anchors⟩) := by
    induction entries generalizing fuel with
    | nil => exact fun _ hne => absurd rfl hne
    | cons e entries ih =>
      intro first _
      obtain ⟨he, hentries⟩ := List.forall_mem_cons.1 hentries
      obtain ⟨fuel, rfl⟩ : ∃ k, fuel = k + 1 := ⟨fuel - 1, by omega⟩
      by_cases hlast : entries = []
      · subst hlast
        rw [List.map_cons, List.map_nil, joinSep] at hfuel ⊢
        obtain ⟨fuel, rfl⟩ : ∃ k, fuel = k + 1 := ⟨fuel - 1, by omega⟩
        rw [he first _ _ anchors (by omega), hend]
        rfl
      · rw [List.map_cons, joinSep_cons _ (by simpa using hlast)] at hfuel ⊢
        rw [List.length_append, List.length_cons] at hfuel
        have hrest := ih hentries (by omega : _ ≤ fuel) false hlast
        rw [commaBefore, if_neg Bool.false_ne_true, List.singleton_append] at hrest
        rw [← List.append_assoc, List.append_assoc _ (_ :: _), he first _ _ anchors (by omega),
          hrest]
        rfl
  cases entries with
  | nil =>
    obtain ⟨fuel, rfl⟩ : ∃ k, fuel = k + 1 := ⟨fuel - 1, by omega⟩
    exact hend true fuel rest anchors
  | cons e entries => exact hmore true (List.cons_ne_nil _ _)

/-- A flow collection is read as the node of its entries. -/
theorem reads_collection (make : List α → Node)
    (read : Handles → Bool → Nat → Reading → Option (List α × Reading))
    (hstart : ∀ handles place fuel rest anchors,
      readNode handles place (fuel + 2) ⟨.flowStart kind :: rest, anchors⟩ =
        (read handles true fuel ⟨rest, anchors⟩).map fun a => (make a.1, a.2))
    (hend : ∀ handles first fuel rest anchors,
      read handles first (fuel + 1) ⟨.flowEnd kind :: rest, anchors⟩ = some ([], ⟨rest, anchors⟩))
    {entries : List ι} (hentries : ∀ e ∈ entries, ∀ handles first fuel rest anchors,
      4 * (tokens e).length ≤ fuel →
        read handles first (fuel + 1) ⟨commaBefore first ++ tokens e ++ rest, anchors⟩ =
          (read handles false fuel ⟨rest, anchors⟩).map fun a => (result e :: a.1, a.2)) :
    Reads (make (entries.map result))
      (.flowStart kind :: joinSep .flowEntry (entries.map tokens) ++ [.flowEnd kind]) where
  starts := ⟨_, _, rfl, rfl⟩
  reads handles place fuel rest anchors hfuel := by
    rw [List.length_append, List.length_cons, List.length_singleton] at hfuel
    obtain ⟨fuel, rfl⟩ : ∃ k, fuel = k + 2 := ⟨fuel - 2, by omega⟩
    rw [List.cons_append, List.cons_append, List.append_assoc, List.singleton_append, hstart,
      readEntries kind tokens result (read handles) (hend handles)
        (fun e he => hentries e he handles) (by omega)]
    rfl

end Entries

/-- A sequence is read as its items. -/
theorem reads_sequence {items : List (Node × List Char × List Token)}
    (h : ∀ i ∈ items, Reads i.1 i.2.2) :
    Reads (.sequence (items.map Prod.fst)) (collectionTokens .sequence (items.map Prod.snd)) := by
  rw [collectionTokens, List.map_map]
  refine reads_collection .sequence _ Prod.fst .sequence readFlowItems (fun _ _ _ _ _ => rfl)
    (fun _ _ _ _ _ => rfl) fun i hi handles first fuel rest anchors hfuel => ?_
  exact (h i hi).readFlowItems handles first hfuel rest anchors

/-- A mapping is read as its fields. -/
theorem reads_mapping {fields : List FlowField} (h : ∀ f ∈ fields, Reads f.value f.tokens) :
    Reads (.mapping (fields.map FlowField.node))
      (collectionTokens .mapping (fields.map FlowField.entry)) := by
  rw [collectionTokens, List.map_map]
  refine reads_collection .mapping _ FlowField.node .mapping readFlowFields (fun _ _ _ _ _ => rfl)
    (fun _ _ _ _ _ => rfl) fun f hf handles first fuel rest anchors hfuel => ?_
  refine readFlowFields_field (h f hf) handles first ?_ rest anchors
  simp only [Function.comp_apply, FlowField.entry, List.length_cons] at hfuel
  omega

/-- The reader of nodes makes a node of its tokens. -/
theorem Flow.reads (h : Flow node cs ts) : Reads node ts := by
  induction h with
  | word => exact reads_scalar _ _
  | quoted => exact reads_scalar _ _
  | sequence _ ih => exact reads_sequence ih
  | mapping _ _ ih => exact reads_mapping ih

/-! ## Documents

A text that is one flow collection has no marks of documents and no directives, so its tokens are
those of one node and the end of the stream. -/

/-- The tokens of a node by themselves are a document. -/
theorem Reads.ofTokens? (h : Reads node ts) :
    Document.ofTokens? ts = some ⟨node, Anchors.empty⟩ := by
  have hread := h.reads ([] ++ standardHandles) .item (4 * ts.length + 8) [] Anchors.empty
    (Nat.le_add_right _ 8)
  rw [List.append_nil] at hread
  obtain ⟨t, rest, rfl, ht⟩ := h.starts
  have hdirectives : readDirectives false [] (t :: rest) = some ([], t :: rest) := by
    cases t <;> first | rfl | cases ht
  have hmark : t ≠ .documentStart := by
    rintro rfl
    cases ht
  have hroot : readRoot [] false (t :: rest) = some (node, ⟨[], Anchors.empty⟩) := hread
  rw [Document.ofTokens?, hdirectives]
  simp only [Option.bind_eq_bind, Option.bind_some, List.head?_cons, Option.some.injEq, hmark,
    decide_false, List.isEmpty_nil, decide_true, Bool.not_false, Bool.and_self, if_true,
    List.isEmpty_cons, Bool.false_eq_true, if_false, hroot]
  rfl

/-- **A flow collection on one line is a document.**  Let a sequence or a mapping be written in
characters of the grammar, none of which is a line break or may not stand in a stream.  Then the
text is a document with this node as its root. -/
theorem Flow.parse? (h : Flow node cs ts) (hroot : ∀ style tag text, node ≠ .scalar style tag text)
    (hinline : ∀ c ∈ cs, isInline c = true) :
    Document.parse? (String.ofList cs) = some ⟨node, Anchors.empty⟩ := by
  have htokens : tokens? (String.ofList cs) = some ts := by
    cases h with
    | word => exact absurd rfl (hroot _ _ _)
    | quoted => exact absurd rfl (hroot _ _ _)
    | sequence hitems =>
      refine tokens?_collection (List.forall_mem_map.2 fun i hi => ?_) .sequence hinline
      exact (hitems i hi).cuts.of_any true
    | mapping hvalues hkeys =>
      refine tokens?_collection (List.forall_mem_map.2 fun f hf => ?_) .mapping hinline
      exact cuts_field (hkeys f hf).1 (hkeys f hf).2 (hvalues f hf).cuts
  rw [Document.parse?, htokens]
  exact h.reads.ofTokens?

end ThreatGraph.Yaml
