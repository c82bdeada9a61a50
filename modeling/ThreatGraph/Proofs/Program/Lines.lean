import ThreatGraph.Proofs.Json.Rereading
import ThreatGraph.Proofs.Program.Listing
import ThreatGraph.Proofs.Record.Rereading

/-!
# What the program writes, line by line

In the compact layout each record is one line.  What is in a record came out of an answer that was
read, so the line can be read again as the record, unless the record holds a fraction.

* `Client.legible_of_execute` says that the answer to a request can be read again, and
  `Descriptor.legible_toJson` and its like that the records made of its items can.
* `Pager.Keeps` is the invariant that carries this through a traversal: it holds of what is at hand,
  and of what will be made of pages to come.
* `Program.output_lines` puts it together.
-/

set_option autoImplicit false

namespace ThreatGraph

variable {α : Type}

open Json (Legible legible_record)

/-! ## Answers

The body of an answer is what its text was read as, and this is followed through the client: through
an attempt, and through those that come before it. -/

namespace Client

/-- What is made of an answer is what its text was read as. -/
theorem parse?_of_deliver {message : Message} {w : World} {body : Json}
    (h : (deliver message w).1 = .ok body) : ∃ text, Json.parse? text = some body := by
  rw [deliver] at h
  split at h
  · next answer _ _ =>
    simp only [interpret] at h
    split at h
    · split at h <;> cases h
    · next hparse =>
      split at h
      · cases h
      · cases h
        exact ⟨_, hparse⟩
  · cases h

theorem parse?_of_attempt {c : Client} {r : Request} {w : World} {body : Json}
    (h : (c.attempt r w).1 = .ok body) : ∃ text, Json.parse? text = some body := by
  unfold attempt at h
  split at h
  · exact parse?_of_deliver h
  · cases h

/-- The result of a request is what some text was read as. -/
theorem parse?_of_executeFrom {c : Client} {r : Request} {left retries : Nat} {w : World}
    {body : Json} (h : (c.executeFrom r retries left w).1 = .ok body) :
    ∃ text, Json.parse? text = some body := by
  induction left generalizing retries w with
  | zero => exact parse?_of_attempt h
  | succ left ih =>
    rw [executeFrom] at h
    have hattempt := @parse?_of_attempt c r w
    generalize c.attempt r w = result at h hattempt
    obtain ⟨failure | body', w'⟩ := result
    · rw [resume] at h
      split at h
      · exact ih h
      · cases h
    · exact hattempt h

/-- The answer to a request can be read again. -/
theorem legible_of_ask {c : Client} {request : Except Failure Request} {w w' : World} {body : Json}
    (h : c.ask request w = (.ok body, w')) : Legible 127 body := by
  unfold ask at h
  split at h
  · cases h
  · obtain ⟨text, htext⟩ := parse?_of_executeFrom (congrArg Prod.fst h)
    exact Json.legible_of_parse? htext

end Client

/-- The items of a page nest two deep less than the answer. -/
theorem Page.legible_of_mem_itemsOf {n : Nat} {body : Json} (h : Legible (n + 2) body) :
    ∀ x ∈ itemsOf body, Legible n x := by
  rw [itemsOf]
  cases hdata : (body.get? "data").bind Json.asArray? with
  | none => exact List.forall_mem_nil _
  | some items =>
    obtain ⟨data, hget, hitems⟩ := Option.bind_eq_some_iff.1 hdata
    exact (h.get? hget).asArray? hitems

/-! ## Records

A record is made of the parts of an item, so it nests no deeper.  Of most items only texts, numbers
and instants are kept, and the record is one object of these whatever the item was. -/

theorem Json.legible_nat {m : Nat} (h : m ≤ maxUnsigned64) (n : Nat) : Legible n (nat m) :=
  .number ⟨Int.le_trans (by decide) (Int.natCast_nonneg m), Int.ofNat_le.2 h⟩

/-- What can be written of a value that may be missing. -/
theorem Json.legible_option {β : Type} {encode : β → Json} {n : Nat}
    (h : ∀ b, Legible n (encode b)) (o : Option β) : Legible n (option encode o) := by
  cases o with
  | none => exact .null
  | some b => exact h b

namespace Field

variable {n : Nat}

theorem legible_textJson (s : Option String) : Legible n (textJson s) :=
  Json.legible_option .string s

theorem legible_instantJson (t : Option Instant) : Legible n (instantJson t) :=
  Json.legible_option (fun t => .string t.text) t

theorem legible_termJson {β : Type} [Vocabulary β] (t : Option (Term β)) :
    Legible n (termJson t) :=
  Json.legible_option (fun t => .string t.text) t

/-- A number in a record was read from a JSON number, so it fits 64 bits. -/
theorem nat?_getD_le (key : String) (value : Json) : (nat? key value).getD 0 ≤ maxUnsigned64 := by
  cases h : nat? key value with
  | none => exact Nat.zero_le _
  | some m =>
    obtain ⟨member, -, hm⟩ := Option.bind_eq_some_iff.1 h
    exact le_of_natOf? hm

end Field

/-- A descriptor has the reactions of the value that it was made of, and nothing else that nests. -/
theorem Descriptor.legible_toJson {n : Nat} {x : Json} (h : Legible (n + 2) x) :
    Legible (n + 2) (ofJson x).toJson := by
  have htags : Legible (n + 1) (.array ((tagsOf x).map Json.string)) :=
    .array (List.forall_mem_map.2 fun text _ => .string text)
  have hreactions : Legible (n + 1) (.object (reactionsOf x)) := by
    rw [reactionsOf]
    cases hfound : (x.get? "reactions").bind Json.asObject? with
    | none => exact .object List.Pairwise.nil (List.forall_mem_nil _)
    | some fields =>
      obtain ⟨reactions, hget, hfields⟩ := Option.bind_eq_some_iff.1 hfound
      exact (h.get? hget).asObject? hfields
  refine legible_record ?_
  simp only [List.forall_mem_cons, Field.legible_textJson, Field.legible_termJson,
    Field.legible_instantJson, true_and]
  exact ⟨.string _, htags, hreactions, List.forall_mem_nil _⟩

theorem Indicator.legible_toJson (n : Nat) (i : Indicator) : Legible (n + 1) i.toJson := by
  refine legible_record ?_
  simp only [List.forall_mem_cons, Field.legible_textJson, Field.legible_termJson,
    Field.legible_instantJson, true_and]
  exact ⟨.string _, List.forall_mem_nil _⟩

theorem Tag.legible_toJson (n : Nat) (x : Json) : Legible (n + 1) (ofJson x).toJson := by
  refine legible_record ?_
  simp only [List.forall_mem_cons]
  exact ⟨.string _, .string _, Json.legible_nat (Field.nat?_getD_le _ x) n, List.forall_mem_nil _⟩

theorem Member.legible_toJson (n : Nat) (m : Member) : Legible (n + 1) m.toJson := by
  refine legible_record ?_
  simp only [List.forall_mem_cons, Field.legible_textJson, true_and]
  exact ⟨.string _, .string _, List.forall_mem_nil _⟩

theorem Update.legible_toJson (n : Nat) (u : Update) : Legible (n + 1) u.toJson := by
  refine legible_record ?_
  simp only [List.forall_mem_cons, Field.legible_textJson, Field.legible_instantJson, true_and]
  exact ⟨.string _, .bool _, List.forall_mem_nil _⟩

/-! ## Traversals

A pager gives items of pages that it has fetched.  What is true of everything that can be made of
items that were read is therefore true of what it gives, as long as it is true of what it has at
hand to begin with. -/

namespace Pager

/-- What holds of the items at hand, and of what is made of the items of pages to come. -/
structure Keeps (P : α → Prop) (p : Pager α) : Prop where
  buffer : ∀ item ∈ p.buffer, P item
  transform : ∀ x, Legible 125 x → P (p.transform x)

variable {P : α → Prop}

/-- A pager that begins has nothing at hand. -/
theorem Keeps.start {c : Client} {endpoint : String} {params : Params} {limit : Option Nat}
    {transform : Json → α} (h : ∀ x, Legible 125 x → P (transform x)) :
    Keeps P (.start c endpoint params limit transform) where
  buffer := List.forall_mem_nil _
  transform := h

/-- A page that is taken in comes from an answer that was read. -/
theorem Keeps.fetch {p p' : Pager α} {w w' : World} {page : Page α} (h : Keeps P p)
    (hturn : p.turn w = .fetch page p' w') : Keeps P p' := by
  obtain ⟨_, body, _, hpull, rfl, rfl, _⟩ := turn_eq_fetch hturn
  have hitems := Page.legible_of_mem_itemsOf (Client.legible_of_ask hpull)
  refine { buffer := fun item hitem => ?_, transform := h.transform }
  rcases List.mem_append.1 hitem with hitem | hitem
  · exact h.buffer item hitem
  · obtain ⟨x, hx, rfl⟩ := List.mem_map.1 hitem
    exact h.transform x (hitems x hx)

/-- An item that is given was at hand, and the others stay there. -/
theorem Keeps.answer {p p' : Pager α} {w w' : World} {result : Except Failure (Option α)}
    (h : Keeps P p) (hanswer : Answered p w result p' w') :
    Keeps P p' ∧ ∀ item, result = .ok (some item) → P item := by
  cases hanswer with
  | limit _ => exact ⟨⟨List.forall_mem_nil _, h.transform⟩, nofun⟩
  | item _ hbuffer =>
    obtain ⟨hitem, hrest⟩ := List.forall_mem_cons.1 (hbuffer ▸ h.buffer)
    refine ⟨⟨hrest, h.transform⟩, fun item heq => ?_⟩
    cases heq
    exact hitem
  | finished _ _ => exact ⟨h, nofun⟩
  | failed _ _ => exact ⟨⟨h.buffer, h.transform⟩, nofun⟩

/-- A call keeps what holds, and the item that it gives is one of which it holds. -/
theorem Keeps.next {p : Pager α} (h : Keeps P p) (w : World) :
    Keeps P (p.next w).2.1 ∧ ∀ item, (p.next w).1 = .ok (some item) → P item := by
  induction p, w using turns_induction with
  | answer p w result p' w' hturn =>
    rw [next_eq_turn, hturn]
    exact h.answer (turn_eq_answer hturn)
  | fetch p w page p' w' hturn ih =>
    rw [next_eq_turn, hturn]
    exact ih (h.fetch hturn)

/-- What holds of the items at hand and to come holds of all items that a pager gives. -/
theorem Keeps.drain {p : Pager α} (h : Keeps P p) (w : World) : ∀ item ∈ (p.drain w).1, P item := by
  have hnext := h.next w
  induction p, w using items_induction with
  | item p w item p' w' heq ih =>
    rw [heq] at hnext
    rw [drain_eq, heq]
    exact List.forall_mem_cons.2 ⟨hnext.2 item rfl, ih hnext.1 (hnext.1.next w')⟩
  | ended p w p' w' heq =>
    rw [drain_eq, heq]
    exact List.forall_mem_nil _
  | failed p w failure p' w' heq =>
    rw [drain_eq, heq]
    exact List.forall_mem_nil _

end Pager

/-- The records that a command lists can all be read again. -/
theorem Command.Lists.keeps {command : Command} {k : Collection α} {limit : Option Nat}
    {encode : α → Json} (h : command.Lists k limit encode) {c : Client} {p : Pager α}
    (hpager : k.pager c limit = .ok p) : p.Keeps fun item => Legible 125 (encode item) := by
  cases h <;> cases hpager
  · exact .start fun x => Descriptor.legible_toJson
  · exact .start fun x _ => Indicator.legible_toJson 124 _
  · exact .start fun x _ => Tag.legible_toJson 124 x
  · exact .start fun x _ => Member.legible_toJson 124 _
  · exact .start fun x _ => Update.legible_toJson 124 _

namespace Program

/-! ## Lines

The text of a record has no line feed, so the line feeds in the output are those that end the
lines. -/

/-- Records in the compact layout are cut at the line feeds into the records, and nothing after the
last line feed. -/
theorem splitOn_lines (encode : α → Json) (items : List α) :
    splitOn '\n' (lines .json encode items).toList =
      (items.map fun item => (encode item).compact.toList) ++ [[]] := by
  induction items with
  | nil => rfl
  | cons item items ih =>
    have hline : (lines .json encode (item :: items)).toList =
        (encode item).compact.toList ++ '\n' :: (lines .json encode items).toList := by
      rw [lines, List.map_cons, String.join_cons, String.toList_append, String.toList_append,
        List.append_assoc]
      rfl
    rw [hline, splitOn_append (Json.lineFeed_not_mem_compact _), ih]
    rfl

/-- The output is some records, each on a line of its own that is not empty, and nothing else.  A
record without fractions is what its line is read as. -/
structure WritesLines (encode : α → Json) (items : List α) (output : String) : Prop where
  pieces : splitOn '\n' output.toList =
    (items.map fun item => (encode item).compact.toList) ++ [[]]
  nonempty : ∀ item ∈ items, (encode item).compact ≠ ""
  rereads : ∀ item ∈ items, Json.Whole (encode item) →
    Json.parse? (encode item).compact = some (encode item)

theorem writesLines_lines {encode : α → Json} {items : List α}
    (h : ∀ item ∈ items, Legible 125 (encode item)) :
    WritesLines encode items (lines .json encode items) where
  pieces := splitOn_lines encode items
  nonempty := fun item _ => Json.compact_ne_empty (encode item)
  rereads := fun item hitem hwhole =>
    Json.parse?_compact ((h item hitem).mono (by decide)) hwhole

/-- **One record a line.**  For every command line that asks for a list of records in the compact
layout, every content of the files, every network and every script: with the client that its
settings make, the output is the records that the calls of its pager give up to the first that gives
none, one a line; without a client nothing is written. -/
theorem output_lines {env : Environment} {args : List String} {i : Invocation}
    (hparse : CommandLine.parse env args = .ok i) (hlists : i.command ≠ .whoami)
    (hlayout : i.layout = .json) (rules : String) (w : World) :
    (∀ c, i.Equips w c → ∃ (α : Type) (k : Collection α) (limit : Option Nat) (encode : α → Json)
      (p p' : Pager α) (w' : World) (items : List α) (ending : Except Failure (Option α)),
        i.command.Lists k limit encode ∧ k.pager c limit = .ok p ∧
        p.calls w (items.length + 1) = ⟨items.map (.ok ∘ some) ++ [ending], p', w'⟩ ∧
        (∀ item, ending ≠ .ok (some item)) ∧
        WritesLines encode items (run env rules args w).output) ∧
    ((¬ ∃ c, i.Equips w c) → (run env rules args w).output = "") := by
  rw [run_of_parse hparse]
  refine ⟨fun c hc => ?_, fun hnone => ?_⟩
  · obtain ⟨α, k, limit, encode, h⟩ := Command.exists_lists hlists
    obtain ⟨endpoint, params, transform, hpager, hrecords⟩ := h.records_eq c
    generalize hp : Pager.start c endpoint params limit transform = p at hpager hrecords
    have hrun : i.run w = Invocation.writeAll i.layout (p.map encode) w := by
      rw [Invocation.run, Invocation.client_eq_ok_iff.2 hc]
      dsimp only
      rw [hrecords]
    refine ⟨α, k, limit, encode, p, _, _, (p.drain w).1, _, h, hpager, p.calls_of_drain w, ?_, ?_⟩
    · intro item hitem
      cases hfailure : (p.drain w).2.1 <;> rw [hfailure] at hitem <;> cases hitem
    · rw [hrun, writeAll_map, hlayout]
      exact writesLines_lines ((h.keeps hpager).drain w)
  · cases hclient : i.client w with
    | ok c => exact absurd ⟨c, Invocation.client_eq_ok_iff.1 hclient⟩ hnone
    | error failure =>
      rw [Invocation.run, hclient]
      rfl

/-- The invocation that asks for all members, with the token that the environment gives. -/
def allMembers : Invocation := ⟨some "t", none, none, none, .json, false, .members none⟩

/-- The client for it. -/
def tokenClient : Client := ⟨⟨"t", none, none⟩, .standard⟩

/-- A network that answers with a page of one member, whose name has a line break, a quote and a
backslash. -/
def brokenName : World :=
  ⟨["https"],
    [.answered ⟨200, [], utf8Bytes
      "\x7b\"data\":[\x7b\"id\":\"1\",\"name\":\"a\\nb\\\"\\\\\"\x7d]\x7d".toList, false⟩],
    fun _ => .ok [], []⟩

/-- A member is written on one line, also with a line break in its name. -/
theorem members_on_lines :
    CommandLine.parse ⟨some "t", none⟩ ["members"] = .ok allMembers ∧
      allMembers.command ≠ .whoami ∧ allMembers.layout = .json ∧
      allMembers.Equips brokenName tokenClient ∧
      let output := (run ⟨some "t", none⟩ "" ["members"] brokenName).output
      output = "\x7b\"email\":null,\"id\":\"1\",\"name\":\"a\\nb\\\"\\\\\"\x7d\n" ∧
      ∃ member : Member, WritesLines Member.toJson [member] output := by
  have hparse : CommandLine.parse ⟨some "t", none⟩ ["members"] = .ok allMembers := rfl
  have hequips : allMembers.Equips brokenName tokenClient := Invocation.client_eq_ok_iff.1 rfl
  have houtput : (run ⟨some "t", none⟩ "" ["members"] brokenName).output =
      "\x7b\"email\":null,\"id\":\"1\",\"name\":\"a\\nb\\\"\\\\\"\x7d\n" := by
    have hgiven : ((tokenClient.listMembers [] none).drainWithin 4 brokenName).map
          (fun given => lines .json Member.toJson given.1) =
        some "\x7b\"email\":null,\"id\":\"1\",\"name\":\"a\\nb\\\"\\\\\"\x7d\n" := by
      decide +kernel
    obtain ⟨given, hdrain, hlines⟩ := Option.map_eq_some_iff.1 hgiven
    have hwrites : allMembers.run brokenName = Invocation.writeAll .json
        ((tokenClient.listMembers [] none).map Member.toJson) brokenName := rfl
    rw [run_of_parse hparse, hwrites, writeAll_map, Pager.drain_of_drainWithin hdrain]
    exact hlines
  refine ⟨hparse, Command.noConfusion, rfl, hequips, houtput, ?_⟩
  obtain ⟨α, k, limit, encode, p, p', w', items, ending, hlists, -, -, -, hwrites⟩ :=
    (output_lines hparse Command.noConfusion rfl "" _).1 _ hequips
  cases hlists
  -- There is one line feed in the output, so there is one record.
  have hpieces := congrArg List.length hwrites.pieces
  rw [houtput] at hpieces
  have hlength : items.length = 1 := by
    rw [List.length_append, List.length_map] at hpieces
    exact (Nat.succ.inj hpieces).symm
  obtain ⟨member, rfl⟩ := List.length_eq_one_iff.1 hlength
  exact ⟨member, hwrites⟩

end Program

end ThreatGraph
