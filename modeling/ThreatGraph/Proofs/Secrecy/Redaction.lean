import ThreatGraph.Proofs.Text.Form
import ThreatGraph.Upload

/-!
# Messages without the values of some keys

What two messages have in common, whatever the values of some secret keys are, is the message from
which these values are taken.

* `Params.blur` puts the values of some keys in another form.  Setting parameters, joining them and
  listing their pairs all commute with it.
* `Form.redact` takes the values of some keys from the text of a form and leaves the rest as it is
  written.  `Form.redact_encode` says what is left of a form that was made of pairs.
* `Message.redact` does this in the query of the URL and in the body of a message.
-/

set_option autoImplicit false

namespace ThreatGraph

/-- Setting a key commutes with a change of the values that looks at their keys. -/
theorem Assoc.map_insert {α β : Type} (g : String → α → β) (key : String) (value : α)
    (entries : List (String × α)) :
    (insert key value entries).map (fun entry => (entry.1, g entry.1 entry.2)) =
      insert key (g key value) (entries.map fun entry => (entry.1, g entry.1 entry.2)) := by
  induction entries with
  | nil => rfl
  | cons head rest ih =>
    rw [insert, List.map_cons, insert]
    split
    · rfl
    · split
      · next heq =>
        subst heq
        rfl
      · rw [List.map_cons, ih]

/-! ## Parameters

The values of some keys are put in another form by a function that is left open.  If it forgets
them, the result is what two sets of parameters have in common; if it keeps their lengths, it is how
long they are. -/

section

variable (keys : List String) (f : String → String)

/-- A value in another form. -/
def ParamValue.map : ParamValue → ParamValue
  | .single value => .single (f value)
  | .multi values => .multi (values.map f)

/-- A value in another form if its key is among some. -/
def ParamValue.blur (key : String) (value : ParamValue) : ParamValue :=
  if key ∈ keys then value.map f else value

/-- A pair with its value in another form if its key is among some. -/
def blurPair (pair : String × String) : String × String :=
  if pair.1 ∈ keys then (pair.1, f pair.2) else pair

/-- The pairs of a changed value are the changed pairs of the value. -/
theorem ParamValue.toList_blur (key : String) (value : ParamValue) :
    (value.blur keys f key).toList.map (key, ·) =
      (value.toList.map (key, ·)).map (blurPair keys f) := by
  rw [blur, List.map_map]
  by_cases hkey : key ∈ keys
  · rw [if_pos hkey]
    cases value <;> simp [ParamValue.map, toList, blurPair, hkey]
  · rw [if_neg hkey]
    simp [blurPair, hkey]

namespace Params

/-- Parameters with the values of some keys in another form. -/
def blur (p : Params) : Params where
  entries := p.entries.map fun entry => (entry.1, entry.2.blur keys f entry.1)
  ordered := List.pairwise_map.2 (p.ordered.imp id)

/-- Setting a key and changing values can be exchanged. -/
theorem blur_insert (key : String) (value : ParamValue) (p : Params) :
    (p.insert key value).blur keys f = (p.blur keys f).insert key (value.blur keys f key) := by
  simp only [blur, insert, Params.mk.injEq]
  exact Assoc.map_insert (fun key (value : ParamValue) => value.blur keys f key) _ _ _

/-- So can joining and changing. -/
theorem blur_merge (p q : Params) :
    (p.merge q).blur keys f = (p.blur keys f).merge (q.blur keys f) := by
  rw [merge, merge]
  change _ = List.foldl _ _ (q.entries.map _)
  rw [List.foldl_map]
  generalize q.entries = entries
  induction entries generalizing p with
  | nil => rfl
  | cons head rest ih => rw [List.foldl_cons, List.foldl_cons, ih, blur_insert]

/-- The pairs are those in which the values of the keys are changed. -/
theorem pairs_blur (p : Params) : (p.blur keys f).pairs = p.pairs.map (blurPair keys f) := by
  simp only [pairs, blur, List.flatMap_map, List.map_flatMap, ParamValue.toList_blur]

end Params

end

/-! ## Forms

A form is redacted as a text, piece by piece, as someone would who has only the text.  That what is
left does not depend on the values is then a fact about what was sent, and not about the parameters
that it was made of. -/

namespace Form

variable (keys : List String)

/-- A pair without its value, if its key is among some. -/
def redactPair : String × String → String × String := blurPair keys fun _ => ""

/-- A piece of a form without its value, if its key is among some. -/
def redactPiece (piece : List Char) : List Char :=
  if decodeText (splitFirst '=' piece).1 ∈ keys then (splitFirst '=' piece).1 ++ ['='] else piece

/-- The text of a form without the values of some keys.  The rest stays as it is written. -/
def redact (text : String) : String :=
  String.ofList (joinSep '&' ((splitOn '&' text.toList).map (redactPiece keys)))

theorem redactPiece_encodePair (pair : String × String) :
    redactPiece keys (encodePair pair) = encodePair (redactPair keys pair) := by
  have hkey : (splitFirst '=' (encodePair pair)).1 = encodeText pair.1 := by
    rw [encodePair, splitFirst_append (not_mem_encodeText pair.1).2]
  rw [redactPiece, hkey, decodeText_encodeText, redactPair, blurPair]
  split <;> rfl

/-- **What is left of a form** is the form of the pairs without the values. -/
theorem redact_encode (hkeys : "" ∉ keys) (pairs : List (String × String)) :
    redact keys (String.ofList (encode pairs)) =
      String.ofList (encode (pairs.map (redactPair keys))) := by
  rw [redact, String.toList_ofList]
  cases hpairs : pairs with
  | nil =>
    have hempty : redactPiece keys [] = [] := by
      rw [redactPiece, splitFirst, show decodeText [] = "" from decodeText_encodeText "",
        if_neg hkeys]
    simp [encode, joinSep, splitOn, hempty]
  | cons pair rest =>
    rw [← hpairs, splitOn_encode (by simp [hpairs]), encode, List.map_map, List.map_map]
    congr 2
    exact List.map_congr_left fun pair _ => redactPiece_encodePair keys pair

/-- What is left of two forms with an ampersand between them is what is left of each. -/
theorem redact_append (front back : String) :
    redact keys (front ++ "&" ++ back) = redact keys front ++ "&" ++ redact keys back := by
  have htext : (front ++ "&" ++ back).toList = front.toList ++ '&' :: back.toList := by simp
  rw [redact, redact, redact, htext, splitOn_append_cons, List.map_append, joinSep_append]
  · simp [String.append_assoc]
  · simp [splitOn_ne_nil]
  · simp [splitOn_ne_nil]

end Form

/-! ## Messages

A message has secrets in its query and in its body, which is nothing, a form, or parts of an upload.
All of these are redacted for the same keys. -/

section

variable (keys : List String)

/-- A URL without the values of some keys of its query. -/
def Url.redact (u : Url) : Url := { u with query := u.query.map (Form.redact keys) }

/-- A part without its content, if it is the field of a key. -/
def Part.redact (part : Part) : Part :=
  if part.head ∈ keys.map (Upload.partHead · none) then { part with content := [] } else part

/-- A body without the values of some keys. -/
def Payload.redact : Payload → Payload
  | .empty => .empty
  | .form text => .form (Form.redact keys text)
  | .parts all => .parts (all.map (Part.redact keys))

/-- A message without the values of some keys. -/
def Message.redact (message : Message) : Message :=
  { message with url := message.url.redact keys, payload := message.payload.redact keys }

variable {keys}

/-- Pairs that agree but for the values of some keys make queries that do. -/
theorem Url.redact_appendPairs (hkeys : "" ∉ keys) {pairs pairs' : List (String × String)}
    (h : pairs.map (Form.redactPair keys) = pairs'.map (Form.redactPair keys)) (u : Url) :
    (u.appendPairs pairs).redact keys = (u.appendPairs pairs').redact keys := by
  have hredact : Form.redact keys (String.ofList (Form.encode pairs)) =
      Form.redact keys (String.ofList (Form.encode pairs')) := by
    rw [Form.redact_encode keys hkeys, Form.redact_encode keys hkeys, h]
  have hempty : String.ofList (Form.encode pairs) = "" ↔
      String.ofList (Form.encode pairs') = "" := by
    have hlength := congrArg List.length h
    simp only [List.length_map] at hlength
    rw [String.ofList_eq_empty_iff, String.ofList_eq_empty_iff, Form.encode_eq_nil_iff,
      Form.encode_eq_nil_iff, ← List.length_eq_zero_iff, ← List.length_eq_zero_iff, hlength]
  simp only [appendPairs, redact, Url.mk.injEq, true_and, and_true]
  by_cases hform : String.ofList (Form.encode pairs) = ""
  · rw [if_pos hform, if_pos hform, if_pos (hempty.1 hform), if_pos (hempty.1 hform)]
  · rw [if_neg hform, if_neg hform, if_neg (mt hempty.2 hform), if_neg (mt hempty.2 hform)]
    split
    · rw [Option.map_some, Option.map_some, hredact]
    · rw [Option.map_some, Option.map_some, Form.redact_append, Form.redact_append, hredact]

end

end ThreatGraph
