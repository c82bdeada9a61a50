import ThreatGraph.Envelope
import ThreatGraph.Proofs.Text.Lowercase

/-!
# Which failure an answer is

`interpret` parses the body of an answer, looks for a report in it and tries one rule after the
other.  This file says what comes of it without saying how.

* `SpeaksOfRateLimit` holds of a message with the two words in it, in letters of either case.  Only
  letters of ASCII have a case here, though the message is put into lower case by the rules of
  Unicode (`Envelope.infix_lowercase_iff`).
* `Envelope.Meets` is the rule of each kind of failure, and a report names the kind whose rule is
  the first to hold (`Envelope.Names`).  There is exactly one (`Envelope.names_toFailure` and
  `Envelope.Names.unique`).
* `Decision` relates an answer to its result, and `interpret_eq_iff_decision` says that it is the
  graph of `interpret`.
-/

set_option autoImplicit false

namespace ThreatGraph

/-! ## Words of a message

The program puts the message into lower case by the rules of Unicode, under which a text may grow
and characters outside of ASCII may become letters of it.  None of these can make up the two words
or break them, so it is enough to look for the words in either case. -/

/-- Some characters in a row are the two words, but for the case of letters of ASCII. -/
def SpeaksOfRateLimit (message : String) : Prop :=
  ∃ window, window <:+: message.toList ∧ window.map Char.toLower = "rate limit".toList

theorem isPlainPhrase_rateLimit : IsPlainPhrase "rate limit".toList where
  ascii := by
    have hall : ("rate limit".toList.all (·.toNat < 0x80)) = true := by decide
    simpa only [List.all_eq_true, decide_eq_true_eq] using hall
  no_k := by decide
  no_i_last := by decide

/-! ## Rules

The rules are tried in an order, and the first that holds gives the kind of failure.  Here the kinds
are ranked and the rules stand by themselves, so that what is tried first is said in one place.  The
last rule always holds, and so there is a kind for every report. -/

namespace FailureKind

/-- The place of a kind of failure among those whose rules are tried. -/
def rank : FailureKind → Nat
  | .rateLimit => 0
  | .authentication => 1
  | .notFound => 2
  | .permission => 3
  | .validation => 4
  | .generic => 5

theorem rank_injective {left right : FailureKind} (h : left.rank = right.rank) : left = right := by
  cases left <;> cases right <;> first | rfl | exact absurd h (by decide)

end FailureKind

namespace Envelope

/-- Putting a message into lower case neither adds the words to it nor hides them. -/
theorem infix_lowercase_iff (message : String) :
    "rate limit".toList <:+: lowercase message.toList ↔ SpeaksOfRateLimit message :=
  isPlainPhrase_rateLimit.infix_lowercase_iff (by decide) message.toList

/-- The rule of a kind of failure. -/
def Meets (e : Envelope) : FailureKind → Prop
  | .rateLimit => e.code ∈ [4, 17, 613] ∨ SpeaksOfRateLimit e.message
  | .authentication => e.code ∈ [190, 102, 463, 467]
  | .notFound => e.code = 803 ∨ e.status = 404
  | .permission => e.code ∈ [10, 200, 294]
  | .validation => e.code = 100
  | .generic => True

/-- No rule before that of a kind holds. -/
def Reaches (e : Envelope) (kind : FailureKind) : Prop :=
  ∀ earlier : FailureKind, earlier.rank < kind.rank → ¬ e.Meets earlier

/-- The rule of a kind is the first to hold. -/
structure Names (e : Envelope) (kind : FailureKind) : Prop where
  reached : e.Reaches kind
  holds : e.Meets kind

/-- The failure of a kind, where `seconds` is the time to wait at a rate limit. -/
def failure (e : Envelope) (seconds : Nat) : FailureKind → Failure
  | .rateLimit => .rateLimit e.message (some e.code) seconds
  | .authentication => .authentication e.message (some e.code)
  | .notFound => .notFound e.message (some e.code)
  | .permission => .permission e.message (some e.code)
  | .validation => .validation e.message (some e.code)
  | .generic => .generic e.message (some e.code) (some e.details)

variable {e : Envelope}

/-- The first rule is always reached. -/
theorem reaches_rateLimit : e.Reaches .rateLimit := fun _ h => absurd h (Nat.not_lt_zero _)

/-- The next rule is reached if one is reached and does not hold. -/
theorem Reaches.next {kind next : FailureKind} (hreached : e.Reaches kind) (h : ¬ e.Meets kind)
    (hnext : next.rank = kind.rank + 1) : e.Reaches next := by
  intro earlier hlt
  rcases Nat.lt_succ_iff_lt_or_eq.1 (hnext ▸ hlt) with hlt | heq
  · exact hreached earlier hlt
  · rwa [FailureKind.rank_injective heq]

/-- A report names no two kinds. -/
theorem Names.unique {left right : FailureKind} (hleft : e.Names left) (hright : e.Names right) :
    left = right := by
  rcases Nat.lt_trichotomy left.rank right.rank with h | h | h
  · exact absurd hleft.holds (hright.reached left h)
  · exact FailureKind.rank_injective h
  · exact absurd hright.holds (hleft.reached right h)

/-- The test for a rate limit is the rule for it. -/
theorem meets_rateLimit_iff :
    (rateLimitCodes.contains e.code || speaksOfRateLimit e.message) = true ↔
      e.Meets .rateLimit := by
  rw [Bool.or_eq_true, List.contains_iff_mem, speaksOfRateLimit, occursIn_iff,
    infix_lowercase_iff]
  rfl

/-- A report is taken for a failure of the kind that it names. -/
theorem names_toFailure (e : Envelope) (seconds : Nat) :
    ∃ kind, e.Names kind ∧ e.toFailure seconds = e.failure seconds kind := by
  rw [toFailure]
  split
  · next h => exact ⟨.rateLimit, ⟨reaches_rateLimit, meets_rateLimit_iff.1 h⟩, rfl⟩
  next h =>
  have hreached : e.Reaches .authentication :=
    reaches_rateLimit.next (mt meets_rateLimit_iff.2 h) rfl
  split
  · next h => exact ⟨.authentication, ⟨hreached, List.contains_iff_mem.1 h⟩, rfl⟩
  next h =>
  have hreached : e.Reaches .notFound := hreached.next (mt List.contains_iff_mem.2 h) rfl
  split
  · next h => exact ⟨.notFound, ⟨hreached, h⟩, rfl⟩
  next h =>
  have hreached : e.Reaches .permission := hreached.next h rfl
  split
  · next h => exact ⟨.permission, ⟨hreached, List.contains_iff_mem.1 h⟩, rfl⟩
  next h =>
  have hreached : e.Reaches .validation := hreached.next (mt List.contains_iff_mem.2 h) rfl
  split
  · next h => exact ⟨.validation, ⟨hreached, h⟩, rfl⟩
  next h =>
  exact ⟨.generic, ⟨hreached.next h rfl, trivial⟩, rfl⟩

/-- The failure of a report is that of the kind it names. -/
theorem Names.toFailure_eq {kind : FailureKind} (h : e.Names kind) (seconds : Nat) :
    e.toFailure seconds = e.failure seconds kind := by
  obtain ⟨named, hnamed, hfailure⟩ := names_toFailure e seconds
  rw [hfailure, hnamed.unique h]

end Envelope

/-! ## Reports

What a report holds may be missing or be of another kind than expected, and then something stands in
for it.  This is said once, by `IsOrElse`, for the code and for the message. -/

/-- A value of which something holds, or a certain one if it holds of none. -/
def IsOrElse {α : Type} (holds : α → Prop) (otherwise value : α) : Prop :=
  holds value ∨ value = otherwise ∧ ∀ other, ¬ holds other

theorem getD_eq_iff_isOrElse {α : Type} {found : Option α} {holds : α → Prop}
    (h : ∀ value, found = some value ↔ holds value) (otherwise value : α) :
    found.getD otherwise = value ↔ IsOrElse holds otherwise value := by
  simp only [IsOrElse, ← h]
  cases found with
  | none => simp [eq_comm]
  | some a => simp

namespace Json

/-- A report holds a code as a whole number of 64 bits. -/
def HoldsCode (report : Json) (code : Int) : Prop :=
  report.get? "code" = some (.number (.integer code)) ∧
    -0x8000000000000000 ≤ code ∧ code < 0x8000000000000000

/-- A report holds a message as a text. -/
def HoldsMessage (report : Json) (message : String) : Prop :=
  report.get? "message" = some (.string message)

/-- A code is read exactly if it is held. -/
theorem holdsCode_iff (report : Json) (code : Int) :
    (report.get? "code").bind asSigned64? = some code ↔ report.HoldsCode code := by
  rw [Option.bind_eq_some_iff, HoldsCode]
  constructor
  · rintro ⟨member, hmember, hcode⟩
    rw [hmember]
    match member with
    | .number (.integer z) =>
      rw [asSigned64?, Number.signed64?] at hcode
      split at hcode
      · next h =>
        cases hcode
        exact ⟨rfl, h.1, Int.lt_of_le_sub_one h.2⟩
      · cases hcode
  · rintro ⟨hmember, hle, hlt⟩
    exact ⟨_, hmember, if_pos ⟨hle, Int.le_sub_one_of_lt hlt⟩⟩

/-- So is a message. -/
theorem holdsMessage_iff (report : Json) (message : String) :
    (report.get? "message").bind asString? = some message ↔ report.HoldsMessage message := by
  rw [Option.bind_eq_some_iff, HoldsMessage]
  constructor
  · rintro ⟨member, hmember, htext⟩
    match member with
    | .string text =>
      cases htext
      exact hmember
  · intro h
    exact ⟨_, h, rfl⟩

/-- A value has no member of some name if it is no object, or one without that name. -/
theorem get?_eq_none_iff (value : Json) (name : String) :
    value.get? name = none ↔
      ∀ fields, value = .object fields → ∀ field ∈ fields, field.1 ≠ name := by
  cases value with
  | object fields =>
    simp only [object.injEq, forall_eq']
    change Assoc.lookup? name fields = none ↔ _
    induction fields with
    | nil => simp [Assoc.lookup?]
    | cons field rest ih =>
      rw [Assoc.lookup?, List.forall_mem_cons, ← ih, ne_comm]
      split
      · next h => simp [h]
      · next h => simp [h]
  | _ => exact iff_of_true rfl fun _ h => by cases h

end Json

/-- Where no report is held there is none. -/
theorem Envelope.ofBody?_of_silent {body : Json} (h : body.get? "error" = none) (status : Nat) :
    ofBody? body status = none := by
  rw [ofBody?, h]

/-- The report that an object holds is read with its code and its message. -/
theorem Envelope.ofBody?_of_report {body report : Json} {code : Int} {message : String}
    (hreport : body.get? "error" = some report) (hcode : IsOrElse report.HoldsCode 0 code)
    (hmessage : IsOrElse report.HoldsMessage "Unknown error" message) (status : Nat) :
    ofBody? body status = some ⟨code, message, report, status⟩ := by
  rw [ofBody?, hreport, ← (getD_eq_iff_isOrElse report.holdsCode_iff 0 code).2 hcode,
    ← (getD_eq_iff_isOrElse report.holdsMessage_iff "Unknown error" message).2 hmessage]

/-! ## Answers

There are four kinds of answers, and the status matters for those that are no JSON only.  A report
in the body is a failure also with a status of success, and a body without one is a success whatever
the status is. -/

/-- What the result of an answer is, by its status, the text of the header that tells how long to
wait, and its text. -/
inductive Decision (status : Nat) (header : Option String) (text : String) :
    Except Failure Json → Prop
  /-- A body without a report is the result, whatever the status. -/
  | success {body : Json} (parses : Json.parse? text = some body)
      (silent : ∀ fields, body = .object fields → ∀ field ∈ fields, field.1 ≠ "error") :
      Decision status header text (.ok body)
  /-- A text that is no JSON, in an answer that refuses the request. -/
  | refused (unreadable : Json.parse? text = none) (refuses : 400 ≤ status) :
      Decision status header text
        (.error (.generic ("API error: " ++ toString status ++ " - " ++ text) (some status) none))
  /-- A text that is no JSON, in any other answer. -/
  | unreadable (unreadable : Json.parse? text = none) (accepts : status < 400) :
      Decision status header text (.error (.generic "Invalid JSON response from API" none none))
  /-- A body with a report, which names one failure, whatever the status. -/
  | reported {body report : Json} {code : Int} {message : String} {kind : FailureKind}
      (parses : Json.parse? text = some body) (reports : body.get? "error" = some report)
      (hasCode : IsOrElse report.HoldsCode 0 code)
      (hasMessage : IsOrElse report.HoldsMessage "Unknown error" message)
      (names : Envelope.Names ⟨code, message, report, status⟩ kind) :
      Decision status header text
        (.error (Envelope.failure ⟨code, message, report, status⟩ (readRetryAfter header) kind))

/-- What an answer is taken for is decided. -/
theorem decision_interpret (status : Nat) (header : Option String) (text : String) :
    Decision status header text (interpret status header text) := by
  rw [interpret]
  split
  · next hparse =>
    split
    · next hstatus => exact .refused hparse hstatus
    · next hstatus => exact .unreadable hparse (Nat.lt_of_not_le hstatus)
  next body hparse =>
  cases hreport : body.get? "error" with
  | none =>
    rw [Envelope.ofBody?_of_silent hreport]
    exact .success hparse ((body.get?_eq_none_iff "error").1 hreport)
  | some report =>
    have hcode := (getD_eq_iff_isOrElse report.holdsCode_iff 0 _).1 rfl
    have hmessage := (getD_eq_iff_isOrElse report.holdsMessage_iff "Unknown error" _).1 rfl
    obtain ⟨kind, hnames, hfailure⟩ := Envelope.names_toFailure
      ⟨((report.get? "code").bind Json.asSigned64?).getD 0,
        ((report.get? "message").bind Json.asString?).getD "Unknown error", report, status⟩
      (readRetryAfter header)
    simp only [Envelope.ofBody?_of_report hreport hcode hmessage, hfailure]
    exact .reported hparse hreport hcode hmessage hnames

/-- What is decided of an answer is what it is taken for. -/
theorem interpret_of_decision {status : Nat} {header : Option String} {text : String}
    {result : Except Failure Json} (h : Decision status header text result) :
    interpret status header text = result := by
  rw [interpret]
  cases h with
  | success parses silent =>
    simp only [parses, Envelope.ofBody?_of_silent ((Json.get?_eq_none_iff _ _).2 silent)]
  | refused unreadable refuses => rw [unreadable, if_pos refuses]
  | unreadable unreadable accepts =>
    rw [unreadable, if_neg (Nat.not_le.2 accepts)]
    rfl
  | reported parses reports hasCode hasMessage names =>
    simp only [parses, Envelope.ofBody?_of_report reports hasCode hasMessage, names.toFailure_eq]

/-- **What an answer is taken for.**  It is what `Decision` says, and nothing else; and the words of
a rate limit are found in a message in lower case exactly if they are in the message. -/
theorem interpret_eq_iff_decision (status : Nat) (header : Option String) (text : String)
    (result : Except Failure Json) :
    (interpret status header text = result ↔ Decision status header text result) ∧
      ∀ message : String,
        "rate limit".toList <:+: lowercase message.toList ↔ SpeaksOfRateLimit message := by
  refine ⟨⟨?_, interpret_of_decision⟩, Envelope.infix_lowercase_iff⟩
  rintro rfl
  exact decision_interpret status header text

end ThreatGraph
