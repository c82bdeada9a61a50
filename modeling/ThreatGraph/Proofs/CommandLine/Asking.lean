import ThreatGraph.Proofs.CommandLine.Acceptance

/-!
# What a command line asks for

A command line is some words for settings, the name of a command, and words for that command.  What
it asks for is stated here in terms of what these words give, field by field, and not in terms of
how they are read.

* `DescriptorSearch.GivenBy`, `IndicatorSearch.GivenBy` and `UpdatesQuery.GivenBy` say which option
  each filter of a search comes from, and `Command.AskedBy` says so of a command.
* `Invocation.SetBy` says the same of the settings, which may stand on both sides of the name of the
  command and in the environment.
* `CommandLine.Asks` puts these together, and `CommandLine.parse_eq_ok_iff` says that a command line
  is read as an invocation exactly if it asks for it.

An option that is not given leaves its filter out.  So each filter is described by what it is
exactly when an option gives it: dropping one, reading it from another option, or filling it where
nothing is given would all break the description.

The two directions rest on `Level.spells_of_finish` and `Level.readEnd_of_spells`, which relate the
words of a level to marks.  What is left to say here is how the fields of a command come from the
marks (`askedBy_commandOf`), and that the marks leave nothing about it open
(`Command.AskedBy.eq_commandOf`).
-/

set_option autoImplicit false

namespace ThreatGraph

open CommandLine

variable {α : Type}

/-! ## Filters

A filter is what the value of its option is read as.  It is missing exactly if the option is. -/

/-- A field is filled by the option of a name: it is what the value of the option is read as. -/
def CommandLine.Fills (marks : List Mark) (name : String) (reads : String → α → Prop)
    (field : Option α) : Prop :=
  ∀ a, field = some a ↔ ∃ text, ⟨name, [text]⟩ ∈ marks ∧ reads text a

namespace CommandLine

/-- The number for which a text of an option stands. -/
def ReadsCount (text : String) (n : Nat) : Prop :=
  IsUnsigned n text.toList ∧ n ≤ maxUnsigned64

/-- The time for which a text of an option stands, in seconds since the start of 1970. -/
def ReadsTime (text : String) (z : Int) : Prop :=
  NumeralForm z text.toList ∧ minSigned64 ≤ z ∧ z ≤ maxSigned64

/-- The term for which a text of an option stands, known or not. -/
def ReadsTerm [Vocabulary α] (text : String) (term : Term α) : Prop := term = .ofText text

end CommandLine

/-- The search for descriptors that some options give. -/
structure DescriptorSearch.GivenBy (marks : List Mark) (s : DescriptorSearch) : Prop where
  text : Fills marks "text" Eq s.text
  descriptorType : Fills marks "type" ReadsTerm s.descriptorType
  status : Fills marks "status" ReadsTerm s.status
  shareLevel : Fills marks "share-level" ReadsTerm s.shareLevel
  owner : Fills marks "owner" Eq s.owner
  tags : s.tags = valuesOf "tags" marks
  since : Fills marks "since" ReadsTime s.since
  untilTime : Fills marks "until" ReadsTime s.untilTime
  strictText : s.strictText = true ↔ ⟨"strict-text", []⟩ ∈ marks
  fields : s.fields = valuesOf "fields" marks
  limit : Fills marks "limit" ReadsCount s.limit

/-- The search for indicators that some options give.  No option asks for certain fields. -/
structure IndicatorSearch.GivenBy (marks : List Mark) (s : IndicatorSearch) : Prop where
  text : Fills marks "text" Eq s.text
  indicatorType : Fills marks "type" ReadsTerm s.indicatorType
  since : Fills marks "since" ReadsTime s.since
  untilTime : Fills marks "until" ReadsTime s.untilTime
  strictText : s.strictText = true ↔ ⟨"strict-text", []⟩ ∈ marks
  fields : s.fields = []
  limit : Fills marks "limit" ReadsCount s.limit

/-- The query for updates that some options give.  No option asks for certain fields. -/
structure UpdatesQuery.GivenBy (marks : List Mark) (q : UpdatesQuery) : Prop where
  since : Fills marks "since" ReadsTime q.since
  untilTime : Fills marks "until" ReadsTime q.untilTime
  types : q.types = valuesOf "types" marks
  fields : q.fields = []
  limit : Fills marks "limit" ReadsCount q.limit

/-- The command that a name and some options ask for. -/
inductive Command.AskedBy (marks : List Mark) : String → Command → Prop where
  | whoami : AskedBy marks "whoami" .whoami
  | descriptors {search : DescriptorSearch} (h : search.GivenBy marks) :
      AskedBy marks "descriptors" (.descriptors search)
  | indicators {search : IndicatorSearch} (h : search.GivenBy marks) :
      AskedBy marks "indicators" (.indicators search)
  | tags {text : String} {limit : Option Nat} (htext : ⟨"TEXT", [text]⟩ ∈ marks)
      (hlimit : Fills marks "limit" ReadsCount limit) : AskedBy marks "tags" (.tags text limit)
  | members {limit : Option Nat} (hlimit : Fills marks "limit" ReadsCount limit) :
      AskedBy marks "members" (.members limit)
  | updates {group : String} {query : UpdatesQuery} (hgroup : ⟨"PRIVACY_GROUP_ID", [group]⟩ ∈ marks)
      (h : query.GivenBy marks) : AskedBy marks "updates" (.updates group query)

/-! ## Settings

A setting after the name of the command wins over one before it, and both win over the
environment. -/

/-- The text of a setting, from what is given before and after the name of the command. -/
def CommandLine.Sets (before after : List Mark) (name text : String) : Prop :=
  ⟨name, [text]⟩ ∈ after ∨ (∀ other, ⟨name, [other]⟩ ∉ after) ∧ ⟨name, [text]⟩ ∈ before

/-- The text of a setting that the environment may give too. -/
def CommandLine.SetsOr (fallback : Option String) (before after : List Mark) (name text : String) :
    Prop :=
  Sets before after name text ∨
    (∀ other, ¬ Sets before after name other) ∧ fallback = some text

/-- The settings of an invocation are those that the environment and some options give. -/
structure Invocation.SetBy (env : Environment) (before after : List Mark) (i : Invocation) :
    Prop where
  accessToken : ∀ text, i.accessToken = some text ↔
    SetsOr env.accessToken before after "access-token" text
  appId : ∀ text, i.appId = some text ↔ SetsOr env.appId before after "app-id" text
  config : ∀ text, i.config = some text ↔ Sets before after "config" text
  apiVersion : ∀ text, i.apiVersion = some text ↔ Sets before after "api-version" text
  layout : i.layout = .pretty ↔ Sets before after "format" "pretty"
  verbose : i.verbose = true ↔ ⟨"verbose", []⟩ ∈ before ∨ ⟨"verbose", []⟩ ∈ after

namespace CommandLine

/-- Some words of a level give some marks, and what takes no list is given once. -/
structure Level.Gives (l : Level) (words : List String) (marks : List Mark) : Prop where
  spells : l.Spells none words marks
  once : Once l marks

/-- **A command line asks for** the command that it names, with what the words after the name give,
and with the settings that the words on both sides of it and the environment give.  The words before
the name are not ended by two dashes, since after these it would be no name. -/
def Asks (env : Environment) (args : List String) (i : Invocation) : Prop :=
  ∃ (front : List String) (g : CommandGrammar) (rest : List String) (before after : List Mark),
    args = front ++ g.name :: rest ∧ "--" ∉ front ∧ g ∈ commandGrammars ∧
    rootLevel.Gives front before ∧ g.level.Gives rest after ∧
    i.command.AskedBy after g.name ∧ i.SetBy env before after

/-! ## Reading

A level is read as some marks, and the fields of a command are told from these one by one.  All that
is needed of the grammar of a command is that the names of its options are different and that the
options of its fields are among them; both are computed. -/

/-- No name stands for two options in front of a command. -/
theorem distinct_rootLevel : rootLevel.Distinct := by decide

/-- No name stands for two options of a command, or for one and for its further word. -/
theorem distinct_level : ∀ g ∈ commandGrammars, g.level.Distinct := by decide

/-- No command begins with a dash, and the root takes no further word besides its commands. -/
theorem isClear_rootLevel : rootLevel.IsClear where
  distinct := distinct_rootLevel
  long := by decide +kernel
  short := by decide +kernel
  commands := by decide +kernel
  alone := .inl rfl

/-- The levels of the commands have no commands below them. -/
theorem isClear_level : ∀ g ∈ commandGrammars, g.level.IsClear := fun g hg =>
  have hlong : ∀ g ∈ commandGrammars, ∀ s ∈ g.level.switches,
      g.level.long? s.name = some s ∧ s.name ≠ "" ∧ '=' ∉ s.name.toList := by decide +kernel
  have hshort : ∀ g ∈ commandGrammars, ∀ s ∈ g.level.switches,
      s.short.all fun c => g.level.short? c = some s ∧ c ≠ '-' := by decide +kernel
  { distinct := distinct_level g hg
    long := hlong g hg
    short := hshort g hg
    commands := nofun
    alone := .inr rfl }

/-- A command is found by its name. -/
theorem find?_commandGrammars {g : CommandGrammar} (hg : g ∈ commandGrammars) :
    commandGrammars.find? (fun g' => g'.name = g.name) = some g := by
  simp only [commandGrammars, List.mem_cons, List.not_mem_nil, or_false] at hg
  rcases hg with rfl | rfl | rfl | rfl | rfl | rfl <;> rfl

namespace Reading

variable {l : Level} {marks : List Mark} {r : Reading}

/-- The value of an option fills the field that is read from it, whatever it is read as. -/
theorem Holds.fills (h : Holds l marks r) (hdistinct : l.Distinct) {s : Switch}
    (hmem : s ∈ l.switches) (hvalue : s.kind.takesValue = true) (hkind : s.kind ≠ .list)
    {read? : String → Option α} {reads : String → α → Prop}
    (hreads : ∀ text a, read? text = some a ↔ reads text a) :
    Fills marks s.name reads ((r.value? s.name).bind read?) := by
  intro a
  rw [Option.bind_eq_some_iff]
  exact exists_congr fun text => and_congr
    (h.value?_eq_some_iff hdistinct hmem hvalue hkind) (hreads text a)

variable (h : Holds l marks r) (hdistinct : l.Distinct)

include h hdistinct

theorem Holds.fills_text {name : String} (hmem : option name .text ∈ l.switches) :
    Fills marks name Eq (r.value? name) := fun a =>
  (h.value?_eq_some_iff hdistinct hmem rfl nofun).trans
    ⟨fun hm => ⟨a, hm, rfl⟩, fun ⟨_, hm, heq⟩ => heq ▸ hm⟩

theorem Holds.fills_term [Vocabulary α] {name : String} (hmem : option name .text ∈ l.switches) :
    Fills marks name ReadsTerm (termOf (α := α) name r) := by
  rw [termOf, Option.map_eq_bind]
  exact h.fills hdistinct hmem rfl nofun fun _ _ => Option.some_inj.trans eq_comm

theorem Holds.fills_time {name : String} (hmem : option name .signed ∈ l.switches) :
    Fills marks name ReadsTime (timeOf name r) :=
  h.fills hdistinct hmem rfl nofun fun _ _ => readSigned?_eq_some_iff

theorem Holds.fills_limit (hmem : limitSwitch ∈ l.switches) :
    Fills marks "limit" ReadsCount (limitOf r) :=
  h.fills hdistinct hmem rfl nofun fun _ _ => readUnsigned?_eq_some_iff

end Reading

/-- What is read of a command is the command that its name and its options ask for. -/
theorem askedBy_commandOf {g : CommandGrammar} (hg : g ∈ commandGrammars) {marks : List Mark}
    {r : Reading} (h : Reading.Holds g.level marks r)
    (hword : ∀ name, g.word = some name → r.has name = true) :
    (commandOf g.name r).AskedBy marks g.name := by
  have hdistinct := distinct_level g hg
  simp only [commandGrammars, List.mem_cons, List.not_mem_nil, or_false] at hg
  -- One case for each command.  `decide` finds the option of each field in its grammar.
  rcases hg with rfl | rfl | rfl | rfl | rfl | rfl
  · exact .whoami
  · exact .descriptors
      { text := h.fills_text hdistinct (by decide)
        descriptorType := h.fills_term hdistinct (by decide)
        status := h.fills_term hdistinct (by decide)
        shareLevel := h.fills_term hdistinct (by decide)
        owner := h.fills_text hdistinct (by decide)
        tags := h.values_eq "tags"
        since := h.fills_time hdistinct (by decide)
        untilTime := h.fills_time hdistinct (by decide)
        strictText := h.has_flag_iff hdistinct (s := option "strict-text" .flag) (by decide) rfl
        fields := h.values_eq "fields"
        limit := h.fills_limit hdistinct (by decide) }
  · exact .indicators
      { text := h.fills_text hdistinct (by decide)
        indicatorType := h.fills_term hdistinct (by decide)
        since := h.fills_time hdistinct (by decide)
        untilTime := h.fills_time hdistinct (by decide)
        strictText := h.has_flag_iff hdistinct (s := option "strict-text" .flag) (by decide) rfl
        fields := rfl
        limit := h.fills_limit hdistinct (by decide) }
  · exact .tags (h.mem_of_word hdistinct rfl (hword _ rfl)) (h.fills_limit hdistinct (by decide))
  · exact .members (h.fills_limit hdistinct (by decide))
  · exact .updates (h.mem_of_word hdistinct rfl (hword _ rfl))
      { since := h.fills_time hdistinct (by decide)
        untilTime := h.fills_time hdistinct (by decide)
        types := h.values_eq "types"
        fields := rfl
        limit := h.fills_limit hdistinct (by decide) }

/-- The first of two values, if it is there, and else the second. -/
theorem orElse_eq_some_iff_forall {a b : Option α} {x : α} :
    (a <|> b) = some x ↔ a = some x ∨ (∀ y, a ≠ some y) ∧ b = some x := by
  cases a <;> simp

/-- Records are indented if a condition holds, and else they are not. -/
theorem ite_eq_pretty_iff {p : Prop} [Decidable p] :
    (if p then Layout.pretty else .json) = .pretty ↔ p := by
  split <;> simp [*]

/-- The settings that are read are those that the words on both sides give. -/
theorem setBy_invocation {env : Environment} {g : CommandGrammar} (hg : g ∈ commandGrammars)
    {before after : List Mark} {r₁ r₂ : Reading} (hbefore : Reading.Holds rootLevel before r₁)
    (hafter : Reading.Holds g.level after r₂) :
    (invocation env r₁ r₂ g.name).SetBy env before after := by
  have hroot : ∀ s ∈ globalSwitches, s ∈ rootLevel.switches := fun s hs =>
    List.mem_append_left _ hs
  have hlevel : ∀ s ∈ globalSwitches, s ∈ g.level.switches := fun s hs =>
    List.mem_append_right _ hs
  have hsets : ∀ s ∈ globalSwitches, s.kind.takesValue = true → s.kind ≠ .list → ∀ text,
      (r₂.value? s.name <|> r₁.value? s.name) = some text ↔ Sets before after s.name text := by
    intro s hs hvalue hkind text
    rw [orElse_eq_some_iff_forall, Sets,
      hbefore.value?_eq_some_iff distinct_rootLevel (hroot s hs) hvalue hkind]
    simp only [ne_eq, hafter.value?_eq_some_iff (distinct_level g hg) (hlevel s hs) hvalue hkind]
  have hsetsOr : ∀ s ∈ globalSwitches, s.kind.takesValue = true → s.kind ≠ .list →
      ∀ fallback text, ((r₂.value? s.name <|> r₁.value? s.name) <|> fallback) = some text ↔
        SetsOr fallback before after s.name text := by
    intro s hs hvalue hkind fallback text
    rw [orElse_eq_some_iff_forall, SetsOr]
    simp only [ne_eq, hsets s hs hvalue hkind]
  have hformat := hsets ⟨"format", some 'f', .choice layoutWords⟩ (by decide) rfl nofun "pretty"
  exact
    { accessToken := hsetsOr ⟨"access-token", none, .text⟩ (by decide) rfl nofun _
      appId := hsetsOr ⟨"app-id", none, .text⟩ (by decide) rfl nofun _
      config := hsets ⟨"config", some 'C', .path⟩ (by decide) rfl nofun
      apiVersion := hsets ⟨"api-version", none, .text⟩ (by decide) rfl nofun
      layout := ite_eq_pretty_iff.trans hformat
      verbose := by
        have hverbose : (⟨"verbose", some 'v', .flag⟩ : Switch) ∈ globalSwitches := by decide
        rw [← hbefore.has_flag_iff distinct_rootLevel (hroot _ hverbose) rfl,
          ← hafter.has_flag_iff (distinct_level g hg) (hlevel _ hverbose) rfl, invocation]
        dsimp only
        rw [Bool.or_eq_true, or_comm] }

/-- The words of a level that is read to its end give what the reading holds. -/
theorem Level.gives_of_finish {l : Level} (hdistinct : l.Distinct) {args : List String}
    {command : Option (String × List String)} {r last : Reading}
    (hread : l.read false .empty args = .ok (r, command)) (hfinish : l.finish r = .ok last) :
    ∃ front marks, l.Cuts args front command ∧ l.Gives front marks ∧
      Reading.Holds l marks last := by
  obtain ⟨front, marks, hcuts, hspells, hholds⟩ := l.spells_of_finish hdistinct hread hfinish
  exact ⟨front, marks, hcuts, ⟨hspells, hholds.once⟩, hholds⟩

/-- **Command lines are read as what they ask for.** -/
theorem asks_of_parse {env : Environment} {args : List String} {i : Invocation}
    (h : parse env args = .ok i) : Asks env args i := by
  rw [parse] at h
  obtain ⟨⟨r₁, command⟩, hroot, h⟩ := bind_eq_ok_iff.1 h
  dsimp only at h
  split at h
  · obtain ⟨_, -, h⟩ := bind_eq_ok_iff.1 h
    cases h
  next name rest =>
  split at h
  · cases h
  next g hfound =>
  obtain ⟨⟨r₂, command⟩, hlevel, h⟩ := bind_eq_ok_iff.1 h
  obtain ⟨after, hafter, h⟩ := bind_eq_ok_iff.1 h
  obtain ⟨before, hbefore, h⟩ := bind_eq_ok_iff.1 h
  cases h
  have hg : g ∈ commandGrammars := List.mem_of_find?_eq_some hfound
  obtain rfl : g.name = name := by simpa using List.find?_some hfound
  obtain ⟨front, marks₁, ⟨-, hargs, hdashes⟩, hgives₁, hholds₁⟩ :=
    Level.gives_of_finish distinct_rootLevel hroot hbefore
  obtain ⟨words, marks₂, hcuts, hgives₂, hholds₂⟩ :=
    Level.gives_of_finish (distinct_level g hg) hlevel hafter
  have hwords : rest = words := by
    cases command with
    | none => exact hcuts
    | some c => exact absurd hcuts.1 List.not_mem_nil
  rw [← hwords] at hgives₂
  have hcommand := askedBy_commandOf hg hholds₂ fun name hname =>
    (Level.finish_eq_ok_iff.1 hafter).2 name hname
  exact ⟨front, g, rest, marks₁, marks₂, hargs, hdashes, hg, hgives₁, hgives₂, hcommand,
    setBy_invocation hg hholds₁ hholds₂⟩

/-! ## Asking

What a command line asks for is settled by the marks of its words: an option either fills a filter
with a value or leaves it out.  So there is one invocation at most that it asks for, and that one is
read. -/

/-- An option fills one field at most. -/
theorem Fills.unique {marks : List Mark} {name : String} {reads : String → α → Prop}
    {field field' : Option α} (h : Fills marks name reads field)
    (h' : Fills marks name reads field') : field = field' :=
  Option.ext fun a => (h a).trans (h' a).symm

end CommandLine

/-- Marks give one search for descriptors.  Each of its fields is filled by the marks of one
option. -/
theorem DescriptorSearch.GivenBy.unique {marks : List Mark} {s s' : DescriptorSearch}
    (h : s.GivenBy marks) (h' : s'.GivenBy marks) : s = s' := by
  cases s
  cases s'
  rw [mk.injEq]
  exact ⟨h.text.unique h'.text, h.descriptorType.unique h'.descriptorType,
    h.status.unique h'.status, h.shareLevel.unique h'.shareLevel, h.owner.unique h'.owner,
    h.tags.trans h'.tags.symm, h.since.unique h'.since, h.untilTime.unique h'.untilTime,
    Bool.eq_iff_iff.2 (h.strictText.trans h'.strictText.symm), h.fields.trans h'.fields.symm,
    h.limit.unique h'.limit⟩

/-- They give one search for indicators. -/
theorem IndicatorSearch.GivenBy.unique {marks : List Mark} {s s' : IndicatorSearch}
    (h : s.GivenBy marks) (h' : s'.GivenBy marks) : s = s' := by
  cases s
  cases s'
  rw [mk.injEq]
  exact ⟨h.text.unique h'.text, h.indicatorType.unique h'.indicatorType, h.since.unique h'.since,
    h.untilTime.unique h'.untilTime, Bool.eq_iff_iff.2 (h.strictText.trans h'.strictText.symm),
    h.fields.trans h'.fields.symm, h.limit.unique h'.limit⟩

/-- They give one query for updates. -/
theorem UpdatesQuery.GivenBy.unique {marks : List Mark} {q q' : UpdatesQuery}
    (h : q.GivenBy marks) (h' : q'.GivenBy marks) : q = q' := by
  cases q
  cases q'
  rw [mk.injEq]
  exact ⟨h.since.unique h'.since, h.untilTime.unique h'.untilTime, h.types.trans h'.types.symm,
    h.fields.trans h'.fields.symm, h.limit.unique h'.limit⟩

namespace Command.AskedBy

variable {marks : List Mark} {name : String}

theorem givenBy_of_descriptors {search : DescriptorSearch}
    (h : AskedBy marks name (.descriptors search)) : search.GivenBy marks := by
  cases h with
  | descriptors h => exact h

theorem givenBy_of_indicators {search : IndicatorSearch}
    (h : AskedBy marks name (.indicators search)) : search.GivenBy marks := by
  cases h with
  | indicators h => exact h

theorem givenBy_of_updates {group : String} {query : UpdatesQuery}
    (h : AskedBy marks name (.updates group query)) : query.GivenBy marks := by
  cases h with
  | updates _ h => exact h

/-- A command has its further word. -/
theorem mem_names {g : CommandGrammar} {command : Command} (hg : g ∈ commandGrammars)
    (h : command.AskedBy marks g.name) {word : String} (hword : g.word = some word) :
    word ∈ marks.map Mark.name := by
  have hfound := find?_commandGrammars hg
  generalize g.name = name at h hfound
  cases h with
  | tags htext _ =>
    obtain rfl := Option.some.inj hfound
    obtain rfl := Option.some.inj hword
    exact List.mem_map_of_mem htext
  | updates hgroup _ =>
    obtain rfl := Option.some.inj hfound
    obtain rfl := Option.some.inj hword
    exact List.mem_map_of_mem hgroup
  | _ =>
    obtain rfl := Option.some.inj hfound
    cases hword

/-- The command that a name and some options ask for is the one that is read. -/
theorem eq_commandOf {g : CommandGrammar} {command : Command} (hg : g ∈ commandGrammars)
    {r : Reading} (hholds : Reading.Holds g.level marks r)
    (hgiven : ∀ name, g.word = some name → r.has name = true)
    (h : command.AskedBy marks g.name) : command = commandOf g.name r := by
  have hread := askedBy_commandOf hg hholds hgiven
  have hdistinct := distinct_level g hg
  have hfound := find?_commandGrammars hg
  generalize g.name = name at h hread hfound
  cases h with
  | whoami => rfl
  | descriptors h =>
    exact congrArg Command.descriptors (h.unique (givenBy_of_descriptors hread))
  | indicators h =>
    exact congrArg Command.indicators (h.unique (givenBy_of_indicators hread))
  | @tags text limit htext hlimit =>
    obtain rfl := Option.some.inj hfound
    have hvalue : r.value? "TEXT" = some text :=
      (hholds.word_eq_some_iff hdistinct rfl).2 htext
    show _ = Command.tags ((r.value? "TEXT").getD "") (limitOf r)
    rw [hvalue, hlimit.unique (hholds.fills_limit hdistinct (by decide))]
    rfl
  | members hlimit =>
    obtain rfl := Option.some.inj hfound
    exact congrArg Command.members
      (hlimit.unique (hholds.fills_limit hdistinct (by decide)))
  | @updates group query hgroup h =>
    obtain rfl := Option.some.inj hfound
    have hvalue : r.value? "PRIVACY_GROUP_ID" = some group :=
      (hholds.word_eq_some_iff hdistinct rfl).2 hgroup
    have hquery := h.unique (givenBy_of_updates hread)
    show _ = Command.updates ((r.value? "PRIVACY_GROUP_ID").getD "") _
    rw [hvalue, hquery]
    rfl

end Command.AskedBy

/-- Words set an invocation in one way only, but for its command. -/
theorem Invocation.SetBy.unique {env : Environment} {before after : List Mark} {i i' : Invocation}
    (h : i.SetBy env before after) (h' : i'.SetBy env before after)
    (hcommand : i.command = i'.command) : i = i' := by
  have hlayout : i.layout = i'.layout := by
    have hpretty := h.layout.trans h'.layout.symm
    cases hl : i.layout <;> cases hl' : i'.layout <;> simp [hl, hl'] at hpretty ⊢
  cases i
  cases i'
  rw [mk.injEq]
  exact ⟨Option.ext fun text => (h.accessToken text).trans (h'.accessToken text).symm,
    Option.ext fun text => (h.appId text).trans (h'.appId text).symm,
    Option.ext fun text => (h.config text).trans (h'.config text).symm,
    Option.ext fun text => (h.apiVersion text).trans (h'.apiVersion text).symm, hlayout,
    Bool.eq_iff_iff.2 (h.verbose.trans h'.verbose.symm), hcommand⟩

namespace CommandLine

/-- Words that give some marks are read to the end of their level, if its further word is among
them. -/
theorem Level.finish_of_gives {l : Level} (hclear : l.IsClear) {args front : List String}
    {marks : List Mark} {command : Option (String × List String)}
    (hcuts : l.Cuts args front command) (h : l.Gives front marks)
    (hword : ∀ name, l.word = some name → name ∈ marks.map Mark.name) :
    ∃ r last, l.read false .empty args = .ok (r, command) ∧ l.finish r = .ok last ∧
      Reading.Holds l marks last := by
  obtain ⟨last, hend, hholds⟩ := readEnd_of_spells hclear h.spells hcuts
    (Reading.holds_empty l).stands h.once
  rw [List.nil_append] at hholds
  obtain ⟨r, hread, hsettle⟩ := readEnd_eq_ok_iff.1 hend
  exact ⟨r, last, hread,
    finish_eq_ok_iff.2 ⟨hsettle, fun name hname => hholds.has_iff.2 (hword name hname)⟩, hholds⟩

/-- What a command line asks for is read. -/
theorem parse_of_asks {env : Environment} {args : List String} {i : Invocation}
    (h : Asks env args i) : parse env args = .ok i := by
  obtain ⟨front, g, rest, before, after, rfl, hdashes, hg, hbefore, hafter, hcommand, hsets⟩ := h
  have hname : g.name ∈ rootLevel.commands :=
    List.mem_append_left _ (List.mem_map_of_mem hg)
  have hfront : rootLevel.Cuts (front ++ g.name :: rest) front (some (g.name, rest)) :=
    ⟨hname, rfl, hdashes⟩
  have hback : g.level.Cuts rest rest none := rfl
  obtain ⟨r₁, last₁, hread₁, hfinish₁, hholds₁⟩ :=
    Level.finish_of_gives isClear_rootLevel hfront hbefore nofun
  obtain ⟨r₂, last₂, hread₂, hfinish₂, hholds₂⟩ :=
    Level.finish_of_gives (isClear_level g hg) hback hafter fun _ hword =>
      hcommand.mem_names hg hword
  have hgiven : ∀ name, g.word = some name → last₂.has name = true :=
    (Level.finish_eq_ok_iff.1 hfinish₂).2
  have heq : i = invocation env last₁ last₂ g.name :=
    hsets.unique (setBy_invocation hg hholds₁ hholds₂) (hcommand.eq_commandOf hg hholds₂ hgiven)
  rw [parse, hread₁, heq]
  dsimp only [bind, Except.bind]
  rw [find?_commandGrammars hg]
  dsimp only
  rw [hread₂]
  dsimp only
  rw [hfinish₂, hfinish₁]
  rfl

/-- **A command line is read** as an invocation exactly if it asks for it. -/
theorem parse_eq_ok_iff {env : Environment} {args : List String} {i : Invocation} :
    parse env args = .ok i ↔ Asks env args i :=
  ⟨asks_of_parse, parse_of_asks⟩

end CommandLine

end ThreatGraph
