import ThreatGraph.Proofs.Text.Split
import ThreatGraph.Upload

/-!
# What an upload is made of

An upload is made by choices, one after the other.  Of each kind of choice the last one counts, and
of the fields the last one of each key (`Upload.path_build`, `Upload.content_build`,
`Upload.fileName_build`, `Upload.get?_fields_build`).

`Upload.IsLastName` says what the last name in a path is, and `Upload.lastName?_eq_some_iff` that it
is found where there is one.
-/

set_option autoImplicit false

namespace ThreatGraph.Upload

/-! ## Choices

A choice sets one part of an upload and leaves the others alone.  So for each part the choices of
its own kind are all that matters, and one lemma covers the parts (`build_eq_chosen?`). -/

namespace Setting

/-- The path that is chosen. -/
def path? : Setting → Option String
  | .path text => some text
  | _ => none

/-- The content that is chosen. -/
def content? : Setting → Option (List UInt8)
  | .content bytes => some bytes
  | _ => none

/-- The name of the file that is chosen. -/
def fileName? : Setting → Option String
  | .fileName name => some name
  | _ => none

/-- The value that is chosen for a key. -/
def value? (key : String) : Setting → Option ParamValue
  | .field other value => if key = other then some value else none
  | _ => none

end Setting

section

variable {α : Type}

/-- What is chosen last, among the choices of a kind. -/
def chosen? (choice? : Setting → Option α) (settings : List Setting) : Option α :=
  (settings.filterMap choice?).getLast?

/-- A later choice is taken before an earlier one. -/
theorem chosen?_cons (choice? : Setting → Option α) (setting : Setting) (settings : List Setting) :
    chosen? choice? (setting :: settings) = (chosen? choice? settings).or (choice? setting) := by
  rw [chosen?, chosen?, List.filterMap_cons]
  cases choice? setting with
  | none => simp
  | some value => simp [List.getLast?_cons]

/-- A part of an upload that each choice sets or leaves alone is what is chosen last for it. -/
theorem build_eq_chosen? {part : Upload → Option α} {choice? : Setting → Option α}
    (hset : ∀ u setting, part (set u setting) = (choice? setting).or (part u))
    (hnew : part {} = none) (settings : List Setting) :
    part (build settings) = chosen? choice? settings := by
  have hfold : ∀ u, part (settings.foldl set u) = (chosen? choice? settings).or (part u) := by
    induction settings with
    | nil => exact fun u => rfl
    | cons setting settings ih =>
      intro u
      rw [List.foldl_cons, ih, hset, chosen?_cons, Option.or_assoc]
  rw [build, hfold, hnew, Option.or_none]

end

/-- The path is the one that was chosen last. -/
theorem path_build (settings : List Setting) :
    (build settings).path = chosen? Setting.path? settings :=
  build_eq_chosen? (fun _ setting => by cases setting <;> rfl) rfl settings

/-- The content is the one that was chosen last. -/
theorem content_build (settings : List Setting) :
    (build settings).content = chosen? Setting.content? settings :=
  build_eq_chosen? (fun _ setting => by cases setting <;> rfl) rfl settings

/-- The name of the file is the one that was chosen last. -/
theorem fileName_build (settings : List Setting) :
    (build settings).fileName = chosen? Setting.fileName? settings :=
  build_eq_chosen? (fun _ setting => by cases setting <;> rfl) rfl settings

/-- Each field has the value that is chosen last for its key. -/
theorem get?_fields_build (settings : List Setting) (key : String) :
    (build settings).fields.get? key = chosen? (Setting.value? key) settings := by
  refine @build_eq_chosen? _ (fun u => u.fields.get? key) _ (fun u setting => ?_) rfl settings
  cases setting with
  | field other value =>
    change (u.fields.insert other value).get? key = _
    rw [Params.get?_insert, Setting.value?]
    split <;> rfl
  | _ => rfl

/-! ## The last name in a path

A path is cut at its slashes.  Empty pieces and single dots name nothing and are passed over from
the end; then a name is left, or a reference to the directory above, which is no name.  The
statement about the path as a text is had from the one about its pieces by going back and forth
between a list that is cut and the places of its pieces. -/

/-- A piece of a path that names nothing. -/
def IsIdle (piece : List Char) : Prop := piece = [] ∨ piece = ['.']

instance : DecidablePred IsIdle := fun _ => inferInstanceAs (Decidable (_ ∨ _))

/-- A name is the last one in a path: it comes first or after a slash, and after it there are only
slashes and pieces that name nothing.  It is no reference to another directory. -/
structure IsLastName (path name : String) : Prop where
  slash : '/' ∉ name.toList
  ne_empty : name ≠ ""
  ne_dot : name ≠ "."
  ne_dots : name ≠ ".."
  place : ∃ front tail, path.toList = front ++ name.toList ++ tail ∧
    (front = [] ∨ ∃ directory, front = directory ++ ['/']) ∧
    (tail = [] ∨ ∃ rest, tail = '/' :: rest) ∧ ∀ piece ∈ splitOn '/' tail, IsIdle piece

/-- The last piece of a list that is picked, and those behind it. -/
theorem getLast?_filter_eq_some_iff {α : Type} {p : α → Bool} {xs : List α} {x : α} :
    (xs.filter p).getLast? = some x ↔
      ∃ before after, xs = before ++ x :: after ∧ p x = true ∧ ∀ y ∈ after, ¬ p y = true := by
  rw [List.getLast?_eq_some_iff]
  constructor
  · rintro ⟨front, h⟩
    obtain ⟨before, rest, rfl, -, hrest⟩ := List.filter_eq_append_iff.1 h
    obtain ⟨idle, after, rfl, -, hx, hafter⟩ := List.filter_eq_cons_iff.1 hrest
    exact ⟨before ++ idle, after, by simp, hx, List.filter_eq_nil_iff.1 hafter⟩
  · rintro ⟨before, after, rfl, hx, hafter⟩
    exact ⟨before.filter p, by simp [List.filter_cons_of_pos hx, List.filter_eq_nil_iff.2 hafter]⟩

/-- The last name in a path is the last of its pieces that names something. -/
theorem lastName?_eq_some_iff_pieces {path name : String} :
    lastName? path = some name ↔ name ≠ ".." ∧ ∃ before after,
      splitOn '/' path.toList = before ++ name.toList :: after ∧ ¬ IsIdle name.toList ∧
        ∀ piece ∈ after, IsIdle piece := by
  have hpicked : ∀ piece : List Char,
      decide (piece ≠ [] ∧ piece ≠ ['.']) = true ↔ ¬ IsIdle piece := fun piece => by simp [IsIdle]
  have hlast : lastName? path = some name ↔ name ≠ ".." ∧
      ((splitOn '/' path.toList).filter fun piece => piece ≠ [] ∧ piece ≠ ['.']).getLast? =
        some name.toList := by
    rw [lastName?]
    cases ((splitOn '/' path.toList).filter fun piece => piece ≠ [] ∧ piece ≠ ['.']).getLast? with
    | none => simp
    | some piece =>
      dsimp only
      have hname : piece = name.toList ↔ String.ofList piece = name := by
        rw [← String.toList_inj, String.toList_ofList]
      have hdots : piece = ['.', '.'] ↔ String.ofList piece = ".." := by
        rw [← String.toList_inj, String.toList_ofList]
        rfl
      rw [Option.some_inj, hname]
      split
      · next h =>
        exact ⟨nofun, fun h' => absurd (hdots.1 h) (h'.2 ▸ h'.1)⟩
      · next h =>
        rw [Option.some_inj]
        exact ⟨fun heq => ⟨heq ▸ fun h' => h (hdots.2 h'), heq⟩, fun h => h.2⟩
  rw [hlast, getLast?_filter_eq_some_iff]
  simp only [hpicked, Decidable.not_not]

/-- A name that stands between slashes in a path is one of its pieces. -/
theorem splitOn_of_place {path name front tail : List Char} (hslash : '/' ∉ name)
    (hpath : path = front ++ name ++ tail)
    (hfront : front = [] ∨ ∃ directory, front = directory ++ ['/'])
    (htail : tail = [] ∨ ∃ rest, tail = '/' :: rest) :
    ∃ before after, splitOn '/' path = before ++ name :: after ∧ after ⊆ splitOn '/' tail := by
  obtain ⟨after, hafter, hsub⟩ : ∃ after, splitOn '/' (name ++ tail) = name :: after ∧
      after ⊆ splitOn '/' tail := by
    rcases htail with rfl | ⟨rest, rfl⟩
    · exact ⟨[], by rw [List.append_nil, splitOn_of_not_mem hslash], List.nil_subset _⟩
    · refine ⟨_, splitOn_append hslash rest, ?_⟩
      simp [splitOn]
  rcases hfront with rfl | ⟨directory, rfl⟩
  · exact ⟨[], after, by rw [hpath, List.nil_append, hafter, List.nil_append], hsub⟩
  · refine ⟨splitOn '/' directory, after, ?_, hsub⟩
    rw [hpath, List.append_assoc, List.append_assoc, List.singleton_append, splitOn_append_cons,
      hafter]

/-- A piece of a path stands between slashes in it. -/
theorem place_of_splitOn {path name : List Char} {before after : List (List Char)}
    (hpieces : splitOn '/' path = before ++ name :: after) :
    ∃ front tail, path = front ++ name ++ tail ∧
      (front = [] ∨ ∃ directory, front = directory ++ ['/']) ∧
      (tail = [] ∨ ∃ rest, tail = '/' :: rest) ∧
        ∀ piece ∈ splitOn '/' tail, piece = [] ∨ piece ∈ after := by
  have hpath : joinSep '/' (before ++ name :: after) = path := by
    rw [← hpieces, joinSep_splitOn]
  obtain ⟨tail, hname, htail, hmem⟩ : ∃ tail, joinSep '/' (name :: after) = name ++ tail ∧
      (tail = [] ∨ ∃ rest, tail = '/' :: rest) ∧
        ∀ piece ∈ splitOn '/' tail, piece = [] ∨ piece ∈ after := by
    by_cases hafter : after = []
    · subst hafter
      exact ⟨[], by simp [joinSep], .inl rfl, by simp [splitOn]⟩
    · have hrest : splitOn '/' (joinSep '/' after) = after :=
        splitOn_joinSep hafter fun piece hpiece => (not_mem_of_mem_splitOn
          (hpieces ▸ List.mem_append_right _ (List.mem_cons_of_mem _ hpiece))).1
      refine ⟨_, joinSep_cons name hafter, .inr ⟨_, rfl⟩, fun piece hpiece => ?_⟩
      rw [splitOn, if_pos rfl, hrest] at hpiece
      exact List.mem_cons.1 hpiece
  by_cases hbefore : before = []
  · subst hbefore
    refine ⟨[], tail, ?_, .inl rfl, htail, hmem⟩
    rw [← hpath, List.nil_append, hname, List.nil_append]
  · refine ⟨joinSep '/' before ++ ['/'], tail, ?_, .inr ⟨_, rfl⟩, htail, hmem⟩
    rw [← hpath, joinSep_append hbefore (List.cons_ne_nil _ _), hname]
    simp

/-- **The name of a file.**  It is the last name in the path, if the path has one. -/
theorem lastName?_eq_some_iff {path name : String} :
    lastName? path = some name ↔ IsLastName path name := by
  have hidle : ∀ word : String, name ≠ word ↔ name.toList ≠ word.toList := fun word =>
    (not_congr String.toList_inj).symm
  rw [lastName?_eq_some_iff_pieces]
  constructor
  · rintro ⟨hdots, before, after, hpieces, hname, hafter⟩
    rw [IsIdle, not_or] at hname
    obtain ⟨front, tail, hpath, hfront, htail, hmem⟩ := place_of_splitOn hpieces
    exact {
      slash := (not_mem_of_mem_splitOn
        (hpieces ▸ List.mem_append_right _ List.mem_cons_self)).1
      ne_empty := (hidle "").2 hname.1
      ne_dot := (hidle ".").2 hname.2
      ne_dots := hdots
      place := ⟨front, tail, hpath, hfront, htail,
        fun piece hpiece => (hmem piece hpiece).elim .inl (hafter piece)⟩ }
  · rintro ⟨hslash, hempty, hdot, hdots, front, tail, hpath, hfront, htail, htailIdle⟩
    obtain ⟨before, after, hpieces, hsub⟩ := splitOn_of_place hslash hpath hfront htail
    exact ⟨hdots, before, after, hpieces,
      not_or.2 ⟨(hidle "").1 hempty, (hidle ".").1 hdot⟩,
      fun piece hpiece => htailIdle piece (hsub hpiece)⟩

end ThreatGraph.Upload
