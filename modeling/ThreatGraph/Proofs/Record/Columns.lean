import ThreatGraph.Record.Field

/-!
# Records, column by column

A record is read from a JSON value field by field.  A column says of one field where its value
stands, how it is read, and what the field holds if the value is missing or cannot be read.

* `Json.withMember` sets a member of an object, or removes it.
* `Column` describes a field with one place, and `KeyedField` any field by the keys that it is read
  from.
* `IsLocal` says that the fields of a record are read each by itself: a member that is set or
  removed changes the fields of its key only.  `IsLocal.of_follows` proves it of a reader that
  follows its columns.
-/

set_option autoImplicit false

namespace ThreatGraph

/-! ## Members

That a field depends on one member only is tested by changing the others.  A member is set, replaced
or removed by the same function, as a value or nothing in its place. -/

/-- The entries without those of a key. -/
def Assoc.erase {α : Type} (key : String) (entries : List (String × α)) : List (String × α) :=
  entries.filter fun entry => entry.1 ≠ key

theorem Assoc.lookup?_erase {α : Type} (key other : String) (entries : List (String × α)) :
    lookup? other (erase key entries) = if other = key then none else lookup? other entries := by
  induction entries with
  | nil => exact (ite_self _).symm
  | cons entry rest ih =>
    rw [erase] at ih ⊢
    by_cases hentry : entry.1 = key
    · rw [List.filter_cons_of_neg (by simpa using hentry), ih, lookup?]
      by_cases hother : other = key
      · rw [if_pos hother, if_pos hother]
      · rw [if_neg hother, if_neg hother, if_neg fun heq => hother (heq.trans hentry)]
    · rw [List.filter_cons_of_pos (by simpa using hentry), lookup?, lookup?, ih]
      by_cases hother : other = entry.1
      · rw [if_pos hother, if_neg fun heq => hentry (hother.symm.trans heq), if_pos hother]
      · rw [if_neg hother, if_neg hother]

namespace Json

/-- An object with one member set to a value, or removed.  Other values have no members. -/
def withMember (key : String) (member : Option Json) : Json → Json
  | .object fields =>
    match member with
    | some value => .object (Assoc.insert key value fields)
    | none => .object (Assoc.erase key fields)
  | value => value

/-- A member of an object that is set or removed is as it was set, and the others stay. -/
theorem get?_withMember (key : String) (member : Option Json) (other : String)
    (fields : List (String × Json)) :
    ((object fields).withMember key member).get? other =
      if other = key then member else (object fields).get? other := by
  cases member with
  | none => exact Assoc.lookup?_erase key other fields
  | some value => exact Assoc.lookup?_insert key value other fields

theorem get?_withMember_of_ne {key other : String} (h : other ≠ key) (member : Option Json)
    (value : Json) : (value.withMember key member).get? other = value.get? other := by
  cases value with
  | object fields => rw [get?_withMember, if_neg h]
  | _ => rfl

/-- The value at the end of a path of keys. -/
def at? : List String → Json → Option Json
  | [], value => some value
  | key :: path, value => (value.get? key).bind (at? path)

end Json

/-! ## Columns

A column says three things about a field: where its value stands, how that is read, and what the
field holds without it.  A reader that follows its columns is determined by them, so nothing more
has to be known of the reader to see what a change of a member does. -/

/-- A field of a record, and the keys that it is read from. -/
structure KeyedField (R : Type) where
  {Value : Type}
  field : R → Value
  keys : List String

/-- A field of a record that is read from the value at the end of a path, which begins with a
key. -/
structure Column (R : Type) where
  {Value : Type}
  field : R → Value
  key : String
  path : List String
  read? : Json → Option Value
  /-- What the field holds if its value is missing or cannot be read. -/
  default : Value

namespace Column

variable {R β : Type}

/-- A field that holds what is read, or nothing. -/
def optional (key : String) (path : List String) (read? : Json → Option β) (field : R → Option β) :
    Column R where
  field := field
  key := key
  path := path
  read? value := (read? value).map some
  default := none

/-- The field of a column with its one key. -/
def keyed (c : Column R) : KeyedField R := ⟨c.field, [c.key]⟩

/-- The value for a field cannot be read, or is missing. -/
def IsBlank (c : Column R) (v : Json) : Prop :=
  ∀ value, v.at? (c.key :: c.path) = some value → c.read? value = none

/-- A reader of records follows a column. -/
def Follows (ofJson : Json → R) (c : Column R) : Prop :=
  ∀ v, c.field (ofJson v) = ((v.at? (c.key :: c.path)).bind c.read?).getD c.default

/-- A field that is read from its place or empty follows its column. -/
theorem follows_optional {key : String} {path : List String} {read? : Json → Option β}
    {field : R → Option β} {ofJson : Json → R}
    (h : ∀ v, field (ofJson v) = (v.at? (key :: path)).bind read?) :
    Follows ofJson (optional key path read? field) := by
  intro v
  refine (h v).trans ?_
  change _ = ((v.at? (key :: path)).bind fun value => (read? value).map some).getD none
  cases v.at? (key :: path) with
  | none => rfl
  | some value => cases hread : read? value <;> simp [hread]

end Column

/-! ## Locality

Some fields are read from several members, and no column describes these.  They are given with the
keys that they are read from, which is enough to say which changes leave them as they are. -/

/-- A reader of records reads each of their fields by itself: those in columns, and those that blend
several members.  `raw` is the whole value that a record keeps, if it does. -/
structure IsLocal {R : Type} (ofJson : Json → R) (raw : R → Option Json)
    (columns : List (Column R)) (blends : List (KeyedField R)) : Prop where
  /-- A field in a column holds what is read at its place. -/
  reads : ∀ c ∈ columns, c.Follows ofJson
  /-- A member that is set, replaced or removed changes the fields of its key only. -/
  frame : ∀ v key member, ∀ f ∈ columns.map Column.keyed ++ blends, key ∉ f.keys →
    f.field (ofJson (v.withMember key member)) = f.field (ofJson v)
  /-- A field in a column holds its default if its value is missing or cannot be read. -/
  default : ∀ v, ∀ c ∈ columns, c.IsBlank v → c.field (ofJson v) = c.default
  /-- What a record keeps is the whole value. -/
  whole : ∀ v, ∀ value ∈ raw (ofJson v), value = v
  /-- There are no other fields. -/
  complete : ∀ r s, (∀ f ∈ columns.map Column.keyed ++ blends, f.field r = f.field s) →
    raw r = raw s → r = s

/-- A reader that follows its columns, and reads nothing but their keys for what it blends, is
local. -/
theorem IsLocal.of_follows {R : Type} {ofJson : Json → R} {raw : R → Option Json}
    {columns : List (Column R)} {blends : List (KeyedField R)}
    (hcolumns : ∀ c ∈ columns, c.Follows ofJson)
    (hblends : ∀ f ∈ blends, ∀ v w : Json, (∀ key ∈ f.keys, v.get? key = w.get? key) →
      f.field (ofJson v) = f.field (ofJson w))
    (whole : ∀ v, ∀ value ∈ raw (ofJson v), value = v)
    (complete : ∀ r s, (∀ f ∈ columns.map Column.keyed ++ blends, f.field r = f.field s) →
      raw r = raw s → r = s) : IsLocal ofJson raw columns blends where
  reads := hcolumns
  frame v key member f hf hkey := by
    have hget : ∀ other ∈ f.keys, (v.withMember key member).get? other = v.get? other := by
      intro other hother
      refine Json.get?_withMember_of_ne ?_ member v
      rintro rfl
      exact hkey hother
    rcases List.mem_append.1 hf with hf | hf
    · obtain ⟨c, hc, rfl⟩ := List.mem_map.1 hf
      change c.field _ = c.field _
      rw [hcolumns c hc, hcolumns c hc, Json.at?, Json.at?, hget c.key (List.mem_singleton.2 rfl)]
    · exact hblends f hf _ _ hget
  default v c hc hblank := by rw [hcolumns c hc, Option.bind_eq_none_iff.2 hblank, Option.getD_none]
  whole := whole
  complete := complete

end ThreatGraph
