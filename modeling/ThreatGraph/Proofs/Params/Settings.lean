import ThreatGraph.Pager
import ThreatGraph.Proofs.Params.Grouping

/-!
# Parameters of optional settings

The parameters of a search or a submission are settings, each of a key and a text if there is one.

* `Params.ofSettings` are the parameters that settings make, and `Params.get?_ofSettings` says what
  each key holds if the keys are different.
* `Params.ofSettings_inj`: settings of the same keys are determined by the parameters they make.
* `Params.Keeps` says that parameters made of a value keep all of it that counts, and that they set
  neither a page size nor a token.
-/

set_option autoImplicit false

namespace ThreatGraph.Params

/-- The parameters that settings make. -/
def ofSettings (settings : List (String × Option String)) : Params :=
  settings.foldl (fun p setting => p.insertOption setting.1 (setting.2.map ParamValue.single)) empty

theorem get?_insertOption (key : String) (value : Option ParamValue) (other : String) (p : Params) :
    (p.insertOption key value).get? other =
      if other = key then value.or (p.get? other) else p.get? other := by
  cases value with
  | none => exact (ite_self _).symm
  | some value => exact get?_insert key value other p

/-- Under each of different keys stands the text of its setting, if there is one. -/
theorem get?_ofSettings {settings : List (String × Option String)}
    (hkeys : (settings.map (·.1)).Nodup) (key : String) :
    (ofSettings settings).get? key =
      (Assoc.lookup? key settings).join.map ParamValue.single := by
  have hfold : ∀ p : Params, (settings.foldl (fun p setting =>
      p.insertOption setting.1 (setting.2.map ParamValue.single)) p).get? key =
        ((Assoc.lookup? key settings).join.map ParamValue.single).or (p.get? key) := by
    induction settings with
    | nil => exact fun _ => rfl
    | cons setting rest ih =>
      rw [List.map_cons] at hkeys
      obtain ⟨hsetting, hrest⟩ := List.nodup_cons.1 hkeys
      intro p
      rw [List.foldl_cons, ih hrest, get?_insertOption, Assoc.lookup?]
      by_cases hkey : key = setting.1
      · -- No later setting has the key.
        rw [if_pos hkey, if_pos hkey, Assoc.lookup?_of_not_mem (hkey ▸ hsetting)]
        rfl
      · rw [if_neg hkey, if_neg hkey]
  rw [ofSettings, hfold]
  exact Option.or_none

/-- No other key is set. -/
theorem contains_ofSettings {settings : List (String × Option String)} {key : String}
    (hkeys : (settings.map (·.1)).Nodup) (h : key ∉ settings.map (·.1)) :
    (ofSettings settings).contains key = false := by
  rw [contains, get?_ofSettings hkeys, Assoc.lookup?_of_not_mem h]
  rfl

/-- Settings are read back from the parameters that they make. -/
theorem settings_eq {settings : List (String × Option String)}
    (hkeys : (settings.map (·.1)).Nodup) :
    settings = (settings.map (·.1)).map fun key =>
      (key, ((ofSettings settings).get? key).bind ParamValue.text?) := by
  rw [List.map_map]
  refine (List.map_id' settings).symm.trans (List.map_congr_left fun setting hsetting => ?_)
  have hvalue := Assoc.lookup?_of_mem hkeys hsetting
  obtain ⟨key, text⟩ := setting
  refine Prod.ext rfl ?_
  rw [Function.comp, get?_ofSettings hkeys, hvalue]
  cases text <;> rfl

/-- **Settings are not lost.**  Settings of the same keys, which differ from each other, make the
same parameters only if they are the same. -/
theorem ofSettings_inj {settings settings' : List (String × Option String)}
    (hkeys : (settings.map (·.1)).Nodup) (hsame : settings.map (·.1) = settings'.map (·.1)) :
    ofSettings settings = ofSettings settings' ↔ settings = settings' := by
  refine ⟨fun h => ?_, congrArg ofSettings⟩
  have hkeys' : (settings'.map (·.1)).Nodup := hsame ▸ hkeys
  rw [settings_eq hkeys, settings_eq hkeys', hsame, h]

/-- Parameters that are made of a value keep what counts of it, and set neither a page size nor a
token. -/
structure Keeps {α : Type} (toParams : α → Params) (SameIn : α → α → Prop) : Prop where
  eq_iff : ∀ a b, toParams a = toParams b ↔ SameIn a b
  not_sized : ∀ a, (toParams a).contains Pager.pageSizeParam = false
  not_signed : ∀ a, (toParams a).contains Client.tokenParam = false

/-- Parameters keep what the settings that they are made of say. -/
theorem keeps_of_settings {α : Type} {toParams : α → Params} {SameIn : α → α → Prop}
    (settings : α → List (String × Option String)) (keys : List String)
    (heq : ∀ a, toParams a = ofSettings (settings a))
    (hkeys : ∀ a, (settings a).map (·.1) = keys) (hnodup : keys.Nodup)
    (hfree : Pager.pageSizeParam ∉ keys ∧ Client.tokenParam ∉ keys)
    (hsame : ∀ a b, settings a = settings b ↔ SameIn a b) : Keeps toParams SameIn where
  eq_iff a b := by
    rw [heq, heq, ofSettings_inj ((hkeys a).symm ▸ hnodup) ((hkeys a).trans (hkeys b).symm), hsame]
  not_sized a := by
    rw [heq]
    exact contains_ofSettings ((hkeys a).symm ▸ hnodup) ((hkeys a).symm ▸ hfree.1)
  not_signed a := by
    rw [heq]
    exact contains_ofSettings ((hkeys a).symm ▸ hnodup) ((hkeys a).symm ▸ hfree.2)

end ThreatGraph.Params
