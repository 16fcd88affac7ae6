import Failsafe.Proofs.Fields
import Failsafe.Proofs.Settings.Reading
import Failsafe.Settings.Load

/-!
# What variables give

Each setting has a process variable, `RESILIENCE__RETRY__MAX_RETRIES` and so on. Its value makes one leaf in the layer
of the variables (`leavesOf_variable`), and this is what is given for the setting unless another variable gives it as
well (`given?_variable`), which takes a name that differs in case or one that goes on into an array.
-/

namespace Failsafe

open Layer

namespace Setting

/-- The key of a setting in a layer: its path with points. -/
def key (setting : Setting) : String := ".".intercalate setting.path

/-- The name of the variable that holds a setting. -/
def variableName (setting : Setting) : String := "RESILIENCE__" ++ "__".intercalate (setting.path.map String.toUpper)

theorem settingKey?_variableName (setting : Setting) :
    Variables.settingKey? setting.variableName = some setting.key := by
  cases setting with
  | warning kind | critical kind => cases kind <;> decide +kernel
  | _ => decide +kernel

theorem path?_key (setting : Setting) : path? setting.key = some (setting.path.map .key) := by
  cases setting with
  | warning kind | critical kind => cases kind <;> decide +kernel
  | _ => decide +kernel

theorem lowercase_path (setting : Setting) : ∀ name ∈ setting.path, Unicode.lowercase name = name := by
  cases setting with
  | warning kind | critical kind => cases kind <;> decide +kernel
  | _ => decide +kernel

end Setting

/-! ## One variable -/

/-- A value at the end of a path of names is one leaf. -/
theorem pathLeaves_keys {v : Json} (hv : leaves v = [⟨[], v⟩]) (path : List String) (hne : path ≠ [])
    (hlower : ∀ name ∈ path, Unicode.lowercase name = name) : pathLeaves v (path.map .key) = [⟨path, v⟩] := by
  induction path with
  | nil => exact absurd rfl hne
  | cons name path ih =>
    cases path with
    | nil =>
      show fieldLeaves [(name, v)] = _
      unfold fieldLeaves fieldLeaves
      rw [hv, hlower name (by simp)]
      rfl
    | cons next path =>
      have hrest := ih (List.cons_ne_nil next path) fun name hname => hlower name (List.mem_cons_of_mem _ hname)
      show (pathLeaves v ((next :: path).map .key)).map (Leaf.under name) = _
      rw [hrest]
      rfl

/-- The value of a variable is no table, and a leaf as it is. -/
theorem leaves_settingValue (s : String) :
    leaves (Variables.settingValue s) = [⟨[], Variables.settingValue s⟩] ∧
      (Variables.settingValue s).outline.isSome = true := by
  unfold Variables.settingValue
  dsimp only
  split
  · exact ⟨by unfold leaves; rfl, rfl⟩
  · split
    · exact ⟨by unfold leaves; rfl, rfl⟩
    · split
      · exact ⟨by unfold leaves; rfl, rfl⟩
      · split
        · exact ⟨by unfold Json.ofFloat leaves; rfl, rfl⟩
        · exact ⟨by unfold leaves; rfl, rfl⟩

namespace Variables

variable {name key : String}

theorem layer_concat (hkey : settingKey? name = some key) (vars : Variables) (value : String) :
    layer (vars ++ [(name, value)]) = (layer vars).set key (settingValue value) := by
  unfold layer
  rw [List.foldl_append, List.foldl_cons, List.foldl_nil]
  dsimp only
  rw [hkey]

theorem layer_concat_none (hkey : settingKey? name = none) (vars : Variables) (value : String) :
    layer (vars ++ [(name, value)]) = layer vars := by
  unfold layer
  rw [List.foldl_append, List.foldl_cons, List.foldl_nil]
  dsimp only
  rw [hkey]

theorem layer_singleton (hkey : settingKey? name = some key) (value : String) :
    layer [(name, value)] = [(key, settingValue value)] := layer_concat hkey [] value

end Variables

/-- The key of a setting leads to one leaf, at the path of the setting. -/
theorem leavesOf_key (setting : Setting) (value : String) :
    leavesOf [(setting.key, Variables.settingValue value)] = [⟨setting.path, Variables.settingValue value⟩] := by
  unfold leavesOf
  rw [List.flatMap_singleton]
  dsimp only
  rw [setting.path?_key]
  exact pathLeaves_keys (leaves_settingValue value).1 setting.path setting.path_ne_nil setting.lowercase_path

/-- The variable of a setting makes one leaf, at the path of the setting. -/
theorem leavesOf_variable (setting : Setting) (value : String) :
    leavesOf (Variables.layer [(setting.variableName, value)]) = [⟨setting.path, Variables.settingValue value⟩] := by
  rw [Variables.layer_singleton setting.settingKey?_variableName, leavesOf_key]

/-! ## All variables -/

namespace Variables

/-- What is in the layer comes from a variable. -/
theorem exists_of_mem_layer {vars : Variables} {entry : String × Json} (h : entry ∈ layer vars) :
    ∃ name value, (name, value) ∈ vars ∧ settingKey? name = some entry.1 ∧ entry.2 = settingValue value := by
  induction vars using List.reverseRecOn with
  | nil => exact absurd h List.not_mem_nil
  | append_singleton vars last ih =>
    obtain ⟨name, value⟩ := last
    have hbefore (h : entry ∈ layer vars) : ∃ name' value', (name', value') ∈ vars ++ [(name, value)] ∧
        settingKey? name' = some entry.1 ∧ entry.2 = settingValue value' := by
      obtain ⟨name', value', hmem, hentry⟩ := ih h
      exact ⟨name', value', List.mem_append_left _ hmem, hentry⟩
    cases hkey : settingKey? name with
    | none =>
      rw [layer_concat_none hkey] at h
      exact hbefore h
    | some key =>
      rw [layer_concat hkey] at h
      rcases Fields.mem_set h with rfl | hold
      · exact ⟨name, value, List.mem_append_right _ (List.mem_singleton.mpr rfl), hkey, rfl⟩
      · exact hbefore hold

/-- A variable is in the layer, with its own value or with one of another variable that has the same key. -/
theorem isSome_get?_layer {vars : Variables} {name value key : String} (hmem : (name, value) ∈ vars)
    (hkey : settingKey? name = some key) : ((layer vars).get? key).isSome = true := by
  induction vars using List.reverseRecOn with
  | nil => exact absurd hmem List.not_mem_nil
  | append_singleton vars last ih =>
    obtain ⟨name', value'⟩ := last
    rcases List.mem_append.mp hmem with hbefore | hlast
    · cases hkey' : settingKey? name' with
      | none =>
        rw [layer_concat_none hkey']
        exact ih hbefore
      | some key' =>
        rw [layer_concat hkey', Fields.get?_set]
        by_cases hsame : key' = key
        · rw [if_pos hsame]
          rfl
        · rw [if_neg hsame]
          exact ih hbefore
    · obtain ⟨rfl, rfl⟩ := Prod.mk.inj (List.mem_singleton.mp hlast)
      rw [layer_concat hkey, Fields.get?_set, if_pos rfl]
      rfl

end Variables

/-- What is given for a setting is the value of its variable, unless another variable gives the setting as well. -/
theorem given?_variable {vars : Variables} {setting : Setting} {value : String}
    (hmem : (setting.variableName, value) ∈ vars)
    (honly : ∀ other ∈ vars, ∀ leaf ∈ leavesOf (Variables.layer [other]), leaf.gives setting.path = true →
      other = (setting.variableName, value)) :
    given? (leavesOf vars.layer) setting.path = some (Variables.settingValue value) := by
  -- Whatever leaf gives the setting, it comes from the one variable.
  have hleaf {leaf : Leaf} (hmem : leaf ∈ leavesOf vars.layer) (hgives : leaf.gives setting.path = true) :
      leaf = ⟨setting.path, Variables.settingValue value⟩ := by
    obtain ⟨⟨key, v⟩, hentry, hleaf⟩ := List.mem_flatMap.mp hmem
    obtain ⟨name, value', hother, hkey, rfl⟩ := Variables.exists_of_mem_layer hentry
    have hfrom : leaf ∈ leavesOf (Variables.layer [(name, value')]) := by
      rw [Variables.layer_singleton hkey]
      exact List.mem_flatMap.mpr ⟨_, List.mem_singleton.mpr rfl, hleaf⟩
    rw [honly (name, value') hother leaf hfrom hgives, leavesOf_variable] at hfrom
    exact List.mem_singleton.mp hfrom
  have hsome : ((leavesOf vars.layer).reverse.find? (·.gives setting.path)).isSome = true := by
    have hget := Variables.isSome_get?_layer hmem setting.settingKey?_variableName
    obtain ⟨v, hv⟩ := Option.isSome_iff_exists.mp hget
    have hentry := Fields.mem_of_get? hv
    obtain ⟨name, value', -, -, hvalue⟩ := Variables.exists_of_mem_layer hentry
    obtain rfl : v = Variables.settingValue value' := hvalue
    have hkey : (⟨setting.path, Variables.settingValue value'⟩ : Leaf) ∈ leavesOf vars.layer := by
      have hone := leavesOf_key setting value'
      unfold leavesOf at hone ⊢
      rw [List.flatMap_singleton] at hone
      exact List.mem_flatMap.mpr ⟨_, hentry, hone ▸ List.mem_singleton.mpr rfl⟩
    refine List.find?_isSome.mpr ⟨_, List.mem_reverse.mpr hkey, ?_⟩
    unfold Leaf.gives
    rw [(leaves_settingValue value').2]
    exact Bool.and_eq_true_iff.mpr ⟨decide_eq_true rfl, rfl⟩
  obtain ⟨leaf, hfind⟩ := Option.isSome_iff_exists.mp hsome
  have hgives := List.find?_some hfind
  unfold given?
  rw [hfind, hleaf (List.mem_reverse.mp (List.mem_of_find?_eq_some hfind)) hgives]
  rfl

end Failsafe
