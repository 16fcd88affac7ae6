import Failsafe.Proofs.Fields
import Failsafe.Settings.Layer
import Mathlib.Data.List.Induction

/-!
# The leaves of a layer

A layer of settings, spread out: a list of leaves, each a value that is no table with the path of names that leads
to it (`Layer.leavesOf`). A table without fields is a leaf as well, one that gives nothing but may make a table of what
is above it. A path that goes on into an array is a leaf at the array.

To lay a layer over what there is already is to set its leaves one after the other (`standing_overlay`). A leaf clears
what stands below its path, makes tables of what is above it, and leaves everything else alone (`Layer.effect`). What is
kept of a value is its outline: that it is a table, that it is an array, or the value itself.
-/

namespace Failsafe

namespace Json

/-- What a setting can see of a value: nothing of a table, and of an array only that it is one. -/
def outline : Json → Option Json
  | .object _ => none
  | .array _ => some (.array [])
  | v => some v

/-- The value at a path of names. -/
def at? : Json → List String → Option Json
  | v, [] => some v
  | v, key :: path => (v.field? key).bind (at? · path)

/-- What stands at a path: nothing, a table, or the outline of another value. -/
def standing (v : Json) (path : List String) : Option (Option Json) := (v.at? path).map outline

end Json

namespace Layer

open Json (standing)

/-- A value and the path to it. -/
structure Leaf where
  path : List String
  value : Json

/-- The leaf in a table under a key. -/
def Leaf.under (key : String) (leaf : Leaf) : Leaf := { leaf with path := key :: leaf.path }

mutual

/-- The leaves of a value. -/
def leaves : Json → List Leaf
  | .object fields => if fields.isEmpty then [⟨[], .object []⟩] else fieldLeaves fields
  | v => [⟨[], v⟩]

/-- The leaves of the fields of a table. -/
def fieldLeaves : List (String × Json) → List Leaf
  | [] => []
  | (key, v) :: rest => (leaves v).map (.under (Unicode.lowercase key)) ++ fieldLeaves rest

end

/-- The leaves of a value under a path that leads to it. -/
def pathLeaves (v : Json) : List Step → List Leaf
  | [] => leaves v
  | [.key name] => fieldLeaves [(name, v)]
  | .item _ :: _ => [⟨[], .array []⟩]
  | .key name :: path => (pathLeaves v path).map (.under name)

/-- The leaves of a layer, in their order. -/
def leavesOf (layer : Fields) : List Leaf :=
  layer.flatMap fun (key, v) =>
    match path? key with
    | some path => pathLeaves v path
    | none => fieldLeaves [(key, v)]

/-! ## What a leaf does -/

/-- What stands at a path (the second one) when a value has been put at another (the first one). -/
def effect (v : Json) : List String → List String → Option (Option Json) → Option (Option Json)
  | [], [], old => v.outline.elim (old.or (some none)) fun w => some (some w)
  | [], _ :: _, old => if v.outline.isSome then none else old
  | _ :: _, [], _ => some none
  | key :: path, name :: path', old => if key = name then effect v path path' old else old

/-- What leaves do, one after the other. -/
def effects (leaves : List Leaf) (path : List String) (old : Option (Option Json)) : Option (Option Json) :=
  leaves.foldl (fun old leaf => effect leaf.value leaf.path path old) old

variable {key name : String} {path : List String} {ls : List Leaf} {old : Option (Option Json)}

theorem effects_append (ls more : List Leaf) (path : List String) (old : Option (Option Json)) :
    effects (ls ++ more) path old = effects more path (effects ls path old) := List.foldl_append

theorem effects_under (key : String) (ls : List Leaf) (path : List String) (old : Option (Option Json)) :
    effects (ls.map (.under key)) (key :: path) old = effects ls path old := by
  unfold effects
  rw [List.foldl_map]
  simp only [Leaf.under, effect, if_true]

theorem effects_under_ne (h : key ≠ name) (ls : List Leaf) (path : List String) (old : Option (Option Json)) :
    effects (ls.map (.under key)) (name :: path) old = old := by
  induction ls with
  | nil => rfl
  | cons leaf ls ih =>
    have hleaf : effect leaf.value (key :: leaf.path) (name :: path) old = old := if_neg h
    refine Eq.trans ?_ ih
    show effects (ls.map (.under key)) (name :: path) (effect leaf.value (key :: leaf.path) (name :: path) old) = _
    rw [hleaf]

/-- Below a leaf there is a table. -/
theorem effects_above (hne : ls ≠ []) (hpath : ∀ leaf ∈ ls, leaf.path ≠ []) (old : Option (Option Json)) :
    effects ls [] old = some none := by
  obtain ⟨front, leaf, rfl⟩ := List.eq_nil_or_concat ls |>.resolve_left hne
  have hleaf := hpath leaf (by simp)
  rw [List.concat_eq_append, effects_append]
  show effect leaf.value leaf.path [] _ = some none
  cases hcase : leaf.path with
  | nil => exact absurd hcase hleaf
  | cons key path => rfl

theorem leaves_ne_nil : (v : Json) → leaves v ≠ []
  | .object [] => by simp [leaves]
  | .object ((key, v) :: rest) => by
    have hv := leaves_ne_nil v
    simp [leaves, fieldLeaves, hv]
  | .null | .bool _ | .number _ | .text _ | .array _ => by simp [leaves]

theorem path_ne_nil_of_mem_under {leaf : Leaf} (h : leaf ∈ ls.map (.under key)) : leaf.path ≠ [] := by
  obtain ⟨inner, -, rfl⟩ := List.mem_map.mp h
  exact List.cons_ne_nil key inner.path

theorem path_ne_nil_of_mem_fieldLeaves {leaf : Leaf} :
    (fields : List (String × Json)) → leaf ∈ fieldLeaves fields → leaf.path ≠ []
  | [], h => absurd h List.not_mem_nil
  | (_, _) :: rest, h => by
    unfold fieldLeaves at h
    rcases List.mem_append.mp h with h | h
    · exact path_ne_nil_of_mem_under h
    · exact path_ne_nil_of_mem_fieldLeaves rest h

theorem fieldLeaves_ne_nil {key : String} {v : Json} {rest : List (String × Json)} :
    fieldLeaves ((key, v) :: rest) ≠ [] := by
  intro h
  unfold fieldLeaves at h
  exact leaves_ne_nil v (List.map_eq_nil_iff.mp (List.append_eq_nil_iff.mp h).1)

/-! ## Laying a value over another -/

theorem standing_object (fields : Fields) (name : String) (path : List String) :
    standing (.object fields) (name :: path) = (fields.get? name).bind (standing · path) := by
  show ((fields.get? name).bind (Json.at? · path)).map Json.outline = _
  cases fields.get? name <;> rfl

/-- In a value that is no table nothing stands below it. -/
theorem standing_table (v : Json) (name : String) (path : List String) :
    standing (.object (v.object?.getD [])) (name :: path) = standing v (name :: path) := by
  cases v <;> rfl

/-- To change what is under a key of a table, or of what becomes a table, is to set leaves under that key. -/
theorem standing_set {target inner : Json} (hne : ls ≠ [])
    (hinner : ∀ path, standing inner path =
      effects ls path ((Fields.get? (target.object?.getD []) key).bind (standing · path))) (path : List String) :
    standing (.object (Fields.set (target.object?.getD []) key inner)) path =
      effects (ls.map (.under key)) path (standing target path) := by
  cases path with
  | nil =>
    rw [effects_above (by simpa using hne) fun leaf => path_ne_nil_of_mem_under]
    rfl
  | cons name path =>
    rw [standing_object, Fields.get?_set, ← standing_table target, standing_object]
    by_cases hname : key = name
    · subst hname
      rw [if_pos rfl, effects_under]
      exact hinner path
    · rw [if_neg hname, effects_under_ne hname]

/-- A value that is no table replaces what was there. -/
theorem standing_leaf {v : Json} (h : v.outline.isSome = true) (hleaves : leaves v = [⟨[], v⟩]) (path : List String)
    (old : Option (Option Json)) : standing v path = effects (leaves v) path old := by
  rw [hleaves]
  show standing v path = effect v [] path old
  cases path with
  | nil =>
    obtain ⟨w, hw⟩ := Option.isSome_iff_exists.mp h
    show some v.outline = v.outline.elim (old.or (some none)) fun w => some (some w)
    rw [hw]
    rfl
  | cons name path =>
    refine Eq.trans ?_ (if_pos h).symm
    cases v with
    | object fields => exact absurd h (by simp [Json.outline])
    | _ => rfl

mutual

/-- To lay a value over what may be there already is to set its leaves. -/
theorem standing_join (old : Option Json) (path : List String) : (v : Json) →
    standing (join old v) path = effects (leaves v) path (old.bind (standing · path))
  | .object [] => by
    -- An empty table changes nothing, unless there was nothing.
    unfold join joinFields leaves
    show _ = effect (.object []) [] path _
    cases old with
    | none => cases path <;> rfl
    | some v => cases path <;> rfl
  | .object ((key, v) :: rest) => by
    have hfields := standing_joinFields (old.getD (.object [])) path ((key, v) :: rest)
    unfold join leaves
    rw [hfields, if_neg (by simp)]
    cases old with
    | some w => rfl
    | none =>
      cases path with
      | nil =>
        rw [effects_above fieldLeaves_ne_nil fun leaf => path_ne_nil_of_mem_fieldLeaves ((key, v) :: rest),
          effects_above fieldLeaves_ne_nil fun leaf => path_ne_nil_of_mem_fieldLeaves ((key, v) :: rest)]
      | cons name path => rfl
  | .null | .bool _ | .number _ | .text _ | .array _ => by
    unfold join
    exact standing_leaf rfl (by unfold leaves; rfl) path _

theorem standing_joinFields (target : Json) (path : List String) : (fields : List (String × Json)) →
    standing (joinFields target fields) path = effects (fieldLeaves fields) path (standing target path)
  | [] => by
    unfold joinFields fieldLeaves
    rfl
  | (key, v) :: rest => by
    unfold joinFields fieldLeaves
    rw [standing_joinFields _ path rest, effects_append, standing_set (leaves_ne_nil v)]
    exact fun path => standing_join _ path v

end

/-! ## Laying a layer over a tree -/

theorem pathLeaves_ne_nil (v : Json) : (steps : List Step) → pathLeaves v steps ≠ []
  | [] => leaves_ne_nil v
  | [.key name] => fieldLeaves_ne_nil
  | .item _ :: _ => List.cons_ne_nil _ _
  | .key name :: step :: steps => by
    have hinner := pathLeaves_ne_nil v (step :: steps)
    unfold pathLeaves
    simpa using hinner

/-- Where a path begins there is a table or an array, whatever was there. -/
theorem effects_pathLeaves_nil (v : Json) (step : Step) (steps : List Step) (old old' : Option (Option Json)) :
    effects (pathLeaves v (step :: steps)) [] old = effects (pathLeaves v (step :: steps)) [] old' := by
  cases step with
  | item place => rfl
  | key name =>
    cases steps with
    | nil =>
      have hne : fieldLeaves [(name, v)] ≠ [] := fieldLeaves_ne_nil
      have habove := effects_above hne fun leaf => path_ne_nil_of_mem_fieldLeaves [(name, v)]
      exact (habove old).trans (habove old').symm
    | cons next steps =>
      have hne := pathLeaves_ne_nil v (.key name :: next :: steps)
      unfold pathLeaves at hne ⊢
      have habove := effects_above hne fun leaf => path_ne_nil_of_mem_under
      exact (habove old).trans (habove old').symm

/-- A path that begins with a place leads into an array. -/
theorem array_of_assign {v : Json} {place : Int} {steps : List Step} {target tree : Json}
    (h : assign? v (.item place :: steps) target = some tree) : ∃ items, tree = .array items := by
  cases steps with
  | nil =>
    unfold assign? at h
    obtain ⟨index, -, htree⟩ := Option.bind_eq_some_iff.mp h
    exact ⟨_, (Option.some.inj htree).symm⟩
  | cons step steps =>
    unfold assign? at h
    obtain ⟨index, -, hinner⟩ := Option.bind_eq_some_iff.mp h
    obtain ⟨inner, -, htree⟩ := Option.bind_eq_some_iff.mp hinner
    exact ⟨_, (Option.some.inj htree).symm⟩

/-- To lay a value over what a path leads to is to set its leaves under the path. -/
theorem standing_assign {v : Json} {steps : List Step} {target tree : Json} (h : assign? v steps target = some tree)
    (path : List String) : standing tree path = effects (pathLeaves v steps) path (standing target path) := by
  induction steps generalizing target tree path with
  | nil =>
    obtain rfl : _ = tree := Option.some.inj h
    exact standing_join (some target) path v
  | cons step steps ih =>
    cases step with
    | item place =>
      obtain ⟨items, rfl⟩ := array_of_assign h
      cases path <;> rfl
    | key name =>
      cases steps with
      | nil =>
        obtain rfl : _ = tree := Option.some.inj h
        exact standing_joinFields target path [(name, v)]
      | cons next steps =>
        unfold assign? at h
        obtain ⟨inner, hinner, htree⟩ := Option.bind_eq_some_iff.mp h
        obtain rfl := Option.some.inj htree
        unfold pathLeaves
        refine standing_set (pathLeaves_ne_nil v (next :: steps)) (fun path => ?_) path
        rw [ih hinner]
        cases hget : Fields.get? (target.object?.getD []) name with
        | some w => rfl
        | none =>
          cases path with
          | nil => exact effects_pathLeaves_nil v next steps _ _
          | cons name path => rfl

/-- **To lay a layer over a tree is to set its leaves, one after the other.** -/
theorem standing_overlay {tree tree' : Json} {layer : Fields} (h : overlay? tree layer = some tree')
    (path : List String) : standing tree' path = effects (leavesOf layer) path (standing tree path) := by
  induction layer generalizing tree with
  | nil =>
    obtain rfl : tree = tree' := Option.some.inj h
    rfl
  | cons entry layer ih =>
    obtain ⟨key, v⟩ := entry
    unfold overlay? at h ih
    rw [List.foldlM_cons] at h
    obtain ⟨middle, hmiddle, hrest⟩ := Option.bind_eq_some_iff.mp h
    unfold leavesOf at ih ⊢
    rw [List.flatMap_cons, effects_append, ih hrest]
    congr 1
    dsimp only at hmiddle ⊢
    cases hpath : path? key with
    | some steps =>
      rw [hpath] at hmiddle
      exact standing_assign hmiddle path
    | none =>
      rw [hpath] at hmiddle
      obtain rfl := Option.some.inj hmiddle
      exact standing_joinFields tree path [(key, v)]

/-! ## The last leaf -/

/-- Whether a leaf gives what stands at a path or in the place of something above it. -/
def Leaf.onWay (path : List String) (leaf : Leaf) : Bool := leaf.path.isPrefixOf path && leaf.value.outline.isSome

/-- Whether a leaf gives what stands at a path. -/
def Leaf.gives (path : List String) (leaf : Leaf) : Bool := leaf.path = path && leaf.value.outline.isSome

/-- The last value given for a path. -/
def given? (ls : List Leaf) (path : List String) : Option Json := (ls.reverse.find? (·.gives path)).map (·.value)

/-- The last leaf on the way to a path, if there is one, stands at the path itself: where something above the path has
been replaced by a value that is no table, the path has been given since. -/
def Undisturbed (ls : List Leaf) (path : List String) : Prop :=
  ∀ leaf, ls.reverse.find? (·.onWay path) = some leaf → leaf.path = path

instance (ls : List Leaf) (path : List String) : Decidable (Undisturbed ls path) :=
  decidable_of_iff ((ls.reverse.find? (·.onWay path)).all (·.path = path) = true) <| by
    unfold Undisturbed
    cases ls.reverse.find? (·.onWay path) <;> simp

/-- What a later layer gives goes before what an earlier one gives. -/
theorem given?_append (ls more : List Leaf) (path : List String) :
    given? (ls ++ more) path = (given? more path).or (given? ls path) := by
  unfold given?
  rw [List.reverse_append, List.find?_append]
  cases more.reverse.find? (·.gives path) <;> rfl

/-- How a path is related to the path of a leaf, and what the leaf does to what stands there. -/
inductive Touched (v : Json) (path path' : List String) (old new : Option (Option Json)) : Prop
  | here (hpath : path = path') (hnew : new = v.outline.elim (old.or (some none)) fun w => some (some w))
  | below (hpath : path' <+: path) (hne : path ≠ path') (hnew : new = some none)
  | above (hpath : path <+: path') (hne : path ≠ path') (hnew : new = if v.outline.isSome then none else old)
  | apart (habove : ¬path <+: path') (hbelow : ¬path' <+: path) (hnew : new = old)

theorem touched_effect (v : Json) (path path' : List String) (old : Option (Option Json)) :
    Touched v path path' old (effect v path path' old) := by
  induction path generalizing path' with
  | nil =>
    cases path' with
    | nil => exact .here rfl rfl
    | cons name path' => exact .above List.nil_prefix (List.cons_ne_nil name path').symm rfl
  | cons key path ih =>
    cases path' with
    | nil => exact .below List.nil_prefix (List.cons_ne_nil key path) rfl
    | cons name path' =>
      by_cases hkey : key = name
      · subst hkey
        have heffect : effect v (key :: path) (key :: path') old = effect v path path' old := if_pos rfl
        rw [heffect]
        cases ih path' with
        | here hpath hnew => exact .here (congrArg (key :: ·) hpath) hnew
        | below hpath hne hnew => exact .below (List.cons_prefix_cons.mpr ⟨rfl, hpath⟩) (by simpa using hne) hnew
        | above hpath hne hnew => exact .above (List.cons_prefix_cons.mpr ⟨rfl, hpath⟩) (by simpa using hne) hnew
        | apart habove hbelow hnew =>
          exact .apart (fun h => habove (List.cons_prefix_cons.mp h).2)
            (fun h => hbelow (List.cons_prefix_cons.mp h).2) hnew
      · exact .apart (fun h => hkey (List.cons_prefix_cons.mp h).1)
          (fun h => hkey (List.cons_prefix_cons.mp h).1.symm) (if_neg hkey)

theorem effects_concat (ls : List Leaf) (leaf : Leaf) (path : List String) (old : Option (Option Json)) :
    effects (ls ++ [leaf]) path old = effect leaf.value leaf.path path (effects ls path old) :=
  effects_append ls [leaf] path old

theorem given?_concat (ls : List Leaf) (leaf : Leaf) (path : List String) :
    given? (ls ++ [leaf]) path = if leaf.gives path then some leaf.value else given? ls path := by
  unfold given?
  rw [List.reverse_concat, List.find?_cons]
  cases leaf.gives path <;> rfl

theorem path_eq_of_undisturbed {leaf : Leaf} (h : Undisturbed (ls ++ [leaf]) path) (hbegins : leaf.path <+: path)
    (hvalue : leaf.value.outline.isSome = true) : leaf.path = path := by
  have honWay : leaf.onWay path = true := by
    unfold Leaf.onWay
    rw [List.isPrefixOf_iff_prefix.mpr hbegins, hvalue]
    rfl
  refine h leaf ?_
  rw [List.reverse_concat, List.find?_cons, honWay]

theorem undisturbed_of_concat {leaf : Leaf} (h : Undisturbed (ls ++ [leaf]) path)
    (hleaf : leaf.path <+: path → leaf.value.outline = none) : Undisturbed ls path := by
  have honWay : leaf.onWay path = false := by
    unfold Leaf.onWay
    cases hbegins : leaf.path.isPrefixOf path with
    | false => rfl
    | true => rw [hleaf (List.isPrefixOf_iff_prefix.mp hbegins)]; rfl
  intro last hlast
  refine h last ?_
  rw [List.reverse_concat, List.find?_cons, honWay]
  exact hlast

/-- Where the way to a path is undisturbed there is a table or nothing above it. -/
theorem effects_on_way (h : Undisturbed ls path) {top : List String} (htop : top <+: path) (hne : top ≠ path)
    {old : Option (Option Json)} (hold : old = none ∨ old = some none) :
    effects ls top old = none ∨ effects ls top old = some none := by
  -- From the last leaf on: of the leaves that give something on the way only those at the path itself come last.
  induction ls using List.reverseRecOn with
  | nil => exact hold
  | append_singleton ls leaf ih =>
    rw [effects_concat]
    cases touched_effect leaf.value leaf.path top (effects ls top old) with
    | here hpath hnew =>
      cases houtline : leaf.value.outline with
      | some w =>
        have hleaf := path_eq_of_undisturbed h (hpath ▸ htop) (by rw [houtline]; rfl)
        exact absurd (hpath.symm.trans hleaf) hne
      | none =>
        rw [hnew, houtline]
        rcases ih (undisturbed_of_concat h fun _ => houtline) with hbefore | hbefore
        · exact .inr (by rw [hbefore]; rfl)
        · exact .inr (by rw [hbefore]; rfl)
    | below hpath hne' hnew => exact .inr hnew
    | above hpath hne' hnew =>
      cases houtline : leaf.value.outline with
      | some w =>
        have hleaf := path_eq_of_undisturbed h (hpath.trans htop) (by rw [houtline]; rfl)
        exact absurd (List.IsPrefix.eq_of_length_le htop (hleaf ▸ hpath.length_le)) hne
      | none =>
        rw [hnew, houtline]
        exact ih (undisturbed_of_concat h fun _ => houtline)
    | apart habove hbelow hnew =>
      -- Both the leaf and `top` would begin the path, so one of them would begin the other.
      rw [hnew]
      refine ih (undisturbed_of_concat h fun hbegins => ?_)
      rcases List.prefix_or_prefix_of_prefix hbegins htop with hcase | hcase
      · exact absurd hcase habove
      · exact absurd hcase hbelow

/-- Where the way to a path is undisturbed there stands a table, or what has been given last. -/
theorem effects_of_undisturbed (h : Undisturbed ls path) :
    effects ls path none = some none ∨ effects ls path none = (given? ls path).map Json.outline := by
  induction ls using List.reverseRecOn with
  | nil => exact .inr rfl
  | append_singleton ls leaf ih =>
    rw [effects_concat, given?_concat]
    unfold Leaf.gives
    cases touched_effect leaf.value leaf.path path (effects ls path none) with
    | here hpath hnew =>
      rw [hnew]
      cases houtline : leaf.value.outline with
      | some w =>
        right
        rw [decide_eq_true hpath]
        show some (some w) = some leaf.value.outline
        rw [houtline]
      | none =>
        rw [Option.isSome_none, Bool.and_false, if_neg Bool.false_ne_true]
        rcases ih (undisturbed_of_concat h fun _ => houtline) with hbefore | hbefore
        · exact .inl (by rw [hbefore]; rfl)
        · rw [hbefore]
          cases given? ls path with
          | none => exact .inl rfl
          | some v => exact .inr rfl
    | below hpath hne hnew => exact .inl hnew
    | above hpath hne hnew =>
      cases houtline : leaf.value.outline with
      | some w => exact absurd (path_eq_of_undisturbed h hpath (by rw [houtline]; rfl)) hne
      | none =>
        rw [hnew, houtline, Option.isSome_none, Bool.and_false, if_neg Bool.false_ne_true, if_neg Bool.false_ne_true]
        exact ih (undisturbed_of_concat h fun _ => houtline)
    | apart habove hbelow hnew =>
      have hpath : leaf.path ≠ path := fun hpath => habove (hpath ▸ List.prefix_refl _)
      rw [hnew, decide_eq_false hpath, Bool.false_and, if_neg Bool.false_ne_true]
      exact ih (undisturbed_of_concat h fun hbegins => absurd hbegins habove)

end Layer

end Failsafe
