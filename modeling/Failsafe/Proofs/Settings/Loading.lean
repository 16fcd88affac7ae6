import Failsafe.Proofs.Settings.Reading
import Failsafe.Settings.Load

/-!
# What loaded settings are

Settings are loaded from the leaves of their layers (Leaves.lean): a setting is what the last of the layers gives for
it, or else its default (`Configuration.load_layered`). This holds as long as nothing on the way to the setting has been
replaced by a value that is no table: an array in the place of a section gives the settings of the section in their
order, and what was there before is gone (`Configuration.load_array_for_section`).
-/

namespace Failsafe

open Json (standing)

/-! ## Steps of loading -/

namespace Loading

variable {α β : Type}

theorem of_bind_eq_ok {x : Loading α} {f : α → Loading β} {b : β} (h : (x >>= f).run = some (.ok b)) :
    ∃ a, x.run = some (.ok a) ∧ (f a).run = some (.ok b) := by
  rw [ExceptT.run_bind] at h
  obtain ⟨result, hx, hresult⟩ := Option.bind_eq_some_iff.mp h
  cases result with
  | ok a => exact ⟨a, hx, hresult⟩
  | error e => exact absurd hresult nofun

theorem of_lift_eq_ok {x : Option α} {a : α} (h : (x : Loading α).run = some (.ok a)) : x = some a := by
  cases x with
  | none => exact absurd h nofun
  | some b =>
    cases h
    rfl

theorem of_liftExcept_eq_ok {x : Except SettingsError α} {a : α}
    (h : (liftExcept x : Loading α).run = some (.ok a)) : x = .ok a := by
  cases x with
  | error e => exact absurd h nofun
  | ok b =>
    cases h
    rfl

theorem exists_of_isSome {x : Loading α} (h : (x.run.bind Except.toOption).isSome = true) :
    ∃ a, x.run = some (.ok a) := by
  obtain ⟨a, ha⟩ := Option.isSome_iff_exists.mp h
  obtain ⟨result, hresult, hok⟩ := Option.bind_eq_some_iff.mp ha
  cases result with
  | ok b => exact ⟨b, hresult⟩
  | error e => exact absurd hok nofun

end Loading

/-! ## Layers -/

/-- What there is to load: the file for every environment, the file for one, and the variables. -/
structure Layers where
  base : Fields
  special : Fields
  own : Fields

namespace Layers

open Layer

/-- The leaves of all layers, in their order. -/
def leaves (l : Layers) : List Leaf := leavesOf l.base ++ leavesOf l.special ++ leavesOf l.own

/-- What the variables give for a path, or else the file for the environment, or else the other file. -/
def give? (l : Layers) (path : List String) : Option Json :=
  (given? (leavesOf l.own) path).or ((given? (leavesOf l.special) path).or (given? (leavesOf l.base) path))

/-- Nothing on the way to a path is replaced by a value that is no table, or the path itself is given later on. -/
def Undisturbed (l : Layers) (path : List String) : Prop := Layer.Undisturbed l.leaves path

instance (l : Layers) (path : List String) : Decidable (l.Undisturbed path) :=
  inferInstanceAs (Decidable (Layer.Undisturbed _ _))

theorem given?_leaves (l : Layers) (path : List String) : given? l.leaves path = l.give? path := by
  unfold leaves
  rw [given?_append, given?_append]
  rfl

/-- A tree that is made of the layers alone. -/
def Build (l : Layers) (tree : Json) : Prop :=
  ∀ path, standing tree path = effects l.leaves path (standing (.object []) path)

variable {l : Layers} {tree : Json} {path : List String}

theorem build_of_overlay {first second : Json} (hbase : overlay? (.object []) l.base = some first)
    (hspecial : overlay? first l.special = some second) (hown : overlay? second l.own = some tree) : l.Build tree := by
  intro path
  unfold leaves
  rw [effects_append, effects_append, ← standing_overlay hbase, ← standing_overlay hspecial, ← standing_overlay hown]

theorem Build.tablesAbove (hbuild : l.Build tree) (h : l.Undisturbed path) : TablesAbove tree path := by
  intro top v htop hne hv
  have hold : standing (.object []) top = none ∨ standing (.object []) top = some none := by
    cases top with
    | nil => exact .inr rfl
    | cons name top => exact .inl rfl
  have hstanding : standing tree top = some v.outline := by
    show (tree.at? top).map Json.outline = _
    rw [hv]
    rfl
  rcases effects_on_way h htop hne hold with hnone | htable
  · rw [hbuild, hnone] at hstanding
    exact absurd hstanding nofun
  · rw [hbuild, htable] at hstanding
    exact (Option.some.inj hstanding).symm

/-- Settings that are read from the tree have the values that the layers give. -/
theorem Build.outline_eq {s : Settings} {setting : Setting} (hbuild : l.Build tree)
    (hread : Settings.ofTree? tree = some s) (h : l.Undisturbed setting.path) :
    (tree.at? setting.path).map Json.outline = (l.give? setting.path).map Json.outline := by
  have hempty : standing (.object []) setting.path = none := by cases setting <;> rfl
  have hstanding : (tree.at? setting.path).map Json.outline = effects l.leaves setting.path none :=
    (hbuild setting.path).trans (by rw [hempty])
  have htable := (effective_of_ofTree hread setting (hbuild.tablesAbove h)).not_table
  rw [hstanding] at htable ⊢
  rw [(effects_of_undisturbed h).resolve_left htable, given?_leaves]

end Layers

/-! ## Loading -/

namespace Configuration

open Layer (overlay?)

variable {files : Files} {vars : Variables} {directory : Option String} {environment : String} {withVariables : Bool}

/-- The layers that settings are loaded from. -/
def layers? (files : Files) (vars : Variables) (directory : Option String) (environment : String)
    (withVariables : Bool) : Option Layers := do
  let directory := directory.getD vars.directory
  let base ← readLayer? files (joinPath directory "resilience.toml")
  let special ← readLayer? files (joinPath directory ("resilience." ++ environment ++ ".toml"))
  some { base, special, own := if withVariables then vars.layer else [] }

theorem layers_of_read {first second : String} {tree : Json}
    (h : (readLayers files [first, second]).run = some (.ok tree)) :
    ∃ base special middle, readLayer? files first = some base ∧ readLayer? files second = some special ∧
      overlay? (.object []) base = some middle ∧ overlay? middle special = some tree := by
  unfold readLayers at h
  simp only [List.foldlM_cons, List.foldlM_nil] at h
  obtain ⟨middle, hfirst, hrest⟩ := Loading.of_bind_eq_ok h
  obtain ⟨last, hsecond, hlast⟩ := Loading.of_bind_eq_ok hrest
  cases hlast
  cases hbase : readLayer? files first with
  | none =>
    rw [hbase] at hfirst
    exact absurd hfirst nofun
  | some base =>
    rw [hbase] at hfirst
    cases hspecial : readLayer? files second with
    | none =>
      rw [hspecial] at hsecond
      exact absurd hsecond nofun
    | some special =>
      rw [hspecial] at hsecond
      exact ⟨base, special, middle, rfl, rfl, Loading.of_lift_eq_ok hfirst, Loading.of_lift_eq_ok hsecond⟩

/-- Settings are read and checked at the end. -/
theorem checked_of_read {tree : Json} {all : List String} {directory : String} {c : Configuration}
    (h : (match Settings.ofTree? tree with
      | none => throw (SettingsError.load all "a setting has the wrong type")
      | some settings => do
        liftExcept settings.validate
        return { settings, environment, directory } : Loading Configuration).run = some (.ok c)) :
    Settings.ofTree? tree = some c.settings ∧ c.settings.validate = .ok () := by
  cases hread : Settings.ofTree? tree with
  | none =>
    rw [hread] at h
    exact absurd h nofun
  | some settings =>
    rw [hread] at h
    obtain ⟨⟨⟩, hvalid, hconfiguration⟩ := Loading.of_bind_eq_ok h
    cases hconfiguration
    exact ⟨rfl, Loading.of_liftExcept_eq_ok hvalid⟩

/-- Settings that have been loaded are read from a tree that is made of the layers, and have been checked. -/
theorem tree_of_load {c : Configuration}
    (h : (load files vars directory environment withVariables).run = some (.ok c)) :
    ∃ layers tree, layers? files vars directory environment withVariables = some layers ∧ layers.Build tree ∧
      Settings.ofTree? tree = some c.settings ∧ c.settings.validate = .ok () := by
  unfold load sources at h
  -- `first` and `middle` are what there is after one file and after two.
  obtain ⟨middle, hfiles, hrest⟩ := Loading.of_bind_eq_ok h
  obtain ⟨base, special, first, hbase, hspecial, hfirst, hmiddle⟩ := layers_of_read hfiles
  have hlayers : layers? files vars directory environment withVariables =
      some ⟨base, special, if withVariables then vars.layer else []⟩ := by
    unfold layers?
    simp only [hbase, hspecial, Option.bind_eq_bind, Option.bind_some]
  obtain ⟨tree, hown, hsettings⟩ : ∃ tree, overlay? middle (if withVariables then vars.layer else []) = some tree ∧
      Settings.ofTree? tree = some c.settings ∧ c.settings.validate = .ok () := by
    cases withVariables with
    | true =>
      obtain ⟨tree, hlayer, hsettings⟩ := Loading.of_bind_eq_ok hrest
      exact ⟨tree, Loading.of_lift_eq_ok hlayer, checked_of_read hsettings⟩
    | false => exact ⟨middle, rfl, checked_of_read hrest⟩
  exact ⟨_, tree, hlayers, Layers.build_of_overlay hfirst hmiddle hown, hsettings⟩

/-- **Layering.** A setting that has been loaded is the one given by the variables, if they are asked for, or else by
the file for the environment, or else by the file for every environment, or else it is the default, as long as the
way to it is undisturbed. A pair of thresholds is given whole or not at all. The settings have been checked. Variables
do not matter for settings that are loaded from the files of a directory. -/
theorem load_layered (files : Files) (vars : Variables) (environment : String) :
    (∀ directory withVariables c, (load files vars directory environment withVariables).run = some (.ok c) →
      ∃ layers, layers? files vars directory environment withVariables = some layers ∧
        (∀ setting : Setting, layers.Undisturbed setting.path →
          setting.Effective c.settings (layers.give? setting.path)) ∧
        (∀ kind, layers.Undisturbed (Setting.warning kind).path → layers.Undisturbed (Setting.critical kind).path →
          ((layers.give? (Setting.warning kind).path).isSome ↔ (layers.give? (Setting.critical kind).path).isSome)) ∧
        c.settings.validate = .ok ()) ∧
    ∀ vars' directory,
      load files vars (some directory) environment false = load files vars' (some directory) environment false := by
  refine ⟨fun directory withVariables c h => ?_, fun vars' directory => rfl⟩
  obtain ⟨layers, tree, hlayers, hbuild, hread, hvalid⟩ := tree_of_load h
  refine ⟨layers, hlayers, fun setting hway => ?_, fun kind hwarning hcritical => ?_, hvalid⟩
  · exact (effective_of_ofTree hread setting (hbuild.tablesAbove hway)).congr (hbuild.outline_eq hread hway)
  · have hpair := pair_of_settings hread kind (hbuild.tablesAbove hwarning)
    have hsame := congrArg Option.isSome (hbuild.outline_eq hread hwarning)
    have hsame' := congrArg Option.isSome (hbuild.outline_eq hread hcritical)
    simp only [Option.isSome_map] at hsame hsame'
    rw [← hsame, ← hsame', hpair]

/-- Two files in the directory of settings. -/
def twoFiles (base special : String) (environment : String) : Files := fun path =>
  ((sources "config" environment).zip [base, special]).lookup path

/-- A file for every environment, and one for staging. -/
def stagingFiles : Files :=
  twoFiles "[retry]\nmax_retries = 4\nbase_delay_seconds = 0.5\n[circuit_breaker]\ncooldown_seconds = 120\n"
    "[circuit_breaker]\ncooldown_seconds = 30\n" "staging"

/-- A variable for one of the settings in the files. -/
def stagingVars : Variables := [("RESILIENCE__RETRY__MAX_RETRIES", "7")]

/-- A variable, the file for staging, the other file and the defaults each give a setting. -/
theorem load_layered_staging :
    ∃ c, (load stagingFiles stagingVars (some "config") "staging" true).run = some (.ok c) ∧
      c.settings.retry.maxRetries = 7 ∧ c.settings.breaker.cooldownSeconds = 30 ∧
      c.settings.retry.baseDelaySeconds = 0.5 ∧ c.settings.retry.maxDelaySeconds = 60.0 := by
  obtain ⟨c, hc⟩ := Loading.exists_of_isSome
    (show ((load stagingFiles stagingVars (some "config") "staging" true).run.bind Except.toOption).isSome = true by
      decide +kernel)
  obtain ⟨layers, hlayers, hlaw, -, -⟩ := (load_layered stagingFiles stagingVars "staging").1 _ _ c hc
  have hgiven : ∀ layers ∈ layers? stagingFiles stagingVars (some "config") "staging" true,
      (∀ setting ∈ [Setting.maxRetries, .cooldown, .baseDelay, .maxDelay], layers.Undisturbed setting.path) ∧
      (layers.give? Setting.maxRetries.path).bind Json.toUInt32? = some 7 ∧
      (layers.give? Setting.cooldown.path).bind Json.toUInt64? = some 30 ∧
      (layers.give? Setting.baseDelay.path).bind Json.toFloat? = some 0.5 ∧
      (layers.give? Setting.maxDelay.path).isNone = true := by
    decide +kernel
  obtain ⟨hways, hretries, hcooldown, hbaseDelay, hmaxDelay⟩ := hgiven layers hlayers
  refine ⟨c, hc, ?_, ?_, ?_, ?_⟩
  · exact Takes.eq_of_bind (hlaw .maxRetries (hways _ (by simp))) hretries
  · exact Takes.eq_of_bind (hlaw .cooldown (hways _ (by simp))) hcooldown
  · exact Takes.eq_of_bind (hlaw .baseDelay (hways _ (by simp))) hbaseDelay
  · exact Takes.eq_default (hlaw .maxDelay (hways _ (by simp))) hmaxDelay

/-- Two files of which the later one gives a section as an array. -/
def arrayFiles : Files := twoFiles "[retry]\nmax_retries = 4\nbase_delay_seconds = 0.5\n" "retry = [7]\n" "t"

/-- An array in the place of a section takes away what an earlier layer gives for a setting of the section: the base
delay is given by the first file only, but it becomes the default. -/
theorem load_array_for_section :
    ∃ c layers, (load arrayFiles [] (some "config") "t" false).run = some (.ok c) ∧
      layers? arrayFiles [] (some "config") "t" false = some layers ∧
      (layers.give? Setting.baseDelay.path).bind Json.toFloat? = some 0.5 ∧
      c.settings.retry.baseDelaySeconds = RetrySettings.default.baseDelaySeconds ∧
      ¬Setting.baseDelay.Effective c.settings (layers.give? Setting.baseDelay.path) := by
  obtain ⟨c, hc⟩ := Loading.exists_of_isSome
    (show ((load arrayFiles [] (some "config") "t" false).run.bind Except.toOption).isSome = true by decide +kernel)
  have hdelay : c.settings.retry.baseDelaySeconds = RetrySettings.default.baseDelaySeconds := by
    have hload : (load arrayFiles [] (some "config") "t" false).run.bind (fun result =>
        result.toOption.map (·.settings.retry.baseDelaySeconds)) = some RetrySettings.default.baseDelaySeconds := by
      decide +kernel
    rw [hc] at hload
    exact Option.some.inj hload
  obtain ⟨layers, -, hlayers, -⟩ := tree_of_load hc
  have hgiven : ∀ layers ∈ layers? arrayFiles [] (some "config") "t" false,
      (layers.give? Setting.baseDelay.path).bind Json.toFloat? = some 0.5 := by
    decide +kernel
  have hhalf := hgiven layers hlayers
  refine ⟨c, layers, hc, hlayers, hhalf, hdelay, fun heffective => ?_⟩
  exact absurd (hdelay.symm.trans (Takes.eq_of_bind heffective hhalf)) (by decide +kernel)

end Configuration

end Failsafe
