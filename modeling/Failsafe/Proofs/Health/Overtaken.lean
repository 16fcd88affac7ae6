import Failsafe.Proofs.Health.Accesses

/-!
# Reports that a reset overtakes

What becomes of a status when calls make their accesses in between each other (`BusyRegistry`). Every access leaves a
component that is not running degraded, and one that is degraded not healthy. It also leaves a reason with a component
that is not healthy, but for one: a report that restarts a component gives the reason with its first access, as it
counts the failure, and only with its second one notes that the component is down. If a reset takes the reason away
between these two, the report notes all the same that the component is down, and the component is unhealthy for no
reason (`BusyRegistry.Overtaken`). So it is until the restart has ended, the failure of the component is reported once
more, or it is disabled with its priority.

Seen from one component, a course `Marks` it if noting that it is down is what the course does next, and `Spares` it if
no access of the course does so. A course under way does the one or the other (`BusyRegistry.Steady`), and so it is one
of few things that a move can make of a status (`BusyRegistry.Makes`). What a whole run keeps of a component is `Kept`:
its status, and that whoever is about to mark it has left a reason with it, unless a reset has come in between
(`BusyRegistry.ResetAhead`).
-/

namespace Failsafe

open ComponentStatus

/-! ## What one access does to one component -/

namespace Registry

variable {r r' : Registry} {name other : String} {c : Component}

/-- From `r` to `r'` the names are the same, and the status of the component with a name is settled. -/
structure SettlesAt (name : String) (r r' : Registry) : Prop where
  names : r'.names = r.names
  status : ∀ c', r'.find? name = some c' → ∃ c, r.find? name = some c ∧ c.status.Settles c'.status

theorem settlesAt_of_components (name : String) (h : r'.components = r.components) : r.SettlesAt name r' where
  names := by
    unfold names
    rw [h]
  status := by
    intro c' hc'
    unfold find? at hc' ⊢
    rw [h] at hc'
    exact ⟨c', hc', .same⟩

theorem settlesAt_map {change : Component → Component} (hname : ∀ c, (change c).status.name = c.status.name)
    (h : ∀ c : Component, c.status.name = name → c.status.Settles (change c).status) :
    r.SettlesAt name { r with components := r.components.map change } where
  names := names_map change hname r
  status := by
    intro c' hc'
    rw [find?_map change hname, Option.map_eq_some_iff] at hc'
    obtain ⟨c, hc, rfl⟩ := hc'
    exact ⟨c, hc, h c (name_of_find? hc)⟩

theorem settlesAt_modify {f : ComponentStatus → ComponentStatus} (hf : ∀ s, (f s).name = s.name)
    (h : other = name → ∀ s : ComponentStatus, s.Settles (f s)) : r.SettlesAt name (r.modify other f) := by
  refine settlesAt_map ?_ ?_
  · intro c
    split
    · exact hf c.status
    · rfl
  · intro c hc
    split
    · next hother => exact h (hother.symm.trans hc) c.status
    · exact .same

/-- The access of a call that changes a status. -/
theorem modify_of_update {f : ComponentStatus → ComponentStatus} {events : List Event}
    (h : (r.updateStatus name f).map (·, ([] : List Event)) = .ok (r', events)) : r' = r.modify name f := by
  cases hfind : r.find? name with
  | none =>
    rw [updateStatus_none hfind] at h
    exact absurd h nofun
  | some c =>
    rw [updateStatus_eq hfind] at h
    exact (congrArg Prod.fst (Except.ok.inj h)).symm

end Registry

namespace Course

variable {name other : String} {next : Course}

/-- No access of the course notes that the component with the name is down without giving a reason, nor takes a reason
away from it. -/
def Spares (name : String) : Course → Prop
  | .ended | .restart _ => True
  | .access act next => ∀ r,
    (∀ r' events, act r = .ok (r', events) → r.SettlesAt name r') ∧ (next r).Spares name

/-- Next the course notes that the component with the name is down, which is then restarted. -/
def Marks (name : String) (course : Course) : Prop :=
  ∃ handler, course = .update name (fun s => { s with healthy := false }) (.restarting name handler)

theorem spares_update {f : ComponentStatus → ComponentStatus} (hf : ∀ s, (f s).name = s.name)
    (h : other = name → ∀ s : ComponentStatus, s.Settles (f s)) (hnext : next.Spares name) :
    (update other f next).Spares name := by
  intro r
  refine ⟨fun r' events hact => ?_, hnext⟩
  rw [Registry.modify_of_update hact]
  exact Registry.settlesAt_modify hf h

theorem spares_refresh (hnext : next.Spares name) : (refresh next).Spares name := by
  intro r
  constructor
  · rintro r' events ⟨⟩
    exact Registry.settlesAt_of_components name rfl
  · intro found
    refine ⟨?_, hnext⟩
    rintro r' events ⟨⟩
    exact Registry.settlesAt_of_components name rfl

theorem spares_conclude (name other : String) : (conclude other).Spares name := by
  refine spares_refresh fun r => ⟨fun r' events hact => ?_, trivial⟩
  dsimp only at hact
  cases hstatus : r.status other with
  | error e =>
    rw [hstatus] at hact
    exact absurd hact nofun
  | ok status =>
    rw [hstatus] at hact
    obtain ⟨⟩ := hact
    exact Registry.settlesAt_of_components name rfl

theorem spares_finish (name other : String) (result : Except String Unit) : (finish other result).Spares name := by
  intro r
  refine ⟨fun r' events hact => ?_, spares_conclude name other⟩
  dsimp only at hact
  cases hfind : r.find? other with
  | none =>
    have hrefused : r.finishRestart other result = .error (.componentNotFound other) := by
      cases result <;> simp only [Registry.finishRestart, Registry.updateStatus_none hfind, bind, Except.bind]
    simp only [hrefused, Except.map, reduceCtorEq] at hact
  | some c =>
    obtain ⟨f, outcome, hf, hfinish⟩ := Registry.finishRestart_eq hfind result
    rw [hfinish] at hact
    obtain ⟨⟩ := hact
    exact Registry.settlesAt_modify (fun s => (hf s).continues.name) fun _ => hf

theorem spares_restarting (name other : String) (handler : Option Nat) :
    (restarting other handler).Spares name := by
  cases handler with
  | none => exact spares_finish name other (.ok ())
  | some handler => trivial

/-- A report that has counted the failure marks its own component at most. -/
theorem spares_or_marks_treat (name other reason : String) (isCritical : Bool) (c : Component) :
    (treat other reason isCritical c).Spares name ∨ other = name ∧ (treat other reason isCritical c).Marks name := by
  have hconclude := spares_conclude name other
  -- The restart of another component spares this one.
  have hmark : (update other (fun s => { s with healthy := false }) (restarting other c.restart)).Spares name ∨
      other = name ∧
        (update other (fun s => { s with healthy := false }) (restarting other c.restart)).Marks name := by
    by_cases hname : other = name
    · subst hname
      exact .inr ⟨rfl, c.restart, rfl⟩
    · exact .inl (spares_update (fun _ => rfl) (absurd · hname) (spares_restarting name other c.restart))
  unfold treat
  by_cases hdown : c.status.isDown = true
  · rw [if_pos hdown]
    exact .inl hconclude
  · rw [if_neg hdown]
    cases c.status.priority with
    | low => exact .inl (spares_update (fun _ => rfl) (fun _ _ => .disabled reason) hconclude)
    | medium =>
      dsimp only
      by_cases hcritical : isCritical = true
      · rw [if_pos hcritical]
        exact .inl (spares_update (fun _ => rfl) (fun _ _ => .degraded reason) hconclude)
      · rw [if_neg hcritical]
        exact .inl hconclude
    | high => exact hmark
    | critical => exact hmark

end Course

/-! ## What one move does to one component -/

namespace BusyRegistry

open Registry

variable {b : BusyRegistry} {name : String} {m : Move} {c : Component} {moves : List Move}

/-- Whether a move is a report on the component that the registry accepts. -/
def accepts (b : BusyRegistry) (name : String) (m : Move) : Bool :=
  match m with
  | .begin (.report name' _ _) => name' = name && (b.move m).2.isNone
  | _ => false

/-- How many reports on the component are accepted in a run. -/
def accepted (b : BusyRegistry) (name : String) : List Move → Nat
  | [] => 0
  | m :: rest => (b.accepts name m).toNat + (b.move m).1.accepted name rest

/-- What a move makes of the status of the component with a name. -/
inductive Makes (b : BusyRegistry) (name : String) : Move → ComponentStatus → Prop
  | registered {priority : Priority} {restart : Option Nat} (hfree : b.registry.find? name = none) :
    b.Makes name (.begin (.register name priority restart)) (.fresh name priority)
  | counted {c : Component} {error : String} {isCritical : Bool} (hfind : b.registry.find? name = some c)
    (haccepts : b.accepts name (.begin (.report name error isCritical)) = true) (reason : String) :
    b.Makes name (.begin (.report name error isCritical)) (c.status.countFailure reason)
  | reset {c : Component} (hfind : b.registry.find? name = some c) :
    b.Makes name (.begin (.reset name)) c.status.reset
  | marked {c : Component} {index : Nat} {course : Course} (hfind : b.registry.find? name = some c)
    (hcourse : b.underWay[index]? = some course) (hspares : ¬course.Spares name) :
    b.Makes name (.goOn index) { c.status with healthy := false }
  | settled {m : Move} {c : Component} {status : ComponentStatus} (hfind : b.registry.find? name = some c)
    (hsettles : c.status.Settles status) (haccepts : b.accepts name m = false) : b.Makes name m status

/-- What a move makes of a registry, seen from one name: it may register a component under a name that is free. -/
structure Made (b : BusyRegistry) (name : String) (m : Move) (r : Registry) : Prop where
  names : r.names = b.registry.names ∨
    ∃ other, b.registry.find? other = none ∧ r.names.Perm (other :: b.registry.names)
  status : ∀ c, r.find? name = some c → b.Makes name m c.status

/-- What is new among the calls under way, seen from one name. -/
def Adds (b : BusyRegistry) (name : String) (m : Move) (course : Course) : Prop :=
  course.Spares name ∨ course.Marks name ∧ b.accepts name m = true ∧ name ∈ b.registry.names

/-- Every call under way spares the component with the name, or is about to mark it. -/
def Steady (b : BusyRegistry) (name : String) : Prop :=
  ∀ course ∈ b.underWay, course.Spares name ∨ course.Marks name

theorem made_of_settlesAt {r : Registry} (h : b.registry.SettlesAt name r) (haccepts : b.accepts name m = false) :
    b.Made name m r where
  names := .inl h.names
  status := by
    intro c' hc'
    obtain ⟨c, hc, hsettles⟩ := h.status c' hc'
    exact .settled hc hsettles haccepts

theorem made_of_modify {f : ComponentStatus → ComponentStatus} (hf : ∀ s, (f s).name = s.name)
    (h : ∀ c, b.registry.find? name = some c → b.Makes name m (f c.status)) :
    b.Made name m (b.registry.modify name f) where
  names := .inl (names_modify f hf _ name)
  status := by
    intro c' hc'
    rw [find?_modify f hf, Option.map_eq_some_iff] at hc'
    obtain ⟨c, hc, rfl⟩ := hc'
    rw [if_pos rfl]
    exact h c hc

theorem accepts_of_refused {e : Error} (h : (b.move m).2 = some e) : b.accepts name m = false := by
  unfold accepts
  split
  · rw [h]
    exact Bool.and_false _
  · rfl

/-- Every report on a registered component is accepted. -/
theorem accepts_report (hfind : b.registry.find? name = some c) (error : String) (isCritical : Bool) :
    b.accepts name (.begin (.report name error isCritical)) = true := by
  simp only [accepts, move, RegistryCall.course?, perform, updateStatus_eq hfind, Except.map, decide_true,
    Option.isNone_none, Bool.and_self]

/-- What the first access of a call makes of a registry, if it is granted, and what is left of the call then. -/
theorem made_of_course? (b : BusyRegistry) (name : String) {call : RegistryCall} {course : Course}
    (h : call.course? = some course) :
    ∃ act next, course = .access act next ∧ ∀ r events, act b.registry = .ok (r, events) →
      b.Made name (.begin call) r ∧ b.Adds name (.begin call) (next b.registry) := by
  cases call with
  | register other priority restart =>
    obtain rfl := Option.some.inj h
    refine ⟨_, _, rfl, fun r events hact => ⟨?_, .inl (Course.spares_refresh trivial)⟩⟩
    cases hfind : b.registry.find? other with
    | some c =>
      simp only [hfind, reduceCtorEq] at hact
    | none =>
      simp only [hfind, Except.ok.injEq, Prod.mk.injEq] at hact
      obtain ⟨rfl, -⟩ := hact
      have hperm := (perm_insertByName ⟨.fresh other priority, restart⟩ b.registry.components).map (·.status.name)
      refine ⟨.inr ⟨other, hfind, hperm⟩, ?_⟩
      intro c' hc'
      have hinserted := find?_insertByName ⟨.fresh other priority, restart⟩ name b.registry.components hfind
      by_cases hname : name = other
      · subst hname
        obtain rfl := Option.some.inj (hc'.symm.trans (hinserted.trans (if_pos rfl)))
        exact .registered hfind
      · exact .settled ((hinserted.trans (if_neg hname)).symm.trans hc') .same rfl
  | report other error isCritical =>
    obtain rfl := Option.some.inj h
    refine ⟨_, _, rfl, fun r events hact => ?_⟩
    cases hfind : b.registry.find? other with
    | none =>
      rw [updateStatus_none hfind] at hact
      exact absurd hact nofun
    | some c =>
      obtain rfl := modify_of_update hact
      have htreat := Course.spares_or_marks_treat name other (b.registry.redactor.text error) isCritical c
      by_cases hname : other = name
      · subst hname
        have haccepts := accepts_report hfind error isCritical
        refine ⟨made_of_modify (fun _ => rfl) fun c hc => .counted hc haccepts _, ?_⟩
        exact htreat.imp id fun hmarks => ⟨hmarks.2, haccepts, mem_names_iff.mpr ⟨c, hfind⟩⟩
      · have haccepts : b.accepts name (.begin (.report other error isCritical)) = false := by
          simp only [accepts, hname, decide_false, Bool.false_and]
        refine ⟨made_of_settlesAt (settlesAt_modify (fun _ => rfl) (absurd · hname)) haccepts, .inl ?_⟩
        exact htreat.resolve_right fun hmarks => hname hmarks.1
  | reset other =>
    obtain rfl := Option.some.inj h
    refine ⟨_, _, rfl, fun r events hact => ⟨?_, .inl (Course.spares_refresh trivial)⟩⟩
    obtain rfl := modify_of_update hact
    by_cases hname : other = name
    · subst hname
      exact made_of_modify (fun _ => rfl) fun c hc => .reset hc
    · exact made_of_settlesAt (settlesAt_modify (fun _ => rfl) (absurd · hname)) rfl
  | disablePriority priority reason =>
    obtain rfl := Option.some.inj h
    refine ⟨_, _, rfl, ?_⟩
    rintro r events ⟨⟩
    constructor
    · refine made_of_settlesAt (settlesAt_map ?_ ?_) rfl
      · intro c
        split <;> rfl
      · intro c hc
        split
        · exact .disabled reason
        · exact .same
    · left
      split
      · exact Course.spares_refresh trivial
      · trivial
  | updateResource kind usage =>
    obtain rfl := Option.some.inj h
    refine ⟨_, _, rfl, ?_⟩
    rintro r events ⟨⟩
    exact ⟨made_of_settlesAt (settlesAt_of_components name rfl) rfl, .inl (Course.spares_refresh trivial)⟩
  | setThresholds kind t =>
    obtain rfl := Option.some.inj h
    refine ⟨_, _, rfl, fun r events hact => ⟨?_, .inl (Course.spares_refresh trivial)⟩⟩
    dsimp only at hact
    split at hact
    · exact absurd hact nofun
    · obtain ⟨⟩ := hact
      exact made_of_settlesAt (settlesAt_of_components name rfl) rfl
  | setConsistent consistent =>
    obtain rfl := Option.some.inj h
    refine ⟨_, _, rfl, ?_⟩
    rintro r events ⟨⟩
    exact ⟨made_of_settlesAt (settlesAt_of_components name rfl) rfl, .inl (Course.spares_refresh trivial)⟩
  | restartEnded index result => exact absurd h nofun
  | reportDropped index => exact absurd h nofun

theorem eq_of_mem_pending {course rest : Course} (h : rest ∈ pending course) : rest = course := by
  cases course with
  | ended => exact absurd h List.not_mem_nil
  | access act next => exact List.mem_singleton.mp h
  | restart report => exact List.mem_singleton.mp h

/-- An access is refused, and changes nothing but that the call is over, or it is granted. -/
theorem made_perform {front back : List Course} {act : Registry → Except Error (Registry × List Event)}
    {next : Registry → Course} (hothers : ∀ course ∈ front ++ back, course ∈ b.underWay)
    (hrefused : ∀ e, act b.registry = .error e → b.accepts name m = false)
    (hgranted : ∀ r events, act b.registry = .ok (r, events) → b.Made name m r ∧ b.Adds name m (next b.registry)) :
    b.Made name m (b.perform front back (.access act next)).1.registry ∧
      ∀ course ∈ (b.perform front back (.access act next)).1.underWay,
        course ∈ b.underWay ∨ b.Adds name m course := by
  cases hact : act b.registry with
  | error e =>
    simp only [perform, hact]
    exact ⟨made_of_settlesAt (settlesAt_of_components name rfl) (hrefused e hact),
      fun course h => .inl (hothers course h)⟩
  | ok result =>
    obtain ⟨r, events⟩ := result
    obtain ⟨hmade, hadds⟩ := hgranted r events hact
    simp only [perform, hact]
    refine ⟨hmade, fun course hcourse => ?_⟩
    rcases List.mem_append.mp hcourse with hcourse | hback
    · rcases List.mem_append.mp hcourse with hfront | hrest
      · exact .inl (hothers course (List.mem_append_left _ hfront))
      · obtain rfl := eq_of_mem_pending hrest
        exact .inr hadds
    · exact .inl (hothers course (List.mem_append_right _ hback))

/-- What one move makes of a registry and of the calls under way, seen from one name. -/
theorem made_move (h : b.Steady name) (m : Move) :
    b.Made name m (b.move m).1.registry ∧
      ∀ course ∈ (b.move m).1.underWay, course ∈ b.underWay ∨ b.Adds name m course := by
  have hnothing (m : Move) (haccepts : b.accepts name m = false) : b.Made name m b.registry :=
    made_of_settlesAt (settlesAt_of_components name rfl) haccepts
  cases m with
  | begin call =>
    cases hcourse : call.course? with
    | none =>
      have hmove : b.move (.begin call) = (b, none) := by simp only [move, hcourse]
      have haccepts : b.accepts name (.begin call) = false := by
        cases call with
        | report name error isCritical => simp only [RegistryCall.course?, reduceCtorEq] at hcourse
        | _ => rfl
      rw [hmove]
      exact ⟨hnothing _ haccepts, fun course => .inl⟩
    | some course =>
      obtain ⟨act, next, rfl, hgranted⟩ := made_of_course? b name hcourse
      have hmove : b.move (.begin call) = b.perform b.underWay [] (.access act next) := by
        simp only [move, hcourse]
      rw [hmove]
      refine made_perform (by simp only [List.append_nil, imp_self, implies_true]) ?_ hgranted
      intro e hact
      refine accepts_of_refused (e := e) ?_
      rw [hmove]
      simp only [perform, hact]
  | goOn index =>
    cases hcourse : b.underWay[index]? with
    | none =>
      have hmove : b.move (.goOn index) = (b, none) := by simp only [move, hcourse]
      rw [hmove]
      exact ⟨hnothing _ rfl, fun course => .inl⟩
    | some course =>
      have hmove : b.move (.goOn index) =
          b.perform (b.underWay.take index) (b.underWay.drop (index + 1)) course := by simp only [move, hcourse]
      have hothers : ∀ other ∈ b.underWay.take index ++ b.underWay.drop (index + 1), other ∈ b.underWay := by
        intro other hother
        exact (List.mem_append.mp hother).elim List.mem_of_mem_take List.mem_of_mem_drop
      rw [hmove]
      by_cases hspares : course.Spares name
      · cases course with
        | ended => exact ⟨hnothing _ rfl, fun course => .inl⟩
        | restart report => exact ⟨hnothing _ rfl, fun course => .inl⟩
        | access act next =>
          obtain ⟨hact, hnext⟩ := hspares b.registry
          refine made_perform hothers (fun _ _ => rfl) fun r events hok => ⟨?_, .inl hnext⟩
          exact made_of_settlesAt (hact r events hok) rfl
      · -- Then the course is about to mark the component, and spares it from there on.
        obtain ⟨handler, rfl⟩ := (h course (List.mem_of_getElem? hcourse)).resolve_left hspares
        refine made_perform hothers (fun _ _ => rfl) fun r events hok =>
          ⟨?_, .inl (Course.spares_restarting name name handler)⟩
        obtain rfl := modify_of_update hok
        exact made_of_modify (fun _ => rfl) fun c hc => .marked hc hcourse hspares
  | handlerEnded index result =>
    simp only [move]
    split
    · next report hcourse =>
      refine ⟨hnothing _ rfl, fun course hset => ?_⟩
      rcases List.mem_or_eq_of_mem_set hset with hmem | rfl
      · exact .inl hmem
      · exact .inr (.inl (Course.spares_finish name report.component result))
    · exact ⟨hnothing _ rfl, fun course => .inl⟩
  | dropped index => exact ⟨hnothing _ rfl, fun course hcourse => .inl (List.mem_of_mem_eraseIdx hcourse)⟩

theorem Made.subset_names {r : Registry} (h : b.Made name m r) : b.registry.names ⊆ r.names := by
  rcases h.names with hnames | ⟨other, -, hperm⟩
  · rw [hnames]
    exact List.Subset.refl _
  · intro name hname
    exact hperm.mem_iff.mpr (List.mem_cons_of_mem _ hname)

theorem Made.uniqueNames {r : Registry} (h : b.Made name m r) (hunique : b.registry.UniqueNames) : r.UniqueNames := by
  unfold UniqueNames
  rcases h.names with hnames | ⟨other, hfree, hperm⟩
  · rw [hnames]
    exact hunique
  · rw [hperm.nodup_iff]
    exact List.nodup_cons.mpr ⟨not_mem_names_of_find? hfree, hunique⟩

theorem steady_move (h : b.Steady name) (m : Move) : (b.move m).1.Steady name := by
  intro course hcourse
  rcases (made_move h m).2 course hcourse with hmem | hspares | ⟨hmarks, -⟩
  · exact h course hmem
  · exact .inl hspares
  · exact .inr hmarks

/-! ## Runs -/

theorem play_append (b : BusyRegistry) (moves more : List Move) : b.play (moves ++ more) = (b.play moves).play more :=
  List.foldl_append

theorem play_concat (b : BusyRegistry) (moves : List Move) (m : Move) :
    b.play (moves ++ [m]) = ((b.play moves).move m).1 := play_append b moves [m]

theorem accepted_concat (b : BusyRegistry) (name : String) (moves : List Move) (m : Move) :
    b.accepted name (moves ++ [m]) = b.accepted name moves + ((b.play moves).accepts name m).toNat := by
  induction moves generalizing b with
  | nil => exact (Nat.zero_add _).symm
  | cons first rest ih =>
    rw [List.cons_append]
    unfold accepted
    rw [ih, Nat.add_assoc]
    rfl

/-- A part of a run in which no report on the component is accepted may grow by a move that accepts none. -/
theorem accepted_extend {before since : List Move} (hsince : (b.play before).accepted name since = 0)
    (hm : (b.play (before ++ since)).accepts name m = false) : (b.play before).accepted name (since ++ [m]) = 0 := by
  rw [accepted_concat, hsince, ← play_append, hm]
  rfl

/-- The component was registered in the course of a run, under a name that was free, and since then as many reports on
it have been accepted as errors are counted. -/
def Registered (b : BusyRegistry) (moves : List Move) (status : ComponentStatus) : Prop :=
  ∃ before restart since,
    moves = before ++ .begin (.register status.name status.priority restart) :: since ∧
    status.name ∉ (b.play before).registry.names ∧
    status.errorCount =
      ((b.play (before ++ [.begin (.register status.name status.priority restart)])).accepted status.name
        since).toUInt64

/-- A reset has come while a report that had counted the failure of the component was about to note that it is down. No
report on the component has been accepted since. -/
def ResetAhead (b : BusyRegistry) (moves : List Move) (name : String) : Prop :=
  ∃ before since, moves = before ++ .begin (.reset name) :: since ∧
    (∃ course ∈ (b.play before).underWay, course.Marks name) ∧
    (b.play (before ++ [.begin (.reset name)])).accepted name since = 0

/-- A report on the component has been overtaken by a reset and has then noted that the component is down. No report on
the component has been accepted since. -/
def Overtaken (b : BusyRegistry) (moves : List Move) (name : String) : Prop :=
  ∃ before index course since, moves = before ++ .goOn index :: since ∧ b.ResetAhead before name ∧
    (b.play before).underWay[index]? = some course ∧ course.Marks name ∧
    (b.play (before ++ [.goOn index])).accepted name since = 0

theorem ResetAhead.concat (h : b.ResetAhead moves name) (hm : (b.play moves).accepts name m = false) :
    b.ResetAhead (moves ++ [m]) name := by
  obtain ⟨before, since, rfl, hcourse, hsince⟩ := h
  refine ⟨before, since ++ [m], List.append_assoc _ _ _, hcourse, accepted_extend hsince ?_⟩
  rw [List.append_assoc]
  exact hm

theorem Overtaken.concat (h : b.Overtaken moves name) (hm : (b.play moves).accepts name m = false) :
    b.Overtaken (moves ++ [m]) name := by
  obtain ⟨before, index, course, since, rfl, hahead, hcourse, hmarks, hsince⟩ := h
  refine ⟨before, index, course, since ++ [m], List.append_assoc _ _ _, hahead, hcourse, hmarks,
    accepted_extend hsince ?_⟩
  rw [List.append_assoc]
  exact hm

theorem Registered.concat {status status' : ComponentStatus} (h : b.Registered moves status)
    (hcontinues : status.Continues ((b.play moves).accepts status.name m).toNat status') :
    b.Registered (moves ++ [m]) status' := by
  obtain ⟨before, restart, since, rfl, hfree, hcount⟩ := h
  refine ⟨before, restart, since ++ [m], ?_, ?_, ?_⟩
  · rw [hcontinues.name, hcontinues.priority, List.append_assoc]
    rfl
  · rw [hcontinues.name]
    exact hfree
  · have hplayed :
        (b.play (before ++ [.begin (.register status.name status.priority restart)])).play since =
          b.play (before ++ .begin (.register status.name status.priority restart) :: since) := by
      rw [← play_append, List.append_assoc]
      rfl
    rw [hcontinues.name, hcontinues.priority, hcontinues.errorCount, hcount, accepted_concat, hplayed]
    exact (UInt64.ofNat_add _ _).symm

/-- What a run keeps of the component with a name. -/
structure Kept (b : BusyRegistry) (moves : List Move) (name : String) : Prop where
  unique : (b.play moves).registry.UniqueNames
  courses : ∀ course ∈ (b.play moves).underWay, course.Spares name ∨ course.Marks name ∧
    ∃ c, (b.play moves).registry.find? name = some c ∧ (c.status.reason.isSome = true ∨ b.ResetAhead moves name)
  graded : ∀ c, (b.play moves).registry.find? name = some c → c.status.Graded
  explained : ∀ c, (b.play moves).registry.find? name = some c → c.status.healthy = false →
    c.status.reason.isSome = true ∨ b.Overtaken moves name
  registered : ∀ c, (b.play moves).registry.find? name = some c → b.Registered moves c.status

namespace Kept

theorem steady (h : b.Kept moves name) : (b.play moves).Steady name := fun course hcourse =>
  (h.courses course hcourse).imp id And.left

/-- Whoever is about to mark the component has left a reason with it, or a reset has come in between. -/
theorem reason_or_resetAhead (h : b.Kept moves name) {course : Course} (hcourse : course ∈ (b.play moves).underWay)
    (hspares : ¬course.Spares name) (hfind : (b.play moves).registry.find? name = some c) :
    c.status.reason.isSome = true ∨ b.ResetAhead moves name := by
  obtain ⟨-, c', hfind', hreason⟩ := (h.courses course hcourse).resolve_left hspares
  obtain rfl := Option.some.inj (hfind.symm.trans hfind')
  exact hreason

theorem graded_makes (h : b.Kept moves name) {status : ComponentStatus} (hmakes : (b.play moves).Makes name m status) :
    status.Graded := by
  cases hmakes with
  | registered hfree => exact (coherent_fresh name _).toGraded
  | counted hfind haccepts reason => exact (h.graded _ hfind).countFailure reason
  | reset hfind => exact (coherent_reset _).toGraded
  | marked hfind hcourse hspares => exact ⟨fun _ => rfl, (h.graded _ hfind).inactive⟩
  | settled hfind hsettles haccepts =>
    rcases hsettles.eq_or_coherent with rfl | hcoherent
    · exact h.graded _ hfind
    · exact hcoherent.toGraded

theorem explained_makes (h : b.Kept moves name) {status : ComponentStatus}
    (hmakes : (b.play moves).Makes name m status) (hunhealthy : status.healthy = false) :
    status.reason.isSome = true ∨ b.Overtaken (moves ++ [m]) name := by
  cases hmakes with
  | registered hfree => exact absurd hunhealthy nofun
  | counted hfind haccepts reason => exact .inl rfl
  | reset hfind => exact absurd hunhealthy nofun
  | @marked c index course hfind hcourse hspares =>
    have hmem := List.mem_of_getElem? hcourse
    rcases h.reason_or_resetAhead hmem hspares hfind with hreason | hahead
    · exact .inl hreason
    · have hmarks := (h.steady course hmem).resolve_left hspares
      exact .inr ⟨moves, index, course, [], rfl, hahead, hcourse, hmarks, rfl⟩
  | settled hfind hsettles haccepts =>
    rcases hsettles.eq_or_coherent with rfl | hcoherent
    · exact (h.explained _ hfind hunhealthy).imp id (·.concat haccepts)
    · exact .inl (hcoherent.unhealthy hunhealthy)

theorem registered_makes (h : b.Kept moves name) {status : ComponentStatus}
    (hmakes : (b.play moves).Makes name m status) : b.Registered (moves ++ [m]) status := by
  cases hmakes with
  | @registered priority restart hfree => exact ⟨moves, restart, [], rfl, not_mem_names_of_find? hfree, rfl⟩
  | counted hfind haccepts reason =>
    refine (h.registered _ hfind).concat ?_
    rw [name_of_find? hfind, haccepts]
    exact ⟨rfl, rfl, rfl⟩
  | reset hfind => exact (h.registered _ hfind).concat (.of_same rfl rfl rfl)
  | marked hfind hcourse hspares => exact (h.registered _ hfind).concat (.of_same rfl rfl rfl)
  | settled hfind hsettles haccepts =>
    refine (h.registered _ hfind).concat ?_
    rw [name_of_find? hfind, haccepts]
    exact hsettles.continues

/-- While a report is about to mark the component, and when one has just been accepted, there is a reason, or a reset
has come in between. -/
theorem reason_makes (h : b.Kept moves name) {status : ComponentStatus} (hmakes : (b.play moves).Makes name m status)
    (hmarks : (∃ course ∈ (b.play moves).underWay, ¬course.Spares name) ∨ (b.play moves).accepts name m = true) :
    status.reason.isSome = true ∨ b.ResetAhead (moves ++ [m]) name := by
  rcases hmarks with ⟨course, hcourse, hspares⟩ | haccepted
  · have hreason {c : Component} (hfind : (b.play moves).registry.find? name = some c) :=
      h.reason_or_resetAhead hcourse hspares hfind
    obtain ⟨hmarks, c', hfind', -⟩ := (h.courses course hcourse).resolve_left hspares
    cases hmakes with
    | registered hfree => exact absurd (hfree.symm.trans hfind') nofun
    | counted hfind haccepts reason => exact .inl rfl
    | reset hfind => exact .inr ⟨moves, [], rfl, ⟨course, hcourse, hmarks⟩, rfl⟩
    | marked hfind hgoes hspares => exact (hreason hfind).imp id (·.concat rfl)
    | settled hfind hsettles haccepts => exact (hreason hfind).imp hsettles.reason (·.concat haccepts)
  · cases hmakes with
    | counted hfind haccepts reason => exact .inl rfl
    | settled hfind hsettles haccepts => exact absurd (haccepted.symm.trans haccepts) nofun
    | registered hfree => exact absurd haccepted nofun
    | reset hfind => exact absurd haccepted nofun
    | marked hfind hgoes hspares => exact absurd haccepted nofun

theorem concat (h : b.Kept moves name) (m : Move) : b.Kept (moves ++ [m]) name := by
  obtain ⟨hmade, hadds⟩ := made_move h.steady m
  rw [← play_concat] at hmade hadds
  have hstill {course : Course} (hmarks : course.Marks name) (hname : name ∈ (b.play moves).registry.names)
      (hcourse : (∃ course ∈ (b.play moves).underWay, ¬course.Spares name) ∨ (b.play moves).accepts name m = true) :
      course.Marks name ∧ ∃ c, (b.play (moves ++ [m])).registry.find? name = some c ∧
        (c.status.reason.isSome = true ∨ b.ResetAhead (moves ++ [m]) name) := by
    obtain ⟨c, hfind⟩ := mem_names_iff.mp (hmade.subset_names hname)
    exact ⟨hmarks, c, hfind, h.reason_makes (hmade.status c hfind) hcourse⟩
  refine ⟨hmade.uniqueNames h.unique, ?_, ?_, ?_, ?_⟩
  · intro course hcourse
    rcases hadds course hcourse with hmem | hspares | ⟨hmarks, haccepts, hname⟩
    · by_cases hspares : course.Spares name
      · exact .inl hspares
      · obtain ⟨hmarks, c, hfind, -⟩ := (h.courses course hmem).resolve_left hspares
        exact .inr (hstill hmarks (mem_names_iff.mpr ⟨c, hfind⟩) (.inl ⟨course, hmem, hspares⟩))
    · exact .inl hspares
    · exact .inr (hstill hmarks hname (.inr haccepts))
  · intro c hfind
    exact h.graded_makes (hmade.status c hfind)
  · intro c hfind
    exact h.explained_makes (hmade.status c hfind)
  · intro c hfind
    exact h.registered_makes (hmade.status c hfind)

end Kept

theorem kept_play (resources : ResourceSettings) (redactor : Redactor) (moves : List Move) (name : String) :
    (new resources redactor).Kept moves name := by
  induction moves using List.reverseRecOn with
  | nil => exact ⟨List.nodup_nil, fun _ h => absurd h List.not_mem_nil, nofun, nofun, nofun⟩
  | append_singleton moves m ih => exact ih.concat m

theorem mem_names_play (h : b.Steady name) (hname : name ∈ b.registry.names) (moves : List Move) :
    name ∈ (b.play moves).registry.names := by
  induction moves generalizing b with
  | nil => exact hname
  | cons m moves ih => exact ih (steady_move h m) ((made_move h m).1.subset_names hname)

/-- **What a status is made of, whatever comes between the accesses of a call.** After every run in which calls begin,
make their accesses, wait for restarts and are dropped in any order: a component that is not running is degraded, and
one that is degraded is not healthy. One that is not healthy has a reason, unless a report on it has been overtaken by a
reset. Its name and priority are those it was registered with, under a name that was free, and its errors are as many,
in 64 bits, as the reports on it that have been accepted since. No name is ever given up. And when calls are over at
once, but for the restarts that they wait for, a component that is not healthy always has a reason. -/
theorem statuses_play (resources : ResourceSettings) (redactor : Redactor) :
    (∀ moves, let b := new resources redactor
      (∀ status ∈ (b.play moves).registry.snapshot.components,
        status.Graded ∧
        (status.healthy = false → status.reason.isSome = true ∨ b.Overtaken moves status.name) ∧
        b.Registered moves status) ∧
      ∀ more, (b.play moves).registry.names ⊆ (b.play (moves ++ more)).registry.names) ∧
    ∀ calls, ∀ status ∈ ((SharedRegistry.new resources redactor).play calls).registry.snapshot.components,
      status.Coherent := by
  constructor
  · intro moves b
    constructor
    · intro status hstatus
      obtain ⟨c, hc, rfl⟩ := List.mem_map.mp hstatus
      have hkept := kept_play resources redactor moves c.status.name
      have hfind := find?_of_mem hkept.unique hc
      exact ⟨hkept.graded c hfind, hkept.explained c hfind, hkept.registered c hfind⟩
    · intro more name hname
      rw [play_append]
      exact mem_names_play (kept_play resources redactor moves name).steady hname more
  · intro calls status hstatus
    obtain ⟨c, hc, rfl⟩ := List.mem_map.mp hstatus
    have hunique := SharedRegistry.uniqueNames_play (s := .new resources redactor) List.nodup_nil calls
    exact SharedRegistry.coherent_play resources redactor calls (find?_of_mem hunique hc)

/-- A component with a restart handler is registered and its failure reported; the reset comes between the first access
of the report and the second, and then the handler runs. -/
def overtaken : List Move :=
  [.begin (.register "executor" .high (some 7)), .goOn 0, .goOn 0, .begin (.report "executor" "lost" true),
    .begin (.reset "executor"), .goOn 0]

/-- The component is unhealthy, and nothing is held against it. -/
theorem not_coherent_overtaken :
    let b := (new Settings.default.resources ⟨false⟩).play overtaken
    let status := { fresh "executor" .high with healthy := false, errorCount := 1 }
    b.registry.snapshot.components = [status] ∧ b.called = [⟨"executor", 7⟩] ∧
      ¬(status.healthy = false → status.reason.isSome = true) := by decide

/-- While the handler still runs, another failure is reported, the priority is disabled, and the handler of the second
report is called as well and fails. -/
def entangled : List Move :=
  overtaken ++ [.begin (.report "executor" "lost again" true), .goOn 2, .begin (.disablePriority .high "halted"),
    .handlerEnded 2 (.error "refused"), .goOn 2, .dropped 0, .begin (.report "signer" "down" false)]

theorem statuses_play_entangled :
    let b := new Settings.default.resources ⟨false⟩
    let reason := "Restart failed for executor: refused"
    let status := { fresh "executor" .high with
      active := false, healthy := false, degraded := true, errorCount := 2, reason := some reason }
    (b.play entangled).registry.snapshot.components = [status] ∧ status.Graded ∧ b.Registered entangled status := by
  intro b reason status
  have hcomponents : (b.play entangled).registry.snapshot.components = [status] := by decide
  have hstatus := ((statuses_play Settings.default.resources ⟨false⟩).1 entangled).1 status
  rw [show new Settings.default.resources ⟨false⟩ = b from rfl, hcomponents] at hstatus
  obtain ⟨hgraded, -, hregistered⟩ := hstatus List.mem_cons_self
  exact ⟨hcomponents, hgraded, hregistered⟩

end BusyRegistry

end Failsafe
