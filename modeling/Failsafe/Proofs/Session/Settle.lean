import Failsafe.Proofs.Clock
import Failsafe.Proofs.Session.Sleep
import Mathlib.Data.List.Basic

/-!
# Letting happen what is due

`Session.settle` lets things happen that are due by a time, one after the other, up to a number of them. It is to
be shown that the number is large enough, so that afterwards no timer of the breaker is due any more
(`lt_nextWake_settle`).

Each thing that happens lowers the bound it was counted in (`happen_dueBound_lt`): a timer that wakes sleeps no
longer, and a loop that has done its job is due later, since periods are positive (`Ticking`).
-/

namespace Failsafe

namespace Breaker

@[simp]
theorem wake_sleeping (b : Breaker) (timer : CooldownTimer) : (b.wake timer).sleeping = b.sleeping.erase timer := by
  unfold wake clear
  dsimp only
  split <;> rfl

theorem length_sleeping_foldl_wake (timers : List CooldownTimer) (b : Breaker) :
    (timers.foldl wake b).sleeping.length ≤ b.sleeping.length := by
  induction timers generalizing b with
  | nil => exact Nat.le_refl _
  | cons timer timers ih =>
    have hwake : (b.wake timer).sleeping.length ≤ b.sleeping.length := by
      rw [wake_sleeping]
      exact List.length_erase_le
    exact Nat.le_trans (ih (b.wake timer)) hwake

/-- When the time of the next timer has come, at least that one wakes. -/
theorem length_sleeping_expire_lt {b : Breaker} {now : Nat} (h : b.nextWake = some now) :
    (b.expire now).sleeping.length < b.sleeping.length := by
  obtain ⟨timer, htimer, hwakes⟩ := List.mem_map.mp (List.min?_mem h)
  have hdue : timer ∈ b.sleeping.filter (·.isDue now) := by
    refine List.mem_filter.mpr ⟨htimer, ?_⟩
    simp [CooldownTimer.isDue, hwakes]
  unfold expire
  cases hfilter : b.sleeping.filter (·.isDue now) with
  | nil =>
    rw [hfilter] at hdue
    exact absurd hdue List.not_mem_nil
  | cons first rest =>
    have hfirst : first ∈ b.sleeping := by
      have hmem : first ∈ b.sleeping.filter (·.isDue now) := by
        rw [hfilter]
        exact List.mem_cons_self
      exact (List.mem_filter.mp hmem).1
    have hle := length_sleeping_foldl_wake rest (b.wake first)
    rw [wake_sleeping, List.length_erase_of_mem hfirst] at hle
    have hpos := List.length_pos_of_mem hfirst
    rw [List.foldl_cons]
    omega

end Breaker

namespace Session

variable {s : Session} {time moment : Nat} {what : Due}

/-- No background loop stands still. -/
def Ticking (s : Session) : Prop := ∀ task ∈ s.tasks, 0 < task.period

/-! ## What is due next -/

/-- The sooner of two things, the second only if it is due by a time: what `nextDue` does at each candidate. -/
def sooner (time : Nat) (best : Option (Nat × Due)) (due : Nat) (what : Due) : Option (Nat × Due) :=
  if time < due then best
  else match best with
    | some (t, _) => if due < t then some (due, what) else best
    | none => some (due, what)

theorem nextDue_eq (s : Session) (time : Nat) :
    s.nextDue time =
      s.tasks.zipIdx.foldl (fun best x => if x.1.alive then sooner time best x.1.due (.task x.2) else best)
        (match s.executor.breaker.nextWake with
          | some due => sooner time none due .cooldown
          | none => none) := rfl

theorem isSome_sooner {best : Option (Nat × Due)} (h : best.isSome = true) (due : Nat) :
    (sooner time best due what).isSome = true := by
  unfold sooner
  split
  · exact h
  · split
    · split
      · rfl
      · exact h
    · rfl

/-- Something falls due at a moment. -/
def FallsDue (s : Session) (moment : Nat) : Due → Prop
  | .cooldown => s.executor.breaker.nextWake = some moment
  | .task i => ∃ task, s.tasks[i]? = some task ∧ task.due = moment

theorem forall_mem_sooner {P : Nat × Due → Prop} {best : Option (Nat × Due)} {due : Nat}
    (hnew : due ≤ time → P (due, what)) (hbest : ∀ x ∈ best, P x) : ∀ x ∈ sooner time best due what, P x := by
  unfold sooner
  split
  · exact hbest
  · next hdue =>
    have hthis : ∀ x ∈ some (due, what), P x := by
      intro x hx
      obtain rfl := Option.some.inj hx
      exact hnew (Nat.le_of_not_lt hdue)
    split
    · split
      · exact hthis
      · exact hbest
    · exact hthis

/-- What is due next is a timer of the breaker or a loop that still runs, and it is due in time. -/
theorem forall_mem_nextDue {P : Nat × Due → Prop}
    (htimer : ∀ due, s.executor.breaker.nextWake = some due → due ≤ time → P (due, .cooldown))
    (hloop : ∀ i task, s.tasks[i]? = some task → task.alive = true → task.due ≤ time → P (task.due, .task i)) :
    ∀ x ∈ s.nextDue time, P x := by
  rw [nextDue_eq]
  refine List.foldlRecOn (motive := fun best : Option (Nat × Due) => ∀ x ∈ best, P x) _ _ ?_ ?_
  · cases hwake : s.executor.breaker.nextWake with
    | none => exact fun x hx => absurd hx (by simp)
    | some due => exact forall_mem_sooner (htimer due hwake) (fun x hx => absurd hx (by simp))
  · intro best hbest x hx
    split
    · next halive => exact forall_mem_sooner (hloop x.2 x.1 (List.mem_zipIdx_iff_getElem?.mp hx) halive) hbest
    · exact hbest

theorem fallsDue_of_nextDue (h : s.nextDue time = some (moment, what)) : moment ≤ time ∧ s.FallsDue moment what :=
  forall_mem_nextDue (P := fun x => x.1 ≤ time ∧ s.FallsDue x.1 x.2) (fun _ hwake hdue => ⟨hdue, hwake⟩)
    (fun _ task htask _ hdue => ⟨hdue, task, htask, rfl⟩) _ h

/-- A loop that comes next still runs. -/
theorem alive_of_nextDue {i : Nat} {task : Task} (h : s.nextDue time = some (moment, .task i))
    (htask : s.tasks[i]? = some task) : task.alive = true := by
  refine forall_mem_nextDue (P := fun x => x.2 = .task i → task.alive = true) ?_ ?_ _ h rfl
  · intro due _ _ hcooldown
    exact absurd hcooldown (by simp)
  · intro j other hother halive _ hj
    obtain rfl := Due.task.inj hj
    rw [hother] at htask
    rwa [← Option.some.inj htask]

theorem isSome_foldl_sooner {loops : List (Task × Nat)} {best : Option (Nat × Due)}
    (h : best.isSome = true ∨ ∃ x ∈ loops, x.1.alive = true ∧ x.1.due ≤ time) :
    (loops.foldl (fun best x => if x.1.alive then sooner time best x.1.due (.task x.2) else best) best).isSome =
      true := by
  induction loops generalizing best with
  | nil => simpa using h
  | cons first rest ih =>
    rw [List.foldl_cons]
    refine ih ?_
    rcases h with hbest | ⟨x, hx, halive, hdue⟩
    · left
      split
      · exact isSome_sooner hbest _
      · exact hbest
    · rcases List.mem_cons.mp hx with rfl | hx
      · left
        unfold sooner
        rw [if_pos halive, if_neg (Nat.not_lt.mpr hdue)]
        split
        · split <;> rfl
        · rfl
      · exact .inr ⟨x, hx, halive, hdue⟩

/-- When nothing is due, neither is a timer of the breaker. -/
theorem lt_nextWake_of_nextDue (h : s.nextDue time = none) (hwake : s.executor.breaker.nextWake = some moment) :
    time < moment := by
  by_contra hle
  have hsome : (s.nextDue time).isSome = true := by
    rw [nextDue_eq, hwake]
    refine isSome_foldl_sooner (.inl ?_)
    dsimp only [sooner]
    rw [if_neg hle]
    rfl
  rw [h] at hsome
  exact absurd hsome (by simp)

/-- Nor is a loop that still runs. -/
theorem lt_due_of_nextDue {i : Nat} {task : Task} (h : s.nextDue time = none) (htask : s.tasks[i]? = some task)
    (halive : task.alive = true) : time < task.due := by
  by_contra hle
  have hsome : (s.nextDue time).isSome = true := by
    rw [nextDue_eq]
    exact isSome_foldl_sooner
      (.inr ⟨(task, i), List.mem_zipIdx_iff_getElem?.mpr htask, halive, Nat.le_of_not_lt hle⟩)
  rw [h] at hsome
  exact absurd hsome (by simp)

/-! ## The bound -/

/-- A loop that has done its job is due again after its period. -/
theorem runTask_tasks {i : Nat} {task : Task} (h : s.tasks[i]? = some task) :
    ∃ job alive, (s.runTask i).tasks =
      s.tasks.set i { task with due := s.clock.wake task.due task.period, job := job, alive := alive } := by
  unfold runTask
  rw [h]
  dsimp only
  have hcalled := throughHooks_sameCore.callHook s task.hook
  split
  · exact ⟨_, _, congrArg (List.set · i _) (hcalled.trans (throughHooks_sameCore.handleSampling _ _)).tasks⟩
  · exact ⟨_, _, congrArg (List.set · i _) hcalled.tasks⟩

theorem Ticking.happen (hticks : s.Ticking) (h : s.FallsDue moment what) : (s.happen moment what).Ticking := by
  cases what with
  | cooldown => exact hticks
  | task i =>
    obtain ⟨task, htask, -⟩ := h
    obtain ⟨job, alive, hset⟩ := runTask_tasks htask
    intro other hother
    rw [Session.happen, hset] at hother
    rcases List.mem_or_eq_of_mem_set hother with hold | rfl
    · exact hticks other hold
    · exact hticks task (List.mem_of_getElem? htask)

theorem foldr_map_set_lt {α : Type} {f : α → Nat} {x y : α} (hlt : f y < f x) {l : List α} {i : Nat}
    (h : l[i]? = some x) : ((l.set i y).map f).foldr (· + ·) 0 < (l.map f).foldr (· + ·) 0 := by
  induction l generalizing i with
  | nil => simp at h
  | cons z rest ih =>
    cases i with
    | zero =>
      obtain rfl : z = x := by simpa using h
      simp only [List.set_cons_zero, List.map_cons, List.foldr_cons]
      omega
    | succ i =>
      have hrest := ih (i := i) (by simpa using h)
      simp only [List.set_cons_succ, List.map_cons, List.foldr_cons]
      omega

/-- Whatever happens is counted in the bound, once. -/
theorem happen_dueBound_lt (hticks : s.Ticking) (hdue : moment ≤ time) (h : s.FallsDue moment what) :
    (s.happen moment what).dueBound time < s.dueBound time := by
  cases what with
  | cooldown =>
    have hlt := Breaker.length_sleeping_expire_lt h
    unfold dueBound Session.happen
    dsimp only
    omega
  | task i =>
    obtain ⟨task, htask, rfl⟩ := h
    obtain ⟨job, alive, hset⟩ := runTask_tasks htask
    have hlater : task.due < s.clock.wake task.due task.period :=
      Clock.lt_wake (hticks task (List.mem_of_getElem? htask))
    have hlt := foldr_map_set_lt (f := fun task : Task => time + 1 - task.due)
      (y := { task with due := s.clock.wake task.due task.period, job := job, alive := alive })
      (by dsimp only; omega) htask
    unfold dueBound Session.happen
    dsimp only
    rw [runTask_executor, hset]
    omega

/-- A number of things that is not below the bound is enough to leave nothing that is due. -/
theorem nextDue_settleUpTo (bound : Nat) (hticks : s.Ticking) (hbound : s.dueBound time ≤ bound) :
    (settleUpTo time bound s).nextDue time = none := by
  induction bound generalizing s with
  | zero =>
    -- Were anything due, it would be counted, and the bound would not be zero.
    unfold settleUpTo
    cases hnext : s.nextDue time with
    | none => rfl
    | some next =>
      obtain ⟨moment, what⟩ := next
      obtain ⟨hdue, hfalls⟩ := fallsDue_of_nextDue hnext
      have hlt := happen_dueBound_lt hticks hdue hfalls
      omega
  | succ bound ih =>
    unfold settleUpTo
    split
    · assumption
    · next moment what hnext =>
      obtain ⟨hdue, hfalls⟩ := fallsDue_of_nextDue hnext
      have hlt := happen_dueBound_lt hticks hdue hfalls
      exact ih (hticks.happen hfalls) (by omega)

/-- What is due by a time happens, all of it: then the breaker's next timer wakes later. -/
theorem lt_nextWake_settle (hticks : s.Ticking) (time : Nat)
    (hwake : (s.settle time).executor.breaker.nextWake = some moment) : time < moment :=
  lt_nextWake_of_nextDue (nextDue_settleUpTo _ hticks (Nat.le_refl _)) hwake

end Session

end Failsafe
