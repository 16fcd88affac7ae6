import Failsafe.History
import Mathlib.Data.List.DropRight
import Mathlib.Data.List.Induction

/-!
# What a history shows

A history keeps the last incidents and drops the others, and yet counts them all. So there is one list behind it, of all
incidents ever recorded, and everything that a history answers can be told from this list and the capacity
(`play_reference`): what it keeps is an end of the list (`List.rtake`), and its counts are those of the whole list. What
some incidents more change about a history, whatever it has kept so far, is `Gains`.
-/

namespace Failsafe

namespace Tally

variable {κ : Type} [DecidableEq κ]

/-- A number as a tally shows it: what was never counted has none. -/
def shown (n : Nat) : Option Nat := if n = 0 then none else some n

theorem count?_add (tally : Tally κ) (key k : κ) :
    (tally.add key).count? k = if key = k then some ((tally.count? k).getD 0 + 1) else tally.count? k := by
  induction tally with
  | nil =>
    unfold add count?
    by_cases hk : key = k
    · rw [if_pos hk, if_pos hk]
      rfl
    · rw [if_neg hk, if_neg hk]
      rfl
  | cons entry rest ih =>
    obtain ⟨first, n⟩ := entry
    unfold add
    by_cases hfirst : first = key
    · rw [if_pos hfirst]
      subst hfirst
      simp only [count?]
      split <;> rfl
    · rw [if_neg hfirst]
      simp only [count?, ih]
      by_cases hk : first = k
      · rw [if_pos hk, if_pos hk, if_neg fun hkey => hfirst (hk.trans hkey.symm)]
      · rw [if_neg hk, if_neg hk]

/-- One key more is one more of this key. -/
theorem count?_add_of_shown {tally : Tally κ} {key k : κ} {n : Nat} (h : tally.count? k = shown n) :
    (tally.add key).count? k = shown (n + if key = k then 1 else 0) := by
  rw [count?_add, h]
  unfold shown
  by_cases hk : key = k
  · rw [if_pos hk, if_pos hk, if_neg (Nat.succ_ne_zero n)]
    by_cases hn : n = 0
    · rw [if_pos hn, hn]
      rfl
    · rw [if_neg hn]
      rfl
  · rw [if_neg hk, if_neg hk, Nat.add_zero]

end Tally

/-- The end of a list with one element more is the end without its first element, if it was full, and this element. -/
theorem rtake_concat {α : Type} {n : Nat} (h : 0 < n) (l : List α) (x : α) :
    (l ++ [x]).rtake n = (if (l.rtake n).length = n then (l.rtake n).tail else l.rtake n) ++ [x] := by
  obtain ⟨k, rfl⟩ := Nat.exists_eq_succ_of_ne_zero (Nat.pos_iff_ne_zero.mp h)
  rw [List.rtake_concat_succ]
  unfold List.rtake
  rw [List.length_drop, List.tail_drop]
  congr 1
  split
  · next hfull => rw [show l.length - k.succ + 1 = l.length - k by omega]
  · next hroom => rw [show l.length - k = 0 by omega, show l.length - k.succ = 0 by omega]

/-- The end of an end is an end. -/
theorem rtake_rtake {α : Type} (l : List α) (m n : Nat) : (l.rtake n).rtake m = l.rtake (min m n) := by
  unfold List.rtake
  rw [List.length_drop, List.drop_drop]
  congr 1
  omega

/-- The first element is not needed for an end that does without it. -/
theorem rtake_tail {α : Type} {l : List α} {n : Nat} (h : n < l.length) : l.tail.rtake n = l.rtake n := by
  unfold List.rtake
  rw [← List.drop_one, List.drop_drop, List.length_drop]
  congr 1
  omega

theorem rtake_min_length {α : Type} (l : List α) (n : Nat) : l.rtake (min n l.length) = l.rtake n := by
  unfold List.rtake
  congr 1
  omega

/-! ## Histories -/

/-- What a history is told. -/
inductive HistoryStep where
  | recorded (incident : Incident)
  | escalated

namespace HistoryStep

def incident? : HistoryStep → Option Incident
  | recorded incident => some incident
  | escalated => none

def isEscalated : HistoryStep → Bool
  | recorded _ => false
  | escalated => true

end HistoryStep

namespace History

def step (h : History) : HistoryStep → History
  | .recorded incident => h.record incident
  | .escalated => h.recordEscalation

/-- A history that is told several things in order. -/
def play (h : History) (steps : List HistoryStep) : History := steps.foldl step h

theorem play_concat (h : History) (steps : List HistoryStep) (s : HistoryStep) :
    h.play (steps ++ [s]) = (h.play steps).step s := by
  unfold play
  rw [List.foldl_append]
  rfl

/-! ### Some incidents more -/

/-- From `h` to `h'` the incidents have been recorded: they are counted, and whoever asks for recent incidents, no more
than there is room for, gets the last of what was kept before and of these. -/
structure Gains (h : History) (incidents : List Incident) (h' : History) : Prop where
  capacity : h'.capacity = h.capacity
  total : h'.total = h.total + incidents.length
  recent : ∀ limit ≤ h.capacity, h'.recent limit = (h.entries ++ incidents).rtake limit

namespace Gains

variable {h h' : History} {incidents : List Incident}

theorem refl (h : History) : h.Gains [] h where
  capacity := rfl
  total := rfl
  recent := by
    intro limit _
    rw [List.append_nil]
    rfl

theorem record (hgains : h.Gains incidents h') (incident : Incident) :
    h.Gains (incidents ++ [incident]) (h'.record incident) where
  capacity := hgains.capacity
  total := by
    rw [List.length_append, ← Nat.add_assoc, ← hgains.total]
    rfl
  recent := by
    intro limit hlimit
    cases limit with
    | zero => rw [List.rtake_zero, History.recent, Nat.sub_zero, List.drop_length]
    | succ n =>
      have hkept : (if h'.entries.length = h'.capacity then h'.entries.tail else h'.entries).rtake n =
          h'.entries.rtake n := by
        split
        · next hfull => exact rtake_tail (by rw [hfull, hgains.capacity]; exact hlimit)
        · rfl
      show (_ ++ [incident]).rtake (n + 1) = _
      rw [← List.append_assoc, List.rtake_concat_succ, List.rtake_concat_succ, hkept]
      exact congrArg (· ++ [incident]) (hgains.recent n (Nat.le_of_succ_le hlimit))

theorem recordEscalation (hgains : h.Gains incidents h') : h.Gains incidents h'.recordEscalation :=
  ⟨hgains.capacity, hgains.total, hgains.recent⟩

theorem foldl_record (h : History) (incidents : List Incident) :
    h.Gains incidents (incidents.foldl History.record h) := by
  induction incidents using List.reverseRecOn with
  | nil => exact refl h
  | append_singleton incidents incident ih =>
    rw [List.foldl_append]
    exact ih.record incident

end Gains

theorem escalations_foldl_record (h : History) (incidents : List Incident) :
    (incidents.foldl record h).escalations = h.escalations := by
  induction incidents generalizing h with
  | nil => rfl
  | cons incident rest ih => exact ih (h.record incident)

/-! ### All incidents -/

/-- The history, with some room, has been told of all these incidents and of so many escalations. -/
structure Shows (room : Nat) (all : List Incident) (escalated : Nat) (h : History) : Prop where
  capacity : h.capacity = room
  entries : h.entries = all.rtake room
  total : h.total = all.length
  byCategory : ∀ key, h.byCategory.count? key = Tally.shown (all.countP (·.category = key))
  bySeverity : ∀ key, h.bySeverity.count? key = Tally.shown (all.countP (·.severity = key))
  escalations : h.escalations = escalated

namespace Shows

variable {room escalated : Nat} {all : List Incident} {h : History}

theorem empty (n : Nat) : Shows (max 1 n) [] 0 (withCapacity n) where
  capacity := Nat.max_comm n 1
  entries := (List.rtake_nil _).symm
  total := rfl
  byCategory := fun _ => rfl
  bySeverity := fun _ => rfl
  escalations := rfl

theorem record (hpos : 0 < room) (hshows : Shows room all escalated h) (incident : Incident) :
    Shows room (all ++ [incident]) escalated (h.record incident) where
  capacity := hshows.capacity
  entries := by
    rw [rtake_concat hpos, ← hshows.entries, ← hshows.capacity]
    rfl
  total := by
    rw [List.length_append, ← hshows.total]
    rfl
  byCategory := fun key => by
    rw [List.countP_append, List.countP_singleton]
    simp only [decide_eq_true_eq]
    exact Tally.count?_add_of_shown (hshows.byCategory key)
  bySeverity := fun key => by
    rw [List.countP_append, List.countP_singleton]
    simp only [decide_eq_true_eq]
    exact Tally.count?_add_of_shown (hshows.bySeverity key)
  escalations := hshows.escalations

theorem recordEscalation (hshows : Shows room all escalated h) :
    Shows room all (escalated + 1) h.recordEscalation where
  capacity := hshows.capacity
  entries := hshows.entries
  total := hshows.total
  byCategory := hshows.byCategory
  bySeverity := hshows.bySeverity
  escalations := congrArg (· + 1) hshows.escalations

/-- Whatever an empty history is told, it shows. -/
theorem play (n : Nat) (steps : List HistoryStep) :
    Shows (max 1 n) (steps.filterMap HistoryStep.incident?) (steps.countP HistoryStep.isEscalated)
      ((withCapacity n).play steps) := by
  induction steps using List.reverseRecOn with
  | nil => exact empty n
  | append_singleton steps s ih =>
    rw [play_concat, List.filterMap_append, List.countP_append]
    cases s with
    | recorded incident => exact ih.record (Nat.lt_of_lt_of_le Nat.one_pos (Nat.le_max_left _ _)) incident
    | escalated =>
      rw [show [HistoryStep.escalated].filterMap HistoryStep.incident? = [] from rfl, List.append_nil]
      exact ih.recordEscalation

/-- What is kept are the last incidents, so many as there is room for. -/
theorem entries_eq (hshows : Shows room all escalated h) : h.entries = all.rtake (min room all.length) := by
  rw [rtake_min_length]
  exact hshows.entries

theorem size_eq (hshows : Shows room all escalated h) : h.size = min room all.length := by
  unfold size
  rw [hshows.entries_eq]
  unfold List.rtake
  rw [List.length_drop]
  omega

theorem recent_eq (hshows : Shows room all escalated h) (limit : Nat) :
    h.recent limit = all.rtake (min limit (min room all.length)) := by
  rw [← rtake_rtake, ← hshows.entries_eq]
  rfl

end Shows

/-- **What a history shows.** Let a history with any capacity be told of any incidents and escalations, and let `all` be
the incidents in order. It has room for `room` of them. Then

* it keeps the last of them, as many as there is room for, and shows the last of these when it is asked for recent ones,
  newest last;
* it counts all of them, and those of each category and each severity, whatever it keeps; what never occurred has no
  count;
* its summary shows the same counts, and the last ten at most of those that it keeps, with message and parameters
  redacted and nothing else changed. -/
theorem play_reference (capacity : Nat) (steps : List HistoryStep) (redactor : Redactor) :
    let h := (withCapacity capacity).play steps
    let all := steps.filterMap HistoryStep.incident?
    let room := max 1 capacity
    let summary := h.summary redactor
    h.entries = all.rtake (min room all.length) ∧
      (∀ limit, h.recent limit = all.rtake (min limit (min room all.length))) ∧
      (h.total = all.length ∧
        (∀ key, h.byCategory.count? key = Tally.shown (all.countP (·.category = key))) ∧
        ∀ key, h.bySeverity.count? key = Tally.shown (all.countP (·.severity = key))) ∧
      (summary.totalErrors = all.length.toUInt64 ∧ summary.retained = (min room all.length).toUInt64 ∧
        summary.escalations = (steps.countP HistoryStep.isEscalated).toUInt64 ∧
        (∀ key, summary.byCategory key = (Tally.shown (all.countP (·.category = key))).map Nat.toUInt64) ∧
        ∀ key, summary.bySeverity key = (Tally.shown (all.countP (·.severity = key))).map Nat.toUInt64) ∧
      summary.recent = (all.rtake (min 10 (min room all.length))).map fun incident =>
        { operation := incident.operation
          category := incident.category
          severity := incident.severity
          message := redactor.text incident.message
          retryCount := incident.retryCount
          data := incident.data.map redactor.fields } := by
  intro h all room summary
  have hshows : Shows room all (steps.countP HistoryStep.isEscalated) h := Shows.play capacity steps
  refine ⟨hshows.entries_eq, hshows.recent_eq, ⟨hshows.total, hshows.byCategory, hshows.bySeverity⟩,
    ⟨?_, ?_, ?_, fun key => ?_, fun key => ?_⟩, ?_⟩
  · exact congrArg Nat.toUInt64 hshows.total
  · exact congrArg Nat.toUInt64 hshows.size_eq
  · exact congrArg Nat.toUInt64 hshows.escalations
  · exact congrArg (Option.map Nat.toUInt64) (hshows.byCategory key)
  · exact congrArg (Option.map Nat.toUInt64) (hshows.bySeverity key)
  · exact congrArg (List.map (Incident.recentError · redactor)) (hshows.recent_eq summaryLength)

end History

end Failsafe
