import Failsafe.Json

/-!
# Fields

Looking up a key in fields: a key that was set has its new value, every other key has the value it had. What is found
is one of the fields, and so is what was set.
-/

namespace Failsafe

namespace Fields

theorem get?_cons (name : String) (value : Json) (fields : Fields) (key : String) :
    get? ((name, value) :: fields) key = if name = key then some value else get? fields key := by
  unfold get?
  rw [List.findSome?_cons]
  by_cases h : name = key <;> simp [h]

theorem contains_eq (fields : Fields) (key : String) : contains fields key = (get? fields key).isSome := by
  induction fields with
  | nil => rfl
  | cons field fields ih =>
    obtain ⟨name, value⟩ := field
    rw [get?_cons]
    unfold contains at ih ⊢
    rw [List.any_cons, ih]
    by_cases h : name = key <;> simp [h]

theorem get?_set (fields : Fields) (key key' : String) (value : Json) :
    get? (set fields key value) key' = if key = key' then some value else get? fields key' := by
  induction fields with
  | nil =>
    unfold set
    rw [get?_cons]
  | cons field fields ih =>
    obtain ⟨name, old⟩ := field
    unfold set
    by_cases h : name = key
    · rw [if_pos h, get?_cons, get?_cons, h]
      split <;> rfl
    · rw [if_neg h, get?_cons, ih, get?_cons]
      by_cases hname : name = key'
      · have hkey : ¬ key = key' := fun hkey => h (hname.trans hkey.symm)
        rw [if_pos hname, if_neg hkey, if_pos hname]
      · rw [if_neg hname, if_neg hname]

theorem mem_of_get? {fields : Fields} {key : String} {v : Json} (h : get? fields key = some v) :
    (key, v) ∈ fields := by
  obtain ⟨⟨name, value⟩, hmem, hfound⟩ := List.exists_of_findSome?_eq_some h
  dsimp only at hfound
  by_cases hname : name = key
  · rw [if_pos hname] at hfound
    rw [← hname, ← Option.some.inj hfound]
    exact hmem
  · rw [if_neg hname] at hfound
    exact absurd hfound nofun

theorem mem_set {fields : Fields} {key : String} {v : Json} {entry : String × Json} (h : entry ∈ set fields key v) :
    entry = (key, v) ∨ entry ∈ fields := by
  induction fields with
  | nil =>
    unfold set at h
    exact .inl (List.mem_singleton.mp h)
  | cons field fields ih =>
    obtain ⟨name, old⟩ := field
    unfold set at h
    by_cases hname : name = key
    · rw [if_pos hname, hname] at h
      exact (List.mem_cons.mp h).imp_right (List.mem_cons_of_mem _)
    · rw [if_neg hname] at h
      rcases List.mem_cons.mp h with hhead | htail
      · exact .inr (hhead ▸ List.mem_cons_self)
      · exact (ih htail).imp_right (List.mem_cons_of_mem _)

end Fields

end Failsafe
