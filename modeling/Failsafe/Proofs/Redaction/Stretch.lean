/-!
# Stretches of a text

Words that are looked for in a text end where the text goes on with a character of another kind: `Stretch` says that a
part goes on as far as it can, and `Stretch.takeWhile_eq` that this is the part which is found.
-/

namespace Failsafe.Redaction

/-- The last character of a text that comes after the character `before`. -/
def lastFrom (before : Option Char) (text : List Char) : Option Char := text.foldl (fun _ c => some c) before

@[simp]
theorem lastFrom_nil (before : Option Char) : lastFrom before [] = before := rfl

@[simp]
theorem lastFrom_cons (before : Option Char) (c : Char) (text : List Char) :
    lastFrom before (c :: text) = lastFrom (some c) text := rfl

theorem lastFrom_append (before : Option Char) (text more : List Char) :
    lastFrom before (text ++ more) = lastFrom (lastFrom before text) more := List.foldl_append

@[simp]
theorem lastFrom_concat (before : Option Char) (text : List Char) (c : Char) :
    lastFrom before (text ++ [c]) = some c := by
  rw [lastFrom_append]
  rfl

/-- A part of a text has characters of one kind only, and the text does not go on with such a character. -/
structure Stretch (kind : Char → Bool) (part rest : List Char) : Prop where
  all : ∀ c ∈ part, kind c = true
  stops : ∀ c, rest.head? = some c → kind c = false

variable {kind : Char → Bool} {part rest : List Char}

theorem exists_stretch (kind : Char → Bool) (cs : List Char) :
    ∃ part rest, cs = part ++ rest ∧ Stretch kind part rest ∧ part = cs.takeWhile kind := by
  refine ⟨cs.takeWhile kind, cs.dropWhile kind, List.takeWhile_append_dropWhile.symm, ⟨?_, ?_⟩, rfl⟩
  · intro c hc
    exact List.all_eq_true.mp List.all_takeWhile c hc
  · intro c hc
    have hnot := List.head?_dropWhile_not kind cs
    rw [hc] at hnot
    simpa using hnot

namespace Stretch

theorem takeWhile_eq (h : Stretch kind part rest) : (part ++ rest).takeWhile kind = part := by
  rw [List.takeWhile_append_of_pos h.all]
  cases rest with
  | nil => simp
  | cons c rest =>
    have hc := h.stops c rfl
    simp [hc]

/-- The beginning of a text has only one such part. -/
theorem unique {part' rest' : List Char} (h : Stretch kind part rest) (h' : Stretch kind part' rest')
    (heq : part ++ rest = part' ++ rest') : part = part' ∧ rest = rest' := by
  have hpart : part = part' := by rw [← h.takeWhile_eq, heq, h'.takeWhile_eq]
  subst hpart
  exact ⟨rfl, List.append_cancel_left heq⟩

end Stretch

end Failsafe.Redaction
