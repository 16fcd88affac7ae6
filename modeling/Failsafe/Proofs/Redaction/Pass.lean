import Failsafe.Redaction.Text
import Failsafe.Proofs.Redaction.Stretch

/-!
# A pass over a text

`Pass` is `replaceFrom` as a relation, with one rule for each thing that a pass does at a place of a text: it keeps
a character, or it replaces a match. The text is seen as the front of a longer one, so that a pass over a text can
be cut in two: `Pass.replaceFrom_eq` says how the pass goes on behind the front, which may begin with characters
of a match that was found in the front.

A part of what a pass writes that is `Clear` of the mark, and no part of it, was there before and the pass has kept it:
`Pass.cut` finds the place in the text, and `Pass.eq_append` says that the same characters stand there. Where the mark
stands in brackets, a part without brackets is clear of it.
-/

namespace Failsafe.Redaction

/-- A pass over a text behind the character `before` and in front of `tail`: how many characters of the tail belong
to a match that begins in the text, and what the pass writes for the text. -/
inductive Pass (matchLength : Option Char → List Char → Nat) (mark tail : List Char) :
    Option Char → List Char → Nat → List Char → Prop where
  | done {before} : Pass matchLength mark tail before [] 0 []
  | kept {before c rest excess out} (hnone : matchLength before (c :: rest ++ tail) = 0)
    (hrest : Pass matchLength mark tail (some c) rest excess out) :
    Pass matchLength mark tail before (c :: rest) excess (c :: out)
  /-- The match ends with the character `c`. -/
  | replaced {before found c rest excess out}
    (hfound : matchLength before (found ++ c :: rest ++ tail) = found.length + 1)
    (hrest : Pass matchLength mark tail (some c) rest excess out) :
    Pass matchLength mark tail before (found ++ c :: rest) excess (mark ++ out)
  /-- The match ends in the tail. -/
  | reached {before found excess} (hne : found ≠ []) (hexcess : 0 < excess)
    (hfound : matchLength before (found ++ tail) = found.length + excess) :
    Pass matchLength mark tail before found excess mark

variable {matchLength : Option Char → List Char → Nat} {mark tail : List Char} {before : Option Char}
  {text out : List Char} {excess : Nat}

/-! ## The function and the relation -/

/-- Characters of a match that is already replaced are passed over. -/
theorem replaceFrom_skip (before : Option Char) (found text : List Char) (excess : Nat) :
    replaceFrom matchLength mark before (found.length + excess) (found ++ text) =
      replaceFrom matchLength mark (lastFrom before found) excess text := by
  induction found generalizing before with
  | nil => rw [List.length_nil, Nat.zero_add, List.nil_append, lastFrom_nil]
  | cons c found ih =>
    rw [List.length_cons, Nat.add_right_comm, List.cons_append, replaceFrom, ih, lastFrom_cons]

/-- A match that is found is replaced as far as it goes. -/
theorem replaceFrom_found {found : List Char} (hne : found ≠ [])
    (hfound : matchLength before (found ++ text) = found.length + excess) :
    replaceFrom matchLength mark before 0 (found ++ text) =
      mark ++ replaceFrom matchLength mark (lastFrom before found) excess text := by
  obtain ⟨c, found, rfl⟩ := List.exists_cons_of_ne_nil hne
  have hskip := @replaceFrom_skip matchLength mark before (c :: found) text excess
  rw [List.length_cons] at hfound hskip
  rw [List.cons_append] at hfound hskip ⊢
  have hmatch : matchLength before (c :: (found ++ text)) = (found.length + excess) + 1 := by omega
  have hcount : found.length + 1 + excess = (found.length + excess) + 1 := by omega
  rw [hcount, replaceFrom] at hskip
  rw [replaceFrom, hmatch, ← hskip]

/-- How a pass goes on behind a text. -/
theorem Pass.replaceFrom_eq (h : Pass matchLength mark tail before text excess out) :
    replaceFrom matchLength mark before 0 (text ++ tail) =
      out ++ replaceFrom matchLength mark (lastFrom before text) excess tail := by
  induction h with
  | done => rfl
  | kept hnone hrest ih =>
    rw [List.cons_append] at hnone ⊢
    rw [replaceFrom, hnone]
    dsimp only
    rw [ih]
    rfl
  | @replaced before found c rest excess out hfound hrest ih =>
    have htext : found ++ c :: rest ++ tail = found ++ [c] ++ (rest ++ tail) := by simp
    have hlength : matchLength before (found ++ [c] ++ (rest ++ tail)) = (found ++ [c]).length + 0 := by
      rw [← htext, hfound, List.length_append]
      rfl
    rw [htext, replaceFrom_found (by simp) hlength, lastFrom_concat, ih, lastFrom_append, lastFrom_cons,
      List.append_assoc]
  | reached hne hexcess hfound => rw [replaceFrom_found hne hfound]

/-- There is a pass over every text. -/
theorem exists_pass (matchLength : Option Char → List Char → Nat) (mark tail : List Char) (before : Option Char)
    (text : List Char) : ∃ excess out, Pass matchLength mark tail before text excess out := by
  cases text with
  | nil => exact ⟨0, [], .done⟩
  | cons c rest =>
    cases hlength : matchLength before (c :: rest ++ tail) with
    | zero =>
      obtain ⟨excess, out, hrest⟩ := exists_pass matchLength mark tail (some c) rest
      exact ⟨excess, c :: out, .kept hlength hrest⟩
    | succ n =>
      by_cases hn : n < (c :: rest).length
      · -- The match ends in the text, with the character number `n`.
        have hsplit : c :: rest = (c :: rest).take n ++ (c :: rest)[n] :: (c :: rest).drop (n + 1) := by
          rw [List.getElem_cons_drop, List.take_append_drop]
        obtain ⟨excess, out, hrest⟩ :=
          exists_pass matchLength mark tail (some (c :: rest)[n]) ((c :: rest).drop (n + 1))
        refine ⟨excess, mark ++ out, ?_⟩
        rw [hsplit] at hlength ⊢
        refine .replaced ?_ hrest
        rw [hlength, List.length_take]
        omega
      · refine ⟨n + 1 - (c :: rest).length, mark, .reached (List.cons_ne_nil c rest) (by omega) ?_⟩
        rw [hlength]
        omega
termination_by text.length
decreasing_by
  · simp
  · simp only [List.length_drop, List.length_cons] at hn ⊢
    omega

theorem Pass.excess_le (h : Pass matchLength mark tail before text excess out)
    (hlength : ∀ before cs, matchLength before cs ≤ cs.length) : excess ≤ tail.length := by
  induction h with
  | done => exact Nat.zero_le _
  | kept hnone hrest ih => exact ih
  | replaced hfound hrest ih => exact ih
  | @reached before found excess hne hexcess hfound =>
    have hle := hlength before (found ++ tail)
    rw [hfound, List.length_append] at hle
    omega

/-- A pass over all that is left of a text. -/
theorem pass_replaceFrom (hlength : ∀ before cs, matchLength before cs ≤ cs.length) (mark : List Char)
    (before : Option Char) (text : List Char) :
    Pass matchLength mark [] before text 0 (replaceFrom matchLength mark before 0 text) := by
  obtain ⟨excess, out, hpass⟩ := exists_pass matchLength mark [] before text
  obtain rfl : excess = 0 := Nat.le_zero.mp (hpass.excess_le hlength)
  have hout := hpass.replaceFrom_eq
  rw [List.append_nil, replaceFrom, List.append_nil] at hout
  rw [hout]
  exact hpass

/-- A pass over a whole text. -/
theorem pass_replaceAll (hlength : ∀ before cs, matchLength before cs ≤ cs.length) (mark : String)
    (text : List Char) :
    Pass matchLength mark.toList [] none text 0 (replaceAll matchLength mark text) :=
  pass_replaceFrom hlength mark.toList none text

/-! ## What a pass keeps -/

/-- No mark begins in a part of a text, whether it ends there or not. -/
def NoBegin (mark part : List Char) : Prop :=
  ∀ later, later ≠ [] → later <:+ part → ¬ later <+: mark ∧ ¬ mark <+: later

/-- No mark that has begun before a part of a text ends in it. -/
def NoEnd (mark part : List Char) : Prop := ∀ later, later ≠ [] → later <:+ mark → ¬ later <+: part

/-- A part of a text that no mark overlaps, unless the part stands in the middle of the mark. -/
structure Clear (mark part : List Char) : Prop where
  noBegin : NoBegin mark part
  noEnd : NoEnd mark part

/-- A mark in brackets. -/
def Bracketed (mark : List Char) : Prop := ∃ inner, mark = '[' :: inner ++ [']']

/-- A text without brackets. -/
def Unbracketed (text : List Char) : Prop := '[' ∉ text ∧ ']' ∉ text

variable {part front' rest' : List Char}

theorem Bracketed.ne_nil (h : Bracketed mark) : mark ≠ [] := by
  obtain ⟨inner, rfl⟩ := h
  exact List.cons_ne_nil _ _

theorem Unbracketed.append {more : List Char} (h : Unbracketed text) (h' : Unbracketed more) :
    Unbracketed (text ++ more) := by
  unfold Unbracketed at *
  simp [h, h']

/-- A part without brackets is clear of a mark in brackets. -/
theorem Unbracketed.clear (h : Unbracketed part) (hmark : Bracketed mark) : Clear mark part := by
  obtain ⟨inner, rfl⟩ := hmark
  constructor
  · intro later hne hlater
    obtain ⟨c, more, rfl⟩ := List.exists_cons_of_ne_nil hne
    have hc : c ≠ '[' := by
      rintro rfl
      exact h.1 (hlater.mem List.mem_cons_self)
    constructor
    · intro hbegins
      exact hc (List.cons_prefix_cons.mp hbegins).1
    · intro hbegins
      exact hc (List.cons_prefix_cons.mp hbegins).1.symm
  · intro later hne hlater hbegins
    refine h.2 (hbegins.mem ?_)
    have hlast := hlater.getLast hne
    rw [List.getLast_append_of_ne_nil _ (List.cons_ne_nil _ _), List.getLast_singleton] at hlast
    rw [← hlast]
    exact List.getLast_mem hne

theorem NoBegin.of_cons {c : Char} (h : NoBegin mark (c :: part)) : NoBegin mark part :=
  fun later hne hlater => h later hne (hlater.trans (List.suffix_cons c part))

/-- Where no mark begins the mark is not what is written. -/
theorem NoBegin.not_mark {c : Char} {out out' : List Char} (h : NoBegin mark (c :: part)) :
    c :: part ++ out ≠ mark ++ out' := by
  intro heq
  obtain ⟨hnot, hnot'⟩ := h (c :: part) (List.cons_ne_nil c part) List.suffix_rfl
  rcases List.append_eq_append_iff.mp heq with ⟨more, hmark, -⟩ | ⟨more, hpart, -⟩
  · exact hnot ⟨more, hmark.symm⟩
  · exact hnot' ⟨more, hpart.symm⟩

/-- A part of a text in front of a mark. -/
theorem NoBegin.infix_or (h : NoBegin mark part) (hin : part <:+: text ++ mark) : part <:+: text ∨ part <:+: mark := by
  obtain ⟨front, rest, heq⟩ := hin
  rcases List.append_eq_append_iff.mp heq with ⟨later, htext, -⟩ | ⟨later, hpart, hmark⟩
  · exact .inl ⟨front, later, htext.symm⟩
  rcases List.append_eq_append_iff.mp hpart with ⟨begun, htext, hbegun⟩ | ⟨inner, -, hinner⟩
  · -- What the part has of the mark is the beginning of the mark.
    cases later with
    | nil =>
      rw [List.append_nil] at hbegun
      exact .inl ⟨front, [], by rw [List.append_nil, htext, hbegun]⟩
    | cons c later =>
      exact absurd ⟨rest, hmark.symm⟩ (h (c :: later) (List.cons_ne_nil c later) ⟨begun, hbegun.symm⟩).1
  · exact .inr ⟨inner, rest, by rw [hmark, hinner]⟩

/-- Where no mark begins a pass has kept what is written, and has found no match at its beginning. -/
theorem Pass.eq_append (h : Pass matchLength mark tail before text excess (part ++ out)) (hpart : NoBegin mark part) :
    ∃ rest, text = part ++ rest ∧ Pass matchLength mark tail (lastFrom before part) rest excess out ∧
      (part ≠ [] → matchLength before (part ++ (rest ++ tail)) = 0) := by
  induction part generalizing before text with
  | nil => exact ⟨text, rfl, h, fun hne => absurd rfl hne⟩
  | cons c part ih =>
    generalize hout : c :: part ++ out = written at h
    cases h with
    | done => exact absurd hout (List.cons_ne_nil _ _)
    | kept hnone hrest =>
      obtain ⟨rfl, rfl⟩ := List.cons.inj hout
      obtain ⟨more, rfl, hmore, -⟩ := ih hrest hpart.of_cons
      exact ⟨more, rfl, hmore, fun _ => by simpa using hnone⟩
    | replaced => exact absurd hout hpart.not_mark
    | reached =>
      rw [← List.append_nil mark] at hout
      exact absurd hout hpart.not_mark

/-- A part that is no part of a mark does not begin inside a mark. -/
theorem eq_nil_of_mark {inner out more : List Char} (hmark : mark = inner ++ rest') (hpart : NoEnd mark part)
    (hnot : ¬ part <:+: mark) (heq : part ++ more = rest' ++ out) : rest' = [] := by
  refine Classical.not_not.mp fun hne => ?_
  rcases List.append_eq_append_iff.mp heq with ⟨later, hrest, -⟩ | ⟨later, hword, -⟩
  · -- The part ends inside the mark.
    exact hnot ⟨inner, later, by rw [List.append_assoc, ← hrest, hmark]⟩
  · -- The end of the mark belongs to the part.
    exact hpart rest' hne ⟨inner, hmark.symm⟩ ⟨later, hword.symm⟩

/-- A part of what is written that is clear of the mark, and no part of it, begins at a place of the text, and the
pass comes to this place. -/
theorem Pass.cut (h : Pass matchLength mark tail before text excess (front' ++ (part ++ rest'))) (hne : part ≠ [])
    (hpart : NoEnd mark part) (hnot : ¬ part <:+: mark) :
    ∃ front rest, text = front ++ rest ∧ Pass matchLength mark (rest ++ tail) before front 0 front' ∧
      Pass matchLength mark tail (lastFrom before front) rest excess (part ++ rest') := by
  generalize hout : front' ++ (part ++ rest') = written at h
  induction h generalizing front' with
  | done =>
    rw [List.append_eq_nil_iff, List.append_eq_nil_iff] at hout
    exact absurd hout.2.1 hne
  | @kept before c rest excess out hnone hrest ih =>
    cases front' with
    | nil =>
      refine ⟨[], c :: rest, rfl, .done, ?_⟩
      rw [List.nil_append] at hout
      rw [hout]
      exact .kept hnone hrest
    | cons d front' =>
      obtain ⟨rfl, hout'⟩ := List.cons.inj hout
      obtain ⟨front, more, rfl, hfront, hmore⟩ := ih hout'
      exact ⟨d :: front, more, rfl, .kept (by simpa using hnone) hfront, hmore⟩
  | @replaced before found c rest excess out hfound hrest ih =>
    -- The mark is written before the part: the part begins behind the end of the mark.
    obtain ⟨front'', rfl, hout'⟩ : ∃ front'', front' = mark ++ front'' ∧ front'' ++ (part ++ rest') = out := by
      rcases List.append_eq_append_iff.mp hout with ⟨inner, hmark, heq⟩ | ⟨front'', hfront, heq⟩
      · obtain rfl := eq_nil_of_mark hmark hpart hnot heq
        refine ⟨[], ?_, heq⟩
        rw [hmark, List.append_nil, List.append_nil]
      · exact ⟨front'', hfront, heq.symm⟩
    obtain ⟨front, more, rfl, hfront, hmore⟩ := ih hout'
    refine ⟨found ++ c :: front, more, by simp, .replaced ?_ hfront, ?_⟩
    · simpa using hfound
    · rw [lastFrom_append, lastFrom_cons]
      exact hmore
  | reached hne' hexcess hfound => exact absurd ⟨front', rest', by rw [List.append_assoc, hout]⟩ hnot

/-- What is written and is clear of the mark was there before, or is a part of the mark. -/
theorem Pass.infix_or (h : Pass matchLength mark tail before text excess out) (hne : part ≠ [])
    (hpart : Clear mark part) (hin : part <:+: out) : part <:+: text ∨ part <:+: mark := by
  by_cases hnot : part <:+: mark
  · exact .inr hnot
  · left
    obtain ⟨front', rest', rfl⟩ := hin
    rw [List.append_assoc] at h
    obtain ⟨front, rest, rfl, -, hrest⟩ := h.cut hne hpart.noEnd hnot
    obtain ⟨more, rfl, -⟩ := hrest.eq_append hpart.noBegin
    exact ⟨front, more, by simp⟩

theorem Pass.ne_nil (h : Pass matchLength mark tail before text excess out) (hmark : mark ≠ [])
    (hne : text ≠ []) : out ≠ [] := by
  cases h <;> simp_all

/-- What is written begins as the text does, unless a match begins the text. -/
theorem Pass.head?_eq (h : Pass matchLength mark tail before text excess out) :
    out.head? = text.head? ∨ text ≠ [] ∧ matchLength before (text ++ tail) ≠ 0 := by
  cases h with
  | done => exact .inl rfl
  | kept hnone hrest => exact .inl rfl
  | replaced hfound hrest => exact .inr ⟨by simp, by rw [hfound]; omega⟩
  | reached hne hexcess hfound => exact .inr ⟨hne, by rw [hfound]; omega⟩

/-- What is written ends as the text does, unless a match ends the text. -/
theorem Pass.last_eq (h : Pass matchLength mark tail before text 0 out) (hmark : mark ≠ []) :
    lastFrom before out = lastFrom before text ∨ ∃ front found c, text = front ++ (found ++ [c]) ∧
      matchLength (lastFrom before front) (found ++ [c] ++ tail) = found.length + 1 := by
  generalize hexcess : 0 = excess at h
  induction h with
  | done => exact .inl rfl
  | @kept before c rest excess out hnone hrest ih =>
    rcases ih hexcess with hlast | ⟨front, found, d, rfl, hfound⟩
    · exact .inl hlast
    · exact .inr ⟨c :: front, found, d, rfl, hfound⟩
  | @replaced before found c rest excess out hfound hrest ih =>
    cases rest with
    | nil => exact .inr ⟨[], found, c, rfl, by simpa using hfound⟩
    | cons d rest =>
      rcases ih hexcess with hlast | ⟨front, found', e, hrest', hfound'⟩
      · left
        -- Something is written behind the mark.
        obtain ⟨o, out', rfl⟩ := List.exists_cons_of_ne_nil (hrest.ne_nil hmark (List.cons_ne_nil d rest))
        rw [lastFrom_append, lastFrom_append]
        exact hlast
      · right
        refine ⟨found ++ c :: front, found', e, ?_, ?_⟩
        · rw [hrest']
          simp
        · rw [lastFrom_append]
          exact hfound'
  | reached hne hpos hfound => omega

/-- Every character that is written was there before or is one of the mark. -/
theorem Pass.mem (h : Pass matchLength mark tail before text excess out) :
    ∀ c ∈ out, c ∈ text ∨ c ∈ mark := by
  induction h with
  | done => exact fun c hc => absurd hc List.not_mem_nil
  | kept hnone hrest ih =>
    intro c hc
    rcases List.mem_cons.mp hc with rfl | hc
    · exact .inl List.mem_cons_self
    · exact (ih c hc).imp_left (List.mem_cons_of_mem _)
  | replaced hfound hrest ih =>
    intro c hc
    rcases List.mem_append.mp hc with hc | hc
    · exact .inr hc
    · exact (ih c hc).imp_left fun hrest => List.mem_append_right _ (List.mem_cons_of_mem _ hrest)
  | reached hne hexcess hfound => exact fun c hc => .inr hc

/-- A pass keeps a text in which no match begins. -/
theorem Pass.eq_self (h : Pass matchLength mark tail before text excess out)
    (hnone : ∀ front c rest, text = front ++ c :: rest →
      matchLength (lastFrom before front) (c :: rest ++ tail) = 0) :
    excess = 0 ∧ out = text := by
  induction h with
  | done => exact ⟨rfl, rfl⟩
  | @kept before c rest excess out hzero hrest ih =>
    obtain ⟨hexcess, hout⟩ := ih fun front d more hmore => by
      have hcons := hnone (c :: front) d more (by rw [hmore]; rfl)
      rwa [lastFrom_cons] at hcons
    exact ⟨hexcess, by rw [hout]⟩
  | @replaced before found c rest excess out hfound hrest ih =>
    exfalso
    obtain ⟨d, more, hcons⟩ := List.exists_cons_of_ne_nil (show found ++ c :: rest ≠ [] by simp)
    have hzero := hnone [] d more hcons
    rw [← hcons, lastFrom_nil, hfound] at hzero
    omega
  | @reached before found excess hne hexcess hfound =>
    exfalso
    obtain ⟨d, more, rfl⟩ := List.exists_cons_of_ne_nil hne
    have hzero := hnone [] d more rfl
    rw [lastFrom_nil, hfound] at hzero
    omega

/-- A match that reaches into what comes behind the text is the last one. -/
theorem Pass.reached_or (h : Pass matchLength mark tail before text excess out) :
    excess = 0 ∨ ∃ front found out', text = front ++ found ∧ found ≠ [] ∧
      matchLength (lastFrom before front) (found ++ tail) = found.length + excess ∧ 0 < excess ∧
      Pass matchLength mark (found ++ tail) before front 0 out' ∧ out = out' ++ mark := by
  induction h with
  | done => exact .inl rfl
  | @kept before c rest excess out hnone hrest ih =>
    rcases ih with hexcess | ⟨front, found, out', rfl, hne, hfound, hexcess, hfront, rfl⟩
    · exact .inl hexcess
    · refine .inr ⟨c :: front, found, c :: out', rfl, hne, hfound, hexcess, .kept ?_ hfront, rfl⟩
      simpa using hnone
  | @replaced before found' c rest excess out hfound' hrest ih =>
    rcases ih with hexcess | ⟨front, found, out', rfl, hne, hfound, hexcess, hfront, rfl⟩
    · exact .inl hexcess
    · refine .inr ⟨found' ++ c :: front, found, mark ++ out', by simp, hne, ?_, hexcess, .replaced ?_ hfront, by simp⟩
      · rw [lastFrom_append, lastFrom_cons]
        exact hfound
      · simpa using hfound'
  | @reached before found excess hne hexcess hfound =>
    exact .inr ⟨[], found, [], rfl, hne, hfound, hexcess, .done, rfl⟩

/-- A pass depends on what comes behind the text only as far as its matches do. -/
theorem Pass.congr_tail {tail' : List Char} (h : Pass matchLength mark tail before text 0 out)
    (heq : ∀ before c rest, c :: rest <:+ text →
      matchLength before (c :: rest ++ tail) ≤ (c :: rest).length →
      matchLength before (c :: rest ++ tail') = matchLength before (c :: rest ++ tail)) :
    Pass matchLength mark tail' before text 0 out := by
  generalize hexcess : 0 = excess at h
  induction h with
  | done => exact .done
  | @kept before c rest excess out hnone hrest ih =>
    refine .kept ?_ (ih (fun before d more hmore => heq before d more (hmore.trans (List.suffix_cons c rest))) hexcess)
    rw [heq before c rest List.suffix_rfl (by rw [hnone]; exact Nat.zero_le _)]
    exact hnone
  | @replaced before found c rest excess out hfound hrest ih =>
    have hsuffix : rest <:+ found ++ c :: rest := ⟨found ++ [c], by simp⟩
    refine .replaced ?_ (ih (fun before d more hmore => heq before d more (hmore.trans hsuffix)) hexcess)
    obtain ⟨d, more, hcons⟩ := List.exists_cons_of_ne_nil (show found ++ c :: rest ≠ [] by simp)
    have hsame := heq before d more ⟨[], hcons.symm⟩
    rw [← hcons] at hsame
    rw [hsame]
    · exact hfound
    · rw [hfound, List.length_append, List.length_cons]
      omega
  | reached hne hpos hfound => omega

end Failsafe.Redaction
