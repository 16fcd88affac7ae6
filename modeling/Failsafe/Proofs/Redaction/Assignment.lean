import Failsafe.Proofs.Redaction.Word

/-!
# Assignments to sensitive words

An assignment has an opening, which is a word, a separator and the blanks around it, and a value. `assignmentLength`
finds exactly these: `assignmentLength_eq`, `exists_assignment`.

The words are tried one after the other until one is followed by a separator and a value. That an assignment is found
in its own length, whatever the word, is `Separates.unique`: where the opening of an assignment ends depends on the
first separator only.
-/

namespace Failsafe.Redaction

open Unicode (isBlank)

def isQuote (c : Char) : Bool := c = '"' || c = '\''

def isSeparator (c : Char) : Bool := c = ':' || c = '='

/-- A text begins with a value: with something in quotes, or with characters that go on up to a blank, a comma, a
semicolon or an ampersand. A quote that is not closed is such a character. -/
inductive IsValue : List Char → List Char → Prop where
  | quoted {quote inside rest} (hquote : isQuote quote = true) (hinside : quote ∉ inside) :
    IsValue (quote :: (inside ++ [quote])) rest
  | bare {value rest} (hne : value ≠ []) (hbare : Stretch isBare value rest)
    (hopen : ∀ quote more, isQuote quote = true → value ++ rest = quote :: more → quote ∉ more) : IsValue value rest

/-- A text in which the first separator is followed by blanks only. -/
def Separates (opening : List Char) : Prop :=
  ∃ before separator gap, opening = before ++ separator :: gap ∧ (∀ c ∈ before, isSeparator c = false) ∧
    isSeparator separator = true ∧ ∀ c ∈ gap, isBlank c = true

/-- What comes before the value of an assignment. -/
def IsOpening (opening : List Char) : Prop :=
  ∃ word gap separator gap', opening = word ++ (gap ++ separator :: gap') ∧ IsWord word ∧
    (∀ c ∈ gap, isBlank c = true) ∧ isSeparator separator = true ∧ ∀ c ∈ gap', isBlank c = true

variable {cs opening value rest text : List Char}

/-! ## Characters -/

theorem isBare_of_isQuote {c : Char} (h : isQuote c = true) : isBare c = true := by
  simp only [isQuote, Bool.or_eq_true, decide_eq_true_eq] at h
  rcases h with rfl | rfl <;> decide

theorem isBare_of_isSeparator {c : Char} (h : isSeparator c = true) : isBare c = true := by
  simp only [isSeparator, Bool.or_eq_true, decide_eq_true_eq] at h
  rcases h with rfl | rfl <;> decide

theorem isBlank_of_isBare {c : Char} (h : isBare c = true) : isBlank c = false := by
  simp only [isBare, Bool.not_eq_true', Bool.or_eq_false_iff] at h
  exact h.1.1.1

theorem isSeparator_of_isBlank {c : Char} (h : isBlank c = true) : isSeparator c = false := by
  rw [Bool.eq_false_iff]
  intro hseparator
  rw [isBlank_of_isBare (isBare_of_isSeparator hseparator)] at h
  exact absurd h (by simp)

/-- A character of a word is a blank or belongs to a bare value, and it is no separator and no quote. -/
theorem of_isSpelling {c : Char} (h : isSpelling c = true) :
    isSeparator c = false ∧ isQuote c = false ∧ (isBlank c = false → isBare c = true) := by
  have hne : ∀ d, isSpelling d = false → c ≠ d := by
    rintro d hd rfl
    rw [hd] at h
    exact absurd h (by simp)
  have hcolon := hne ':' (by decide)
  have hequals := hne '=' (by decide)
  have hdouble := hne '"' (by decide)
  have hsingle := hne '\'' (by decide)
  have hcomma := hne ',' (by decide)
  have hsemicolon := hne ';' (by decide)
  have hampersand := hne '&' (by decide)
  refine ⟨?_, ?_, fun hblank => ?_⟩
  · simp [isSeparator, hcolon, hequals]
  · simp [isQuote, hdouble, hsingle]
  · simp [isBare, hblank, hcomma, hsemicolon, hampersand]

theorem IsWord.isSeparator {word : List Char} (h : IsWord word) : ∀ c ∈ word, isSeparator c = false :=
  fun c hc => (of_isSpelling (h.isSpelling c hc)).1

/-! ## Values -/

theorem ne_of_not_mem {quote : Char} (h : quote ∉ cs) : ∀ c ∈ cs, decide (c ≠ quote) = true := by
  intro c hc
  refine decide_eq_true fun hquote => h ?_
  rw [← hquote]
  exact hc

theorem closingLength?_eq {quote : Char} {inside more : List Char} (h : quote ∉ inside) :
    closingLength? quote (inside ++ quote :: more) = some (inside.length + 1) := by
  have hstretch : Stretch (· ≠ quote) inside (quote :: more) := by
    refine ⟨ne_of_not_mem h, fun c hc => ?_⟩
    obtain rfl := Option.some.inj hc
    simp
  unfold closingLength?
  dsimp only
  rw [hstretch.takeWhile_eq, if_pos]
  simp

theorem closingLength?_eq_none {quote : Char} (h : quote ∉ cs) : closingLength? quote cs = none := by
  have hall : Stretch (· ≠ quote) cs [] := ⟨ne_of_not_mem h, fun c hc => absurd hc (by simp)⟩
  have htake := hall.takeWhile_eq
  rw [List.append_nil] at htake
  unfold closingLength?
  dsimp only
  rw [htake]
  exact if_neg (Nat.lt_irrefl _)

theorem valueLength_quote {quote : Char} {more : List Char} (h : isQuote quote = true) :
    valueLength (quote :: more) =
      ((closingLength? quote more).map (· + 1)).getD ((quote :: more).takeWhile isBare).length := by
  simp only [isQuote, Bool.or_eq_true, decide_eq_true_eq] at h
  rcases h with rfl | rfl <;> rfl

theorem valueLength_open
    (hopen : ∀ quote more, isQuote quote = true → cs = quote :: more → quote ∉ more) :
    valueLength cs = (cs.takeWhile isBare).length := by
  cases cs with
  | nil => rfl
  | cons c more =>
    by_cases hquote : isQuote c = true
    · rw [valueLength_quote hquote, closingLength?_eq_none (hopen c more hquote rfl)]
      rfl
    · simp only [isQuote, Bool.or_eq_true, decide_eq_true_eq, not_or] at hquote
      unfold valueLength
      dsimp only
      split
      next heq => exact absurd (List.cons.inj heq).1 hquote.1
      next heq => exact absurd (List.cons.inj heq).1 hquote.2
      next => rfl

/-- A value is found in its full length. -/
theorem valueLength_eq (h : IsValue value rest) : valueLength (value ++ rest) = value.length := by
  cases h with
  | @quoted quote inside rest hquote hinside =>
    have hcs : quote :: (inside ++ [quote]) ++ rest = quote :: (inside ++ quote :: rest) := by simp
    rw [hcs, valueLength_quote hquote, closingLength?_eq hinside]
    simp
  | bare hne hbare hopen => rw [valueLength_open hopen, hbare.takeWhile_eq]

/-- What is found is a value. -/
theorem exists_value (h : valueLength cs ≠ 0) : ∃ value rest, cs = value ++ rest ∧ IsValue value rest := by
  by_cases hclosed : ∃ quote more, isQuote quote = true ∧ cs = quote :: more ∧ quote ∈ more
  · obtain ⟨quote, more, hquote, rfl, hmem⟩ := hclosed
    obtain ⟨inside, rest, rfl, hinside⟩ := List.eq_append_cons_of_mem hmem
    exact ⟨quote :: (inside ++ [quote]), rest, by simp, .quoted hquote hinside⟩
  · have hopen : ∀ quote more, isQuote quote = true → cs = quote :: more → quote ∉ more :=
      fun quote more hquote hcs hmem => hclosed ⟨quote, more, hquote, hcs, hmem⟩
    obtain ⟨value, rest, rfl, hstretch, hvalue⟩ := exists_stretch isBare cs
    rw [valueLength_open hopen, ← hvalue, ne_eq, List.length_eq_zero_iff] at h
    exact ⟨value, rest, rfl, .bare h hstretch hopen⟩

/-- A value begins with a character that can begin a bare value. -/
theorem IsValue.eq_cons (h : IsValue value rest) : ∃ c more, value = c :: more ∧ isBare c = true := by
  cases h with
  | quoted hquote hinside => exact ⟨_, _, rfl, isBare_of_isQuote hquote⟩
  | bare hne hbare hopen =>
    obtain ⟨c, more, rfl⟩ := List.exists_cons_of_ne_nil hne
    exact ⟨c, more, rfl, hbare.all c List.mem_cons_self⟩

theorem valueLength_ne_zero_iff : valueLength cs ≠ 0 ↔ ∃ c more, cs = c :: more ∧ isBare c = true := by
  constructor
  · intro h
    obtain ⟨value, rest, rfl, hvalue⟩ := exists_value h
    obtain ⟨c, more, rfl, hc⟩ := hvalue.eq_cons
    exact ⟨c, more ++ rest, rfl, hc⟩
  · rintro ⟨c, more, rfl, hc⟩
    by_cases hclosed : isQuote c = true ∧ c ∈ more
    · obtain ⟨inside, rest, rfl, hinside⟩ := List.eq_append_cons_of_mem hclosed.2
      rw [valueLength_quote hclosed.1, closingLength?_eq hinside]
      simp
    · have hopen : ∀ quote later, isQuote quote = true → c :: more = quote :: later → quote ∉ later := by
        intro quote later hquote heq hmem
        obtain ⟨rfl, rfl⟩ := List.cons.inj heq
        exact hclosed ⟨hquote, hmem⟩
      rw [valueLength_open hopen, List.takeWhile_cons_of_pos hc]
      simp

/-- A value does not end in the middle of a word: it ends with a quote, or goes on as far as it can. -/
theorem IsValue.ends (h : IsValue value rest) :
    (∃ front quote, value = front ++ [quote] ∧ isQuote quote = true) ∨
      ∀ c, rest.head? = some c → isBare c = false := by
  cases h with
  | @quoted quote inside rest hquote hinside => exact .inl ⟨quote :: inside, quote, rfl, hquote⟩
  | bare hne hbare hopen => exact .inr hbare.stops

/-! ## Openings -/

/-- The first separator of a text says where the opening ends. -/
theorem Separates.unique {opening' text' : List Char} (h : Separates opening) (h' : Separates opening')
    (heq : opening ++ text = opening' ++ text') (htext : ∀ c, text.head? = some c → isBlank c = false)
    (htext' : ∀ c, text'.head? = some c → isBlank c = false) : opening = opening' ∧ text = text' := by
  obtain ⟨before, separator, gap, rfl, hbefore, hseparator, hgap⟩ := h
  obtain ⟨before', separator', gap', rfl, hbefore', hseparator', hgap'⟩ := h'
  have hfirst : ∀ {before separator gap}, (∀ c ∈ before, isSeparator c = false) → isSeparator separator = true →
      Stretch (fun c => !isSeparator c) before (separator :: gap) := by
    intro before separator gap hbefore hseparator
    constructor
    · intro c hc
      rw [hbefore c hc]
      rfl
    · intro c hc
      obtain rfl := Option.some.inj hc
      rw [hseparator]
      rfl
  simp only [List.append_assoc, List.cons_append] at heq
  obtain ⟨rfl, heq'⟩ := (hfirst hbefore hseparator).unique (hfirst hbefore' hseparator') heq
  obtain ⟨rfl, heq''⟩ := List.cons.inj heq'
  obtain ⟨rfl, rfl⟩ := Stretch.unique ⟨hgap, htext⟩ ⟨hgap', htext'⟩ heq''
  exact ⟨rfl, rfl⟩

/-- The end of an opening is blank, or it holds the separator. -/
theorem Separates.of_append {front later : List Char} (h : Separates (front ++ later)) :
    Separates later ∨ ∀ c ∈ later, isBlank c = true := by
  obtain ⟨before, separator, gap, heq, hbefore, hseparator, hgap⟩ := h
  rcases List.append_eq_append_iff.mp heq with ⟨more, hmore, hlater⟩ | ⟨more, -, hlater⟩
  · left
    exact ⟨more, separator, gap, hlater, fun c hc => hbefore c (by rw [hmore]; exact List.mem_append_right _ hc),
      hseparator, hgap⟩
  · cases more with
    | nil =>
      left
      exact ⟨[], separator, gap, hlater.symm, fun c hc => absurd hc List.not_mem_nil, hseparator, hgap⟩
    | cons d more =>
      right
      obtain ⟨-, hgap'⟩ := List.cons.inj hlater
      exact fun c hc => hgap c (by rw [hgap']; exact List.mem_append_right _ hc)

/-- There is no separator in a word. -/
theorem Separates.not_infix {word : List Char} (h : Separates opening) (hword : IsWord word) : ¬ opening <:+: word := by
  obtain ⟨before, separator, gap, rfl, -, hseparator, -⟩ := h
  intro hin
  rw [hword.isSeparator separator (hin.subset (by simp))] at hseparator
  exact absurd hseparator (by simp)

theorem IsOpening.separates (h : IsOpening opening) : Separates opening := by
  obtain ⟨word, gap, separator, gap', rfl, hword, hgap, hseparator, hgap'⟩ := h
  refine ⟨word ++ gap, separator, gap', by simp, fun c hc => ?_, hseparator, hgap'⟩
  rcases List.mem_append.mp hc with hc | hc
  · exact hword.isSeparator c hc
  · exact isSeparator_of_isBlank (hgap c hc)

/-- An opening begins with a word. -/
theorem IsOpening.eq_append (h : IsOpening opening) : ∃ word more, opening = word ++ more ∧ IsWord word := by
  obtain ⟨word, gap, separator, gap', rfl, hword, -⟩ := h
  exact ⟨word, _, rfl, hword⟩

theorem IsOpening.ne_nil (h : IsOpening opening) : opening ≠ [] := by
  obtain ⟨word, more, rfl, hword⟩ := h.eq_append
  obtain ⟨c, letters, rfl, -⟩ := hword.eq_cons
  exact List.cons_ne_nil _ _

/-! ## Assignments -/

theorem IsValue.head_isBlank (h : IsValue value rest) : ∀ c, (value ++ rest).head? = some c → isBlank c = false := by
  obtain ⟨d, more, rfl, hd⟩ := h.eq_cons
  intro c hc
  obtain rfl := Option.some.inj hc
  exact isBlank_of_isBare hd

theorem assignedLength?_eq {gap gap' : List Char} {separator : Char} (hgap : ∀ c ∈ gap, isBlank c = true)
    (hseparator : isSeparator separator = true) (hgap' : ∀ c ∈ gap', isBlank c = true) (hvalue : IsValue value rest) :
    assignedLength? (gap ++ separator :: (gap' ++ (value ++ rest))) =
      some (gap.length + 1 + gap'.length + value.length) := by
  have hbefore : Stretch isBlank gap (separator :: (gap' ++ (value ++ rest))) := by
    refine ⟨hgap, fun c hc => ?_⟩
    obtain rfl := Option.some.inj hc
    exact isBlank_of_isBare (isBare_of_isSeparator hseparator)
  have hafter : Stretch isBlank gap' (value ++ rest) := ⟨hgap', hvalue.head_isBlank⟩
  have hne : ¬ value.length = 0 := by
    obtain ⟨c, more, rfl, -⟩ := hvalue.eq_cons
    simp
  have hor : separator = ':' ∨ separator = '=' := by
    simpa [isSeparator] using hseparator
  unfold assignedLength? blanksLength
  dsimp only
  rw [hbefore.takeWhile_eq, List.drop_left]
  dsimp only
  rw [if_pos hor, hafter.takeWhile_eq, List.drop_left, valueLength_eq hvalue, if_neg hne]

theorem exists_assigned {n : Nat} (h : assignedLength? cs = some n) :
    ∃ gap separator gap' value rest, cs = gap ++ separator :: (gap' ++ (value ++ rest)) ∧
      (∀ c ∈ gap, isBlank c = true) ∧ isSeparator separator = true ∧ (∀ c ∈ gap', isBlank c = true) ∧
      IsValue value rest := by
  obtain ⟨gap, later, rfl, hgap, hgap'⟩ := exists_stretch isBlank cs
  unfold assignedLength? blanksLength at h
  dsimp only at h
  rw [← hgap', List.drop_left] at h
  cases later with
  | nil => exact absurd h (by simp)
  | cons separator later =>
    dsimp only at h
    by_cases hor : separator = ':' ∨ separator = '='
    · obtain ⟨gap'', last, rfl, hgap'', htake⟩ := exists_stretch isBlank later
      rw [if_pos hor, ← htake, List.drop_left] at h
      by_cases hzero : valueLength last = 0
      · rw [if_pos hzero] at h
        exact absurd h (by simp)
      · obtain ⟨value, rest, rfl, hvalue⟩ := exists_value hzero
        have hseparator : isSeparator separator = true := by simpa [isSeparator] using hor
        exact ⟨gap, separator, gap'', value, rest, rfl, hgap.all, hseparator, hgap''.all, hvalue⟩
    · rw [if_neg hor] at h
      exact absurd h (by simp)

/-- The length of an assignment to a word with one spelling. -/
def assignedBy? (pieces : List Piece) (cs : List Char) : Option Nat := do
  let word ← spellingLength? pieces cs
  let assigned ← assignedLength? (cs.drop word)
  some (word + assigned)

theorem assignmentLength_eq_findSome (cs : List Char) :
    assignmentLength cs = (spellings.findSome? (assignedBy? · cs)).getD 0 := rfl

theorem assignedBy?_eq {pieces : List Piece} {word gap gap' : List Char} {separator : Char} (hmem : pieces ∈ spellings)
    (hspells : Spells pieces word) (hgap : ∀ c ∈ gap, isBlank c = true) (hseparator : isSeparator separator = true)
    (hgap' : ∀ c ∈ gap', isBlank c = true) (hvalue : IsValue value rest) :
    assignedBy? pieces (word ++ (gap ++ separator :: (gap' ++ (value ++ rest)))) =
      some (word.length + (gap.length + 1 + gap'.length + value.length)) := by
  unfold assignedBy?
  rw [hspells.length_eq (spaced_of_mem pieces hmem).1]
  dsimp only [Option.bind_eq_bind, Option.bind_some]
  rw [List.drop_left, assignedLength?_eq hgap hseparator hgap' hvalue]
  rfl

theorem exists_assignedBy {pieces : List Piece} {n : Nat} (hmem : pieces ∈ spellings)
    (h : assignedBy? pieces cs = some n) :
    ∃ opening value rest, cs = opening ++ (value ++ rest) ∧ IsOpening opening ∧ IsValue value rest ∧
      opening.length + value.length = n := by
  obtain ⟨k, hk, hn⟩ := Option.bind_eq_some_iff.mp h
  obtain ⟨m, hm, hn⟩ := Option.bind_eq_some_iff.mp hn
  obtain ⟨word, later, rfl, hspells, rfl⟩ := exists_spells hk
  rw [List.drop_left] at hm
  obtain ⟨gap, separator, gap', value, rest, rfl, hgap, hseparator, hgap', hvalue⟩ := exists_assigned hm
  rw [assignedLength?_eq hgap hseparator hgap' hvalue] at hm
  obtain rfl := Option.some.inj hm
  obtain rfl := Option.some.inj hn
  refine ⟨word ++ (gap ++ separator :: gap'), value, rest, by simp,
    ⟨word, gap, separator, gap', rfl, ⟨pieces, hmem, hspells⟩, hgap, hseparator, hgap'⟩, hvalue, ?_⟩
  simp only [List.length_append, List.length_cons]
  omega

/-- What is found is an assignment. -/
theorem exists_assignment (h : assignmentLength cs ≠ 0) :
    ∃ opening value rest, cs = opening ++ (value ++ rest) ∧ IsOpening opening ∧ IsValue value rest ∧
      opening.length + value.length = assignmentLength cs := by
  rw [assignmentLength_eq_findSome] at h ⊢
  cases hfind : spellings.findSome? (assignedBy? · cs) with
  | none => exact absurd (by rw [hfind]; rfl) h
  | some n =>
    obtain ⟨pieces, hmem, hlength⟩ := List.exists_of_findSome?_eq_some hfind
    exact exists_assignedBy hmem hlength

/-- An assignment is found. -/
theorem assignmentLength_ne_zero (hopening : IsOpening opening) (hvalue : IsValue value rest) :
    assignmentLength (opening ++ (value ++ rest)) ≠ 0 := by
  have hne : value.length ≠ 0 := by
    obtain ⟨c, more, rfl, -⟩ := hvalue.eq_cons
    simp
  obtain ⟨word, gap, separator, gap', rfl, ⟨pieces, hmem, hspells⟩, hgap, hseparator, hgap'⟩ := hopening
  have hlength := assignedBy?_eq hmem hspells hgap hseparator hgap' hvalue
  simp only [List.append_assoc, List.cons_append]
  rw [assignmentLength_eq_findSome]
  cases hfind : spellings.findSome? (assignedBy? · (word ++ (gap ++ separator :: (gap' ++ (value ++ rest))))) with
  | none =>
    rw [List.findSome?_eq_none_iff] at hfind
    rw [hfind pieces hmem] at hlength
    exact absurd hlength (by simp)
  | some n =>
    obtain ⟨other, hother, hn⟩ := List.exists_of_findSome?_eq_some hfind
    obtain ⟨opening, value', rest', -, hopening, -, rfl⟩ := exists_assignedBy hother hn
    have hpos := List.length_pos_iff.mpr hopening.ne_nil
    rw [Option.getD_some]
    omega

/-- An assignment is found in its full length. -/
theorem assignmentLength_eq (hopening : IsOpening opening) (hvalue : IsValue value rest) :
    assignmentLength (opening ++ (value ++ rest)) = opening.length + value.length := by
  -- Another word may have been found, but the assignment is the same.
  obtain ⟨opening', value', rest', heq, hopening', hvalue', hlength⟩ :=
    exists_assignment (assignmentLength_ne_zero hopening hvalue)
  obtain ⟨rfl, hrest⟩ := hopening.separates.unique hopening'.separates heq hvalue.head_isBlank hvalue'.head_isBlank
  have hsame := valueLength_eq hvalue'
  rw [← hrest, valueLength_eq hvalue] at hsame
  rw [← hlength, hsame]

theorem assignmentLength_le (cs : List Char) : assignmentLength cs ≤ cs.length := by
  by_cases h : assignmentLength cs = 0
  · omega
  · obtain ⟨opening, value, rest, hcs, -, -, hlength⟩ := exists_assignment h
    rw [← hlength, hcs, List.length_append, List.length_append]
    omega

/-! ## The second pass -/

theorem pass_redactAssignments (cs : List Char) :
    Pass (fun _ => assignmentLength) marker.toList [] none cs 0 (redactAssignments cs) :=
  pass_replaceAll (fun _ => assignmentLength_le) marker cs

/-- The second pass keeps a text that has no word in it. -/
theorem redactAssignments_eq_self (h : holdsWord cs = false) : redactAssignments cs = cs := by
  refine ((pass_redactAssignments cs).eq_self fun front c more hcs => ?_).2
  refine Classical.not_not.mp fun hne => ?_
  obtain ⟨opening, value, rest, heq, hopening, -, -⟩ := exists_assignment hne
  obtain ⟨word, later, rfl, hword⟩ := hopening.eq_append
  refine holdsWord_eq_false_iff.mp h word hword ⟨front, later ++ (value ++ rest), ?_⟩
  rw [List.append_nil] at heq
  rw [hcs, heq]
  simp

end Failsafe.Redaction
