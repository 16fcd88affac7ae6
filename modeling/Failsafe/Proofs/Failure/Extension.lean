import Failsafe.Failure.Classify
import Mathlib.Data.List.Find
import Mathlib.Data.List.Infix

/-!
# More text never weakens a classification

A failure is classified by the words that its text holds in lower case. Lower case depends on the neighbours of a
character in one place only, the capital sigma, and no word has a sigma in it. With the two small sigmas taken as one,
lower case goes character by character (`map_unfinal_lowerFrom`). So the words of a text are still there when more text
is put around it, and the case of ASCII letters does not matter (`echoes_extended`).

A rule asks for words and never for their absence, so that a text with more words falls under the same rule or under one
that is tried earlier (`Echoes.findIdx_le`), and a word that makes a failure critical still does
(`classify_extended`).
-/

namespace Failsafe

/-! ## Lower case, character by character -/

namespace Unicode

/-- The small sigma in its usual form for either form; any other character as it is. -/
def unfinal (c : Char) : Char := if c = 'ς' then 'σ' else c

/-- The lower-case form of a character, with the small sigmas taken as one. -/
def plainForm (c : Char) : List Char := (lowerChar c).map unfinal

theorem plainForm_sigma : plainForm 'Σ' = ['σ'] := by decide

theorem map_unfinal_lowerFrom (before cs : List Char) :
    (lowerFrom before cs).map unfinal = cs.flatMap plainForm := by
  induction cs generalizing before with
  | nil => rfl
  | cons c rest ih =>
    unfold lowerFrom
    rw [List.map_append, ih, List.flatMap_cons]
    congr 1
    by_cases hsigma : c = 'Σ'
    · rw [if_pos hsigma, hsigma, plainForm_sigma]
      split <;> rfl
    · rw [if_neg hsigma]
      rfl

theorem toLower_ascii_iff (c : Char) : c.toLower.toNat < 0x80 ↔ c.toNat < 0x80 := by
  unfold Char.toLower
  split
  · next h =>
    obtain ⟨hlow, hhigh⟩ := h
    rw [ge_iff_le, UInt32.le_iff_toNat_le] at hlow
    rw [UInt32.le_iff_toNat_le] at hhigh
    show (c.val + 32).toNat < 0x80 ↔ c.val.toNat < 0x80
    rw [UInt32.toNat_add]
    simp at hlow hhigh ⊢
    omega
  · exact Iff.rfl

theorem toLower_wide {c : Char} (h : ¬ c.toNat < 0x80) : c.toLower = c := by
  unfold Char.toLower
  refine dif_neg ?_
  rintro ⟨-, hhigh⟩
  rw [UInt32.le_iff_toNat_le] at hhigh
  exact h (Nat.lt_of_le_of_lt hhigh (by decide))

/-- Characters that differ in the case of an ASCII letter have the same lower-case form. -/
theorem plainForm_congr {c d : Char} (h : c.toLower = d.toLower) : plainForm c = plainForm d := by
  have hascii : c.toNat < 0x80 ↔ d.toNat < 0x80 := by rw [← toLower_ascii_iff, h, toLower_ascii_iff]
  by_cases hc : c.toNat < 0x80
  · unfold plainForm lowerChar
    rw [if_pos hc, if_pos (hascii.mp hc), h]
  · rw [toLower_wide hc, toLower_wide (mt hascii.mpr hc)] at h
    rw [h]

theorem flatMap_plainForm_congr {cs ds : List Char} (h : cs.map Char.toLower = ds.map Char.toLower) :
    cs.flatMap plainForm = ds.flatMap plainForm := by
  induction cs generalizing ds with
  | nil => rw [List.map_eq_nil_iff.mp h.symm]
  | cons c rest ih =>
    cases ds with
    | nil => exact absurd h nofun
    | cons d more =>
      obtain ⟨hhead, htail⟩ := List.cons.inj h
      rw [List.flatMap_cons, List.flatMap_cons, plainForm_congr hhead, ih htail]

end Unicode

open Unicode

/-! ## Words in a text -/

theorem occursIn_iff (word text : List Char) : occursIn word text = true ↔ word <:+: text := by
  induction text with
  | nil =>
    unfold occursIn
    rw [List.isEmpty_iff, List.infix_nil]
  | cons c rest ih =>
    unfold occursIn
    rw [Bool.or_eq_true, ih, List.isPrefixOf_iff_prefix, List.infix_cons_iff]

/-- The word has no small sigma in it. -/
def SigmaFree (word : String) : Prop := ∀ c ∈ word.toList, c ≠ 'σ' ∧ c ≠ 'ς'

-- Going through the word, where a search might go through all characters there are.
instance (word : String) : Decidable (SigmaFree word) :=
  List.decidableBAll (fun c => c ≠ 'σ' ∧ c ≠ 'ς') word.toList

theorem map_unfinal_eq_iff {word : String} (hword : SigmaFree word) (part : List Char) :
    part.map unfinal = word.toList ↔ part = word.toList := by
  have hkept : ∀ c, unfinal c ≠ 'σ' → unfinal c = c := by
    intro c hc
    refine if_neg fun hfinal => hc ?_
    exact if_pos hfinal
  constructor
  · intro h
    rw [← h]
    refine (List.map_id part).symm.trans (List.map_congr_left fun c hc => ?_)
    exact (hkept c (hword _ (h ▸ List.mem_map_of_mem hc)).1).symm
  · rintro rfl
    refine (List.map_congr_left fun c hc => ?_).trans (List.map_id _)
    exact if_neg (hword c hc).2

/-- A word without a sigma is found in lower case where it is found character by character. -/
theorem holds_lowerFrom_iff {word : String} (hword : SigmaFree word) (before cs : List Char) :
    holds (lowerFrom before cs) word = true ↔ word.toList <:+: cs.flatMap plainForm := by
  unfold holds
  rw [occursIn_iff, ← map_unfinal_lowerFrom before cs]
  constructor
  · intro h
    have hmap := h.map unfinal
    rwa [(map_unfinal_eq_iff hword _).mpr rfl] at hmap
  · rintro ⟨front, rest, h⟩
    obtain ⟨first, last, hcut, hfirst, -⟩ := List.map_eq_append_iff.mp h.symm
    obtain ⟨front', part, hcut', -, hpart⟩ := List.map_eq_append_iff.mp hfirst
    refine ⟨front', last, ?_⟩
    rw [hcut, hcut', (map_unfinal_eq_iff hword part).mp hpart]

/-- Every word of the first text, sigmas apart, is held by the second one. -/
def Echoes (text text' : List Char) : Prop :=
  ∀ word, SigmaFree word → holds text word = true → holds text' word = true

theorem echoes_extended {cs ds : List Char} (h : cs.map Char.toLower = ds.map Char.toLower) (front rest : List Char) :
    Echoes (lowerFrom [] cs) (lowerFrom [] (front ++ ds ++ rest)) := by
  intro word hword hholds
  rw [holds_lowerFrom_iff hword] at hholds ⊢
  rw [List.flatMap_append, List.flatMap_append, ← flatMap_plainForm_congr h]
  obtain ⟨before, after, heq⟩ := hholds
  refine ⟨front.flatMap plainForm ++ before, after ++ rest.flatMap plainForm, ?_⟩
  rw [← heq]
  simp only [List.append_assoc]

/-! ## Rules on words -/

namespace KeywordRule

/-- The words that a rule asks for. -/
def words (rule : KeywordRule) : List String := rule.groups.flatten

theorem sigmaFree_words : ∀ rule ∈ all, ∀ word ∈ rule.words, SigmaFree word := by decide

theorem categories_nodup : (all.map category).Nodup := by decide

/-- Rules for different categories: the place of the rule that is found is told by its category. -/
theorem findIdx_category {rules : List KeywordRule} (hnodup : (rules.map category).Nodup) {p : KeywordRule → Bool}
    {rule : KeywordRule} (h : rules.find? p = some rule) :
    rules.findIdx (·.category = rule.category) = rules.findIdx p := by
  induction rules with
  | nil => exact absurd h nofun
  | cons first rest ih =>
    rw [List.map_cons, List.nodup_cons] at hnodup
    rw [List.find?_cons] at h
    rw [List.findIdx_cons, List.findIdx_cons]
    by_cases hfirst : p first = true
    · rw [hfirst] at h ⊢
      obtain rfl := Option.some.inj h
      simp
    · rw [Bool.not_eq_true] at hfirst
      rw [hfirst] at h ⊢
      have hother : first.category ≠ rule.category := by
        intro hsame
        exact hnodup.1 (hsame ▸ List.mem_map_of_mem (List.mem_of_find?_eq_some h))
      rw [decide_eq_false hother, ih hnodup.2 h]

end KeywordRule

theorem sigmaFree_criticalMarkers : ∀ word ∈ criticalMarkers, SigmaFree word := by decide

/-- The place of the rule that a category belongs to; categories without a rule come last. -/
def Category.rank (category : Category) : Nat := KeywordRule.all.findIdx (·.category = category)

/-- The rank of the categories without a rule. -/
def lastRank : Nat := KeywordRule.all.length

theorem rank_fallback (kind : FailureKind) : kind.fallback.rank = lastRank := by cases kind <;> rfl

theorem rank_classifyText (kind : FailureKind) (text : List Char) :
    (classifyText kind text).1.rank = KeywordRule.all.findIdx (·.applies text) := by
  unfold classifyText
  cases hfound : KeywordRule.all.find? (·.applies text) with
  | some rule => exact KeywordRule.findIdx_category KeywordRule.categories_nodup hfound
  | none =>
    rw [List.find?_eq_none] at hfound
    refine (rank_fallback kind).trans (List.findIdx_eq_length_of_false fun rule hrule => ?_).symm
    exact Bool.eq_false_iff.mpr (hfound rule hrule)

theorem classifyText_last {kind : FailureKind} {text : List Char}
    (h : KeywordRule.all.findIdx (·.applies text) = lastRank) :
    classifyText kind text = (kind.fallback, fallbackSeverity kind.fallback text) := by
  have hnone : KeywordRule.all.find? (·.applies text) = none := by
    rw [List.find?_eq_none]
    intro rule hrule
    exact Bool.eq_false_iff.mp (List.findIdx_eq_length.mp h rule hrule)
  unfold classifyText
  rw [hnone]

/-- The words that a classification looks for. -/
def vocabulary : List String := KeywordRule.all.flatMap KeywordRule.words ++ criticalMarkers

theorem sigmaFree_vocabulary {word : String} (h : word ∈ vocabulary) : SigmaFree word := by
  rcases List.mem_append.mp h with hword | hmarker
  · obtain ⟨rule, hrule, hword⟩ := List.mem_flatMap.mp hword
    exact KeywordRule.sigmaFree_words rule hrule word hword
  · exact sigmaFree_criticalMarkers word hmarker

/-- Texts in which the same words are found are classified alike. -/
theorem classifyText_congr {text text' : List Char} (h : ∀ word ∈ vocabulary, holds text' word = holds text word)
    (kind : FailureKind) : classifyText kind text' = classifyText kind text := by
  have happlies : ∀ rule ∈ KeywordRule.all, rule.applies text' = rule.applies text := by
    intro rule hrule
    unfold KeywordRule.applies
    rw [Bool.eq_iff_iff, List.all_eq_true, List.all_eq_true]
    refine forall₂_congr fun words hwords => ?_
    rw [List.any_eq_true, List.any_eq_true]
    refine exists_congr fun word => and_congr_right fun hword => ?_
    have hmem : word ∈ vocabulary :=
      List.mem_append_left _ (List.mem_flatMap.mpr ⟨rule, hrule, List.mem_flatten_of_mem hwords hword⟩)
    rw [h word hmem]
  have hmarkers : criticalMarkers.any (holds text') = criticalMarkers.any (holds text) := by
    rw [Bool.eq_iff_iff, List.any_eq_true, List.any_eq_true]
    refine exists_congr fun word => and_congr_right fun hword => ?_
    rw [h word (List.mem_append_right _ hword)]
  unfold classifyText fallbackSeverity
  rw [List.find?_congr happlies, hmarkers]

theorem fallbackSeverity_critical_iff (category : Category) (text : List Char) :
    fallbackSeverity category text = .critical ↔ criticalMarkers.any (holds text) = true := by
  unfold fallbackSeverity
  by_cases h : criticalMarkers.any (holds text) = true
  · rw [if_pos h]
    exact iff_of_true rfl h
  · rw [if_neg h]
    refine iff_of_false ?_ h
    split <;> exact nofun

namespace Echoes

variable {text text' : List Char}

theorem applies (h : Echoes text text') {rule : KeywordRule} (hrule : rule ∈ KeywordRule.all)
    (happlies : rule.applies text = true) : rule.applies text' = true := by
  unfold KeywordRule.applies at happlies ⊢
  rw [List.all_eq_true] at happlies ⊢
  intro words hwords
  obtain ⟨word, hword, hholds⟩ := List.any_eq_true.mp (happlies words hwords)
  have hfree := KeywordRule.sigmaFree_words rule hrule word (List.mem_flatten_of_mem hwords hword)
  exact List.any_eq_true.mpr ⟨word, hword, h word hfree hholds⟩

/-- A text with more words falls under the same rule or an earlier one. -/
theorem findIdx_le (h : Echoes text text') :
    KeywordRule.all.findIdx (·.applies text') ≤ KeywordRule.all.findIdx (·.applies text) :=
  List.findIdx_le_findIdx fun _ hrule happlies => h.applies hrule happlies

theorem any_criticalMarkers (h : Echoes text text') (hany : criticalMarkers.any (holds text) = true) :
    criticalMarkers.any (holds text') = true := by
  obtain ⟨word, hword, hholds⟩ := List.any_eq_true.mp hany
  exact List.any_eq_true.mpr ⟨word, hword, h word (sigmaFree_criticalMarkers word hword) hholds⟩

/-- Texts with the same words are classified alike. -/
theorem classifyText_eq (h : Echoes text text') (h' : Echoes text' text) (kind : FailureKind) :
    classifyText kind text' = classifyText kind text := by
  refine classifyText_congr (fun word hword => ?_) kind
  have hfree := sigmaFree_vocabulary hword
  rw [Bool.eq_iff_iff]
  exact ⟨h' word hfree, h word hfree⟩

end Echoes

theorem classify_eq {kind : FailureKind} (hkind : kind ≠ .connection ∧ kind ≠ .timeout) (message : String) :
    classify kind message = classifyText kind (lowerFrom [] message.toList) := by
  cases kind with
  | connection => exact absurd rfl hkind.1
  | timeout => exact absurd rfl hkind.2
  | sdk => rfl
  | transaction => rfl
  | other => rfl

/-- **More text never weakens a classification.** Let the kind of a failure leave it to the text. When the case of ASCII
letters is changed and text is put in front and behind, the failure falls under the same rule or an earlier one. If
it fell under no rule and was critical, then it still is, unless it has come under a rule. When only letters are
recased, category and severity stay. -/
theorem classify_extended {kind : FailureKind} (hkind : kind ≠ .connection ∧ kind ≠ .timeout)
    {message recased : String} (hcase : recased.toList.map Char.toLower = message.toList.map Char.toLower)
    (front rest : String) :
    (classify kind (front ++ recased ++ rest)).1.rank ≤ (classify kind message).1.rank ∧
    ((classify kind message).1.rank = lastRank → (classify kind message).2 = .critical →
      (classify kind (front ++ recased ++ rest)).2 = .critical ∨
        (classify kind (front ++ recased ++ rest)).1.rank < lastRank) ∧
    classify kind recased = classify kind message := by
  have hextended : (front ++ recased ++ rest).toList = front.toList ++ recased.toList ++ rest.toList := by
    rw [String.toList_append, String.toList_append]
  have hechoes := echoes_extended hcase.symm front.toList rest.toList
  rw [← hextended] at hechoes
  rw [classify_eq hkind, classify_eq hkind, classify_eq hkind, rank_classifyText, rank_classifyText]
  refine ⟨hechoes.findIdx_le, fun hlast hcritical => ?_, ?_⟩
  · rw [classifyText_last hlast] at hcritical
    rcases Nat.lt_or_eq_of_le (Nat.le_trans hechoes.findIdx_le (Nat.le_of_eq hlast)) with hearlier | hlast'
    · exact .inr hearlier
    · rw [classifyText_last hlast']
      rw [fallbackSeverity_critical_iff] at hcritical ⊢
      exact .inl (hechoes.any_criticalMarkers hcritical)
  · -- With nothing put around it, each text is an extension of the other.
    have hforth := echoes_extended hcase.symm [] []
    have hback := echoes_extended hcase [] []
    rw [List.nil_append, List.append_nil] at hforth hback
    exact hforth.classifyText_eq hback kind

/-- An odd failure of a library, recased, with text around it that ends in a capital sigma and names a limit. -/
theorem classify_extended_sdk :
    (FailureKind.sdk ≠ .connection ∧ FailureKind.sdk ≠ .timeout) ∧
    "FATAL decode error".toList.map Char.toLower = "fatal Decode error".toList.map Char.toLower ∧
    (classify .sdk ("ΟΔΟΣ: " ++ "FATAL decode error" ++ " (429)")).1.rank ≤
      (classify .sdk "fatal Decode error").1.rank := by
  have hkind : FailureKind.sdk ≠ .connection ∧ FailureKind.sdk ≠ .timeout := ⟨nofun, nofun⟩
  have hcase : "FATAL decode error".toList.map Char.toLower = "fatal Decode error".toList.map Char.toLower := by decide
  exact ⟨hkind, hcase, (classify_extended hkind hcase "ΟΔΟΣ: " " (429)").1⟩

end Failsafe
