import Failsafe.Proofs.Redaction.Word
import Failsafe.Redaction.Tree

/-!
# Redacted values

Two things are said of a value that has been redacted.

* Nothing secret shows in it (`Json.Redacted`): no text at any depth has a sensitive word in it, and what stands
  under a sensitive key is the marker (`redacted_redact`).
* It does not depend on what was secret: two values that agree but for what stands under sensitive keys
  (`Json.SameButSecrets`) are redacted to the same value (`redact_congr`).

The parameters of a call are redacted like the fields of an object (`Redactor.fields_enabled`).
-/

namespace Failsafe

open Redaction

/-- A value stands in another one, at any depth. -/
inductive Json.Within (v : Json) : Json → Prop
  | self : Within v v
  | item {w : Json} {items : List Json} (hw : w ∈ items) (h : Within v w) : Within v (.array items)
  | field {key : String} {w : Json} {fields : Fields} (hw : (key, w) ∈ fields) (h : Within v w) :
    Within v (.object fields)

/-- No text in the value has a sensitive word in it, and what stands under a sensitive key is the marker. -/
structure Json.Redacted (v : Json) : Prop where
  texts : ∀ text, Within (.text text) v → isSensitive text = false
  fields : ∀ fields key w, Within (.object fields) v → (key, w) ∈ fields → isSensitive key = true →
    w = .text marker

mutual

/-- The two values have the same shape, and they agree but for what stands under sensitive keys, at any depth. -/
inductive Json.SameButSecrets : Json → Json → Prop
  | refl (v : Json) : Json.SameButSecrets v v
  | array {items items' : List Json} (h : Json.SameItems items items') :
    Json.SameButSecrets (.array items) (.array items')
  | object {fields fields' : Fields} (h : Fields.SameButSecrets fields fields') :
    Json.SameButSecrets (.object fields) (.object fields')

/-- The same of the items of two arrays. -/
inductive Json.SameItems : List Json → List Json → Prop
  | nil : Json.SameItems [] []
  | cons {v v' : Json} {rest rest' : List Json} (h : Json.SameButSecrets v v')
    (hrest : Json.SameItems rest rest') : Json.SameItems (v :: rest) (v' :: rest')

/-- The same of two sets of named values: what stands under a sensitive key may be anything. -/
inductive Fields.SameButSecrets : Fields → Fields → Prop
  | nil : Fields.SameButSecrets [] []
  | secret {key : String} {v v' : Json} {rest rest' : Fields} (hkey : isSensitive key = true)
    (hrest : Fields.SameButSecrets rest rest') : Fields.SameButSecrets ((key, v) :: rest) ((key, v') :: rest')
  | field {key : String} {v v' : Json} {rest rest' : Fields} (h : Json.SameButSecrets v v')
    (hrest : Fields.SameButSecrets rest rest') : Fields.SameButSecrets ((key, v) :: rest) ((key, v') :: rest')

end

/-! ## Nothing secret shows -/

namespace Json.Redacted

/-- A value without parts. -/
theorem leaf {v : Json} (hself : ∀ w, Within w v → w = v) (htext : ∀ text, v ≠ .text text)
    (hobject : ∀ fields, v ≠ .object fields) : v.Redacted :=
  ⟨fun text h => absurd (hself _ h).symm (htext text), fun fields _ _ h => absurd (hself _ h).symm (hobject fields)⟩

theorem text {s : String} (h : isSensitive s = false) : (Json.text s).Redacted := by
  constructor
  · intro other hin
    cases hin
    exact h
  · intro fields key w hin
    cases hin

theorem array {items : List Json} (h : ∀ item ∈ items, item.Redacted) : (Json.array items).Redacted := by
  constructor
  · intro text hin
    cases hin with
    | item hw hin => exact (h _ hw).texts text hin
  · intro fields key w hin
    cases hin with
    | item hw hin => exact (h _ hw).fields fields key w hin

theorem object {fields : Fields}
    (h : ∀ key w, (key, w) ∈ fields → w.Redacted ∧ (isSensitive key = true → w = .text marker)) :
    (Json.object fields).Redacted := by
  constructor
  · intro text hin
    cases hin with
    | field hw hin => exact (h _ _ hw).1.texts text hin
  · intro others key w hin
    cases hin with
    | self => exact fun hmem => (h key w hmem).2
    | field hw hin => exact (h _ _ hw).1.fields others key w hin

end Json.Redacted

namespace Redaction

theorem redacted_marker : (Json.text marker).Redacted := .text (by decide)

mutual

/-- Nothing secret shows in a value that has been redacted. -/
theorem redacted_redact (v : Json) : (redact v).Redacted := by
  unfold redact
  cases v with
  | text s => exact .text (isSensitive_sanitize s)
  | array items => exact .array (redacted_redactItems items)
  | object fields => exact .object (redacted_redactFields fields)
  | null => exact .leaf (fun w h => by cases h; rfl) (by simp) (by simp)
  | bool b => exact .leaf (fun w h => by cases h; rfl) (by simp) (by simp)
  | number n => exact .leaf (fun w h => by cases h; rfl) (by simp) (by simp)

theorem redacted_redactItems (items : List Json) : ∀ item ∈ redactItems items, item.Redacted := by
  cases items with
  | nil => exact List.forall_mem_nil _
  | cons v rest =>
    unfold redactItems
    exact List.forall_mem_cons.mpr ⟨redacted_redact v, redacted_redactItems rest⟩

theorem redacted_redactFields (fields : Fields) (key : String) (w : Json) (h : (key, w) ∈ redactFields fields) :
    w.Redacted ∧ (isSensitive key = true → w = .text marker) := by
  cases fields with
  | nil => exact absurd h (by simp [redactFields])
  | cons field rest =>
    obtain ⟨name, v⟩ := field
    unfold redactFields at h
    rcases List.mem_cons.mp h with h | h
    · obtain ⟨rfl, rfl⟩ := Prod.mk.inj h
      split
      next => exact ⟨redacted_marker, fun _ => rfl⟩
      next hkey => exact ⟨redacted_redact v, fun hsensitive => absurd hsensitive hkey⟩
    · exact redacted_redactFields rest key w h

end

/-! ## What was secret does not matter -/

mutual

/-- Values that agree but for what is secret are redacted to the same value. -/
theorem redact_congr {v v' : Json} (h : v.SameButSecrets v') : redact v = redact v' := by
  cases h with
  | refl => rfl
  | array h => simp only [redact, redactItems_congr h]
  | object h => simp only [redact, redactFields_congr h]

theorem redactItems_congr {items items' : List Json} (h : Json.SameItems items items') :
    redactItems items = redactItems items' := by
  cases h with
  | nil => rfl
  | cons h hrest => simp only [redactItems, redact_congr h, redactItems_congr hrest]

theorem redactFields_congr {fields fields' : Fields} (h : fields.SameButSecrets fields') :
    redactFields fields = redactFields fields' := by
  cases h with
  | nil => rfl
  | secret hkey hrest => simp only [redactFields, hkey, if_true, redactFields_congr hrest]
  | field h hrest => simp only [redactFields, redact_congr h, redactFields_congr hrest]

end

end Redaction

/-! ## The parameters of calls -/

namespace Redactor

/-- Named values are redacted like the fields of an object. -/
theorem fields_enabled (data : Fields) : fields ⟨true⟩ data = redactFields data := by
  unfold fields
  rw [if_pos rfl]
  induction data with
  | nil => rfl
  | cons field rest ih =>
    obtain ⟨key, v⟩ := field
    rw [List.map_cons, ih]
    rfl

theorem redacted_fields (data : Fields) : (Json.object (fields ⟨true⟩ data)).Redacted := by
  rw [fields_enabled]
  exact .object (redacted_redactFields data)

theorem fields_congr {data data' : Fields} (h : data.SameButSecrets data') :
    fields ⟨true⟩ data = fields ⟨true⟩ data' := by
  rw [fields_enabled, fields_enabled, redactFields_congr h]

end Redactor

namespace Fields.SameButSecrets

theorem refl (fields : Fields) : fields.SameButSecrets fields := by
  induction fields with
  | nil => exact .nil
  | cons field rest ih => exact .field (.refl field.2) ih

/-- The keys are the same, those of what is secret among them. -/
theorem keys_eq {fields fields' : Fields} (h : fields.SameButSecrets fields') :
    fields.map Prod.fst = fields'.map Prod.fst := by
  cases h with
  | nil => rfl
  | secret hkey hrest => rw [List.map_cons, List.map_cons, keys_eq hrest]
  | field h hrest => rw [List.map_cons, List.map_cons, keys_eq hrest]

theorem set {fields fields' : Fields} (h : fields.SameButSecrets fields') (key : String) (value : Json) :
    (fields.set key value).SameButSecrets (fields'.set key value) := by
  cases h with
  | nil => exact .field (.refl value) .nil
  | secret hkey hrest =>
    unfold Fields.set
    split
    next => exact .field (.refl value) hrest
    next => exact .secret hkey (set hrest key value)
  | field h hrest =>
    unfold Fields.set
    split
    next => exact .field (.refl value) hrest
    next => exact .field h (set hrest key value)

theorem merge {fields fields' : Fields} (h : fields.SameButSecrets fields') (more : Fields) :
    (fields.merge more).SameButSecrets (fields'.merge more) := by
  unfold Fields.merge
  induction more generalizing fields fields' with
  | nil => exact h
  | cons field rest ih => exact ih (h.set field.1 field.2)

end Fields.SameButSecrets

end Failsafe
