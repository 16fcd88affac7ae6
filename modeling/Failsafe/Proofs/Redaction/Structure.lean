import Failsafe.Proofs.Redaction.Tree

/-!
# What redacting keeps of a value

A place in a value is reached by steps: to an item of an array, or to a field of an object (`Json.follow`). What a
value shows at a place (`Json.top`) is the value itself if it has no parts, else how many items or which keys it has.

Redacting is told place by place (`Json.Masks`). Where no step of the way has a sensitive key, the same shows as
before, but that texts are sanitized. Where the last step is the first with a sensitive key, the marker stands in the
place of whatever stood there. These two facts leave no choice: there is one value that has them, and it is the
redacted one (`redact_iff_masks`).
-/

namespace Failsafe

open Redaction

namespace Json

/-- A step from a value to one of its parts. -/
inductive PartStep where
  | item (place : Nat)
  | field (place : Nat) (key : String)

/-- The part of a value at the end of a step. -/
def part? : Json → PartStep → Option Json
  | .array items, .item place => items[place]?
  | .object fields, .field place key =>
    fields[place]?.bind fun (name, w) => if name = key then some w else none
  | _, _ => none

/-- The value at the end of a way. -/
def follow : Json → List PartStep → Option Json
  | v, [] => some v
  | v, step :: way => (v.part? step).bind (follow · way)

/-- What a value shows without its parts. -/
inductive Top where
  | null
  | bool (value : Bool)
  | number (value : Number)
  | text (value : String)
  | array (size : Nat)
  | object (keys : List String)

def top : Json → Top
  | .null => .null
  | .bool b => .bool b
  | .number n => .number n
  | .text s => .text s
  | .array items => .array items.length
  | .object fields => .object (fields.map Prod.fst)

/-- The same with a text sanitized. -/
def Top.sanitized : Top → Top
  | .text s => .text (sanitize s)
  | shown => shown

/-- A step to what stands under a sensitive key. -/
def PartStep.IsSecret : PartStep → Prop
  | .item _ => False
  | .field _ key => isSensitive key = true

/-- No step of the way has a sensitive key. -/
def Open (way : List PartStep) : Prop := ∀ step ∈ way, ¬ step.IsSecret

/-- The second value is the first one with its secrets masked: what an open way leads to shows the same, but for
texts, which are sanitized, and the marker stands at the end of an open way and a secret step. -/
structure Masks (v w : Json) : Prop where
  shown : ∀ way, Open way → (w.follow way).map top = (v.follow way).map (·.top.sanitized)
  hidden : ∀ way step, Open way → step.IsSecret →
    w.follow (way ++ [step]) = (v.follow (way ++ [step])).map fun _ => .text marker

theorem follow_cons (v : Json) (step : PartStep) (way : List PartStep) :
    v.follow (step :: way) = (v.part? step).bind (follow · way) := rfl

theorem open_nil : Open [] := List.forall_mem_nil _

theorem open_cons {step : PartStep} {way : List PartStep} : Open (step :: way) ↔ ¬ step.IsSecret ∧ Open way :=
  List.forall_mem_cons

end Json

namespace Redaction

open Json (PartStep Open Masks Top)

/-! ## One step -/

theorem redactItems_eq_map (items : List Json) : redactItems items = items.map redact := by
  induction items with
  | nil => rfl
  | cons item rest ih =>
    unfold redactItems
    rw [ih, List.map_cons]

/-- What is left of the value of a field. -/
def redactUnder (key : String) (v : Json) : Json := if isSensitive key then .text marker else redact v

theorem redactFields_eq_map (fields : Fields) :
    redactFields fields = fields.map fun field => (field.1, redactUnder field.1 field.2) := by
  induction fields with
  | nil => rfl
  | cons field rest ih =>
    obtain ⟨key, v⟩ := field
    unfold redactFields
    rw [ih, List.map_cons]
    rfl

theorem top_redact (v : Json) : (redact v).top = v.top.sanitized := by
  cases v with
  | array items =>
    show Top.array (redactItems items).length = .array items.length
    rw [redactItems_eq_map, List.length_map]
  | object fields =>
    show Top.object ((redactFields fields).map Prod.fst) = .object (fields.map Prod.fst)
    rw [redactFields_eq_map, List.map_map]
    rfl
  | null | bool b | number n | text s => rfl

/-- What a field holds is redacted under its name. -/
theorem part?_redact_field (fields : Fields) (place : Nat) (key : String) :
    (redact (.object fields)).part? (.field place key) =
      ((Json.object fields).part? (.field place key)).map (redactUnder key) := by
  show (redactFields fields)[place]?.bind (fun (name, w) => if name = key then some w else none) =
    (fields[place]?.bind fun (name, w) => if name = key then some w else none).map (redactUnder key)
  rw [redactFields_eq_map, List.getElem?_map]
  cases fields[place]? with
  | none => rfl
  | some field =>
    obtain ⟨name, w⟩ := field
    by_cases hname : name = key
    · simp [hname]
    · simp [hname]

/-- The part a step leads to is redacted if the step is open, and gives way to the marker if it is secret. -/
theorem part?_redact (v : Json) (step : PartStep) :
    (¬ step.IsSecret → (redact v).part? step = (v.part? step).map redact) ∧
    (step.IsSecret → (redact v).part? step = (v.part? step).map fun _ => .text marker) := by
  cases v with
  | array items =>
    cases step with
    | item place =>
      refine ⟨fun _ => ?_, False.elim⟩
      show (redactItems items)[place]? = items[place]?.map redact
      rw [redactItems_eq_map, List.getElem?_map]
    | field place key => exact ⟨fun _ => rfl, fun _ => rfl⟩
  | object fields =>
    cases step with
    | item place => exact ⟨fun _ => rfl, fun _ => rfl⟩
    | field place key =>
      rw [part?_redact_field]
      constructor
      · intro hopen
        have hredacted : redactUnder key = redact := funext fun w => if_neg hopen
        rw [hredacted]
      · intro hsecret
        have hmarked : redactUnder key = fun _ => .text marker := funext fun w => if_pos hsecret
        rw [hmarked]
  | null | bool b | number n | text s => cases step <;> exact ⟨fun _ => rfl, fun _ => rfl⟩

/-! ## A whole way -/

theorem follow_redact {way : List PartStep} (hopen : Open way) (v : Json) :
    (redact v).follow way = (v.follow way).map redact := by
  induction way generalizing v with
  | nil => rfl
  | cons step way ih =>
    obtain ⟨hstep, hway⟩ := Json.open_cons.mp hopen
    rw [Json.follow_cons, (part?_redact v step).1 hstep, Json.follow_cons]
    cases v.part? step with
    | none => rfl
    | some part => exact ih hway part

theorem follow_append (v : Json) (way more : List PartStep) :
    v.follow (way ++ more) = (v.follow way).bind (·.follow more) := by
  induction way generalizing v with
  | nil => rfl
  | cons step way ih =>
    rw [List.cons_append, Json.follow_cons, Json.follow_cons]
    cases v.part? step with
    | none => rfl
    | some part => exact ih part

theorem masks_redact (v : Json) : Masks v (redact v) := by
  constructor
  · intro way hopen
    rw [follow_redact hopen, Option.map_map]
    congr 1
    funext part
    exact top_redact part
  · intro way step hopen hsecret
    rw [follow_append, follow_redact hopen, follow_append]
    cases v.follow way with
    | none => rfl
    | some part =>
      show ((redact part).part? step).bind _ = ((part.part? step).bind _).map _
      rw [(part?_redact part step).2 hsecret]
      cases part.part? step <;> rfl

end Redaction

/-! ## No other value -/

namespace Json.Masks

theorem top_eq {v w : Json} (h : Masks v w) : w.top = v.top.sanitized := Option.some.inj (h.shown [] open_nil)

/-- What is said of two values is said of the parts that an open step leads to. -/
theorem part {v w u x : Json} (h : Masks v w) (step : PartStep) (hstep : ¬ step.IsSecret)
    (hu : v.part? step = some u) (hx : w.part? step = some x) : Masks u x := by
  constructor
  · intro way hopen
    have hshown := h.shown (step :: way) (open_cons.mpr ⟨hstep, hopen⟩)
    rw [follow_cons, follow_cons, hu, hx] at hshown
    exact hshown
  · intro way last hopen hsecret
    have hhidden := h.hidden (step :: way) last (open_cons.mpr ⟨hstep, hopen⟩) hsecret
    rw [List.cons_append, follow_cons, follow_cons, hu, hx] at hhidden
    exact hhidden

theorem marker {v w u x : Json} (h : Masks v w) (step : PartStep) (hstep : step.IsSecret)
    (hu : v.part? step = some u) (hx : w.part? step = some x) : x = .text Redaction.marker := by
  have hhidden := h.hidden [] step open_nil hstep
  rw [List.nil_append, follow_cons, follow_cons, hu, hx] at hhidden
  exact Option.some.inj hhidden

theorem array {items : List Json} {w : Json} (h : Masks (.array items) w) :
    ∃ items', w = .array items' ∧ items'.length = items.length ∧
      ∀ (place : Nat) (u x : Json), items[place]? = some u → items'[place]? = some x → Masks u x := by
  have htop := h.top_eq
  cases w with
  | array items' =>
    refine ⟨items', rfl, Top.array.inj htop, fun place u x hu hx => ?_⟩
    exact h.part (.item place) id hu hx
  | _ => exact absurd htop nofun

theorem object {fields : Fields} {w : Json} (h : Masks (.object fields) w) :
    ∃ fields', w = .object fields' ∧ fields'.map Prod.fst = fields.map Prod.fst ∧
      ∀ (place : Nat) (key : String) (u x : Json), fields[place]? = some (key, u) → fields'[place]? = some (key, x) →
        (isSensitive key = true → x = .text Redaction.marker) ∧ (¬ isSensitive key = true → Masks u x) := by
  have htop := h.top_eq
  cases w with
  | object fields' =>
    refine ⟨fields', rfl, Top.object.inj htop, fun place key u x hu hx => ?_⟩
    have hpart : ∀ {those : Fields} {y : Json}, those[place]? = some (key, y) →
        (Json.object those).part? (.field place key) = some y := by
      intro those y hy
      show those[place]?.bind (fun (name, z) => if name = key then some z else none) = some y
      rw [hy]
      exact if_pos rfl
    exact ⟨fun hkey => h.marker (.field place key) hkey (hpart hu) (hpart hx),
      fun hkey => h.part (.field place key) hkey (hpart hu) (hpart hx)⟩
  | _ => exact absurd htop nofun

end Json.Masks

namespace Redaction

mutual

/-- Only the redacted value masks the secrets of a value. -/
theorem redact_of_masks (v w : Json) (h : v.Masks w) : redact v = w := by
  cases v with
  | array items =>
    obtain ⟨items', rfl, hsize, hparts⟩ := h.array
    rw [redact, redactItems_of_masks items items' hsize hparts]
  | object fields =>
    obtain ⟨fields', rfl, hkeys, hparts⟩ := h.object
    rw [redact, redactFields_of_masks fields fields' hkeys hparts]
  | null =>
    cases w with
    | null => rfl
    | _ => exact absurd h.top_eq nofun
  | bool b =>
    cases w with
    | bool c => rw [redact, Json.Top.bool.inj h.top_eq]
    | _ => exact absurd h.top_eq nofun
  | number n =>
    cases w with
    | number k => rw [redact, Json.Top.number.inj h.top_eq]
    | _ => exact absurd h.top_eq nofun
  | text s =>
    cases w with
    | text t => rw [redact, Json.Top.text.inj h.top_eq]
    | _ => exact absurd h.top_eq nofun

theorem redactItems_of_masks (items items' : List Json) (hsize : items'.length = items.length)
    (h : ∀ (place : Nat) (u x : Json), items[place]? = some u → items'[place]? = some x → u.Masks x) :
    redactItems items = items' := by
  cases items with
  | nil => rw [redactItems, List.length_eq_zero_iff.mp hsize]
  | cons u rest =>
    cases items' with
    | nil => exact absurd hsize nofun
    | cons x rest' =>
      rw [redactItems, redact_of_masks u x (h 0 u x rfl rfl),
        redactItems_of_masks rest rest' (Nat.succ.inj hsize) fun place => h (place + 1)]

theorem redactFields_of_masks (fields fields' : Fields) (hkeys : fields'.map Prod.fst = fields.map Prod.fst)
    (h : ∀ (place : Nat) (key : String) (u x : Json), fields[place]? = some (key, u) → fields'[place]? = some (key, x) →
      (isSensitive key = true → x = .text marker) ∧ (¬ isSensitive key = true → u.Masks x)) :
    redactFields fields = fields' := by
  cases fields with
  | nil => rw [redactFields, List.map_eq_nil_iff.mp hkeys]
  | cons field rest =>
    obtain ⟨key, u⟩ := field
    cases fields' with
    | nil => exact absurd hkeys nofun
    | cons field' rest' =>
      obtain ⟨key', x⟩ := field'
      obtain ⟨hkey, hrest⟩ := List.cons.inj hkeys
      obtain rfl : key' = key := hkey
      obtain ⟨hsecret, hopen⟩ := h 0 key' u x rfl rfl
      rw [redactFields, redactFields_of_masks rest rest' hrest fun place => h (place + 1)]
      by_cases hkey : isSensitive key' = true
      · rw [if_pos hkey, hsecret hkey]
      · rw [if_neg hkey, redact_of_masks u x (hopen hkey)]

end

/-- **What redacting keeps of a value.** The redacted value is the one value that shows the same at every place outside
the secret ones: the same keys, as many items in the same order, the same numbers, flags and nulls, and the texts
sanitized; with the marker in the place of each value under a sensitive key. Named values are redacted, by an
enabled redactor, to the fields of the redacted object. -/
theorem redact_iff_masks :
    (∀ v w : Json, redact v = w ↔ v.Masks w) ∧
    ∀ data : Fields, Json.object (Redactor.fields ⟨true⟩ data) = redact (.object data) := by
  constructor
  · intro v w
    constructor
    · intro h
      rw [← h]
      exact masks_redact v
    · exact redact_of_masks v w
  · intro data
    rw [Redactor.fields_enabled]
    rfl

end Redaction

end Failsafe
