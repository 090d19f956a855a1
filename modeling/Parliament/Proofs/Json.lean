import Parliament.Json.Number

/-! # Values that can be written

What is written holds no defects, its keys are spelled and its integers fit into 64 bits. How deep
it is nested decides how much room a reader needs.
-/

namespace Parliament.Json

inductive Plain : Json → Prop
  | null : Plain .null
  | bool (b : Bool) : Plain (.bool b)
  | int {n : Int} (short : n.natAbs ≤ maxWord) : Plain (.int n)
  | text (s : String) : Plain (.text s)
  | array {items : List Json} (items_plain : ∀ j ∈ items, Plain j) : Plain (.array items)
  | object {fields : List (Option String × Json)} (spelled : ∀ f ∈ fields, f.1.isSome = true)
    (fields_plain : ∀ f ∈ fields, Plain f.2) : Plain (.object fields)

attribute [simp] Plain.null Plain.bool Plain.text

theorem plain_nat {n : Nat} (short : n ≤ maxWord) : Plain (.nat n) := .int (by simpa using short)

theorem plain_list {α : Type} {w : α → Json} (h : ∀ a, (w a).Plain) (l : List α) :
    (list w l).Plain := by
  apply Plain.array
  intro j hj
  obtain ⟨a, -, rfl⟩ := List.mem_map.1 hj
  exact h a

@[simp] theorem plain_obj_iff {fields : List (String × Json)} :
    (obj fields).Plain ↔ ∀ f ∈ fields, f.2.Plain := by
  constructor
  · intro h f hf
    cases h with
    | object _ fields_plain => exact fields_plain _ (List.mem_map_of_mem hf)
  · intro h
    apply Plain.object
    · intro f hf
      obtain ⟨g, -, rfl⟩ := List.mem_map.1 hf
      rfl
    · intro f hf
      obtain ⟨g, hg, rfl⟩ := List.mem_map.1 hf
      exact h g hg

/-! ## Depth -/

def depth (j : Json) : Nat := j.survey.depth

theorem depth_surveyItems_le {items : List Json} {n : Nat} :
    (surveyItems items).depth ≤ n ↔ ∀ j ∈ items, j.depth ≤ n := by
  induction items with
  | nil => simp [surveyItems, Survey.plain]
  | cons j items ih =>
    rw [surveyItems, List.forall_mem_cons, ← ih]
    exact Nat.max_le

theorem depth_surveyFields_le {fields : List (Option String × Json)} {n : Nat} :
    (surveyFields fields).depth ≤ n ↔ ∀ f ∈ fields, f.2.depth ≤ n := by
  induction fields with
  | nil => simp [surveyFields, Survey.plain]
  | cons f fields ih =>
    obtain ⟨key, j⟩ := f
    rw [surveyFields, List.forall_mem_cons, ← ih]
    show max (max 0 j.depth) _ ≤ n ↔ _
    rw [Nat.max_le, Nat.zero_max]

theorem depth_array_le {items : List Json} {room : Nat} :
    (array items).depth ≤ room ↔ ∃ inner, room = inner + 1 ∧ ∀ j ∈ items, j.depth ≤ inner := by
  show (surveyItems items).depth + 1 ≤ room ↔ _
  constructor
  · intro h
    exact ⟨room - 1, by omega, depth_surveyItems_le.1 (by omega)⟩
  · rintro ⟨inner, rfl, h⟩
    exact Nat.succ_le_succ (depth_surveyItems_le.2 h)

theorem depth_list_le {α : Type} {w : α → Json} {l : List α} {room : Nat} :
    (list w l).depth ≤ room ↔ ∃ inner, room = inner + 1 ∧ ∀ a ∈ l, (w a).depth ≤ inner := by
  rw [list, depth_array_le]
  simp only [List.forall_mem_map]

theorem depth_obj_le {fields : List (String × Json)} {room : Nat} :
    (obj fields).depth ≤ room ↔ ∃ inner, room = inner + 1 ∧ ∀ f ∈ fields, f.2.depth ≤ inner := by
  show (surveyFields (fields.map fun f => (some f.1, f.2))).depth + 1 ≤ room ↔ _
  have parts (inner : Nat) : (surveyFields (fields.map fun f => (some f.1, f.2))).depth ≤ inner ↔
      ∀ f ∈ fields, f.2.depth ≤ inner := by
    rw [depth_surveyFields_le, List.forall_mem_map]
  constructor
  · intro h
    exact ⟨room - 1, by omega, (parts _).1 (by omega)⟩
  · rintro ⟨inner, rfl, h⟩
    exact Nat.succ_le_succ ((parts inner).2 h)

theorem depth_obj_pos (fields : List (String × Json)) : 0 < (obj fields).depth := Nat.succ_pos _

/-! ## Values that are set aside -/

theorem Plain.whole_and_legible {j : Json} (h : j.Plain) :
    j.survey.whole = true ∧ j.survey.legible = true := by
  induction h with
  | null | bool | int | text => exact ⟨rfl, rfl⟩
  | @array items _ ih =>
    have rest : (surveyItems items).whole = true ∧ (surveyItems items).legible = true := by
      induction items with
      | nil => exact ⟨rfl, rfl⟩
      | cons j items tail =>
        have first := ih j List.mem_cons_self
        have others := tail (by grind) fun i hi => ih i (List.mem_cons_of_mem j hi)
        simp [surveyItems, Survey.join, first, others]
    exact rest
  | @object fields spelled _ ih =>
    have rest : (surveyFields fields).whole = true ∧ (surveyFields fields).legible = true := by
      induction fields with
      | nil => exact ⟨rfl, rfl⟩
      | cons f fields tail =>
        obtain ⟨key, j⟩ := f
        have first := ih (key, j) List.mem_cons_self
        have named := spelled (key, j) List.mem_cons_self
        have others := tail (by grind) (by grind) fun i hi => ih i (List.mem_cons_of_mem _ hi)
        simp_all [surveyFields, Survey.join, Survey.ofKey]
    exact rest

theorem Plain.fits {j : Json} (h : j.Plain) {room : Nat} (room_enough : j.depth ≤ room) :
    j.fits room = true := by
  obtain ⟨whole, legible⟩ := h.whole_and_legible
  have shallow : j.survey.depth ≤ room := room_enough
  simp [Json.fits, whole, legible, shallow]

end Parliament.Json
