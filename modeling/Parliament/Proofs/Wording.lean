import Parliament.Wording

/-! # Complete wordings

A wording passes if it has a template for every key that is needed. The English one does.
-/

namespace Parliament.Wording

/-! ## Wordings as lists -/

theorem get?_set (w : Wording) (key text other : String) :
    (w.set key text).get? other = if other = key then some text else w.get? other :=
  Entries.get?_insert key other text w.templates

theorem ext_get? {v w : Wording} (h : ∀ key, v.get? key = w.get? key) : v = w := by
  have same := Entries.eq_of_get?_eq v.ascending w.ascending h
  cases v
  cases w
  simpa using same

theorem get?_foldl_set (l : List (String × String)) (w : Wording) (key : String)
    (distinct : (l.map Prod.fst).Nodup) :
    (l.foldl (fun w e => w.set e.1 e.2) w).get? key = (Entries.get? key l).or (w.get? key) := by
  induction l generalizing w with
  | nil => rfl
  | cons e l ih =>
    obtain ⟨k, t⟩ := e
    obtain ⟨new, distinct⟩ := List.nodup_cons.1 distinct
    rw [List.foldl_cons, ih _ distinct, get?_set, Entries.get?]
    split
    next same =>
      -- Its key comes once, so no later template replaces it.
      have later : Entries.get? key l = none := by
        rw [← Option.not_isSome_iff_eq_none, Entries.isSome_get?_iff, same]
        exact new
      rw [later, Option.none_or, Option.some_or]
    next => rfl

/-- Templates whose keys are distinct are found as they are listed, in whatever order that is. -/
theorem get?_ofList {l : List (String × String)} (distinct : (l.map Prod.fst).Nodup)
    (key : String) : (ofList l).get? key = Entries.get? key l := by
  rw [ofList, get?_foldl_set l empty key distinct]
  exact Option.or_none

theorem ofList_templates (w : Wording) : ofList w.templates = w :=
  ext_get? (get?_ofList (Entries.nodup_keys w.ascending))

/-! ## Wordings that pass -/

theorem check_eq_ok {w : Wording} :
    w.check = .ok () ↔ ∀ key ∈ neededKeys, (w.get? key).isSome = true := by
  unfold check missingKey?
  split
  next key h =>
    have missing := List.find?_some h
    simp only [Option.isNone_iff_eq_none] at missing
    constructor
    · intro passes
      simp at passes
    · intro complete
      have there := complete key (List.mem_of_find?_eq_some h)
      simp [missing] at there
  next h =>
    simpa [List.find?_eq_none, Option.isSome_iff_ne_none] using h

theorem distinct_english : (englishTemplates.map Prod.fst).Nodup := by decide +kernel

theorem get?_english (key : String) : english.get? key = Entries.get? key englishTemplates :=
  get?_ofList distinct_english key

theorem check_english : english.check = .ok () := by
  refine check_eq_ok.2 fun key needed => ?_
  rw [get?_english]
  exact Entries.isSome_get?_iff.2 needed

/-! ## Rendering -/

theorem render_eq_ok {w : Wording} {key template : String} (there : w.get? key = some template)
    (values : List (String × String)) : w.render key values = .ok (fill template values) := by
  rw [render, there]

theorem render_english (key : String) (values : List (String × String)) :
    english.render key values = (Entries.get? key englishTemplates).elim
      (.error (.noText key)) fun template => .ok (fill template values) := by
  rw [render, get?_english]
  cases Entries.get? key englishTemplates <;> rfl

end Parliament.Wording
