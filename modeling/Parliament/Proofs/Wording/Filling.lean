import Mathlib.Data.List.Induction
import Parliament.Description
import Parliament.Proofs.Wording.Places

/-! # Texts that are filled in

A template ought to be filled as if all its places were filled at once. It is filled one name after
the other, and that comes to the same as long as no text that was filled in makes a place for a
later name, alone or with what stands beside it.
-/

namespace Parliament.Wording

/-! ## One more value -/

section

variable {values : List (String × String)} {v : String × String}

theorem Proper.mono {others : List (String × String)} (h : Proper values)
    (fewer : (others.map Prod.fst).Sublist (values.map Prod.fst)) : Proper others := by
  refine ⟨fun u mem => ?_, h.distinct.sublist fewer⟩
  obtain ⟨w, there, same⟩ := List.mem_map.1 (fewer.subset (List.mem_map_of_mem mem))
  exact same ▸ h.plain w there

theorem Proper.init (h : Proper (values ++ [v])) : Proper values :=
  h.mono ((List.sublist_append_left values [v]).map Prod.fst)

theorem Proper.last (h : Proper (values ++ [v])) : Proper [v] :=
  h.mono ((List.sublist_append_right values [v]).map Prod.fst)

theorem Proper.not_mem (h : Proper (values ++ [v])) : v.1 ∉ values.map Prod.fst := by
  have distinct := h.distinct
  rw [List.map_append, List.nodup_append] at distinct
  intro mem
  exact distinct.2.2 v.1 mem v.1 (by simp) rfl

/-- A text in which `n` places are for the last name, the text with the others filled, and the text
with all of them filled. -/
inductive Filled (values : List (String × String)) (v : String × String) :
    List Char → Nat → List Char → List Char → Prop
  | nil : Filled values v [] 0 [] []
  | early {u : String × String} {text l m : List Char} {n : Nat} (mem : u ∈ values)
    (h : Filled values v text n l m) :
    Filled values v ((place u.1).toList ++ text) n (u.2.toList ++ l) (u.2.toList ++ m)
  | last {text l m : List Char} {n : Nat} (h : Filled values v text n l m) :
    Filled values v ((place v.1).toList ++ text) (n + 1) ((place v.1).toList ++ l)
      (v.2.toList ++ m)
  | char {c : Char} {text l m : List Char} {n : Nat} (h : Filled values v text n l m) :
    Filled values v (c :: text) n (c :: l) (c :: m)

theorem filled (proper : Proper (values ++ [v])) (text : List Char) :
    Filled values v text (placesIn v.1 text) (substituteFrom values 0 text)
      (substituteFrom (values ++ [v]) 0 text) := by
  have plain : Plain v.1 := proper.last.plain v (by simp)
  induction reading ((values ++ [v]).map Prod.fst) text with
  | nil => exact .nil
  | @place name rest listed h ih =>
    obtain ⟨u, mem, rfl⟩ := List.mem_map.1 listed
    rw [placesIn_place plain (proper.plain u mem), substituteFrom_place proper mem]
    rcases List.mem_append.1 mem with early | late
    · have other : v.1 ≠ u.1 := fun same => proper.not_mem (same ▸ List.mem_map_of_mem early)
      rw [if_neg other, substituteFrom_place proper.init early]
      exact .early early ih
    · obtain rfl := List.mem_singleton.1 late
      rw [if_pos rfl, substituteFrom_unlisted proper.init plain proper.not_mem]
      exact .last ih
  | @char c rest free h ih =>
    have free : ∀ u ∈ values ++ [v], ¬ (place u.1).toList <+: c :: rest := by
      simpa only [List.forall_mem_map] using free
    rw [placesIn_char (free v (by simp)), substituteFrom_char free,
      substituteFrom_char fun u mem => free u (List.mem_append_left _ mem)]
    exact .char ih

namespace Filled

variable {text l m : List Char} {n : Nat}

theorem le_placesIn (plain : Plain v.1) (h : Filled values v text n l m) : n ≤ placesIn v.1 l := by
  induction h with
  | nil => exact Nat.le_refl 0
  | @early u _ l _ _ _ h ih =>
    -- The text filled in takes no place from what follows, and may make more.
    have apart := placesIn_append_le v.1 u.2.toList l
    omega
  | last h ih =>
    rw [placesIn_place plain plain, if_pos rfl]
    omega
  | char h ih =>
    rw [placesIn]
    omega

theorem substituteFrom_eq (proper : Proper [v]) (h : Filled values v text n l m)
    (same : placesIn v.1 l = n) : substituteFrom [v] 0 l = m := by
  have plain : Plain v.1 := proper.plain v (by simp)
  induction h with
  | nil => rfl
  | @early u _ l _ _ _ h ih =>
    -- Neither the text filled in nor the seam behind it has room for a place.
    have apart := placesIn_append_le v.1 u.2.toList l
    have least := h.le_placesIn plain
    rw [substituteFrom_append proper (by omega), substituteFrom_eq_self (by omega),
      ih (by omega)]
  | last h ih =>
    rw [placesIn_place plain plain, if_pos rfl] at same
    rw [substituteFrom_place proper (by simp), ih (by omega)]
  | @char c _ l _ _ h ih =>
    have least := h.le_placesIn plain
    have still : ¬ (place v.1).toList <+: c :: l := by
      intro begins
      rw [placesIn, if_pos begins] at same
      omega
    rw [placesIn_char still] at same
    rw [substituteFrom_char (by simpa using still), ih same]

theorem length_eq (h : Filled values v text n l m) :
    m.length + n * (place v.1).toList.length = l.length + n * v.2.toList.length := by
  induction h with
  | nil => simp
  | early mem h ih =>
    rw [List.length_append, List.length_append]
    omega
  | last h ih =>
    rw [List.length_append, List.length_append, Nat.add_mul, Nat.add_mul]
    omega
  | char h ih =>
    rw [List.length_cons, List.length_cons]
    omega

end Filled

end

/-! ## One name after the other -/

theorem fill_concat (template : String) (values : List (String × String)) (v : String × String) :
    fill template (values ++ [v]) = substitute (fill template values) [v] := by
  rw [fill, List.foldl_append]
  exact congrArg String.ofList (replaceFrom_eq v 0 _)

/-- Each name, when it is its turn, finds the places that the template has for it and no others. -/
def Undisturbed (template : String) (values : List (String × String)) : Prop :=
  ∀ before v after, values = before ++ v :: after →
    places v.1 (fill template before) = places v.1 template

section

variable {template name : String} {values before after : List (String × String)}
  {v : String × String}

theorem Undisturbed.init (h : Undisturbed template (before ++ after)) :
    Undisturbed template before := by
  rintro l u m rfl
  exact h l u (m ++ after) (by simp)

theorem substitute_concat (proper : Proper (values ++ [v]))
    (same : places v.1 (substitute template values) = places v.1 template) :
    substitute (substitute template values) [v] = substitute template (values ++ [v]) := by
  rw [places, toList_substitute] at same
  have once := (filled proper template.toList).substituteFrom_eq proper.last same
  rw [substitute, toList_substitute, once, substitute]

theorem places_eq_of_substitute_concat (proper : Proper (values ++ [(name, "")]))
    (same : substitute (substitute template values) [(name, "")] =
      substitute template (values ++ [(name, "")])) :
    places name (substitute template values) = places name template := by
  -- With an empty text for the last name a place too many shows in the length.
  have together := (filled proper template.toList).length_eq
  have alone : Filled [] (name, "") _ _ _ _ :=
    filled proper.last (substitute template values).toList
  have after := alone.length_eq
  rw [substituteFrom_nil, List.nil_append, ← toList_substitute, same] at after
  rw [← toList_substitute, ← toList_substitute] at together
  have some : 0 < (place name).toList.length := by simp [toList_place]
  simp only [String.toList_empty, List.length_nil, Nat.mul_zero] at together after
  exact Nat.eq_of_mul_eq_mul_right some (by unfold places; omega)

theorem fill_eq_substitute (proper : Proper values) (undisturbed : Undisturbed template values) :
    fill template values = substitute template values := by
  induction values using List.reverseRecOn with
  | nil => exact (substitute_nil template).symm
  | append_singleton before v ih =>
    have early := ih proper.init undisturbed.init
    have turn := undisturbed before v [] rfl
    rw [early] at turn
    rw [fill_concat, early, substitute_concat proper turn]

theorem Proper.upTo (proper : Proper values) (split : values = before ++ v :: after)
    (text : String) : Proper (before ++ [(v.1, text)]) := by
  subst split
  refine proper.mono ?_
  rw [List.map_append, List.map_append]
  exact List.Sublist.append_left (List.singleton_sublist.2 (by simp)) _

theorem undisturbed_iff_substitute (proper : Proper values) :
    Undisturbed template values ↔ ∀ before v after, values = before ++ v :: after →
      places v.1 (substitute template before) = places v.1 template := by
  constructor
  · rintro undisturbed before v after rfl
    rw [← fill_eq_substitute (proper.upTo rfl v.2).init undisturbed.init]
    exact undisturbed before v after rfl
  · intro apart before v after split
    have early (before after) (split : values = before ++ after) :
        fill template before = substitute template before := by
      induction before using List.reverseRecOn generalizing after with
      | nil => exact (substitute_nil template).symm
      | append_singleton before u ih =>
        have whole : values = before ++ u :: after := by simp [split]
        rw [fill_concat, ih (u :: after) whole,
          substitute_concat (proper.upTo whole u.2) (apart before u after whole)]
    rw [early before (v :: after) split, apart before v after split]

/-- Nothing is disturbed exactly if every name could be filled in together with those before it,
whatever it stands for. -/
theorem undisturbed_iff (proper : Proper values) :
    Undisturbed template values ↔ ∀ before v after, values = before ++ v :: after →
      ∀ text, fill template (before ++ [(v.1, text)]) =
        substitute template (before ++ [(v.1, text)]) := by
  constructor
  · rintro undisturbed before v after split text
    have turn := (undisturbed_iff_substitute proper).1 undisturbed before v after split
    have alone := proper.upTo split text
    subst split
    rw [fill_concat, fill_eq_substitute alone.init undisturbed.init,
      substitute_concat alone turn]
  · intro together before v after split
    have early : fill template before = substitute template before := by
      cases before using List.reverseRecOn with
      | nil => exact (substitute_nil template).symm
      | append_singleton before u => exact together before u (v :: after) (by simp [split]) u.2
    have last := together before v after split ""
    rw [fill_concat, early] at last
    rw [early, places_eq_of_substitute_concat (proper.upTo split "") last]

theorem Proper.perm {others : List (String × String)} (proper : Proper values)
    (perm : others.Perm values) : Proper others :=
  ⟨fun v mem => proper.plain v (perm.mem_iff.1 mem),
    (perm.map Prod.fst).nodup_iff.2 proper.distinct⟩

theorem substitute_perm {others : List (String × String)} (proper : Proper values)
    (perm : others.Perm values) : substitute template others = substitute template values := by
  have proper' := proper.perm perm
  have same (text : List Char) : substituteFrom others 0 text = substituteFrom values 0 text := by
    induction reading (values.map Prod.fst) text with
    | nil => rfl
    | @place name rest listed h ih =>
      obtain ⟨u, mem, rfl⟩ := List.mem_map.1 listed
      rw [substituteFrom_place proper mem, substituteFrom_place proper' (perm.mem_iff.2 mem), ih]
    | @char c rest free h ih =>
      rw [List.forall_mem_map] at free
      rw [substituteFrom_char free,
        substituteFrom_char fun v mem => free v (perm.mem_iff.1 mem), ih]
  rw [substitute, substitute, same]

end

/-! ## Tidy templates -/

theorem tidy_english {entry : String × String} (mem : entry ∈ englishTemplates) :
    Tidy entry.2.toList := by
  have all : ∀ e ∈ englishTemplates, isTidy e.2.toList = true := by decide +kernel
  exact tidy_of_isTidy (all entry mem)

section

variable {name : String} {values : List (String × String)} {v : String × String}
  {text rest : List Char}

theorem placesIn_substituteFrom_eq_iff (proper : Proper (values ++ [v])) (tidy : Tidy text)
    (texts : ∀ u ∈ values, Tidy u.2.toList) :
    placesIn v.1 (substituteFrom values 0 text) = placesIn v.1 text ↔
      ∀ u ∈ values, placesIn u.1 text = 0 ∨ placesIn v.1 u.2.toList = 0 := by
  have plain : Plain v.1 := proper.last.plain v (by simp)
  have plains : ∀ u ∈ values, Plain u.1 := proper.init.plain
  induction tidy with
  | nil => simp [substituteFrom, placesIn]
  | @place name rest other h ih =>
    rw [placesIn_place plain other]
    have least := (filled proper rest).le_placesIn plain
    by_cases listed : name ∈ values.map Prod.fst
    · obtain ⟨w, mem, rfl⟩ := List.mem_map.1 listed
      have different : v.1 ≠ w.1 := fun same => proper.not_mem (same ▸ listed)
      -- A tidy text makes no place together with what follows, so the places add up.
      rw [if_neg different, substituteFrom_place proper.init mem,
        placesIn_append plain (texts w mem)]
      constructor
      · intro same u there
        by_cases this : u = w
        · subst this
          exact .inr (by omega)
        · have distinct : u.1 ≠ w.1 := fun same =>
            this (List.inj_on_of_nodup_map proper.init.distinct there mem same)
          rw [placesIn_place (plains u there) other, if_neg distinct]
          exact ih.1 (by omega) u there
      · intro each
        have held := each w mem
        rw [placesIn_place other other, if_pos rfl] at held
        have later := ih.2 fun u there => by
          have held := each u there
          rw [placesIn_place (plains u there) other] at held
          omega
        omega
    · rw [substituteFrom_unlisted proper.init other listed, placesIn_place plain other,
        Nat.add_right_cancel_iff]
      refine ih.trans (forall₂_congr fun u there => ?_)
      have different : u.1 ≠ name := fun same => listed (same ▸ List.mem_map_of_mem there)
      rw [placesIn_place (plains u there) other, if_neg different, Nat.add_zero]
  | @char c rest other h ih =>
    have free (name : String) (rest : List Char) : ¬ (place name).toList <+: c :: rest :=
      fun begins => other (eq_brace_of_begins begins)
    rw [substituteFrom_char fun u _ => free u.1 rest, placesIn_char (free _ _),
      placesIn_char (free _ _)]
    refine ih.trans (forall₂_congr fun u _ => ?_)
    rw [placesIn_char (free _ _)]

theorem undisturbed_iff_of_tidy {template : String} (proper : Proper values)
    (tidy : Tidy template.toList) (texts : ∀ v ∈ values, Tidy v.2.toList) :
    Undisturbed template values ↔ ∀ before u after, values = before ++ u :: after →
      ∀ v ∈ before, places v.1 template = 0 ∨ places u.1 v.2 = 0 := by
  rw [undisturbed_iff_substitute proper]
  refine forall₄_congr fun before u after split => ?_
  have alone := proper.upTo split u.2
  subst split
  rw [places, toList_substitute]
  exact placesIn_substituteFrom_eq_iff alone tidy fun v mem =>
    texts v (List.mem_append_left _ mem)

end

/-! ## Rendering -/

/-- A text is rendered as if all places were filled at once, in whatever order the names come, as
long as no text that is filled in disturbs a name behind it. Where one does, there are texts for
that name that are not filled in at once. In a tidy template tidy texts disturb a name exactly if
they hold a place for it and are filled in at all. -/
theorem render_substitutes {w : Wording} {key template : String} {values : List (String × String)}
    (there : w.get? key = some template) (proper : Proper values) :
    (Undisturbed template values →
      w.render key values = .ok (substitute template values) ∧
        ∀ others, others.Perm values → Undisturbed template others →
          w.render key others = w.render key values) ∧
    (Undisturbed template values ↔ ∀ before v after, values = before ++ v :: after →
      ∀ text, w.render key (before ++ [(v.1, text)]) =
        .ok (substitute template (before ++ [(v.1, text)]))) ∧
    (Tidy template.toList → (∀ v ∈ values, Tidy v.2.toList) →
      (Undisturbed template values ↔ ∀ before u after, values = before ++ u :: after →
        ∀ v ∈ before, places v.1 template = 0 ∨ places u.1 v.2 = 0)) := by
  simp only [render_eq_ok there, Except.ok.injEq]
  refine ⟨fun undisturbed => ⟨fill_eq_substitute proper undisturbed, ?_⟩,
    undisturbed_iff proper, undisturbed_iff_of_tidy proper⟩
  intro others perm likewise
  have proper' := proper.perm perm
  rw [fill_eq_substitute proper' likewise, fill_eq_substitute proper undisturbed,
    substitute_perm proper perm]

/-! ## A motion -/

def declaredTemplate : String := "\x7bname\x7d [\x7bconfirmation\x7d]: \x7beffects\x7d"

/-- What a procedure that is declared for free is described with. -/
def motionTexts (name : String) : List (String × String) :=
  [("name", name), ("effects", "the ballot passes"), ("confirmation", "free")]

theorem proper_motionTexts (name : String) : Proper (motionTexts name) :=
  ⟨by simp only [motionTexts, List.forall_mem_cons]; decide,
    by simp [motionTexts]⟩

theorem render_substitutes_draft :
    Undisturbed declaredTemplate (motionTexts "Motion \x7bdraft\x7d") ∧
      english.render "procedure.declared" (motionTexts "Motion \x7bdraft\x7d") =
        .ok "Motion \x7bdraft\x7d [free]: the ballot passes" := by
  have there : english.get? "procedure.declared" = some declaredTemplate := by
    rw [get?_english]
    decide +kernel
  have listed : ("procedure.declared", declaredTemplate) ∈ englishTemplates := by decide +kernel
  obtain ⟨whole, -, among⟩ := render_substitutes there (proper_motionTexts "Motion \x7bdraft\x7d")
  have tidy : ∀ v ∈ motionTexts "Motion \x7bdraft\x7d", isTidy v.2.toList = true := by
    decide +kernel
  have none : ∀ v ∈ motionTexts "Motion \x7bdraft\x7d",
      ∀ u ∈ motionTexts "Motion \x7bdraft\x7d", places u.1 v.2 = 0 := by
    decide +kernel
  have undisturbed := (among (tidy_english listed) fun v mem => tidy_of_isTidy (tidy v mem)).2
    fun before u after split v mem => .inr (none v (by simp [split, mem]) u (by simp [split]))
  have written : substitute declaredTemplate (motionTexts "Motion \x7bdraft\x7d") =
      "Motion \x7bdraft\x7d [free]: the ballot passes" := by
    decide +kernel
  exact ⟨undisturbed, written ▸ (whole undisturbed).1⟩

/-- The name of a procedure is filled in first, so a place in it is filled with the effects. With
the names the other way round it is not. -/
theorem motion_reinterpreted :
    let motion : Procedure :=
      ⟨⟨4⟩, "Motion \x7beffects\x7d", .declared .always [] [], [⟨.ballotPass, [], 0, rfl⟩]⟩
    motion.describe {} english = english.render "procedure.declared" (motionTexts motion.name) ∧
      motion.describe {} english = .ok "Motion the ballot passes [free]: the ballot passes" ∧
      substitute declaredTemplate (motionTexts motion.name) =
        "Motion \x7beffects\x7d [free]: the ballot passes" ∧
      english.render "procedure.declared" (motionTexts motion.name).reverse =
        .ok "Motion \x7beffects\x7d [free]: the ballot passes" := by
  intro motion
  simp only [Procedure.describe, ProcedureEffect.describe, Confirmation.describe, motion,
    render_english]
  exact ⟨rfl, rfl, by decide +kernel, rfl⟩

end Parliament.Wording
