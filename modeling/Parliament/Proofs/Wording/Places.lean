import Mathlib.Data.List.Nodup
import Parliament.Proofs.Wording

/-! # Places in texts

A text is read from left to right as places for names and what stands between them. Two places never
overlap, because no name holds a brace, so all of them can be filled at once and can be counted.
-/

namespace Parliament.Wording

/-! ## All at once -/

/-- Writes each value for its place, from left to right; `skip` characters still belong to the last
place. -/
def substituteFrom (values : List (String × String)) : Nat → List Char → List Char
  | _, [] => []
  | skip + 1, _ :: rest => substituteFrom values skip rest
  | 0, c :: rest =>
    match values.find? fun v => (place v.1).toList.isPrefixOf (c :: rest) with
    | some v => v.2.toList ++ substituteFrom values ((place v.1).toList.length - 1) rest
    | none => c :: substituteFrom values 0 rest

/-- The template with all its places filled at once. What is filled in is not looked at again. -/
def substitute (template : String) (values : List (String × String)) : String :=
  String.ofList (substituteFrom values 0 template.toList)

/-- A text without braces. -/
def Plain (text : String) : Prop := '\x7b' ∉ text.toList ∧ '\x7d' ∉ text.toList

instance (text : String) : Decidable (Plain text) := inferInstanceAs (Decidable (_ ∧ _))

/-! ## Places -/

theorem toList_place (name : String) :
    (place name).toList = '\x7b' :: (name.toList ++ ['\x7d']) := by
  simp [place]

theorem eq_of_begins {l m rest : List Char} {c : Char} (hl : c ∉ l) (hm : c ∉ m)
    (h : l ++ [c] <+: m ++ c :: rest) : l = m := by
  induction l generalizing m with
  | nil =>
    cases m with
    | nil => rfl
    | cons d m =>
      rw [List.nil_append, List.cons_append, List.cons_prefix_cons] at h
      simp [h.1] at hm
  | cons d l ih =>
    cases m with
    | nil =>
      rw [List.nil_append, List.cons_append, List.cons_prefix_cons] at h
      simp [h.1] at hl
    | cons e m =>
      rw [List.cons_append, List.cons_append, List.cons_prefix_cons] at h
      rw [h.1, ih (fun mem => hl (.tail _ mem)) (fun mem => hm (.tail _ mem)) h.2]

theorem name_eq_of_begins {name other : String} {rest : List Char} (hn : Plain name)
    (ho : Plain other) (h : (place name).toList <+: (place other).toList ++ rest) :
    name = other := by
  rw [toList_place, toList_place, List.cons_append, List.append_assoc,
    List.cons_prefix_cons] at h
  exact String.toList_inj.1 (eq_of_begins hn.2 ho.2 h.2)

theorem eq_brace_of_begins {name : String} {c : Char} {rest : List Char}
    (h : (place name).toList <+: c :: rest) : c = '\x7b' := by
  rw [toList_place, List.cons_prefix_cons] at h
  exact h.1.symm

/-- A text from left to right: the places for the names, and what stands between them. -/
inductive Reading (names : List String) : List Char → Prop
  | nil : Reading names []
  | place {name : String} {rest : List Char} (listed : name ∈ names) (h : Reading names rest) :
    Reading names ((place name).toList ++ rest)
  | char {c : Char} {rest : List Char}
    (free : ∀ name ∈ names, ¬ (Wording.place name).toList <+: c :: rest)
    (h : Reading names rest) : Reading names (c :: rest)

theorem reading (names : List String) (text : List Char) : Reading names text := by
  match text with
  | [] => exact .nil
  | c :: rest =>
    by_cases found : ∃ name ∈ names, (place name).toList <+: c :: rest
    · obtain ⟨name, listed, behind, whole⟩ := found
      rw [← whole]
      exact .place listed (reading names behind)
    · exact .char (by simpa using found) (reading names rest)
termination_by text.length
decreasing_by
  · have length := congrArg List.length whole
    simp only [toList_place, List.length_append, List.length_cons] at length
    simp only [List.length_cons]
    omega
  · simp

/-! ## How places are filled -/

/-- Values under names without braces, and no name has two. -/
structure Proper (values : List (String × String)) : Prop where
  plain : ∀ v ∈ values, Plain v.1
  distinct : (values.map Prod.fst).Nodup

section

variable {values : List (String × String)} {v : String × String} {name : String} {c : Char}
  {rest : List Char}

theorem substituteFrom_length (values : List (String × String)) (l rest : List Char) :
    substituteFrom values l.length (l ++ rest) = substituteFrom values 0 rest := by
  induction l with
  | nil => rfl
  | cons c l ih => exact ih

theorem substituteFrom_char (free : ∀ v ∈ values, ¬ (place v.1).toList <+: c :: rest) :
    substituteFrom values 0 (c :: rest) = c :: substituteFrom values 0 rest := by
  have none : values.find? (fun v => (place v.1).toList.isPrefixOf (c :: rest)) = none := by
    simpa [List.find?_eq_none] using free
  rw [substituteFrom, none]

theorem substituteFrom_append_of_not_mem {l : List Char} (unbraced : '\x7b' ∉ l) :
    substituteFrom values 0 (l ++ rest) = l ++ substituteFrom values 0 rest := by
  induction l with
  | nil => rfl
  | cons c l ih =>
    have other : c ≠ '\x7b' := fun same => unbraced (same ▸ List.mem_cons_self)
    rw [List.cons_append, substituteFrom_char fun v _ h => other (eq_brace_of_begins h),
      ih fun mem => unbraced (.tail _ mem), List.cons_append]

theorem substituteFrom_place (proper : Proper values) (mem : v ∈ values) :
    substituteFrom values 0 ((place v.1).toList ++ rest) =
      v.2.toList ++ substituteFrom values 0 rest := by
  have found : values.find? (fun u => (place u.1).toList.isPrefixOf
      ((place v.1).toList ++ rest)) = some v := by
    cases first : values.find? fun u => (place u.1).toList.isPrefixOf
        ((place v.1).toList ++ rest) with
    | none =>
      rw [List.find?_eq_none] at first
      exact absurd (List.isPrefixOf_iff_prefix.2 (List.prefix_append _ rest)) (first v mem)
    | some u =>
      have there := List.mem_of_find?_eq_some first
      have fits := List.find?_some first
      rw [List.isPrefixOf_iff_prefix] at fits
      have same := name_eq_of_begins (proper.plain u there) (proper.plain v mem) fits
      rw [List.inj_on_of_nodup_map proper.distinct there mem same]
  have skipped := substituteFrom_length values (v.1.toList ++ ['\x7d']) rest
  rw [toList_place, List.cons_append] at found ⊢
  rw [substituteFrom, found]
  simpa [toList_place] using skipped

theorem substituteFrom_unlisted (proper : Proper values) (plain : Plain name)
    (unlisted : name ∉ values.map Prod.fst) :
    substituteFrom values 0 ((place name).toList ++ rest) =
      (place name).toList ++ substituteFrom values 0 rest := by
  have free : ∀ v ∈ values, ¬ (place v.1).toList <+: (place name).toList ++ rest := by
    intro v mem fits
    have same := name_eq_of_begins (proper.plain v mem) plain fits
    exact unlisted (same ▸ List.mem_map_of_mem mem)
  have unbraced : '\x7b' ∉ name.toList ++ ['\x7d'] := by simpa using plain.1
  rw [toList_place, List.cons_append] at free ⊢
  rw [substituteFrom_char free, substituteFrom_append_of_not_mem unbraced, List.cons_append]

end

theorem replaceFrom_eq (v : String × String) (skip : Nat) (text : List Char) :
    replaceFrom (place v.1).toList v.2.toList skip text = substituteFrom [v] skip text := by
  induction text generalizing skip with
  | nil => cases skip <;> rfl
  | cons c rest ih =>
    cases skip with
    | succ skip => exact ih skip
    | zero =>
      rw [replaceFrom, substituteFrom, List.find?_singleton]
      split
      next => rw [ih]
      next => rw [ih]

theorem substituteFrom_nil (text : List Char) : substituteFrom [] 0 text = text := by
  induction text with
  | nil => rfl
  | cons c rest ih => exact congrArg (c :: ·) ih

theorem toList_substitute (template : String) (values : List (String × String)) :
    (substitute template values).toList = substituteFrom values 0 template.toList :=
  String.toList_ofList

theorem substitute_nil (template : String) : substitute template [] = template := by
  rw [substitute, substituteFrom_nil, String.ofList_toList]

/-! ## How many places there are -/

def placesIn (name : String) : List Char → Nat
  | [] => 0
  | c :: rest => placesIn name rest + if (place name).toList <+: c :: rest then 1 else 0

/-- How many places for the name a text has. -/
def places (name text : String) : Nat := placesIn name text.toList

section

variable {name other : String} {c : Char} {rest : List Char}

theorem placesIn_char (free : ¬ (place name).toList <+: c :: rest) :
    placesIn name (c :: rest) = placesIn name rest := by
  rw [placesIn, if_neg free, Nat.add_zero]

theorem placesIn_append_of_not_mem {l : List Char} (unbraced : '\x7b' ∉ l) :
    placesIn name (l ++ rest) = placesIn name rest := by
  induction l with
  | nil => rfl
  | cons c l ih =>
    have other : c ≠ '\x7b' := fun same => unbraced (same ▸ List.mem_cons_self)
    rw [List.cons_append, placesIn_char fun h => other (eq_brace_of_begins h)]
    exact ih fun mem => unbraced (.tail _ mem)

theorem placesIn_place (hn : Plain name) (ho : Plain other) :
    placesIn name ((place other).toList ++ rest) =
      placesIn name rest + if name = other then 1 else 0 := by
  have unbraced : '\x7b' ∉ other.toList ++ ['\x7d'] := by simpa using ho.1
  have begins : (place name).toList <+: (place other).toList ++ rest ↔ name = other := by
    refine ⟨name_eq_of_begins hn ho, ?_⟩
    rintro rfl
    exact List.prefix_append _ rest
  rw [toList_place other, List.cons_append] at begins ⊢
  rw [placesIn, placesIn_append_of_not_mem unbraced]
  simp only [begins]

theorem placesIn_append_le (name : String) (l m : List Char) :
    placesIn name l + placesIn name m ≤ placesIn name (l ++ m) := by
  induction l with
  | nil => simp [placesIn]
  | cons c l ih =>
    rw [List.cons_append, placesIn, placesIn]
    have kept : (place name).toList <+: c :: l → (place name).toList <+: c :: (l ++ m) :=
      fun begins => begins.trans (List.prefix_append (c :: l) m)
    split
    next begins =>
      rw [if_pos (kept begins)]
      omega
    next => omega

end

/-! ## One more value -/

section

variable {v : String × String}

theorem substituteFrom_eq_self {text : List Char} (none : placesIn v.1 text = 0) :
    substituteFrom [v] 0 text = text := by
  induction text with
  | nil => rfl
  | cons c rest ih =>
    rw [placesIn] at none
    split at none
    next => omega
    next free =>
      rw [substituteFrom_char (by simpa using free), ih (by omega)]

theorem substituteFrom_append (proper : Proper [v]) {l m : List Char}
    (apart : placesIn v.1 (l ++ m) = placesIn v.1 l + placesIn v.1 m) :
    substituteFrom [v] 0 (l ++ m) = substituteFrom [v] 0 l ++ substituteFrom [v] 0 m := by
  have plain : Plain v.1 := proper.plain v (by simp)
  induction reading [v.1] l with
  | nil => rfl
  | @place name rest listed h ih =>
    obtain rfl := List.mem_singleton.1 listed
    rw [List.append_assoc, placesIn_place plain plain, placesIn_place plain plain] at apart
    have mem : v ∈ [v] := List.mem_singleton_self v
    rw [List.append_assoc, substituteFrom_place proper mem, substituteFrom_place proper mem,
      ih (by omega), List.append_assoc]
  | @char c rest free h ih =>
    have free := free v.1 (by simp)
    rw [List.cons_append, placesIn, placesIn_char free] at apart
    have least := placesIn_append_le v.1 rest m
    have whole : ¬ (place v.1).toList <+: c :: (rest ++ m) := by
      intro begins
      rw [if_pos begins] at apart
      omega
    rw [if_neg whole] at apart
    rw [List.cons_append, substituteFrom_char (by simpa using whole),
      substituteFrom_char (by simpa using free), ih apart, List.cons_append]

end

/-! ## Tidy texts -/

/-- A text in which every opening brace belongs to a place. -/
inductive Tidy : List Char → Prop
  | nil : Tidy []
  | place {name : String} {rest : List Char} (plain : Plain name) (h : Tidy rest) :
    Tidy ((Wording.place name).toList ++ rest)
  | char {c : Char} {rest : List Char} (other : c ≠ '\x7b') (h : Tidy rest) : Tidy (c :: rest)

/-- Behind every opening brace the next brace is a closing one. -/
def isTidy : List Char → Bool
  | [] => true
  | c :: rest =>
    (c != '\x7b' || rest.find? (fun d => d == '\x7b' || d == '\x7d') == some '\x7d') &&
      isTidy rest

theorem isTidy_of_append {l m : List Char} (h : isTidy (l ++ m) = true) : isTidy m = true := by
  induction l with
  | nil => exact h
  | cons c l ih =>
    rw [List.cons_append, isTidy, Bool.and_eq_true] at h
    exact ih h.2

theorem tidy_of_isTidy {text : List Char} (h : isTidy text = true) : Tidy text := by
  match text with
  | [] => exact .nil
  | c :: rest =>
    rw [isTidy, Bool.and_eq_true] at h
    obtain ⟨first, others⟩ := h
    by_cases opening : c = '\x7b'
    · -- The next brace closes this one, so the text between is a name.
      obtain ⟨name, behind, whole, plain⟩ : ∃ name behind, rest = name ++ '\x7d' :: behind ∧
          ∀ d ∈ name, d ≠ '\x7b' ∧ d ≠ '\x7d' := by
        have found : rest.find? (fun d => d == '\x7b' || d == '\x7d') = some '\x7d' := by
          simpa [opening] using first
        obtain ⟨-, name, behind, whole, free⟩ := List.find?_eq_some_iff_append.1 found
        exact ⟨name, behind, whole, by simpa using free⟩
      have written : c :: rest = (place (String.ofList name)).toList ++ behind := by
        simp [toList_place, opening, whole]
      have shorter : isTidy behind = true := by
        rw [whole, List.append_cons] at others
        exact isTidy_of_append others
      have unbraced : Plain (String.ofList name) := by
        rw [Plain, String.toList_ofList]
        exact ⟨fun mem => (plain _ mem).1 rfl, fun mem => (plain _ mem).2 rfl⟩
      rw [written]
      exact .place unbraced (tidy_of_isTidy shorter)
    · exact .char opening (tidy_of_isTidy others)
termination_by text.length
decreasing_by
  · simp only [whole, List.length_cons, List.length_append]
    omega
  · simp

theorem placesIn_append {name : String} {text : List Char} (plain : Plain name)
    (tidy : Tidy text) (rest : List Char) :
    placesIn name (text ++ rest) = placesIn name text + placesIn name rest := by
  induction tidy with
  | nil => simp [placesIn]
  | place other h ih =>
    rw [List.append_assoc, placesIn_place plain other, placesIn_place plain other, ih]
    omega
  | char other h ih =>
    have free (rest : List Char) : ¬ (place name).toList <+: _ :: rest := fun begins =>
      other (eq_brace_of_begins begins)
    rw [List.cons_append, placesIn_char (free _), placesIn_char (free _), ih]

end Parliament.Wording
