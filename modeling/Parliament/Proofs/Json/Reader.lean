import Parliament.Permissions.Json
import Parliament.Proofs.Json
import Parliament.Proofs.Success

/-! # Readers that undo writers

A reader undoes a writer if it finds every value again wherever there is room for what was written.
For a record that follows from its fields, for a variant from the shape that its word tells.
-/

namespace Parliament.Json

variable {α β : Type}

/-- What is written is plain, and the reader makes of it the value that was written. -/
structure Reader.Undoes (r : Reader α) (w : α → Json) : Prop where
  plain : ∀ a, (w a).Plain
  reads : ∀ a room, (w a).depth ≤ room → r room (w a) = .ok a

namespace Reader

/-! ## Single values -/

theorem undoes_bool : Undoes bool .bool := ⟨.bool, fun _ _ _ => rfl⟩

theorem undoes_text : Undoes text .text := ⟨.text, fun _ _ _ => rfl⟩

theorem int_eq_ok {low high n : Int} (room : Nat) (h : low ≤ n ∧ n ≤ high) :
    int low high room (.int n) = .ok n := if_pos h

@[simp] theorem plain_byte (n : UInt8) : (Json.nat n.toNat).Plain := by
  have small := n.toNat_lt
  exact plain_nat (by unfold maxWord; omega)

theorem undoes_byte : Undoes byte fun n => .nat n.toNat := by
  refine ⟨plain_byte, fun n room _ => ?_⟩
  have small := n.toNat_lt
  unfold byte Reader.map Json.nat
  rw [int_eq_ok room (by omega)]
  simp [Except.map]

@[simp] theorem plain_signedByte (n : Int8) : (Json.int n.toInt).Plain := by
  have low := n.le_toInt
  have high := n.toInt_lt
  exact .int (by unfold maxWord; omega)

theorem undoes_signedByte : Undoes signedByte fun n => .int n.toInt := by
  refine ⟨plain_signedByte, fun n room _ => ?_⟩
  have low := n.le_toInt
  have high := n.toInt_lt
  unfold signedByte Reader.map
  rw [int_eq_ok room (by omega)]
  simp [Except.map]

@[simp] theorem plain_ident (a : Ident) : (Json.ident a).Plain := plain_byte a.val

theorem undoes_ident : Undoes Reader.ident Json.ident := by
  refine ⟨plain_ident, fun a room fit => ?_⟩
  unfold Reader.ident Reader.map
  rw [show Json.ident a = .nat a.val.toNat from rfl, undoes_byte.reads a.val room fit]
  rfl

theorem undoes_word {κ : Type} [Vocabulary κ]
    (known : ∀ k : κ, Vocabulary.find? κ (Vocabulary.word k) = some k) :
    Undoes (word κ) fun k => .text (Vocabulary.word k) := by
  constructor
  · intro k
    exact .text _
  · intro k room _
    have read : Vocabulary.read κ (Vocabulary.word k) = .ok k := by
      rw [Vocabulary.read, known]
    refine bind_eq_ok.2 ⟨Vocabulary.word k, rfl, ?_⟩
    rw [read]
    rfl

theorem nullable_eq_ok {r : Reader α} {room : Nat} {j : Json} {a : α} (there : j ≠ .null)
    (h : r room j = .ok a) : r.nullable room j = .ok (some a) := by
  unfold nullable
  split
  · contradiction
  · rw [h]
    rfl

/-! ## Lists -/

theorem mapM_eq_ok {ε : Type} {w : α → β} {read : β → Except ε α} {l : List α}
    (h : ∀ a ∈ l, read (w a) = .ok a) : (l.map w).mapM read = .ok l := by
  induction l with
  | nil => rfl
  | cons a l ih =>
    obtain ⟨first, others⟩ := List.forall_mem_cons.1 h
    rw [List.map_cons, List.mapM_cons, first, ih others]
    rfl

theorem Undoes.list {r : Reader α} {w : α → Json} (h : Undoes r w) :
    Undoes r.list (Json.list w) := by
  constructor
  · intro l
    exact plain_list h.plain l
  · intro l room fit
    obtain ⟨inner, rfl, items⟩ := depth_list_le.1 fit
    exact mapM_eq_ok fun a ha => h.reads a inner (items a ha)

@[simp] theorem plain_idents (l : List Ident) : (Json.idents l).Plain := plain_list plain_ident l

theorem undoes_idents : Undoes Reader.idents Json.idents := undoes_ident.list

end Reader

/-! ## Records -/

namespace RecordReader

/-- Among the fields of an object, the record finds the parts of a value. -/
structure Finds (x : RecordReader α) (fields : List (String × Json)) (a : α) : Prop where
  plain : ∀ name ∈ x.names, ∀ j, fields.lookup name = some j → j.Plain
  read : ∀ room, (∀ f ∈ fields, f.2.depth ≤ room) → ∀ number,
    x.read room (ofFields (fields.map fun f => (some f.1, f.2))) number = .ok a

theorem findField_eq_lookup (name : String) (place : Nat) (fields : List (String × Json)) :
    (findField name place (fields.map fun f => (some f.1, f.2))).map Prod.snd =
      fields.lookup name := by
  induction fields generalizing place with
  | nil => rfl
  | cons f fields ih =>
    obtain ⟨key, j⟩ := f
    rw [List.map_cons, findField, List.lookup_cons]
    by_cases named : key = name
    · simp [named]
    · have other : (name == key) = false := by simpa using Ne.symm named
      simp [named, other, ih]

theorem lookup_of_mem {fields : List (String × Json)} (distinct : (fields.map Prod.fst).Nodup)
    {f : String × Json} (h : f ∈ fields) : fields.lookup f.1 = some f.2 := by
  obtain ⟨before, after, rfl⟩ := List.append_of_mem h
  refine List.lookup_eq_some_iff.2 ⟨before, after, rfl, fun g hg => ?_⟩
  rw [List.map_append, List.nodup_append] at distinct
  simpa using (distinct.2.2 g.1 (List.mem_map_of_mem hg) f.1 (by simp)).symm

variable {fields : List (String × Json)} {name : String} {r : Reader α} {w : α → Json} {a : α}
  {missing : Parts → Except Misreading α}

theorem finds_fieldOr {j : Json} (there : fields.lookup name = some j) (plain : j.Plain)
    (h : ∀ room, j.depth ≤ room → r room j = .ok a) :
    (fieldOr name r missing).Finds fields a := by
  constructor
  · intro key known k found
    obtain rfl := List.mem_singleton.1 known
    rw [there] at found
    exact Option.some.inj found ▸ plain
  · intro room fit number
    have part : (name, j) ∈ fields := by
      obtain ⟨before, after, rfl, -⟩ := List.lookup_eq_some_iff.1 there
      simp
    have read := h room (fit _ part)
    rw [← findField_eq_lookup name 0, Option.map_eq_some_iff] at there
    obtain ⟨⟨place, k⟩, found, rfl⟩ := there
    simp [fieldOr, ofFields, found, read]

theorem finds_written (h : r.Undoes w) (there : fields.lookup name = some (w a)) :
    (fieldOr name r missing).Finds fields a :=
  finds_fieldOr there (h.plain a) (h.reads a)

theorem finds_missing (absent : fields.lookup name = none)
    (h : ∀ parts : Parts, parts.positional = false → missing parts = .ok a) :
    (fieldOr name r missing).Finds fields a := by
  constructor
  · intro key known k found
    obtain rfl := List.mem_singleton.1 known
    rw [absent] at found
    cases found
  · intro room _ number
    rw [← findField_eq_lookup name 0, Option.map_eq_none_iff] at absent
    simp only [fieldOr, ofFields, absent]
    exact h _ rfl

theorem finds_optional {part : Option α} (h : r.Undoes w) (there : ∀ a, w a ≠ .null)
    (absent : fields.lookup name = none) :
    (fieldWithDefault name r.nullable none).Finds
      (fields ++ (part.map fun a => (name, w a)).toList) part := by
  cases part with
  | none => exact finds_missing (by simpa using absent) fun _ _ => rfl
  | some a =>
    have last : (fields ++ [(name, w a)]).lookup name = some (w a) := by
      simp [List.lookup_append, absent]
    exact finds_fieldOr last (h.plain a) fun room fit =>
      Reader.nullable_eq_ok (there a) (h.reads a room fit)

theorem Finds.map {x : RecordReader α} (h : x.Finds fields a) (f : α → β) :
    (f <$> x).Finds fields (f a) := by
  constructor
  · exact h.plain
  · intro room fit number
    show (x.read room _ number).map f = .ok (f a)
    rw [h.read room fit number]
    rfl

theorem Finds.ap {f : RecordReader (α → β)} {x : RecordReader α} {g : α → β}
    (h : f.Finds fields g) (k : x.Finds fields a) : (f <*> x).Finds fields (g a) := by
  constructor
  · intro name known
    rcases List.mem_append.1 known with known | known
    · exact h.plain name known
    · exact k.plain name known
  · intro room fit number
    show both (f.read room _ number) (x.read room _ (number + f.names.length)) = .ok (g a)
    rw [h.read room fit, k.read room fit]
    rfl

theorem firstUnfit_eq_none (names : List String) (place : Nat) (seen : List String)
    (plain : ∀ f ∈ fields, f.2.Plain) (distinct : (fields.map Prod.fst).Nodup)
    (unseen : ∀ key ∈ fields.map Prod.fst, key ∉ seen) :
    firstUnfit names place seen (fields.map fun f => (some f.1, f.2)) = none := by
  induction fields generalizing place seen with
  | nil => rfl
  | cons f fields ih =>
    obtain ⟨key, j⟩ := f
    rw [List.map_cons, List.nodup_cons] at distinct
    rw [List.map_cons, List.forall_mem_cons] at unseen
    obtain ⟨j_plain, rest_plain⟩ := List.forall_mem_cons.1 plain
    have whole : j.isWhole = true := j_plain.whole_and_legible.1
    have new : key ∉ seen := unseen.1
    have rest_unseen : ∀ k ∈ fields.map Prod.fst, k ∉ key :: seen := by
      intro k hk later
      rcases List.mem_cons.1 later with rfl | later
      · exact distinct.1 hk
      · exact unseen.2 k hk later
    -- A field is used or passed over, and either way the rest fits.
    have passed_over := ih (place + 1) seen rest_plain distinct.2 unseen.2
    have used := ih (place + 1) (key :: seen) rest_plain distinct.2 rest_unseen
    rw [List.map_cons, firstUnfit]
    simp [new, whole, passed_over, used]

theorem Finds.fields_plain {x : RecordReader α} (h : x.Finds fields a) (distinct : x.names.Nodup)
    (named : (fields.map Prod.fst).Sublist x.names) : ∀ f ∈ fields, f.2.Plain := by
  intro f hf
  have known : f.1 ∈ x.names := named.subset (List.mem_map_of_mem hf)
  exact h.plain f.1 known f.2 (lookup_of_mem (distinct.sublist named) hf)

theorem Finds.reader_eq_ok {x : RecordReader α} (h : x.Finds fields a) (distinct : x.names.Nodup)
    (named : (fields.map Prod.fst).Sublist x.names) {room : Nat}
    (fit : (obj fields).depth ≤ room) : x.reader room (obj fields) = .ok a := by
  obtain ⟨inner, rfl, parts_fit⟩ := depth_obj_le.1 fit
  have plain := h.fields_plain distinct named
  have fitting := firstUnfit_eq_none x.names 0 [] plain (distinct.sublist named) (by simp)
  show x.readObject inner _ = .ok a
  unfold readObject
  rw [h.read inner parts_fit 0, fitting]

/-- A record is found again if each of its parts is. -/
theorem undoes_reader {x : RecordReader α} {parts : α → List (String × Json)}
    (distinct : x.names.Nodup) (named : ∀ a, ((parts a).map Prod.fst).Sublist x.names)
    (finds : ∀ a, x.Finds (parts a) a) : x.reader.Undoes fun a => obj (parts a) := by
  constructor
  · intro a
    exact plain_obj_iff.2 ((finds a).fields_plain distinct (named a))
  · intro a room fit
    exact (finds a).reader_eq_ok distinct (named a) fit

end RecordReader

/-! ## Variants -/

open Reader RecordReader

theorem splitVariant_obj {shape : String} {fields : List (String × Json)}
    (other : "type" ∉ fields.map Prod.fst) :
    splitVariant (obj (("type", .text shape) :: fields)) = some (.text shape, obj fields) := by
  have plain_keys : ∀ f ∈ fields.map fun f => (some f.1, f.2), (f.1 == some "type") = false := by
    intro f hf
    obtain ⟨g, hg, rfl⟩ := List.mem_map.1 hf
    have key := ne_of_mem_of_not_mem (List.mem_map_of_mem hg) other
    simpa using key
  have none_left : (fields.map fun f => (some f.1, f.2)).filter
      (fun f => f.1 == some "type") = [] :=
    List.filter_eq_nil_iff.2 fun f hf => by simp [plain_keys f hf]
  have all_left : (fields.map fun f => (some f.1, f.2)).filter
      (not ∘ fun f => f.1 == some "type") = fields.map fun f => (some f.1, f.2) :=
    List.filter_eq_self.2 fun f hf => by simp [plain_keys f hf]
  simp [splitVariant, obj, List.partition_eq_filter_filter, none_left, all_left]

theorem variant_obj {inside : Bool} {shapes : List (String × (Json → Except ReadError α))}
    {shape : String} {read : Json → Except ReadError α} {fields : List (String × Json)}
    (known : shapes.lookup shape = some read) (other : "type" ∉ fields.map Prod.fst) :
    variant inside shapes (obj (("type", .text shape) :: fields)) = read (obj fields) := by
  unfold variant
  rw [splitVariant_obj other]
  simp [shapeOf?, known]

theorem variant_bare {inside : Bool} {shapes : List (String × (Json → Except ReadError α))}
    {shape : String} {a : α} (known : shapes.lookup shape = some (bare a)) :
    variant inside shapes (obj [("type", .text shape)]) = .ok a :=
  variant_obj known (by simp)

theorem variant_eq_ok {inside : Bool} {shapes : List (String × (Json → Except ReadError α))}
    {shape : String} {x : RecordReader α} {fields : List (String × Json)} {room : Nat} {a : α}
    (known : shapes.lookup shape = some (x.reader room)) (distinct : ("type" :: x.names).Nodup)
    (named : (fields.map Prod.fst).Sublist x.names)
    (fit : (obj (("type", .text shape) :: fields)).depth ≤ room) (finds : x.Finds fields a) :
    variant inside shapes (obj (("type", .text shape) :: fields)) = .ok a := by
  obtain ⟨other, distinct⟩ := List.nodup_cons.1 distinct
  obtain ⟨inner, rfl, parts_fit⟩ := depth_obj_le.1 fit
  have rest_fits : (obj fields).depth ≤ inner + 1 :=
    depth_obj_le.2 ⟨inner, rfl, (List.forall_mem_cons.1 parts_fit).2⟩
  rw [variant_obj known fun key => other (named.subset key)]
  exact finds.reader_eq_ok distinct named rest_fits

theorem Reader.Undoes.aside {r : Reader α} {w : α → Json} (h : r.Undoes w) :
    Undoes (fun room => Json.aside room (r room)) w := by
  constructor
  · exact h.plain
  · intro a room fit
    unfold Json.aside
    rw [if_pos ((h.plain a).fits fit)]
    exact h.reads a room fit

theorem tagged_obj {key shape : String} (part : Option Json) {room : Nat} (other : key ≠ "type")
    (plain : ∀ j ∈ part, j.Plain)
    (fit : (obj (("type", .text shape) :: (part.map fun j => (key, j)).toList)).depth ≤ room) :
    tagged key room (obj (("type", .text shape) :: (part.map fun j => (key, j)).toList)) =
      .ok (shape, part) := by
  have shape_found : (field "type" raw).Finds
      (("type", .text shape) :: (part.map fun j => (key, j)).toList) (.text shape) :=
    finds_fieldOr rfl (.text shape) fun _ _ => rfl
  have part_found : (fieldOr key (raw.map some)
      fun parts => if parts.positional then missed parts else .ok none).Finds
      (("type", .text shape) :: (part.map fun j => (key, j)).toList) part := by
    have named : (key == "type") = false := by simpa using other
    cases part with
    | none => exact finds_missing (by simp [List.lookup_cons, named]) fun parts h => by simp [h]
    | some j =>
      exact finds_fieldOr (by simp [List.lookup_cons, named]) (plain j rfl) fun _ _ => rfl
  have distinct : ["type", key].Nodup := by simpa using other.symm
  have named : ((("type", Json.text shape) :: (part.map fun j => (key, j)).toList).map
      Prod.fst).Sublist ["type", key] := by
    cases part <;> simp
  have read := ((shape_found.map Prod.mk).ap part_found).reader_eq_ok distinct named fit
  simp only [tagged, read]
  rfl

end Parliament.Json
