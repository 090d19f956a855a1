import Parliament.Proofs.Json.Parse
import Parliament.Proofs.Json.Reader
import Parliament.Proofs.Wording
import Parliament.Rulebook.Json

/-! # Rule books are read as they were written

Each reader undoes the writer of the same thing, from permissions up to the whole rule book. A field
that has a default is written nevertheless, the resolution of a ballot apart.
-/

namespace Parliament

open Json Reader RecordReader

/-! ## Roles and factions -/

theorem Permissions.undoes : Permissions.record.reader.Undoes toJson := by
  apply undoes_reader
  case distinct => decide
  case named => exact fun _ => .refl _
  case finds =>
    intro p
    exact ((finds_written undoes_bool rfl).map Permissions.mk
      |>.ap (finds_written undoes_byte rfl)
      |>.ap (finds_written undoes_bool rfl))

theorem RoleDef.undoes : RoleDef.record.reader.Undoes toJson := by
  apply undoes_reader
  case distinct => decide
  case named => exact fun _ => .refl _
  case finds =>
    intro d
    exact ((finds_written undoes_ident rfl).map RoleDef.mk
      |>.ap (finds_written undoes_text rfl)
      |>.ap (finds_written Permissions.undoes rfl))

theorem FactionDef.undoes : FactionDef.record.reader.Undoes toJson := by
  apply undoes_reader
  case distinct => decide
  case named => exact fun _ => .refl _
  case finds =>
    intro d
    exact ((finds_written undoes_ident rfl).map FactionDef.mk
      |>.ap (finds_written undoes_text rfl)
      |>.ap (finds_written undoes_bool rfl))

/-! ## Currencies -/

namespace CurrencyOwner

theorem plain_toJson (o : CurrencyOwner) : o.toJson.Plain := by
  cases o <;> simp [toJson]

theorem undoes : CurrencyOwner.read.Undoes toJson := by
  refine ⟨plain_toJson, fun o room fit => ?_⟩
  cases o with
  | state =>
    have shape : tagged "id" room state.toJson = .ok ("state", none) :=
      tagged_obj none (by decide) (by simp) fit
    exact bind_eq_ok.2 ⟨_, shape, rfl⟩
  | party id =>
    have shape : tagged "id" room (party id).toJson = .ok ("party", some (.ident id)) :=
      tagged_obj (some _) (by decide) (by simp) fit
    have id_read : Reader.ident (room - 1) (.ident id) = .ok id :=
      undoes_ident.reads id _ (Nat.zero_le _)
    exact bind_eq_ok.2 ⟨_, shape, bind_eq_ok.2 ⟨id, id_read, rfl⟩⟩
  | region id =>
    have shape : tagged "id" room (region id).toJson = .ok ("region", some (.ident id)) :=
      tagged_obj (some _) (by decide) (by simp) fit
    have id_read : Reader.ident (room - 1) (.ident id) = .ok id :=
      undoes_ident.reads id _ (Nat.zero_le _)
    exact bind_eq_ok.2 ⟨_, shape, bind_eq_ok.2 ⟨id, id_read, rfl⟩⟩

end CurrencyOwner

theorem CurrencyDef.undoes : CurrencyDef.record.reader.Undoes toJson := by
  apply undoes_reader
  case distinct => decide
  case named => exact fun _ => .refl _
  case finds =>
    intro d
    exact ((finds_written undoes_ident rfl).map CurrencyDef.mk
      |>.ap (finds_written undoes_text rfl)
      |>.ap (finds_written CurrencyOwner.undoes rfl)
      |>.ap (finds_written undoes_signedByte rfl))

/-! ## Effects -/

theorem RawEffect.undoes {κ : Type} [Vocabulary κ]
    (known : ∀ k : κ, Vocabulary.find? κ (Vocabulary.word k) = some k) :
    (RawEffect.record κ).reader.Undoes fun e =>
      effectToJson (Vocabulary.word e.kind) e.targets e.value := by
  apply undoes_reader
  case distinct => exact (by decide : ["kind", "targets", "value"].Nodup)
  case named => exact fun _ => .refl _
  case finds =>
    intro e
    exact ((finds_written (undoes_word known) rfl).map RawEffect.mk
      |>.ap (finds_written undoes_idents rfl)
      |>.ap (finds_written undoes_signedByte rfl))

theorem ProcedureEffect.undoes : ProcedureEffect.read.Undoes toJson := by
  have raw := RawEffect.undoes ProcedureEffectKind.find?_word
  constructor
  · intro e
    exact raw.plain ⟨e.kind, e.targets, e.value⟩
  · intro e room fit
    refine bind_eq_ok.2 ⟨_, raw.reads ⟨e.kind, e.targets, e.value⟩ room fit, ?_⟩
    rw [make_eq_ok]
    rfl

theorem BallotEffect.undoes : BallotEffect.read.Undoes toJson := by
  have raw := RawEffect.undoes BallotEffectKind.find?_word
  constructor
  · intro e
    exact raw.plain ⟨e.kind, e.targets, e.value⟩
  · intro e room fit
    refine bind_eq_ok.2 ⟨_, raw.reads ⟨e.kind, e.targets, e.value⟩ room fit, ?_⟩
    rw [make_eq_ok]
    rfl

/-! ## Procedures -/

namespace Confirmation

theorem plain_toJson (c : Confirmation) : c.toJson.Plain := by
  cases c <;> simp [toJson]

theorem undoes_readAside (inside : Bool) :
    Undoes (fun room => readAside room inside) toJson := by
  refine ⟨plain_toJson, fun c room fit => ?_⟩
  cases c with
  | currencyValue value =>
    exact variant_eq_ok rfl (by decide) (.refl _) fit
      ((finds_written undoes_signedByte rfl).map currencyValue)
  | diceValue value =>
    exact variant_eq_ok rfl (by decide) (.refl _) fit
      ((finds_written undoes_byte rfl).map diceValue)
  | always | divisionChamber | diceCurrency | diceAdversarial => exact variant_bare rfl

end Confirmation

namespace ProcedureKind

theorem plain_toJson (k : ProcedureKind) : k.toJson.Plain := by
  cases k <;> simp [toJson, Confirmation.plain_toJson]

theorem undoes : ProcedureKind.read.Undoes toJson := by
  apply Undoes.aside
  refine ⟨plain_toJson, fun k room fit => ?_⟩
  cases k with
  | governmental => exact variant_bare rfl
  | targeted ballots active =>
    exact variant_eq_ok rfl (by decide) (.refl _) fit
      ((finds_written undoes_idents rfl).map targeted
        |>.ap (finds_written undoes_bool rfl))
  | declared confirmation declarers ballots =>
    exact variant_eq_ok rfl (by decide) (.refl _) fit
      ((finds_written (Confirmation.undoes_readAside true) rfl).map declared
        |>.ap (finds_written undoes_idents rfl)
        |>.ap (finds_written undoes_idents rfl))

end ProcedureKind

theorem Procedure.undoes : Procedure.record.reader.Undoes toJson := by
  apply undoes_reader
  case distinct => decide
  case named => exact fun _ => .refl _
  case finds =>
    intro p
    exact ((finds_written undoes_ident rfl).map Procedure.mk
      |>.ap (finds_written undoes_text rfl)
      |>.ap (finds_written ProcedureKind.undoes rfl)
      |>.ap (finds_written ProcedureEffect.undoes.list rfl))

/-! ## Conditions -/

namespace Condition

mutual

theorem plain_toJson (c : Condition) : c.toJson.Plain := by
  cases c with
  | all cs | any cs => simp [toJson, Plain.array (plain_toJsons cs)]
  | _ => simp [toJson]

theorem plain_toJsons (cs : List Condition) : ∀ j ∈ toJsons cs, j.Plain := by
  cases cs with
  | nil => simp [toJsons]
  | cons c cs =>
    rw [toJsons, List.forall_mem_cons]
    exact ⟨plain_toJson c, plain_toJsons cs⟩

end

theorem depth_conditions {shape : String} {cs : List Condition} {room : Nat}
    (fit : (obj [("type", .text shape), ("conditions", .array (toJsons cs))]).depth ≤ room + 1) :
    ∃ inner, room = inner + 1 ∧ ∀ j ∈ toJsons cs, j.depth ≤ inner := by
  obtain ⟨outer, same, parts_fit⟩ := depth_obj_le.1 fit
  obtain rfl := Nat.succ.inj same
  exact depth_array_le.1 (parts_fit ("conditions", .array (toJsons cs)) (by simp))

theorem finds_conditions {cs : List Condition} {room : Nat}
    (read : (toJsons cs).mapM (readAside room true) = .ok cs) :
    (field "conditions" (list fun _ => readAside room true)).Finds
      [("conditions", .array (toJsons cs))] cs := by
  refine finds_fieldOr rfl (.array (plain_toJsons cs)) fun inner fit => ?_
  obtain ⟨inner, rfl, -⟩ := depth_array_le.1 fit
  exact read

-- The induction is on the condition. The room shrinks by one for each condition that is opened and
-- the text by two levels, so the room lasts.
mutual

theorem readAside_toJson (c : Condition) (room : Nat) (inside : Bool)
    (fit : c.toJson.depth ≤ room + 1) : readAside (room + 1) inside c.toJson = .ok c := by
  have distinct : ["type", "conditions"].Nodup := by decide
  cases c <;> rw [toJson] at fit <;> rw [readAside, toJson]
  case always | never => exact variant_bare rfl
  case all cs =>
    obtain ⟨inner, rfl, items_fit⟩ := depth_conditions fit
    have parts := mapM_toJsons cs inner items_fit
    exact variant_eq_ok rfl distinct (.refl _) fit ((finds_conditions parts).map all)
  case any cs =>
    obtain ⟨inner, rfl, items_fit⟩ := depth_conditions fit
    have parts := mapM_toJsons cs inner items_fit
    exact variant_eq_ok rfl distinct (.refl _) fit ((finds_conditions parts).map any)
  case vote passed =>
    exact variant_eq_ok rfl (by decide) (.refl _) fit
      ((finds_written undoes_bool rfl).map vote)
  case ballotPassed ballot passed =>
    exact variant_eq_ok rfl (by decide) (.refl _) fit
      ((finds_written undoes_ident rfl).map ballotPassed
        |>.ap (finds_written undoes_bool rfl))
  case passedCount comparison value =>
    exact variant_eq_ok rfl (by decide) (.refl _) fit
      ((finds_written (undoes_word Comparison.find?_word) rfl).map passedCount
        |>.ap (finds_written undoes_byte rfl))
  case currencyValue currency comparison value =>
    exact variant_eq_ok rfl (by decide) (.refl _) fit
      ((finds_written undoes_ident rfl).map currencyValue
        |>.ap (finds_written (undoes_word Comparison.find?_word) rfl)
        |>.ap (finds_written undoes_signedByte rfl))
  case procedureActive procedure active =>
    exact variant_eq_ok rfl (by decide) (.refl _) fit
      ((finds_written undoes_ident rfl).map procedureActive
        |>.ap (finds_written undoes_bool rfl))

theorem mapM_toJsons (cs : List Condition) (room : Nat)
    (fit : ∀ j ∈ toJsons cs, j.depth ≤ room) :
    (toJsons cs).mapM (readAside (room + 1) true) = .ok cs := by
  cases cs with
  | nil => rfl
  | cons c cs =>
    obtain ⟨first_fits, rest_fit⟩ := List.forall_mem_cons.1 fit
    have first := readAside_toJson c room true (Nat.le_succ_of_le first_fits)
    have rest := mapM_toJsons cs room rest_fit
    rw [toJsons, List.mapM_cons, first, rest]
    rfl

end

theorem depth_toJson_pos (c : Condition) : 0 < c.toJson.depth := by
  cases c <;> rw [toJson] <;> exact depth_obj_pos _

theorem toJson_ne_null (c : Condition) : c.toJson ≠ .null := by
  intro h
  have deep := c.depth_toJson_pos
  rw [h] at deep
  exact absurd deep (by decide)

theorem undoes : Condition.read.Undoes toJson := by
  apply Undoes.aside
  refine ⟨plain_toJson, fun c room fit => ?_⟩
  have deep := c.depth_toJson_pos
  obtain ⟨inner, rfl⟩ : ∃ inner, room = inner + 1 := ⟨room - 1, by omega⟩
  exact readAside_toJson c inner false fit

end Condition

/-! ## Ballots -/

namespace LinkTarget

theorem undoes : LinkTarget.read.Undoes toJson := by
  constructor
  · intro t
    cases t <;> simp [toJson]
  · intro t room fit
    cases t with
    | finish => rfl
    | ballot id =>
      obtain ⟨inner, rfl, parts_fit⟩ := depth_obj_le.1 fit
      have id_read := undoes_ident.reads id inner (parts_fit ("ballot", .ident id) (by simp))
      show (Reader.ident inner (.ident id)).map ballot = _
      rw [id_read]
      rfl

end LinkTarget

theorem Link.undoes : Link.record.reader.Undoes toJson := by
  apply undoes_reader
  case distinct => decide
  case named => exact fun _ => .refl _
  case finds =>
    intro l
    exact ((finds_written Condition.undoes rfl).map Link.mk).ap
      (finds_written LinkTarget.undoes rfl)

theorem Consequence.undoes : Consequence.record.reader.Undoes toJson := by
  apply undoes_reader
  case distinct => decide
  case named => exact fun _ => .refl _
  case finds =>
    intro c
    exact ((finds_written BallotEffect.undoes.list rfl).map Consequence.mk).ap
      (finds_written Link.undoes.list rfl)

theorem Ballot.undoes : Ballot.record.reader.Undoes toJson := by
  apply undoes_reader
  case distinct => decide
  case named =>
    intro b
    cases b.resolution with
    | none => exact List.sublist_append_left ["id", "name", "pass", "fail", "incident"] _
    | some c => exact .refl _
  case finds =>
    intro b
    exact ((finds_written undoes_ident rfl).map Ballot.mk
      |>.ap (finds_written undoes_text rfl)
      |>.ap (finds_written Consequence.undoes rfl)
      |>.ap (finds_written Consequence.undoes rfl)
      |>.ap (finds_written undoes_bool rfl)
      |>.ap (finds_optional Condition.undoes Condition.toJson_ne_null rfl))

/-! ## Wordings -/

namespace Wording

theorem undoes : Wording.read.Undoes toJson := by
  constructor
  · intro w
    apply plain_obj_iff.2
    intro f hf
    obtain ⟨e, -, rfl⟩ := List.mem_map.1 hf
    exact .text _
  · intro w room fit
    obtain ⟨inner, rfl, -⟩ := depth_obj_le.1 fit
    have read : ((w.templates.map fun e => (e.1, Json.text e.2)).map
        fun f => (some f.1, f.2)).mapM (readTemplate inner) = .ok w.templates := by
      rw [List.map_map]
      exact mapM_eq_ok fun e _ => rfl
    show (List.mapM (readTemplate inner) _).map ofList = _
    rw [read]
    exact congrArg Except.ok w.ofList_templates

end Wording

/-! ## Rule books -/

namespace Rulebook

theorem undoes : Rulebook.record.reader.Undoes toJson := by
  apply undoes_reader
  case distinct => decide
  case named => exact fun _ => .refl _
  case finds =>
    intro r
    exact ((finds_written RoleDef.undoes.list rfl).map Rulebook.mk
      |>.ap (finds_written FactionDef.undoes.list rfl)
      |>.ap (finds_written FactionDef.undoes.list rfl)
      |>.ap (finds_written CurrencyDef.undoes.list rfl)
      |>.ap (finds_written Procedure.undoes.list rfl)
      |>.ap (finds_written Ballot.undoes.list rfl)
      |>.ap (finds_written Wording.undoes rfl))

/-- One procedure of each kind, and a ballot that is settled by a condition within conditions. -/
def moot : Rulebook where
  roles := [⟨⟨1⟩, "Reeve", ⟨true, 2, false⟩⟩]
  parties := [⟨⟨1⟩, "Upland", true⟩]
  regions := [⟨⟨2⟩, "Dale", false⟩]
  currencies := [⟨⟨1⟩, "Toll", .state, -5⟩, ⟨⟨2⟩, "Wool", .region ⟨2⟩, 7⟩]
  procedures := [
    ⟨⟨1⟩, "Oath", .governmental, [⟨.permissionVotes, [⟨1⟩], 3, rfl⟩]⟩,
    ⟨⟨2⟩, "Levy", .targeted [⟨1⟩] true, [⟨.currencySubtract, [⟨2⟩], 6, rfl⟩]⟩,
    ⟨⟨3⟩, "Wager", .declared (.diceValue 5) [⟨1⟩] [], [⟨.voteFailBonus, [], 12, rfl⟩]⟩]
  ballots := [{
    id := ⟨1⟩
    name := "The \"Great\" Flood"
    pass := {
      effects := [⟨.dissolveParty, [⟨1⟩], 0, rfl⟩]
      links := [⟨.any [.never, .procedureActive ⟨2⟩ true], .ballot ⟨1⟩⟩, ⟨.always, .finish⟩] }
    fail := { effects := [⟨.modifyCurrency, [⟨2⟩], -8, rfl⟩] }
    incident := true
    resolution := some (.all [.any [.ballotPassed ⟨1⟩ false, .passedCount .less 2],
      .currencyValue ⟨1⟩ .greaterEqual (-4)]) }]

theorem check_moot : moot.check = .ok () := by
  have wording : moot.wording.check = .ok () := Wording.check_english
  rw [Rulebook.check, wording]
  rfl

theorem ofText_eq_ok {r : Rulebook} {text : String} (sound : r.check = .ok ())
    (nested : r.toJson.depth ≤ maxDepth) (written : parse text = ⟨r.toJson, false⟩) :
    ofText text = .ok r := by
  have read : readText record.reader text = .ok r := by
    simp only [readText, written]
    rw [undoes.reads r maxDepth nested]
    rfl
  have passes : r.checked = .ok r := by
    rw [checked, sound]
    rfl
  rw [ofText, read]
  exact passes

/-- A sound rule book comes back from what is printed of it, and from every other text for the same
value. -/
theorem ofText_written {r : Rulebook} (sound : r.check = .ok ())
    (nested : r.toJson.depth ≤ maxDepth) :
    ofText r.toJson.print = .ok r ∧
      ∀ text, parse text = ⟨r.toJson, false⟩ → ofText text = .ok r := by
  have printed : parse r.toJson.print = ⟨r.toJson, false⟩ := parse_print (undoes.plain r)
  exact ⟨ofText_eq_ok sound nested printed, fun _ => ofText_eq_ok sound nested⟩

theorem ofText_written_moot :
    moot.check = .ok () ∧ moot.toJson.depth ≤ maxDepth ∧ ofText moot.toJson.print = .ok moot := by
  have nested : moot.toJson.depth ≤ maxDepth := by decide +kernel
  exact ⟨check_moot, nested, (ofText_written check_moot nested).1⟩

end Rulebook

end Parliament
