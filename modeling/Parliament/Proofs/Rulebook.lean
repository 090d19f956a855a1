import Parliament.Proofs.Tables
import Parliament.Rulebook.WellFormed

/-! # Tables of a rule book

What the tables of a rule book hold is what the book lists.
-/

namespace Parliament.Rulebook

variable {r : Rulebook} {id : Ident}

theorem contains_roleTable : r.roleTable.contains id = true ↔ r.ListsRole id := by
  rw [roleTable, IdMap.contains_insertAll, IdMap.contains_ofList, or_comm]
  simp [ListsRole]

theorem contains_initialBalances : r.initialBalances.contains id = true ↔ r.ListsCurrency id := by
  rw [initialBalances, IdMap.contains_ofList]
  simp [ListsCurrency]

theorem listsCurrency_of_currencyOf {owner : CurrencyOwner} (h : r.currencyOf owner = some id) :
    r.ListsCurrency id := by
  obtain ⟨c, hc, rfl⟩ := Option.map_eq_some_iff.1 h
  exact ⟨c, List.mem_of_find?_eq_some hc, rfl⟩

theorem isSome_stateCurrency : r.stateCurrency.isSome = true ↔ r.HasTreasury := by
  simp [stateCurrency, currencyOf, HasTreasury]

/-! ## Look-ups -/

theorem mem_of_procedure? {p : Procedure} (h : r.procedure? id = some p) : p ∈ r.procedures :=
  List.mem_of_find?_eq_some h

theorem id_of_procedure? {p : Procedure} (h : r.procedure? id = some p) : p.id = id := by
  simpa using List.find?_some h

theorem procedure?_id {p : Procedure} (h : r.procedure? id = some p) :
    r.procedure? p.id = some p := by
  rw [id_of_procedure? h, h]

theorem mem_of_ballot? {b : Ballot} (h : r.ballot? id = some b) : b ∈ r.ballots :=
  List.mem_of_find?_eq_some h

end Parliament.Rulebook
