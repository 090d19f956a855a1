import Parliament.Permissions
import Parliament.Proofs.Success
import Parliament.Proofs.Tables

/-! # Composed permissions

Somebody who holds at least one role, and none that the table does not have, has permissions: those
that the roles give, with all amendments that reach them.
-/

namespace Parliament.Permissions

variable {table : IdMap Permissions} {held : IdSet}

/-! ## Folding roles in -/

section

variable {p seed : Permissions} {roles : List Ident}

theorem ofRole_eq_ok {role : Ident} : ofRole table role = .ok p ↔ table.get? role = some p := by
  unfold ofRole
  cases table.get? role <;> simp

theorem exists_ofRole {role : Ident} (h : table.contains role = true) :
    ∃ p, ofRole table role = .ok p :=
  (IdMap.contains_eq_true_iff.1 h).imp fun _ => ofRole_eq_ok.2

/-- The roles are folded in one after the other, in the order given. -/
def combineAll (table : IdMap Permissions) (seed : Permissions) (roles : List Ident) :
    Except Fault Permissions :=
  roles.foldlM (fun p role => do return p.combine (← ofRole table role)) seed

theorem combineAll_cons_eq_ok {role : Ident} :
    combineAll table seed (role :: roles) = .ok p ↔
      ∃ q, table.get? role = some q ∧ combineAll table (seed.combine q) roles = .ok p := by
  simp only [combineAll, List.foldlM_cons, bind_eq_ok, pure_eq_ok, ofRole_eq_ok]
  constructor
  · rintro ⟨_, ⟨q, there, rfl⟩, rest⟩
    exact ⟨q, there, rest⟩
  · rintro ⟨q, there, rest⟩
    exact ⟨_, ⟨q, there, rfl⟩, rest⟩

theorem exists_combineAll (known : ∀ role ∈ roles, table.contains role = true)
    (seed : Permissions) : ∃ p, combineAll table seed roles = .ok p := by
  induction roles generalizing seed with
  | nil => exact ⟨seed, rfl⟩
  | cons role roles ih =>
    obtain ⟨first, others⟩ := List.forall_mem_cons.1 known
    obtain ⟨q, there⟩ := IdMap.contains_eq_true_iff.1 first
    obtain ⟨p, rest⟩ := ih others (seed.combine q)
    exact ⟨p, combineAll_cons_eq_ok.2 ⟨q, there, rest⟩⟩

/-- The fold from a role of one's choice, with the roles in an order of one's choice. -/
def ofRolesFrom (table : IdMap Permissions) (first : Ident) (order : List Ident) :
    Except Fault Permissions := do
  combineAll table (← ofRole table first) order

theorem ofRoles_eq {last : Ident} (h : held.toList.getLast? = some last) :
    ofRoles table held = ofRolesFrom table last held.toList := by
  rw [ofRoles, h]
  rfl

theorem exists_ofRolesFrom {first : Ident} {order : List Ident} (holds : first ∈ held)
    (all : ∀ role, role ∈ order ↔ role ∈ held)
    (known : ∀ role ∈ held, table.contains role = true) :
    ∃ p, ofRolesFrom table first order = .ok p := by
  obtain ⟨seed, found⟩ := exists_ofRole (known first holds)
  obtain ⟨p, folded⟩ := exists_combineAll (fun role member => known role ((all role).1 member)) seed
  exact ⟨p, bind_eq_ok.2 ⟨seed, found, folded⟩⟩

end

theorem exists_ofRoles (holds : ∃ role, role ∈ held)
    (known : ∀ role ∈ held, table.contains role = true) : ∃ p, ofRoles table held = .ok p := by
  cases last : held.toList.getLast? with
  | none =>
    obtain ⟨role, there⟩ := holds
    rw [List.getLast?_eq_none_iff] at last
    rw [← IdSet.mem_toList, last] at there
    simp at there
  | some role =>
    rw [ofRoles_eq last]
    exact exists_ofRolesFrom (IdSet.mem_toList.1 (List.mem_of_getLast? last))
      (fun _ => IdSet.mem_toList) known

/-! ## What permissions are composed of -/

theorem exists_compose {roles : IdMap IdSet} {overrides : List Override}
    {personal : List (Ident × Amendment)}
    (holds : ∀ person held, roles.get? person = some held → ∃ role, role ∈ held)
    (known : ∀ person held, roles.get? person = some held →
      ∀ role ∈ held, table.contains role = true) :
    ∃ m, compose roles table overrides personal = .ok m := by
  refine IdMap.exists_traverse fun person held h => ?_
  obtain ⟨p, hp⟩ := exists_ofRoles (holds person held h) (known person held h)
  exact ⟨_, bind_eq_ok.2 ⟨p, hp, rfl⟩⟩

section

variable {roles : IdMap IdSet} {overrides : List Override} {personal : List (Ident × Amendment)}
  {m : IdMap Permissions}

theorem get?_compose (h : compose roles table overrides personal = .ok m) {person : Ident}
    (seat : roles.get? person = some held) :
    ∃ p, ofRoles table held = .ok p ∧
      m.get? person = some (p.amendAll (amendmentsFor person held overrides personal)) := by
  have entry := IdMap.get?_traverse h person
  rw [seat, Option.map_some, eq_comm, Option.map_eq_some_iff] at entry
  obtain ⟨q, found, made⟩ := entry
  obtain ⟨p, folded, amended⟩ := bind_eq_ok.1 made.symm
  rw [pure_eq_ok] at amended
  exact ⟨p, folded, amended ▸ found⟩

theorem exists_compose_of_eq_ok (h : compose roles table overrides personal = .ok m)
    (overrides' : List Override) (personal' : List (Ident × Amendment)) :
    ∃ n, compose roles table overrides' personal' = .ok n := by
  refine IdMap.exists_traverse fun person held seat => ?_
  obtain ⟨p, folded, -⟩ := get?_compose h seat
  exact ⟨_, bind_eq_ok.2 ⟨p, folded, rfl⟩⟩

end

theorem amendAll_append (p : Permissions) (l m : List Amendment) :
    p.amendAll (l ++ m) = (p.amendAll l).amendAll m := List.foldl_append

end Parliament.Permissions
