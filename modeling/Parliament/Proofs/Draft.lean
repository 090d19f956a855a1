import Mathlib.Data.List.Nodup
import Parliament.Draft
import Parliament.Proofs.Rulebook.Clashes
import Parliament.Proofs.Session.Orderly

/-! # The names of a draft

A draft takes its names from one supply for each space. What it lists in a space was handed out by
the supply of that space, a role that has a fixed meaning apart, and each name was handed out once.
So a rule book that is drafted never clashes with itself, and its people can always be registered.
-/

namespace Parliament

/-! ## What a supply handed out -/

/-- The names come from the supply or are among those that stand outside of it, each once. -/
structure NameSupply.Issued (supply : NameSupply) (outside names : List Ident) : Prop where
  distinct : names.Nodup
  source : ∀ id ∈ names, id < supply.next ∨ id ∈ outside
  /-- The supply goes no further than the first name that is reserved. -/
  bounded : supply.next.toNat ≤ 248
  /-- The supply never comes to the names outside of it. -/
  apart : ∀ id ∈ outside, id.isReserved = true

namespace NameSupply.Issued

variable {supply rest : NameSupply} {outside names names' : List Ident} {a : Ident}

theorem perm (h : supply.Issued outside names) (k : names.Perm names') :
    supply.Issued outside names' :=
  ⟨k.nodup_iff.1 h.distinct, fun id hid => h.source id (k.mem_iff.2 hid), h.bounded, h.apart⟩

theorem advance (h : supply.Issued outside names) (onward : supply.next.toNat ≤ rest.next.toNat)
    (bounded : rest.next.toNat ≤ 248) : rest.Issued outside names := by
  refine ⟨h.distinct, fun id hid => (h.source id hid).imp_left fun before => ?_, bounded, h.apart⟩
  rw [Ident.lt_def] at before ⊢
  exact Nat.lt_of_lt_of_le before onward

theorem append (h : supply.Issued outside names) (new : a ∉ names)
    (source : a < supply.next ∨ a ∈ outside) : supply.Issued outside (names ++ [a]) := by
  refine ⟨?_, ?_, h.bounded, h.apart⟩
  · rw [← List.concat_eq_append]
    exact h.distinct.concat new
  · exact List.forall_mem_append.2 ⟨h.source, List.forall_mem_singleton.2 source⟩

theorem take (h : supply.Issued outside names) (taken : supply.take = .ok (a, rest)) :
    rest.Issued outside (names ++ [a]) := by
  obtain ⟨rfl, unreserved, onward⟩ := take_eq_ok taken
  have new : supply.next ∉ names := fun used => by
    obtain before | outside := h.source _ used
    · exact Ident.lt_irrefl _ before
    · have := Ident.isReserved_iff.1 (h.apart _ outside)
      omega
  have behind : supply.next.toNat < rest.next.toNat := by omega
  exact (h.advance (by omega) (by omega)).append new (.inl (Ident.lt_def.2 behind))

theorem add {α : Type} {name : α → Ident} {l : List α} {x : α}
    (h : supply.Issued outside (l.map name)) (taken : supply.take = .ok (name x, rest)) :
    rest.Issued outside ((l ++ [x]).map name) := by
  rw [List.map_append]
  exact h.take taken

theorem addBefore {α : Type} {name : α → Ident} {l : List α} {x : α} {others : List Ident}
    (h : supply.Issued outside (l.map name ++ others)) (taken : supply.take = .ok (name x, rest)) :
    rest.Issued outside ((l ++ [x]).map name ++ others) := by
  refine (h.take taken).perm ?_
  rw [List.map_append, List.append_assoc, List.append_assoc]
  exact List.perm_append_comm.append_left _

theorem addBehind {α : Type} {name : α → Ident} {l : List α} {x : α} {others : List Ident}
    (h : supply.Issued outside (others ++ l.map name)) (taken : supply.take = .ok (name x, rest)) :
    rest.Issued outside (others ++ (l ++ [x]).map name) := by
  rw [List.map_append, ← List.append_assoc]
  exact h.take taken

theorem below (h : supply.Issued outside names) {id : Ident} (hid : id ∈ names) :
    id < Ident.firstReserved ∨ id ∈ outside := by
  refine (h.source id hid).imp_left fun before => ?_
  have bounded := h.bounded
  rw [Ident.lt_def] at before ⊢
  have : Ident.firstReserved.val.toNat = 248 := rfl
  simp only [Ident.toNat] at bounded
  omega

theorem free (h : supply.Issued [] names) : Rulebook.Free names := by
  refine ⟨h.distinct, fun id hid => ?_⟩
  simpa using h.below hid

end NameSupply.Issued

namespace Draft

/-! ## Entries that keep the names apart -/

theorem ids_setPermissions {role : Ident} {permissions : Permissions} (l : List RoleDef) :
    (setPermissions role permissions l).map (·.id) =
      if role ∈ l.map (·.id) then l.map (·.id) else l.map (·.id) ++ [role] := by
  induction l with
  | nil => rfl
  | cons r l ih =>
    unfold setPermissions
    by_cases found : r.id = role
    · simp [found]
    · have other : role ≠ r.id := fun same => found same.symm
      simp only [if_neg found, List.map_cons, ih, List.mem_cons, other, false_or]
      split <;> rfl

theorem id_onConsequence (b : Ballot) (passed : Bool) (f : Consequence → Consequence) :
    (onConsequence b passed f).id = b.id := by
  cases passed <;> rfl

theorem id_of_apply {b b' : Ballot} {e : BallotEdit} (h : e.apply b = .ok b') : b'.id = b.id := by
  cases e with
  | effect passed kind targets value =>
    rw [BallotEdit.apply] at h
    split at h
    next => rw [← Except.ok.inj h, id_onConsequence]
    next => simp at h
  | link => rw [← Except.ok.inj h, id_onConsequence]
  | next | incident | rename => rw [← Except.ok.inj h]

theorem ids_editIn {id : Ident} {e : BallotEdit} {l l' : List Ballot}
    (h : editIn id e l = .ok l') : l'.map (·.id) = l.map (·.id) := by
  induction l generalizing l' with
  | nil => simp [editIn] at h
  | cons b l ih =>
    unfold editIn at h
    split at h
    · obtain ⟨b', applied, h⟩ := bind_eq_ok.1 h
      rw [← pure_eq_ok.1 h, List.map_cons, List.map_cons, id_of_apply applied]
    · obtain ⟨rest, edited, h⟩ := bind_eq_ok.1 h
      rw [← pure_eq_ok.1 h, List.map_cons, List.map_cons, ih edited]

/-! ## All spaces at once -/

/-- In each space the names come from the supply of the space. Parties and regions share one. -/
structure Numbered (d : Draft) : Prop where
  people : d.personNames.Issued [] (d.people.map (·.id))
  roles : d.roleNames.Issued Ident.namedRoles (d.rulebook.roles.map (·.id))
  factions : d.factionNames.Issued []
    (d.rulebook.parties.map (·.id) ++ d.rulebook.regions.map (·.id))
  currencies : d.currencyNames.Issued [] (d.rulebook.currencies.map (·.id))
  procedures : d.procedureNames.Issued [] (d.rulebook.procedures.map (·.id))
  ballots : d.ballotNames.Issued [] (d.rulebook.ballots.map (·.id))

theorem numbered_new : new.Numbered := by
  have nothing : NameSupply.new.Issued [] [] := ⟨List.nodup_nil, nofun, by decide, nofun⟩
  have member : NameSupply.new.Issued Ident.namedRoles [.member] :=
    ⟨List.nodup_singleton _, by simp [Ident.namedRoles], by decide, by decide⟩
  exact ⟨nothing, member, nothing, nothing, nothing, nothing⟩

/-! ## Entries -/

variable {d d' : Draft} {id : Ident} {ids : List Ident}

namespace Numbered

theorem addPerson {name : String} (h : d.Numbered) (added : d.addPerson name = .ok (id, d')) :
    d'.Numbered := by
  obtain ⟨⟨a, rest⟩, taken, done⟩ := bind_eq_ok.1 added
  obtain ⟨rfl, rfl⟩ := Prod.mk.inj (pure_eq_ok.1 done)
  exact { h with people := h.people.add taken }

theorem addPeopleFrom {i n : Nat} (h : d.Numbered)
    (added : d.addPeopleFrom i n = .ok (ids, d')) : d'.Numbered := by
  induction n generalizing d ids d' i with
  | zero =>
    obtain ⟨-, rfl⟩ := Prod.mk.inj (Except.ok.inj added)
    exact h
  | succ n ih =>
    obtain ⟨⟨a, m⟩, first, added⟩ := bind_eq_ok.1 added
    obtain ⟨⟨l, m'⟩, others, done⟩ := bind_eq_ok.1 added
    obtain ⟨-, rfl⟩ := Prod.mk.inj (pure_eq_ok.1 done)
    exact ih (h.addPerson first) others

theorem addRole {name : String} {permissions : Permissions} (h : d.Numbered)
    (added : d.addRole name permissions = .ok (id, d')) : d'.Numbered := by
  obtain ⟨⟨a, rest⟩, taken, done⟩ := bind_eq_ok.1 added
  obtain ⟨rfl, rfl⟩ := Prod.mk.inj (pure_eq_ok.1 done)
  exact { h with roles := h.roles.add taken }

theorem setRolePermissions {role : Ident} (h : d.Numbered) (listed : d.rulebook.ListsRole role)
    (permissions : Permissions) : (d.setRolePermissions role permissions).Numbered := by
  refine { h with roles := ?_ }
  show d.roleNames.Issued _ ((setPermissions role permissions d.rulebook.roles).map (·.id))
  rw [ids_setPermissions]
  split
  next => exact h.roles
  next unlisted =>
    have named : role ∈ Ident.namedRoles := by
      obtain named | ⟨r, hr, rfl⟩ := listed
      · exact named
      · exact absurd (List.mem_map_of_mem hr) unlisted
    exact h.roles.append unlisted (.inr named)

theorem addParty {name : String} {active : Bool} (h : d.Numbered)
    (added : d.addParty name active = .ok (id, d')) : d'.Numbered := by
  obtain ⟨⟨a, rest⟩, taken, done⟩ := bind_eq_ok.1 added
  obtain ⟨rfl, rfl⟩ := Prod.mk.inj (pure_eq_ok.1 done)
  exact { h with factions := h.factions.addBefore taken }

theorem addRegion {name : String} {active : Bool} (h : d.Numbered)
    (added : d.addRegion name active = .ok (id, d')) : d'.Numbered := by
  obtain ⟨⟨a, rest⟩, taken, done⟩ := bind_eq_ok.1 added
  obtain ⟨rfl, rfl⟩ := Prod.mk.inj (pure_eq_ok.1 done)
  exact { h with factions := h.factions.addBehind taken }

theorem addCurrency {name : String} {owner : CurrencyOwner} {initial : Int8} (h : d.Numbered)
    (added : d.addCurrency name owner initial = .ok (id, d')) : d'.Numbered := by
  obtain ⟨⟨a, rest⟩, taken, done⟩ := bind_eq_ok.1 added
  obtain ⟨rfl, rfl⟩ := Prod.mk.inj (pure_eq_ok.1 done)
  exact { h with currencies := h.currencies.add taken }

theorem addProcedure {name : String} {kind : ProcedureKind} {effects : List ProcedureEffect}
    (h : d.Numbered) (added : d.addProcedure name kind effects = .ok (id, d')) :
    d'.Numbered := by
  obtain ⟨⟨a, rest⟩, taken, done⟩ := bind_eq_ok.1 added
  obtain ⟨rfl, rfl⟩ := Prod.mk.inj (pure_eq_ok.1 done)
  exact { h with procedures := h.procedures.add taken }

theorem addBallot {name : String} (h : d.Numbered) (added : d.addBallot name = .ok (id, d')) :
    d'.Numbered := by
  obtain ⟨⟨a, rest⟩, taken, done⟩ := bind_eq_ok.1 added
  obtain ⟨rfl, rfl⟩ := Prod.mk.inj (pure_eq_ok.1 done)
  exact { h with ballots := h.ballots.add taken }

theorem edit {e : BallotEdit} (h : d.Numbered) (edited : d.edit id e = .ok d') :
    d'.Numbered := by
  obtain ⟨l, found, done⟩ := bind_eq_ok.1 edited
  obtain rfl := pure_eq_ok.1 done
  have ballots : d.ballotNames.Issued [] (l.map (·.id)) := by
    rw [ids_editIn found]
    exact h.ballots
  exact { h with ballots := ballots }

end Numbered

/-- Permissions are set for a role that is listed or has a fixed meaning. Nothing else is asked of
an entry. -/
def Allows (d : Draft) : Entry → Prop
  | .rolePermissions role _ => d.rulebook.ListsRole role
  | _ => True

theorem exists_of_single {x : Except Fault (Ident × Draft)} (h : single x = .ok (ids, d')) :
    ∃ id, x = .ok (id, d') := by
  obtain ⟨⟨id, m⟩, made, done⟩ := map_eq_ok.1 h
  obtain ⟨-, rfl⟩ := Prod.mk.inj done
  exact ⟨id, made⟩

theorem Numbered.add {e : Entry} (h : d.Numbered) (allowed : d.Allows e)
    (added : d.add e = .ok (ids, d')) : d'.Numbered := by
  cases e with
  | person =>
    obtain ⟨id, added⟩ := exists_of_single added
    exact h.addPerson added
  | people => exact h.addPeopleFrom added
  | role =>
    obtain ⟨id, added⟩ := exists_of_single added
    exact h.addRole added
  | rolePermissions role permissions =>
    obtain ⟨-, rfl⟩ := Prod.mk.inj (Except.ok.inj added)
    exact h.setRolePermissions allowed permissions
  | party =>
    obtain ⟨id, added⟩ := exists_of_single added
    exact h.addParty added
  | region =>
    obtain ⟨id, added⟩ := exists_of_single added
    exact h.addRegion added
  | currency =>
    obtain ⟨id, added⟩ := exists_of_single added
    exact h.addCurrency added
  | procedure =>
    obtain ⟨id, added⟩ := exists_of_single added
    exact h.addProcedure added
  | ballot =>
    obtain ⟨id, added⟩ := exists_of_single added
    exact h.addBallot added
  | edit =>
    obtain ⟨m, edited, done⟩ := map_eq_ok.1 added
    obtain ⟨-, rfl⟩ := Prod.mk.inj done
    exact h.edit edited

/-! ## Whole drafts -/

/-- Every entry is allowed when its turn comes. -/
def Admits : Draft → List Entry → Prop
  | _, [] => True
  | d, e :: entries => d.Allows e ∧ ∀ ids d', d.add e = .ok (ids, d') → Admits d' entries

theorem Admits.cons {e : Entry} {entries : List Entry} (allowed : d.Allows e)
    (added : d.add e = .ok (ids, d')) (rest : d'.Admits entries) : d.Admits (e :: entries) := by
  refine ⟨allowed, fun ids d'' same => ?_⟩
  rw [added] at same
  obtain ⟨-, rfl⟩ := Prod.mk.inj (Except.ok.inj same)
  exact rest

theorem Numbered.addAll {entries : List Entry} (h : d.Numbered) (allowed : d.Admits entries)
    (added : d.addAll entries = .ok d') : d'.Numbered := by
  induction entries generalizing d with
  | nil =>
    obtain rfl := Except.ok.inj added
    exact h
  | cons e entries ih =>
    obtain ⟨first, rest⟩ := allowed
    obtain ⟨⟨ids, m⟩, one, others⟩ := bind_eq_ok.1 added
    exact ih (h.add first one) (rest ids m one) others

theorem Numbered.checkSpaces (h : d.Numbered) : d.rulebook.checkSpaces = .ok () := by
  refine Rulebook.checkSpaces_eq_ok.2 ⟨⟨h.roles.distinct, fun r hr => ?_⟩, h.factions.free,
    h.currencies.free, h.procedures.free, h.ballots.free⟩
  exact h.roles.below (List.mem_map_of_mem hr)

theorem exists_roster {people : List Person} {roster : IdMap Person}
    (free : Rulebook.Free (people.map (·.id)))
    (absent : ∀ p ∈ people, roster.contains p.id = false) :
    ∃ roster', House.register roster people = .ok roster' := by
  induction people generalizing roster with
  | nil => exact ⟨roster, rfl⟩
  | cons p people ih =>
    obtain ⟨new, distinct⟩ := List.nodup_cons.1 free.distinct
    obtain ⟨unreserved, others⟩ := List.forall_mem_cons.1 free.unreserved
    obtain ⟨unseated, rest⟩ := List.forall_mem_cons.1 absent
    unfold House.register
    rw [Rulebook.isReserved_eq_false.2 unreserved, unseated, if_neg Bool.false_ne_true,
      if_neg Bool.false_ne_true]
    refine ih ⟨distinct, others⟩ fun q hq => ?_
    have other : q.id ≠ p.id := fun same => new (List.mem_map.2 ⟨q, hq, same⟩)
    rw [IdMap.contains, IdMap.get?_insert, if_neg other]
    exact rest q hq

theorem register_of_seated {γ α : Type} {s : Session γ α} {people : List Person}
    {roster : IdMap Person} (phase : s.phase = .uninitialized)
    (seated : House.register .empty people = .ok roster) :
    s.register people =
      .ok ⟨.ok (), { s with house := s.house.seat roster, phase := .initialized }, []⟩ := by
  simp only [Session.register, phase, seated]

/-- However a draft is made, no name is used twice in its space or reserved, apart from the roles
that have a fixed meaning. So neither the check of the book nor the registration of the people finds
a clash. -/
theorem names_never_clash {entries : List Entry} (allowed : new.Admits entries)
    (added : new.addAll entries = .ok d) :
    (d.rulebook.roles.map (·.id)).Nodup ∧
    (∀ r ∈ d.rulebook.roles, r.id < Ident.firstReserved ∨ r.id ∈ Ident.namedRoles) ∧
    Rulebook.Free (d.rulebook.parties.map (·.id) ++ d.rulebook.regions.map (·.id)) ∧
    Rulebook.Free (d.rulebook.currencies.map (·.id)) ∧
    Rulebook.Free (d.rulebook.procedures.map (·.id)) ∧
    Rulebook.Free (d.rulebook.ballots.map (·.id)) ∧ Rulebook.Free (d.people.map (·.id)) ∧
    (∀ flaw, d.rulebook.check = .error flaw → ¬ flaw.IsClash) ∧
    ∀ (γ α : Type) (chance : γ) (officer : α) (s : Session γ α),
      Session.start d.rulebook chance officer = .ok s →
        ∃ o, s.register d.people = .ok o ∧ o.answer = .ok () := by
  have numbered : d.Numbered := numbered_new.addAll allowed added
  have spaces := numbered.checkSpaces
  refine ⟨numbered.roles.distinct, fun r hr => numbered.roles.below (List.mem_map_of_mem hr),
    numbered.factions.free, numbered.currencies.free, numbered.procedures.free,
    numbered.ballots.free, numbered.people.free, fun flaw found clash => ?_, ?_⟩
  · -- A clash would have been found by the check of the spaces, which passes.
    rw [Rulebook.check_eq_clash_iff clash, spaces] at found
    simp at found
  · intro γ α chance officer s begun
    obtain ⟨-, rfl⟩ := Session.start_eq_ok begun
    obtain ⟨roster, seated⟩ : ∃ roster, House.register .empty d.people = .ok roster :=
      exists_roster numbered.people.free fun _ _ => rfl
    exact ⟨_, register_of_seated rfl seated, rfl⟩

/-- A small town. The members and a head of state, whom nobody has listed yet, are given permissions
too, and the first ballot is changed after the second was added. -/
def townEntries : List Entry :=
  [.people 2, .role "Clerk" .standard, .rolePermissions .headOfState .standard,
    .rolePermissions .member .standard, .rolePermissions ⟨0⟩ .standard, .person "Ada",
    .party "Mill" true, .region "Quay" false, .party "Forge" false, .currency "Tolls" .state 3,
    .procedure "Toll" .governmental [], .ballot "Bridge", .ballot "Ferry",
    .edit ⟨0⟩ (.next ⟨1⟩), .edit ⟨0⟩ (.rename "New bridge"), .role "Reeve" .standard]

theorem names_never_clash_town : new.Admits townEntries ∧ ∃ d, new.addAll townEntries = .ok d ∧
    d.rulebook.roles.map (·.id) = [.member, ⟨0⟩, .headOfState, ⟨1⟩] ∧
    Rulebook.Free (d.rulebook.parties.map (·.id) ++ d.rulebook.regions.map (·.id)) ∧
    ∀ flaw, d.rulebook.check = .error flaw → ¬ flaw.IsClash := by
  have allowed : new.Admits townEntries := by
    refine .cons trivial rfl <| .cons trivial rfl <| .cons (.inl (by decide)) rfl <|
      .cons (.inl (by decide)) rfl <| .cons (.inr ⟨_, .tail _ (.head _), rfl⟩) rfl <|
      .cons trivial rfl <| .cons trivial rfl <| .cons trivial rfl <| .cons trivial rfl <|
      .cons trivial rfl <| .cons trivial rfl <| .cons trivial rfl <| .cons trivial rfl <|
      .cons trivial rfl <| .cons trivial rfl <| .cons trivial rfl trivial
  obtain ⟨d, added, roles⟩ : ∃ d, new.addAll townEntries = .ok d ∧
      d.rulebook.roles.map (·.id) = [.member, ⟨0⟩, .headOfState, ⟨1⟩] := ⟨_, rfl, rfl⟩
  obtain ⟨-, -, factions, -, -, -, -, checked, -⟩ := names_never_clash allowed added
  exact ⟨allowed, d, added, roles, factions, checked⟩

end Draft

end Parliament
