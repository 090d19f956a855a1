import Mathlib.Data.List.Induction
import Parliament.Proofs.Permissions

/-! # Amendments one after the other

Two operators amend: permissions take an amendment, and an amendment takes another one. They agree.
Amendments form a monoid that acts on permissions, so those that reach a person can be put together
first. Of the amendments to one field the last wins, and the fields do not touch each other.
-/

namespace Parliament

namespace Amendment

/-! ## Amendments as a monoid -/

theorem followedBy_assoc (a b c : Amendment) :
    (a.followedBy b).followedBy c = a.followedBy (b.followedBy c) := by
  simp only [followedBy, Option.or_assoc]

@[simp] theorem empty_followedBy (a : Amendment) : empty.followedBy a = a := by
  simp [followedBy, empty]

@[simp] theorem followedBy_empty (a : Amendment) : a.followedBy empty = a := by
  simp [followedBy, empty]

/-- The amendments put together, the first one first. -/
def inTurn (l : List Amendment) : Amendment := l.foldl followedBy empty

theorem inTurn_concat (l : List Amendment) (a : Amendment) :
    inTurn (l ++ [a]) = (inTurn l).followedBy a := List.foldl_append

/-! ## The last amendment to a field -/

section

variable {β : Type} {set? : Amendment → Option β}

def lastSet (set? : Amendment → Option β) (l : List Amendment) : Option β :=
  (l.filterMap set?).getLast?

theorem lastSet_append (l m : List Amendment) :
    lastSet set? (l ++ m) = (lastSet set? m).or (lastSet set? l) := by
  rw [lastSet, List.filterMap_append, List.getLast?_append]
  rfl

theorem lastSet_singleton (a : Amendment) : lastSet set? [a] = set? a := by
  cases value : set? a <;> simp [lastSet, value]

theorem set?_inTurn (nothing : set? empty = none)
    (later : ∀ a b, set? (a.followedBy b) = (set? b).or (set? a)) (l : List Amendment) :
    set? (inTurn l) = lastSet set? l := by
  induction l using List.reverseRecOn with
  | nil => exact nothing
  | append_singleton l a ih => rw [inTurn_concat, later, ih, lastSet_append, lastSet_singleton]

end

end Amendment

open Amendment

theorem Override.appliesTo_iff {o : Override} {person : Ident} {held : IdSet} :
    o.appliesTo person held = true ↔
      o.target = .person person ∨ ∃ ids, o.target = .roles ids ∧ ∃ role ∈ ids, role ∈ held := by
  obtain ⟨target, amendment⟩ := o
  cases target <;> simp [appliesTo, IdSet.mem_iff]

namespace Permissions

/-! ## Amendments at work -/

theorem amend_followedBy (p : Permissions) (a b : Amendment) :
    p.amend (a.followedBy b) = (p.amend a).amend b := by
  simp only [amend, followedBy, Option.getD_or]

theorem amendAll_eq_amend_inTurn (p : Permissions) (l : List Amendment) :
    p.amendAll l = p.amend (inTurn l) := by
  induction l using List.reverseRecOn with
  | nil => rfl
  | append_singleton l a ih =>
    rw [amendAll_append, ih, inTurn_concat, amend_followedBy]
    rfl

/-- Every field has the value to which it was set last. What is meant for one person alone comes
after what is meant for many, and a field that is not set is as the roles have it. -/
structure LastWins (p : Permissions) (general personal : List Amendment) (q : Permissions) :
    Prop where
  canVote : q.canVote =
    ((lastSet (·.canVote) personal).or (lastSet (·.canVote) general)).getD p.canVote
  votes : q.votes = ((lastSet (·.votes) personal).or (lastSet (·.votes) general)).getD p.votes
  canSpeak : q.canSpeak =
    ((lastSet (·.canSpeak) personal).or (lastSet (·.canSpeak) general)).getD p.canSpeak

theorem lastWins_amend (p : Permissions) (general personal : List Amendment) :
    p.LastWins general personal (p.amend (inTurn (general ++ personal))) := by
  constructor <;> rw [← lastSet_append, ← set?_inTurn rfl fun _ _ => rfl] <;> rfl

/-- Everybody whose roles the table knows gets the permissions of these roles with all amendments
that reach them, field by field the last one. As they form a monoid that acts on permissions, it
makes no difference whether they are made one by one or put together first. -/
theorem compose_last_wins {roles : IdMap IdSet} {table : IdMap Permissions}
    {overrides : List Override} {personal : List (Ident × Amendment)}
    (holds : ∀ person held, roles.get? person = some held → ∃ role, role ∈ held)
    (known : ∀ person held, roles.get? person = some held →
      ∀ role ∈ held, table.contains role = true) :
    (∃ m, compose roles table overrides personal = .ok m ∧ m.keys = roles.keys ∧
      ∀ person held, roles.get? person = some held → ∃ p q, ofRoles table held = .ok p ∧
        m.get? person = some q ∧
        q = p.amend (inTurn (amendmentsFor person held overrides personal)) ∧
        p.LastWins ((overrides.filter (·.appliesTo person held)).map Override.amendment)
          ((personal.filter (·.1 = person)).map Prod.snd) q) ∧
    (∀ (o : Override) person held, o.appliesTo person held = true ↔
      o.target = .person person ∨ ∃ ids, o.target = .roles ids ∧ ∃ role ∈ ids, role ∈ held) ∧
    (∀ (p : Permissions) a b, (p.amend a).amend b = p.amend (a.followedBy b)) ∧
    (∀ a b c : Amendment, (a.followedBy b).followedBy c = a.followedBy (b.followedBy c)) ∧
    (∀ a : Amendment, Amendment.empty.followedBy a = a ∧ a.followedBy .empty = a) ∧
    ∀ (p : Permissions) l, p.amendAll l = p.amend (inTurn l) := by
  refine ⟨?_, fun _ _ _ => Override.appliesTo_iff, fun p a b => (p.amend_followedBy a b).symm,
    followedBy_assoc, fun a => ⟨a.empty_followedBy, a.followedBy_empty⟩, amendAll_eq_amend_inTurn⟩
  obtain ⟨m, composed⟩ : ∃ m, compose roles table overrides personal = .ok m :=
    exists_compose holds known
  refine ⟨m, composed, IdMap.keys_traverse composed, fun person held seat => ?_⟩
  obtain ⟨p, folded, found⟩ := get?_compose composed seat
  rw [amendAll_eq_amend_inTurn] at found
  exact ⟨p, _, folded, found, rfl, p.lastWins_amend _ _⟩

/-- Members may speak, and wardens may vote as well. The first person is a warden, and both are
members. -/
def vestry : IdMap IdSet :=
  .ofList [(⟨1⟩, .ofList [⟨1⟩, .member]), (⟨2⟩, .ofList [.member])]

def vestryTable : IdMap Permissions := .ofList [(⟨1⟩, ⟨true, 2, true⟩), (.member, standard)]

theorem compose_last_wins_vestry :
    let overrides : List Override :=
      [⟨.roles [.member], .ofCanVote true⟩, ⟨.roles [⟨1⟩], .ofVotes 5⟩, ⟨.person ⟨2⟩, .ofVotes 3⟩]
    ∃ m, compose vestry vestryTable overrides [(⟨2⟩, .ofCanVote false), (⟨1⟩, .empty)] = .ok m ∧
      m.get? ⟨1⟩ = some ⟨true, 5, true⟩ ∧ m.get? ⟨2⟩ = some ⟨false, 3, true⟩ := by
  intro overrides
  -- All members may vote, wardens for five each; the second person for three, but then not at all.
  have seats : ∀ e ∈ vestry.entries, e.2.toList ≠ [] ∧
      ∀ role ∈ e.2.toList, vestryTable.contains role = true := by decide
  have holds (person held) (seat : vestry.get? person = some held) : ∃ role, role ∈ held := by
    obtain ⟨role, there⟩ :=
      List.exists_mem_of_ne_nil _ (seats _ (IdMap.mem_entries_iff.2 seat)).1
    exact ⟨role, IdSet.mem_toList.1 there⟩
  have known (person held) (seat : vestry.get? person = some held) (role) (holds : role ∈ held) :
      vestryTable.contains role = true :=
    (seats _ (IdMap.mem_entries_iff.2 seat)).2 role (IdSet.mem_toList.2 holds)
  obtain ⟨⟨m, composed, -, each⟩, -⟩ := compose_last_wins holds known
  obtain ⟨p, _, folded, found, rfl, -⟩ := each ⟨1⟩ _ rfl
  obtain ⟨p', _, folded', found', rfl, -⟩ := each ⟨2⟩ _ rfl
  have warden : ofRoles vestryTable (.ofList [⟨1⟩, .member]) = .ok ⟨false, 2, true⟩ := by decide
  have member : ofRoles vestryTable (.ofList [.member]) = .ok standard := by decide
  obtain rfl := Except.ok.inj (warden.symm.trans folded)
  obtain rfl := Except.ok.inj (member.symm.trans folded')
  refine ⟨m, composed, found.trans ?_, found'.trans ?_⟩
  · decide
  · decide

end Permissions

end Parliament
