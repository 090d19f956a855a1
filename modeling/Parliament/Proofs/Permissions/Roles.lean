import Parliament.Proofs.Permissions

/-! # Permissions from several roles

A right needs every role to grant it, and the votes are the largest that a role gives. Neither
depends on the role with which the fold starts, nor on the order in which the others follow, so a
role that is gained can take rights away and add votes, but not the other way round.
-/

namespace Parliament.Permissions

variable {table : IdMap Permissions} {held : IdSet} {p q seed : Permissions} {roles : List Ident}

/-! ## Combining -/

theorem toNat_votes_combine (p q : Permissions) :
    (p.combine q).votes.toNat = max p.votes.toNat q.votes.toNat := by
  have largest : (p.combine q).votes = if p.votes ≤ q.votes then q.votes else p.votes := rfl
  rw [largest]
  split
  next le =>
    rw [UInt8.le_iff_toNat_le] at le
    omega
  next gt =>
    rw [UInt8.le_iff_toNat_le] at gt
    omega

theorem combineAll_grants_iff {right : Permissions → Bool}
    (joint : ∀ p q : Permissions, right (p.combine q) = (right p && right q))
    (h : combineAll table seed roles = .ok p) :
    right p = true ↔ right seed = true ∧ ∀ role ∈ roles, ∃ q ∈ table.get? role, right q = true := by
  induction roles generalizing seed with
  | nil =>
    obtain rfl := pure_eq_ok.1 h
    simp
  | cons role roles ih =>
    obtain ⟨q, there, rest⟩ := combineAll_cons_eq_ok.1 h
    rw [ih rest, joint, Bool.and_eq_true, List.forall_mem_cons, and_assoc]
    simp [there]

theorem combineAll_votes_le (h : combineAll table seed roles = .ok p) :
    seed.votes.toNat ≤ p.votes.toNat ∧
      ∀ role ∈ roles, ∃ q ∈ table.get? role, q.votes.toNat ≤ p.votes.toNat := by
  induction roles generalizing seed with
  | nil =>
    obtain rfl := pure_eq_ok.1 h
    simp
  | cons role roles ih =>
    obtain ⟨q, there, rest⟩ := combineAll_cons_eq_ok.1 h
    obtain ⟨before, behind⟩ := ih rest
    rw [toNat_votes_combine] at before
    refine ⟨by omega, List.forall_mem_cons.2 ⟨⟨q, there, by omega⟩, behind⟩⟩

theorem combineAll_votes_eq (h : combineAll table seed roles = .ok p) :
    p.votes.toNat = seed.votes.toNat ∨
      ∃ role ∈ roles, ∃ q ∈ table.get? role, q.votes.toNat = p.votes.toNat := by
  induction roles generalizing seed with
  | nil =>
    obtain rfl := pure_eq_ok.1 h
    exact .inl rfl
  | cons role roles ih =>
    obtain ⟨q, there, rest⟩ := combineAll_cons_eq_ok.1 h
    rcases ih rest with same | ⟨other, mem, found⟩
    · rw [toNat_votes_combine] at same
      rcases Nat.le_total seed.votes.toNat q.votes.toNat with le | le
      · exact .inr ⟨role, List.mem_cons_self, q, there, by omega⟩
      · exact .inl (by omega)
    · exact .inr ⟨other, List.mem_cons_of_mem role mem, found⟩

/-! ## What roles come to -/

/-- The permissions that follow from what the table has for all of the roles together. -/
structure Pooled (table : IdMap Permissions) (held : IdSet) (p : Permissions) : Prop where
  canVote : p.canVote = true ↔ ∀ role ∈ held, ∃ q ∈ table.get? role, q.canVote = true
  canSpeak : p.canSpeak = true ↔ ∀ role ∈ held, ∃ q ∈ table.get? role, q.canSpeak = true
  votes_le : ∀ role ∈ held, ∃ q ∈ table.get? role, q.votes ≤ p.votes
  votes_eq : ∃ role ∈ held, ∃ q ∈ table.get? role, q.votes = p.votes

theorem Pooled.known (h : Pooled table held p) {role : Ident} (holds : role ∈ held) :
    table.contains role = true := by
  obtain ⟨q, there, -⟩ := h.votes_le role holds
  exact IdMap.contains_eq_true_iff.2 ⟨q, there⟩

theorem Pooled.unique (h : Pooled table held p) (k : Pooled table held q) : p = q := by
  have atMost {p q : Permissions} (h : Pooled table held p) (k : Pooled table held q) :
      p.votes ≤ q.votes := by
    obtain ⟨role, holds, r, there, same⟩ := h.votes_eq
    obtain ⟨r', there', le⟩ := k.votes_le role holds
    obtain rfl := Option.some.inj (there.symm.trans there')
    exact same ▸ le
  have canVote : p.canVote = q.canVote := by rw [Bool.eq_iff_iff, h.canVote, k.canVote]
  have canSpeak : p.canSpeak = q.canSpeak := by rw [Bool.eq_iff_iff, h.canSpeak, k.canSpeak]
  have votes : p.votes = q.votes := UInt8.le_antisymm (atMost h k) (atMost k h)
  cases p
  cases q
  simp_all

theorem Pooled.wider {wider : IdSet} (h : Pooled table held p) (k : Pooled table wider q)
    (more : ∀ role ∈ held, role ∈ wider) :
    (q.canVote = true → p.canVote = true) ∧ (q.canSpeak = true → p.canSpeak = true) ∧
      p.votes ≤ q.votes := by
  refine ⟨fun votes => ?_, fun speaks => ?_, ?_⟩
  · exact h.canVote.2 fun role holds => k.canVote.1 votes role (more role holds)
  · exact h.canSpeak.2 fun role holds => k.canSpeak.1 speaks role (more role holds)
  · obtain ⟨role, holds, r, there, same⟩ := h.votes_eq
    obtain ⟨r', there', le⟩ := k.votes_le role (more role holds)
    obtain rfl := Option.some.inj (there.symm.trans there')
    exact same ▸ le

/-- The role that comes first is folded in a second time, which makes no difference: it takes no
right away that it has not taken before, and adds no votes. -/
theorem pooled_ofRolesFrom {first : Ident} {order : List Ident} (holds : first ∈ held)
    (all : ∀ role, role ∈ order ↔ role ∈ held) (h : ofRolesFrom table first order = .ok p) :
    Pooled table held p := by
  obtain ⟨seed, found, folded⟩ := bind_eq_ok.1 h
  rw [ofRole_eq_ok] at found
  have twice {right : Permissions → Bool}
      (joint : ∀ p q : Permissions, right (p.combine q) = (right p && right q)) :
      right p = true ↔ ∀ role ∈ held, ∃ q ∈ table.get? role, right q = true := by
    rw [combineAll_grants_iff joint folded]
    simp only [all]
    refine and_iff_right_of_imp fun granted => ?_
    obtain ⟨q, there, yes⟩ := granted first holds
    obtain rfl := Option.some.inj (found.symm.trans there)
    exact yes
  refine ⟨twice fun _ _ => rfl, twice fun _ _ => rfl, fun role member => ?_, ?_⟩
  · obtain ⟨q, there, le⟩ := (combineAll_votes_le folded).2 role ((all role).2 member)
    exact ⟨q, there, UInt8.le_iff_toNat_le.2 le⟩
  · rcases combineAll_votes_eq folded with same | ⟨role, member, q, there, same⟩
    · exact ⟨first, holds, seed, found, UInt8.toNat_inj.1 same.symm⟩
    · exact ⟨role, (all role).1 member, q, there, UInt8.toNat_inj.1 same⟩

theorem pooled_ofRoles (h : ofRoles table held = .ok p) : Pooled table held p := by
  cases last : held.toList.getLast? with
  | none => simp [ofRoles, last] at h
  | some role =>
    rw [ofRoles_eq last] at h
    exact pooled_ofRolesFrom (IdSet.mem_toList.1 (List.mem_of_getLast? last))
      (fun _ => IdSet.mem_toList) h

theorem ofRoles_eq_error_iff :
    (∃ fault, ofRoles table held = .error fault) ↔
      (∀ role, ¬ role ∈ held) ∨ ∃ role ∈ held, table.contains role = false := by
  constructor
  · rintro ⟨fault, failed⟩
    by_cases holds : ∃ role, role ∈ held
    · by_cases missing : ∃ role ∈ held, table.contains role = false
      · exact .inr missing
      · have known : ∀ role ∈ held, table.contains role = true := by simpa using missing
        obtain ⟨p, folded⟩ := exists_ofRoles holds known
        simp [folded] at failed
    · exact .inl (by simpa using holds)
  · intro fails
    cases folded : ofRoles table held with
    | error fault => exact ⟨fault, rfl⟩
    | ok p =>
      have pooled := pooled_ofRoles folded
      rcases fails with nobody | ⟨role, holds, unknown⟩
      · obtain ⟨role, holds, -⟩ := pooled.votes_eq
        exact absurd holds (nobody role)
      · simp [pooled.known holds] at unknown

/-- Roles that the table has, and at least one of them, come to the permissions that they have
together, from whichever role and in whichever order they are folded in. One more role takes no
votes away and grants no right that the others deny. The fold fails for no roles at all and for
roles that the table does not have, and for no other. -/
theorem roles_come_together (table : IdMap Permissions) (held : IdSet) :
    ((∃ fault, ofRoles table held = .error fault) ↔
      (∀ role, ¬ role ∈ held) ∨ ∃ role ∈ held, table.contains role = false) ∧
    ((∃ role, role ∈ held) → (∀ role ∈ held, table.contains role = true) →
      ∃ p, ofRoles table held = .ok p ∧ Pooled table held p ∧
        (∀ first ∈ held, ∀ order : List Ident, (∀ role, role ∈ order ↔ role ∈ held) →
          ofRolesFrom table first order = .ok p) ∧
        ∀ gained, table.contains gained = true →
          ∃ q, ofRoles table (held.insert gained) = .ok q ∧
            (q.canVote = true → p.canVote = true) ∧ (q.canSpeak = true → p.canSpeak = true) ∧
            p.votes ≤ q.votes) := by
  refine ⟨ofRoles_eq_error_iff, fun holds known => ?_⟩
  obtain ⟨p, folded⟩ := exists_ofRoles holds known
  have pooled := pooled_ofRoles folded
  refine ⟨p, folded, pooled, fun first mem order all => ?_, fun gained listed => ?_⟩
  · obtain ⟨q, otherwise⟩ := exists_ofRolesFrom mem all known
    rw [otherwise, (pooled_ofRolesFrom mem all otherwise).unique pooled]
  · have knownAll : ∀ role ∈ held.insert gained, table.contains role = true := by
      intro role member
      rcases IdSet.mem_insert.1 member with rfl | before
      · exact listed
      · exact known role before
    obtain ⟨q, foldedAll⟩ := exists_ofRoles ⟨gained, by simp⟩ knownAll
    refine ⟨q, foldedAll, pooled.wider (pooled_ofRoles foldedAll) fun role before => ?_⟩
    exact IdSet.mem_insert.2 (.inr before)

/-- Everybody is a member; the chair may not speak and the clerk may not vote. -/
def chapter : IdMap Permissions :=
  .ofList [(.member, ⟨true, 1, true⟩), (⟨0⟩, ⟨true, 3, false⟩), (⟨1⟩, ⟨false, 2, true⟩)]

theorem roles_come_together_chapter :
    let held : IdSet := .ofList [.member, ⟨0⟩]
    ofRoles chapter held = .ok ⟨true, 3, false⟩ ∧ Pooled chapter held ⟨true, 3, false⟩ ∧
      ofRolesFrom chapter ⟨0⟩ [.member, ⟨0⟩] = .ok ⟨true, 3, false⟩ ∧
      (∃ q, ofRoles chapter (held.insert ⟨1⟩) = .ok q ∧ (q.canSpeak = true → False) ∧
        3 ≤ q.votes) ∧
      ∃ fault, ofRoles chapter (held.insert ⟨9⟩) = .error fault := by
  intro held
  have listed : ∀ role ∈ held.toList, chapter.contains role = true := by decide
  obtain ⟨p, folded, pooled, anyhow, gain⟩ := (roles_come_together chapter held).2
    ⟨.member, by decide⟩ fun role holds => listed role (IdSet.mem_toList.2 holds)
  obtain rfl : p = ⟨true, 3, false⟩ := by
    have value : ofRoles chapter held = .ok ⟨true, 3, false⟩ := rfl
    exact Except.ok.inj (folded.symm.trans value)
  obtain ⟨q, foldedAll, -, silent, votes⟩ := gain ⟨1⟩ (by decide)
  exact ⟨folded, pooled, anyhow ⟨0⟩ (by decide) _ fun _ => IdSet.mem_ofList.symm,
    ⟨q, foldedAll, fun speaks => Bool.false_ne_true (silent speaks), votes⟩,
    (roles_come_together chapter (held.insert ⟨9⟩)).1.2 (.inr ⟨⟨9⟩, by decide, by decide⟩)⟩

end Parliament.Permissions
