/-! # Names

Everything a rule book speaks of is known by one byte: people, roles, factions, currencies,
procedures and ballots, each in a space of its own. The bytes from 248 on are never handed out.
Some of them have a fixed meaning, as a role or as a target of payments.
-/

namespace Parliament

structure Ident where
  val : UInt8
deriving DecidableEq, Inhabited

namespace Ident

/-! ## Order -/

instance : LT Ident := ⟨fun a b => a.val < b.val⟩

instance (a b : Ident) : Decidable (a < b) := inferInstanceAs (Decidable (a.val < b.val))

theorem lt_def {a b : Ident} : a < b ↔ a.val.toNat < b.val.toNat := UInt8.lt_iff_toNat_lt

theorem ext_toNat {a b : Ident} (h : a.val.toNat = b.val.toNat) : a = b := by
  cases a; cases b; simp_all [UInt8.toNat_inj]

theorem lt_irrefl (a : Ident) : ¬ a < a := by simp [lt_def]

theorem lt_trans {a b c : Ident} (h : a < b) (k : b < c) : a < c := by
  rw [lt_def] at *; omega

instance : Std.Irrefl (· < · : Ident → Ident → Prop) := ⟨lt_irrefl⟩

instance : Trans (· < · : Ident → Ident → Prop) (· < ·) (· < ·) := ⟨lt_trans⟩

instance : Std.Trichotomous (· < · : Ident → Ident → Prop) :=
  ⟨fun a b h h' => ext_toNat (by rw [lt_def] at h h'; omega)⟩

/-! ## Writing -/

def toNat (a : Ident) : Nat := a.val.toNat

instance : ToString Ident := ⟨fun a => toString a.toNat⟩

/-! ## Reserved names -/

def firstReserved : Ident := ⟨248⟩

/-- From 248 on. Names 248 to 250 have no meaning and still cannot be used. -/
def isReserved (a : Ident) : Bool := decide (248 ≤ a.val)

/-- The role that everybody holds. -/
def member : Ident := ⟨255⟩
def headOfGovernment : Ident := ⟨254⟩
def headOfState : Ident := ⟨253⟩
def partyLeader : Ident := ⟨252⟩
def regionLeader : Ident := ⟨251⟩

/-- The reserved names that a rule book may give permissions to. -/
def namedRoles : List Ident := [member, headOfGovernment, headOfState, partyLeader, regionLeader]

def isNamedRole (a : Ident) : Bool := namedRoles.contains a

/-- As a target of payments: the currency of the state. -/
def stateFunds : Ident := ⟨255⟩

/-- As a target of payments: the currency of every active party. -/
def partyFunds : Ident := ⟨254⟩

/-- As a target of payments: the currency of every active region. -/
def regionFunds : Ident := ⟨253⟩

theorem isReserved_iff {a : Ident} : a.isReserved = true ↔ 248 ≤ a.toNat := by
  simp [isReserved, toNat, UInt8.le_iff_toNat_le]

end Ident

end Parliament
