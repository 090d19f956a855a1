import Parliament.Effect

/-! # Procedures

A procedure is a bundle of effects with a rule for when it takes place: once during setup, at the
start of ballots, or when somebody declares it.
-/

namespace Parliament

/-! ## Confirmations -/

inductive Confirmation
  | always
  /-- The open ballot must have passed on the floor. -/
  | divisionChamber
  /-- A fixed price in the declarer's currency. -/
  | currencyValue (value : Int8)
  /-- A roll of at least `value`. -/
  | diceValue (value : UInt8)
  | diceCurrency
  /-- The declarer pays a roll, and it must not be below that of a defender. -/
  | diceAdversarial
deriving DecidableEq, Inhabited

def Confirmation.word : Confirmation → String
  | always => "always"
  | divisionChamber => "division_chamber"
  | currencyValue _ => "currency_value"
  | diceValue _ => "dice_value"
  | diceCurrency => "dice_currency"
  | diceAdversarial => "dice_adversarial"

/-! ## Procedures -/

inductive ProcedureKind
  /-- Takes place once, during setup. -/
  | governmental
  /-- Takes place at the start of the listed ballots, or of every ballot if none is listed, as long
  as the procedure is active. `active` is how it begins. -/
  | targeted (ballots : List Ident) (active : Bool)
  /-- May be declared by holders of the listed roles in the listed ballots. An empty list sets no
  limit. -/
  | declared (confirmation : Confirmation) (declarers : List Ident) (ballots : List Ident)
deriving DecidableEq, Inhabited

namespace ProcedureKind

def word : ProcedureKind → String
  | governmental => "governmental"
  | targeted .. => "targeted"
  | declared .. => "declared"

def isGovernmental : ProcedureKind → Bool
  | governmental => true
  | _ => false

def isTargeted : ProcedureKind → Bool
  | targeted .. => true
  | _ => false

def isDeclared : ProcedureKind → Bool
  | declared .. => true
  | _ => false

def startsActive : ProcedureKind → Bool
  | targeted _ active => active
  | _ => false

def confirmation? : ProcedureKind → Option Confirmation
  | declared c _ _ => some c
  | _ => none

def takesPartIn (ballot : Ident) : ProcedureKind → Bool
  | governmental => false
  | targeted ballots _ | declared _ _ ballots => ballots.isEmpty || ballots.contains ballot

end ProcedureKind

structure Procedure where
  id : Ident
  name : String
  kind : ProcedureKind
  effects : List ProcedureEffect
deriving DecidableEq

namespace Procedure

def appliesTo (p : Procedure) (ballot : Ident) : Bool := p.kind.takesPartIn ballot

def confirmation? (p : Procedure) : Option Confirmation := p.kind.confirmation?

end Procedure

end Parliament
