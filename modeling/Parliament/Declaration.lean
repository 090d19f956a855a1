import Parliament.Balance
import Parliament.Chance
import Parliament.IdMap
import Parliament.Procedure

/-! # Declarations

What comes of declaring a procedure, and what it costs. A price is paid in the currency that the
declarer owns.
-/

namespace Parliament

/-- Why a declaration did not go through. The rules foresee every one of these. -/
inductive Rejection
  | divisionFailed
  | rollTooLow (roll needed : UInt8)
  | insufficientCurrency (cost : UInt8) (available : Option Int8)
  | outrolled (declarer defender : UInt8)
  /-- The declarer holds no role that may declare. -/
  | notPermitted
  /-- The procedure has no part in the open ballot. -/
  | notApplicable
  | alreadyDeclared
  | declarationsClosed
deriving DecidableEq

inductive DeclarationResult
  | confirmed
  /-- The chamber has not decided yet. -/
  | pending
  | rejected (reason : Rejection)
deriving DecidableEq

def DeclarationResult.isConfirmed : DeclarationResult → Bool
  | confirmed => true
  | _ => false

namespace Confirmation

def balanceOf (balances : IdMap Int8) (currency : Ident) : Except Fault Int8 :=
  match balances.get? currency with
  | some b => .ok b
  | none => .error (.currencyOfPayment currency)

/-- Whether a fixed price could be paid now. Anything else may always be tried. -/
def canAfford (owned : Option Ident) (balances : IdMap Int8) :
    Confirmation → Except Fault Bool
  | currencyValue value =>
    match owned with
    | none => .ok false
    | some currency => do return decide (value ≤ (← balanceOf balances currency))
  | _ => .ok true

def pay (balances : IdMap Int8) (currency : Ident) (cost : Int8) : Except Fault (IdMap Int8) := do
  return balances.insert currency (Balance.sub (← balanceOf balances currency) cost)

structure Settled (γ : Type) where
  result : DeclarationResult
  balances : IdMap Int8
  chance : γ

variable {γ : Type} [Chance γ]

/-- A fixed price that cannot be paid is a fault of the host, which could have asked before. -/
def settlePrice (value : Int8) (owned : Option Ident) (balances : IdMap Int8) (chance : γ) :
    Except Fault (Settled γ) := do
  if ← canAfford owned balances (currencyValue value) then
    match owned with
    | some currency => return ⟨.confirmed, ← pay balances currency value, chance⟩
    | none => return ⟨.confirmed, balances, chance⟩
  else .error (.notAffordable value)

def settleRoll (needed : UInt8) (balances : IdMap Int8) (chance : γ) : Settled γ :=
  let (roll, chance) := Chance.roll chance
  ⟨if needed ≤ roll then .confirmed else .rejected (.rollTooLow roll needed), balances, chance⟩

/-- A roll is compared with the balance as a number and only then cut to a signed byte. -/
def settleRolledPrice (owned : Option Ident) (balances : IdMap Int8) (chance : γ) :
    Except Fault (Settled γ) :=
  let (roll, chance) := Chance.roll chance
  match owned with
  | none => .ok ⟨.rejected (.insufficientCurrency roll none), balances, chance⟩
  | some currency => do
    let balance ← balanceOf balances currency
    if (roll.toNat : Int) ≤ balance.toInt then
      return ⟨.confirmed, ← pay balances currency roll.toInt8, chance⟩
    else return ⟨.rejected (.insufficientCurrency roll (some balance)), balances, chance⟩

def contest (declarer defender : UInt8) : DeclarationResult :=
  if defender ≤ declarer then .confirmed else .rejected (.outrolled declarer defender)

/-- The price is paid whether the contest is won or lost. Without a currency it is free. -/
def settleContest (owned : Option Ident) (balances : IdMap Int8) (chance : γ) :
    Except Fault (Settled γ) :=
  let (declarer, chance) := Chance.roll chance
  let (defender, chance) := Chance.roll chance
  match owned with
  | none => .ok ⟨contest declarer defender, balances, chance⟩
  | some currency => do
    let balance ← balanceOf balances currency
    if (declarer.toNat : Int) ≤ balance.toInt then
      return ⟨contest declarer defender, ← pay balances currency declarer.toInt8, chance⟩
    else return ⟨.rejected (.insufficientCurrency declarer (some balance)), balances, chance⟩

def settleDivision (live : Option Bool) : DeclarationResult :=
  match live with
  | some true => .confirmed
  | some false => .rejected .divisionFailed
  | none => .pending

/-- How the open ballot stands is given as `live`. -/
def settle (c : Confirmation) (owned : Option Ident) (balances : IdMap Int8)
    (live : Option Bool) (chance : γ) : Except Fault (Settled γ) :=
  match c with
  | always => .ok ⟨.confirmed, balances, chance⟩
  | divisionChamber => .ok ⟨settleDivision live, balances, chance⟩
  | currencyValue value => settlePrice value owned balances chance
  | diceValue value => .ok (settleRoll value balances chance)
  | diceCurrency => settleRolledPrice owned balances chance
  | diceAdversarial => settleContest owned balances chance

end Confirmation

end Parliament
