import Parliament.Effect
import Parliament.Text.Quoted

/-! # Flaws

What keeps a rule book, or the list of the people who take part, from being used.
-/

namespace Parliament

/-- The spaces that names belong to, as messages call them. -/
inductive Space
  | role
  | faction
  | party
  | region
  | currency
  | stateCurrency
  | procedure
  | targetedProcedure
  | ballot
  | person
deriving DecidableEq

def Space.word : Space → String
  | .role => "role"
  | .faction => "faction"
  | .party => "party"
  | .region => "region"
  | .currency => "currency"
  | .stateCurrency => "state currency"
  | .procedure => "procedure"
  | .targetedProcedure => "targeted procedure"
  | .ballot => "ballot"
  | .person => "person"

/-- An entry of a rule book that names other entries. -/
inductive Referrer
  | currency (id : Ident)
  | procedure (id : Ident)
  | ballot (id : Ident)
deriving DecidableEq

def Referrer.shown : Referrer → String
  | .currency id => s!"currency {id}"
  | .procedure id => s!"procedure {id}"
  | .ballot id => s!"ballot {id}"

inductive Flaw
  | effect (e : EffectError)
  | reservedName (space : Space) (id : Ident)
  | repeatedName (space : Space) (id : Ident)
  | unknownName (owner : Referrer) (space : Space) (id : Ident)
  /-- A link is followed after the vote, so its condition must not read the vote. -/
  | voteInLink (ballot : Ident)
  | effectNotAllowed (procedure : Ident) (effect : ProcedureEffectKind) (procedureKind : String)
  | noResolution (ballot : Ident)
  | secondStateCurrency (currency first : Ident)
  | noText (key : String)
deriving DecidableEq

def Flaw.message : Flaw → String
  | .effect e => e.message
  | .reservedName space id => s!"{space.word} id {id} falls in the reserved range"
  | .repeatedName space id => s!"duplicate {space.word} id {id}"
  | .unknownName owner space id => s!"{owner.shown} references unknown {space.word} {id}"
  | .voteInLink ballot => s!"ballot {ballot} links on a live vote condition"
  | .effectNotAllowed procedure kind procedureKind =>
    s!"procedure {procedure}: {kind.word} effects are not allowed on {procedureKind} procedures"
  | .noResolution ballot => s!"incident ballot {ballot} has no resolution condition"
  | .secondStateCurrency currency first =>
    s!"currency {currency} is owned by the state but {first} already is"
  | .noText key => s!"missing localization string {Text.quoted key}"

end Parliament
