import Parliament.Ident

/-! # People -/

namespace Parliament

structure Person where
  id : Ident
  name : String
deriving DecidableEq, Inhabited

structure Affiliation where
  party : Option Ident := none
  region : Option Ident := none
deriving DecidableEq, Inhabited

def Affiliation.contains (a : Affiliation) (faction : Ident) : Bool :=
  a.party == some faction || a.region == some faction

end Parliament
