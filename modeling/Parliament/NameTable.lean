import Parliament.IdMap

/-! # What things are called -/

namespace Parliament

structure NameTable where
  roles : IdMap String := .empty
  parties : IdMap String := .empty
  regions : IdMap String := .empty
  currencies : IdMap String := .empty
  procedures : IdMap String := .empty
  ballots : IdMap String := .empty
  people : IdMap String := .empty
deriving DecidableEq, Inhabited

namespace NameTable

def unnamed (a : Ident) : String := s!"#{a}"

def lookIn (table : IdMap String) (a : Ident) : String := (table.get? a).getD (unnamed a)

def role (t : NameTable) (a : Ident) : String := lookIn t.roles a

def party (t : NameTable) (a : Ident) : String := lookIn t.parties a

def currency (t : NameTable) (a : Ident) : String := lookIn t.currencies a

def procedure (t : NameTable) (a : Ident) : String := lookIn t.procedures a

def ballot (t : NameTable) (a : Ident) : String := lookIn t.ballots a

/-- A filter may stand for a party, a region, a role or a person; the first that there is counts. -/
def filter (t : NameTable) (a : Ident) : String :=
  ([t.parties, t.regions, t.roles, t.people].findSome? (·.get? a)).getD (unnamed a)

end NameTable

end Parliament
