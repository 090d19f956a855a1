import Parliament.House

/-! # Signals

A session tells its observers what has changed. A signal goes out when the change is complete.
-/

namespace Parliament

inductive Signal
  | permissionsUpdated (permissions : IdMap Permissions)
  | currenciesModified (balances : IdMap Int8)
  | proceduresModified (active : IdSet)
  | ballotVoted (record : BallotRecord)
  /-- Elections are about to be held, from these roles and affiliations. -/
  | electionPreparing (requests : List ElectionRequest) (roles : IdMap IdSet)
    (affiliations : IdMap Affiliation)
  | electionCompleted (roles : IdMap IdSet) (affiliations : IdMap Affiliation)
deriving DecidableEq

end Parliament
