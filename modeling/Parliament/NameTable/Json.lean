import Parliament.NameTable
import Parliament.Permissions.Json

/-! # Name tables as JSON -/

namespace Parliament.NameTable

open Json

def toJson (t : NameTable) : Json :=
  .obj [("roles", .idMap .text t.roles), ("parties", .idMap .text t.parties),
    ("regions", .idMap .text t.regions), ("currencies", .idMap .text t.currencies),
    ("procedures", .idMap .text t.procedures), ("ballots", .idMap .text t.ballots),
    ("people", .idMap .text t.people)]

end Parliament.NameTable
