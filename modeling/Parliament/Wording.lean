import Parliament.Entries
import Parliament.Fault

/-! # Wordings

A wording gives a template for each key. A template holds places, written as a name in braces, that
are filled when it is shown.
-/

namespace Parliament

/-! ## The English wording -/

/-- Every key here is needed in every wording. -/
def englishTemplates : List (String × String) := [
  ("condition.always", "always"),
  ("condition.never", "never"),
  ("condition.and", "all of (\x7bchildren\x7d)"),
  ("condition.or", "any of (\x7bchildren\x7d)"),
  ("condition.vote.pass", "this ballot passes"),
  ("condition.vote.fail", "this ballot fails"),
  ("condition.ballot.passed", "\x7bballot\x7d passed"),
  ("condition.ballot.failed", "\x7bballot\x7d failed"),
  ("condition.passed_count", "passed ballots \x7bcmp\x7d \x7bvalue\x7d"),
  ("condition.currency_value", "\x7bcurrency\x7d \x7bcmp\x7d \x7bvalue\x7d"),
  ("condition.procedure.active", "\x7bprocedure\x7d is active"),
  ("condition.procedure.inactive", "\x7bprocedure\x7d is inactive"),
  ("comparison.equal", "is"),
  ("comparison.not_equal", "is not"),
  ("comparison.less", "is below"),
  ("comparison.less_equal", "is at most"),
  ("comparison.greater", "is above"),
  ("comparison.greater_equal", "is at least"),
  ("effect.elect_party", "party election (\x7btargets\x7d)"),
  ("effect.elect_region", "region election (\x7btargets\x7d)"),
  ("effect.elect_nominated", "nominate \x7btargets\x7d"),
  ("effect.elect_appointed", "appoint \x7btargets\x7d"),
  ("effect.permission_can_vote", "\x7btargets\x7d: may vote = \x7bvalue\x7d"),
  ("effect.permission_votes", "\x7btargets\x7d: \x7bvalue\x7d votes"),
  ("effect.permission_can_speak", "\x7btargets\x7d: may speak = \x7bvalue\x7d"),
  ("effect.vote_pass_bonus", "+\x7bvalue\x7d in favour"),
  ("effect.vote_fail_bonus", "+\x7bvalue\x7d against"),
  ("effect.supermajority", "two-thirds majority required"),
  ("effect.currency_add", "\x7btargets\x7d +\x7bvalue\x7d"),
  ("effect.currency_subtract", "\x7btargets\x7d -\x7bvalue\x7d"),
  ("effect.procedure_activate", "enact \x7btargets\x7d"),
  ("effect.procedure_remove", "repeal \x7btargets\x7d"),
  ("effect.ballot_limit", "only \x7btargets\x7d may vote"),
  ("effect.ballot_pass", "the ballot passes"),
  ("effect.ballot_fail", "the ballot fails"),
  ("effect.found_party", "found \x7btargets\x7d"),
  ("effect.dissolve_party", "dissolve \x7btargets\x7d"),
  ("effect.activate_procedure", "enact \x7btargets\x7d"),
  ("effect.remove_procedure", "repeal \x7btargets\x7d"),
  ("effect.replace_procedure", "replace \x7btargets\x7d"),
  ("effect.modify_currency", "\x7btargets\x7d \x7bvalue\x7d"),
  ("confirmation.always", "free"),
  ("confirmation.division_chamber", "division of the chamber"),
  ("confirmation.currency_value", "costs \x7bvalue\x7d"),
  ("confirmation.dice_value", "roll \x7bvalue\x7d or more"),
  ("confirmation.dice_currency", "costs one die roll"),
  ("confirmation.dice_adversarial", "contested roll"),
  ("procedure.governmental", "\x7bname\x7d: \x7beffects\x7d"),
  ("procedure.targeted", "\x7bname\x7d: \x7beffects\x7d"),
  ("procedure.declared", "\x7bname\x7d [\x7bconfirmation\x7d]: \x7beffects\x7d"),
  ("target.random", "a random member"),
  ("target.owned", "own currency"),
  ("target.state", "state funds"),
  ("target.party", "every party's funds"),
  ("target.region", "every region's funds")]

/-! ## Wordings -/

/-- One template for each key, in ascending order of the keys. -/
structure Wording where
  templates : List (String × String)
  ascending : Entries.Ascending templates
deriving DecidableEq

namespace Wording

def empty : Wording := ⟨[], List.Pairwise.nil⟩

def get? (w : Wording) (key : String) : Option String := Entries.get? key w.templates

def set (w : Wording) (key text : String) : Wording :=
  ⟨Entries.insert key text w.templates, Entries.ascending_insert w.ascending⟩

def erase (w : Wording) (key : String) : Wording :=
  ⟨w.templates.filter fun e => e.1 ≠ key, w.ascending.filter _⟩

/-- Of two templates for one key the later stays. -/
def ofList (l : List (String × String)) : Wording := l.foldl (fun w e => w.set e.1 e.2) empty

def english : Wording := ofList englishTemplates

instance : Inhabited Wording := ⟨english⟩

def neededKeys : List String := englishTemplates.map Prod.fst

/-- The first needed key without a template, in the order in which the English ones are listed. -/
def missingKey? (w : Wording) : Option String := neededKeys.find? fun k => (w.get? k).isNone

def check (w : Wording) : Except Flaw Unit :=
  match w.missingKey? with
  | some key => .error (.noText key)
  | none => .ok ()

/-- The templates that the English wording does not have. -/
def changes (w : Wording) : List (String × String) :=
  w.templates.filter fun e => english.get? e.1 ≠ some e.2

/-! ## Filling templates -/

/-- Writes `insert` for each `mark`, from left to right; `skip` characters still belong to the last
mark. -/
def replaceFrom (mark insert : List Char) : Nat → List Char → List Char
  | _, [] => []
  | skip + 1, _ :: rest => replaceFrom mark insert skip rest
  | 0, c :: rest =>
    if mark.isPrefixOf (c :: rest) then
      insert ++ replaceFrom mark insert (mark.length - 1) rest
    else c :: replaceFrom mark insert 0 rest

def replaceAll (mark insert : String) (text : String) : String :=
  String.ofList (replaceFrom mark.toList insert.toList 0 text.toList)

def place (name : String) : String := "\x7b" ++ name ++ "\x7d"

/-- Places are filled one name after the other, so a text that was filled in may itself hold a place
for a later name. -/
def fill (template : String) (values : List (String × String)) : String :=
  values.foldl (fun text v => replaceAll (place v.1) v.2 text) template

def render (w : Wording) (key : String) (values : List (String × String)) :
    Except Fault String :=
  match w.get? key with
  | some template => .ok (fill template values)
  | none => .error (.noText key)

end Wording

end Parliament
