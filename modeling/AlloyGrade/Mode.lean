/-! Which checks a scoring run makes. -/

namespace AlloyGrade

inductive Mode where
  /-- The generated model is checked on its own, then compared. -/
  | combined
  /-- The models are only compared. -/
  | equivalenceOnly
deriving DecidableEq, Repr

namespace Mode

def default : Mode := .combined

/-- The name in documents. -/
def name : Mode → String
  | .combined => "combined"
  | .equivalenceOnly => "equivalence_only"

/-- The name in log lines. -/
def label : Mode → String
  | .combined => "Combined"
  | .equivalenceOnly => "EquivalenceOnly"

def ofName? (s : String) : Option Mode :=
  [Mode.combined, .equivalenceOnly].find? (·.name == s)

end Mode

end AlloyGrade
