import TimedNet.Settings

/-!
# `TimedNet.Query` — queries stored with a model

Queries are kept so that a model survives a round through a chain of tools; what they say is not
interpreted.

## Contents
- `Resource`, `Expectation`, `Query`.
- `Query.addOption`, `Query.setFirstOption`, `Query.addResource`, `Query.setStatus`.
-/

namespace TimedNet

/-- What a run of a query used, with an optional unit. -/
structure Resource where
  name : String
  value : String
  unit : Option String := none
deriving DecidableEq, Repr, Inhabited

/-- The result that a query is expected to have. -/
structure Expectation where
  valueType : String := "symbolic"
  status : String := "unknown"
  value : String := ""
  resources : List Resource := []
deriving DecidableEq, Repr, Inhabited

/-- A formula with what belongs to it. -/
structure Query where
  formula : String
  comment : String := ""
  options : List ModelOption := []
  expectation : Expectation := {}
  location : String := ""
deriving DecidableEq, Repr, Inhabited

namespace Query

/-- The query with another comment. -/
def setComment (q : Query) (comment : String) : Query := { q with comment }

/-- The query with another status. -/
def setStatus (q : Query) (status : String) : Query :=
  { q with expectation := { q.expectation with status } }

/-- The query with one more option. -/
def addOption (q : Query) (o : ModelOption) : Query := { q with options := q.options ++ [o] }

/-- The query with another value for its first option. -/
def setFirstOption (q : Query) (value : String) : Query :=
  { q with options := q.options.modify 0 fun o => { o with value } }

/-- The query with one more resource. -/
def addResource (q : Query) (r : Resource) : Query :=
  { q with expectation := { q.expectation with resources := q.expectation.resources ++ [r] } }

end Query

end TimedNet
