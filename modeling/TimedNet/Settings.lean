/-!
# `TimedNet.Settings` — options, analysis methods and features of a document

## Contents
- `ModelOption`, `findOption`: named values, of which the last one counts.
- `Methods`: the kinds of analysis that a document supports.
- `Feature`, `Features`: what a checker found in a document.
-/

namespace TimedNet

/-- A named value. -/
structure ModelOption where
  name : String
  value : String
deriving DecidableEq, Repr, Inhabited

/-- The last option of a name: a later one overrides an earlier one. -/
def findOption (options : List ModelOption) (name : String) : Option ModelOption :=
  options.reverse.find? fun o => o.name == name

/-- The kinds of analysis that a document supports, by default all. -/
structure Methods where
  symbolic : Bool := true
  stochastic : Bool := true
  concrete : Bool := true
deriving DecidableEq, Repr, Inhabited

/-- What a checker records about a document. -/
inductive Feature where
  | strictInvariant | stopWatch | strictLowerBound | clockGuardRecvBroadcast | urgentTransition
deriving DecidableEq, Repr

/-- The word for a feature. -/
def Feature.word : Feature → String
  | .strictInvariant => "strictInvariant"
  | .stopWatch => "stopWatch"
  | .strictLowerBound => "strictLowerBound"
  | .clockGuardRecvBroadcast => "clockGuardRecvBroadcast"
  | .urgentTransition => "urgentTransition"

/-- All features. -/
def Feature.all : List Feature :=
  [.strictInvariant, .stopWatch, .strictLowerBound, .clockGuardRecvBroadcast, .urgentTransition]

/-- Which features were recorded, and whether a priority was declared. -/
structure Features where
  urgentTransition : Bool := false
  priorities : Bool := false
  strictInvariants : Bool := false
  stopWatch : Bool := false
  strictLowerBound : Bool := false
  clockGuardRecvBroadcast : Bool := false
deriving DecidableEq, Repr, Inhabited

/-- The features with one more recorded. -/
def Features.record (f : Features) : Feature → Features
  | .strictInvariant => { f with strictInvariants := true }
  | .stopWatch => { f with stopWatch := true }
  | .strictLowerBound => { f with strictLowerBound := true }
  | .clockGuardRecvBroadcast => { f with clockGuardRecvBroadcast := true }
  | .urgentTransition => { f with urgentTransition := true }

end TimedNet
