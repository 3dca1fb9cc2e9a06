import TimedNet.Text.Placeholder

/-!
# `TimedNet.Source.Problem` — what can be wrong with a model

A problem is a condition with a name, a message template, and a subject: the offending name or
text. Words of a template that start with a dollar sign are keys that a front end translates.

## Contents
- `Severity`, `Problem`, `Problem.message`.
- `ProblemKind`: the conditions that this library knows, with their names and templates.
-/

namespace TimedNet

/-- Which log a problem belongs to. -/
inductive Severity where
  | error | warning
deriving DecidableEq, Repr, Inhabited

/-- The word for a severity. -/
def Severity.text : Severity → String
  | .error => "error"
  | .warning => "warning"

/-- A condition with the subject it was found on. -/
structure Problem where
  /-- The name of the condition. -/
  kind : String
  template : String
  subject : String
  severity : Severity := .error
deriving DecidableEq, Repr, Inhabited

/-- The template with the subject in its place. -/
def Problem.message (p : Problem) : String := Text.fill p.template p.subject

/-- The named conditions. -/
inductive ProblemKind where
  | unknownIdentifier | hasNoMember | isNotAStruct | duplicateDefinition | invalidType
  | noSuchProcess | notATemplate | notAProcess | strategyNotDeclared | unknownDynamicTemplate
  | shadowsAVariable | couldNotLoadLibrary | couldNotLoadFunction | tooManyArguments
  | freeRestrictedParameter | notALocation | notAnInstanceLine | missingChanPriority
deriving DecidableEq, Repr, Inhabited

namespace ProblemKind

/-- All named conditions. -/
def all : List ProblemKind :=
  [unknownIdentifier, hasNoMember, isNotAStruct, duplicateDefinition, invalidType, noSuchProcess,
    notATemplate, notAProcess, strategyNotDeclared, unknownDynamicTemplate, shadowsAVariable,
    couldNotLoadLibrary, couldNotLoadFunction, tooManyArguments, freeRestrictedParameter,
    notALocation, notAnInstanceLine, missingChanPriority]

/-- The name of a condition. -/
def name : ProblemKind → String
  | unknownIdentifier => "UnknownIdentifier"
  | hasNoMember => "HasNoMember"
  | isNotAStruct => "IsNotAStruct"
  | duplicateDefinition => "DuplicateDefinition"
  | invalidType => "InvalidType"
  | noSuchProcess => "NoSuchProcess"
  | notATemplate => "NotATemplate"
  | notAProcess => "NotAProcess"
  | strategyNotDeclared => "StrategyNotDeclared"
  | unknownDynamicTemplate => "UnknownDynamicTemplate"
  | shadowsAVariable => "ShadowsAVariable"
  | couldNotLoadLibrary => "CouldNotLoadLibrary"
  | couldNotLoadFunction => "CouldNotLoadFunction"
  | tooManyArguments => "TooManyArguments"
  | freeRestrictedParameter => "FreeRestrictedParameter"
  | notALocation => "NotALocation"
  | notAnInstanceLine => "NotAnInstanceLine"
  | missingChanPriority => "MissingChanPriority"

/-- The message template of a condition. -/
def template : ProblemKind → String
  | unknownIdentifier => "$Unknown_identifier: %1%"
  | hasNoMember => "$has_no_member_named %1%"
  | isNotAStruct => "%1% $is_not_a_structure"
  | duplicateDefinition => "$Duplicate_definition_of %1%"
  | invalidType => "$Invalid_type %1%"
  | noSuchProcess => "$No_such_process: %1%"
  | notATemplate => "$Not_a_template: %1%"
  | notAProcess => "%1% $is_not_a_process"
  | strategyNotDeclared => "$strategy_not_declared: %1%"
  | unknownDynamicTemplate => "Unknown dynamic template %1%"
  | shadowsAVariable => "%1% $shadows_a_variable"
  | couldNotLoadLibrary => "$Could_not_load_library_named %1%"
  | couldNotLoadFunction => "$Could_not_load_function_named %1%"
  | tooManyArguments => "$Too_many_arguments_to %1%"
  | freeRestrictedParameter => "$Restricted_parameter_may_not_be_free %1%"
  | notALocation => "%1% $is_not_a_location"
  | notAnInstanceLine => "%1% $is_not_an_instance_line"
  | missingChanPriority => "$No_channel_priority_to_extend_with %1%"

/-- Shadowing is worth a warning; every other condition is an error. -/
def severity : ProblemKind → Severity
  | shadowsAVariable => .warning
  | _ => .error

/-- The condition found on a subject. -/
def on (k : ProblemKind) (subject : String) : Problem := ⟨k.name, k.template, subject, k.severity⟩

end ProblemKind

end TimedNet
