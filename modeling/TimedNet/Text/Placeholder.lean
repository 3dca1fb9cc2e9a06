/-!
# `TimedNet.Text.Placeholder` — message templates with one place for a subject

A message template has a placeholder, written `%1%`, for the name that the message is about. Only
the first placeholder is filled. Inside the subject a dollar sign with one of four characters after
it stands for a part of the template instead of itself:

* `$$` is a dollar sign, `$&` the placeholder,
* a dollar sign and a grave accent is what comes before the placeholder,
* a dollar sign and an apostrophe is what comes after it.

## Contents
- `Text.splitPlaceholder`: what comes before and after the first placeholder.
- `Text.expand`: the subject with its dollar patterns resolved.
- `Text.fill`: the message.
-/

namespace TimedNet.Text

/-- The placeholder. -/
def placeholder : List Char := ['%', '1', '%']

/-- The parts before and after the first placeholder. -/
def splitPlaceholder : List Char → Option (List Char × List Char)
  | '%' :: '1' :: '%' :: rest => some ([], rest)
  | c :: rest => (splitPlaceholder rest).map fun parts => (c :: parts.1, parts.2)
  | [] => none

/-- The subject as it enters a message, between the parts `before` and `after` of the template. -/
def expand (before after : List Char) : List Char → List Char
  | '$' :: '$' :: rest => '$' :: expand before after rest
  | '$' :: '&' :: rest => placeholder ++ expand before after rest
  | '$' :: '\x60' :: rest => before ++ expand before after rest
  | '$' :: '\x27' :: rest => after ++ expand before after rest
  | c :: rest => c :: expand before after rest
  | [] => []

/-- The template with its first placeholder filled by the subject. -/
def fill (template subject : String) : String :=
  match splitPlaceholder template.toList with
  | some (before, after) =>
    String.ofList (before ++ expand before after subject.toList ++ after)
  | none => template

end TimedNet.Text
