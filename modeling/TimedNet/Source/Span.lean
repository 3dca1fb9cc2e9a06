/-!
# `TimedNet.Source.Span` — stretches of the model text

Places are offsets into the concatenated text of a model.
-/

namespace TimedNet

/-- The text from `start` up to `stop`. The default is the span of what has no place. -/
structure Span where
  start : Int := 0
  stop : Int := 0
deriving DecidableEq, Repr, Inhabited

/-- The span at a single offset. -/
def Span.at (offset : Int) : Span := ⟨offset, offset⟩

end TimedNet
