import TimedNet.Outline.Document
import TimedNet.Proofs.Binding.Flattening
import TimedNet.Proofs.Binding.Division
import TimedNet.Store.Automata
import TimedNet.Store.Charts
import TimedNet.Store.Copy
import TimedNet.Store.Declarations
import TimedNet.Store.Instances
import TimedNet.Store.Outcome
import TimedNet.Store.Restriction
import TimedNet.Store.Settings
import TimedNet.Text.Units
import TimedNet.Traversal
import TimedNet.Proofs.Run.Layout
import TimedNet.Proofs.Copy.Isomorphism
import TimedNet.Proofs.Separation.Copy
import TimedNet.Proofs.Run.Bodies
import TimedNet.Proofs.Run.Processes
import TimedNet.Proofs.Chart.Rows
import TimedNet.Proofs.Chart.Prechart
import TimedNet.Proofs.Chart.Cuts
import TimedNet.Proofs.Failure.Atomic
import TimedNet.Proofs.Scope.Reachable
import TimedNet.Proofs.Scope.Traversal
import TimedNet.Proofs.Failure.Trace
import TimedNet.Proofs.Run.Closure
import TimedNet.Proofs.Chart.Room
import TimedNet.Proofs.Run.AppendOnly
import TimedNet.Proofs.Scope.Names
import TimedNet.Proofs.Run.Dynamics
import TimedNet.Proofs.Scope.Standing
import TimedNet.Proofs.Chart.Location
import TimedNet.Proofs.Source.Arrivals
import TimedNet.Proofs.Run.Arenas
import TimedNet.Proofs.Source.Messages
import TimedNet.Proofs.Scope.Measures
import TimedNet.Proofs.Failure.Subjects
import TimedNet.Proofs.Run.Scoping
import TimedNet.Proofs.Copy.Resolution
import TimedNet.Proofs.Expression.Renaming
