import Traversal.Main
import Traversal.Number.Literal
import Traversal.Proofs.Chain.Labels
import Traversal.Proofs.ClientOp.OnePass
import Traversal.Proofs.Command.Finish
import Traversal.Proofs.Session.Finality
import Traversal.Proofs.Session.Frame
import Traversal.Proofs.Session.Pipeline
import Traversal.Proofs.Session.ReadOrder
import Traversal.Proofs.Session.Representation
import Traversal.Session.Script
import Traversal.Proofs.Chain.Calls
import Traversal.Proofs.Chain.Shape
import Traversal.Proofs.Chain.Acceptance
import Traversal.Proofs.Chain.Stripping
import Traversal.Proofs.Command.Arguments
import Traversal.Proofs.Chain.TagOrder
import Traversal.Proofs.Reply.RoundTrip
import Traversal.Proofs.Rdf.Literal
import Traversal.Proofs.Command.Conversion
import Traversal.Proofs.Command.Fold
import Traversal.Proofs.Rdf.Boundary
import Traversal.Proofs.Command.Integers
import Traversal.Proofs.Number.Word
import Traversal.Proofs.Settings.Layers
import Traversal.Proofs.Settings.Resolution
