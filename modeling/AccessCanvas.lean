import AccessCanvas.Main
import AccessCanvas.Sample
import AccessCanvas.Workspace
import AccessCanvas.Proofs.Query.RoundTrip
import AccessCanvas.Proofs.Query.Document
import AccessCanvas.Proofs.Query.Offset
import AccessCanvas.Proofs.Query.Spelling
import AccessCanvas.Proofs.Relation.Fixpoint
import AccessCanvas.Proofs.Relation.Disjoint
import AccessCanvas.Proofs.Relation.Component
import AccessCanvas.Proofs.Visibility
import AccessCanvas.Proofs.Attributes
import AccessCanvas.Proofs.Canvas.Document
import AccessCanvas.Proofs.Relation.Dangling
import AccessCanvas.Proofs.Relation.DepthFirst
import AccessCanvas.Proofs.Unsupported
import AccessCanvas.Proofs.Literal
import AccessCanvas.Proofs.Insensitivity
import AccessCanvas.Proofs.CommandLine
import AccessCanvas.Proofs.Relation.Neighbours
import AccessCanvas.Proofs.Identity
import AccessCanvas.Proofs.Query.Length
import AccessCanvas.Proofs.Relation.Repeated
import AccessCanvas.Proofs.Relation.Pops
