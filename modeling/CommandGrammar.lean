import CommandGrammar.Embedding
import CommandGrammar.Main
import CommandGrammar.Proofs.BoundValue
import CommandGrammar.Proofs.Convergence
import CommandGrammar.Proofs.FirstFault
import CommandGrammar.Proofs.Grouping
import CommandGrammar.Proofs.Reachability
import CommandGrammar.Proofs.RoundTrip
import CommandGrammar.Proofs.TokenImage
import CommandGrammar.Trace
import CommandGrammar.Proofs.Deployment
import CommandGrammar.Proofs.Expansion
import CommandGrammar.Proofs.Tracing
import CommandGrammar.Proofs.Describing
import CommandGrammar.Proofs.Lookup
import CommandGrammar.Proofs.NamePattern
import CommandGrammar.Proofs.Refusal
import CommandGrammar.Proofs.Elements
import CommandGrammar.Proofs.Positions
import CommandGrammar.Proofs.Respelling
import CommandGrammar.Proofs.Spacing
import CommandGrammar.Proofs.Joining
import CommandGrammar.Proofs.Bounds
import CommandGrammar.Proofs.Widths
import CommandGrammar.Proofs.Resolution
import CommandGrammar.Proofs.Requests
import CommandGrammar.Proofs.Requests
