import Descent.Main
import Descent.Log
import Descent.Text.Padding
import Descent.Proofs.Ending
import Descent.Proofs.Fatal
import Descent.Proofs.Limits
import Descent.Proofs.Places
import Descent.Proofs.Failing
import Descent.Proofs.Incoming
import Descent.Proofs.Updates
import Descent.Proofs.Consistency
import Descent.Proofs.Leaves
import Descent.Proofs.Nested
import Descent.Proofs.Delimiters
import Descent.Proofs.Tokens
import Descent.Proofs.TooDeep
import Descent.Proofs.BrokenOff
import Descent.Proofs.Remaining
import Descent.Proofs.Wrappers
import Descent.Proofs.Relabeling
import Descent.Proofs.Flattening
import Descent.Proofs.Memory
import Descent.Proofs.Serialization
import Descent.Proofs.Layouts
import Descent.Proofs.Sources
import Descent.Proofs.Inputs
import Descent.Proofs.Outcome
import Descent.Proofs.NormalForm
import Descent.Proofs.Turns
import Descent.Proofs.Repetition
import Descent.Proofs.Separation
import Descent.Proofs.Circling
import Descent.Proofs.Alternatives
import Descent.Proofs.Chaining
import Descent.Proofs.Sequencing
import Descent.Proofs.Literals
import Descent.Proofs.Anchoring
