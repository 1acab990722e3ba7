import Stride.Binary64.Interchange
import Stride.Main
import Stride.Proofs.Grammar
import Stride.Proofs.Passes
import Stride.Proofs.Slices
import Stride.Proofs.Alternation
import Stride.Proofs.JsonText
import Stride.Proofs.Fields
import Stride.Proofs.Records
import Stride.Proofs.Requests
import Stride.Proofs.Reopening
import Stride.Proofs.Magnitudes
import Stride.Proofs.Rendering
import Stride.Proofs.Rereading
import Stride.Proofs.Operands
import Stride.Proofs.Damage
import Stride.Proofs.UnitSystems
import Stride.Proofs.Commands
import Stride.Proofs.Answers
import Stride.Proofs.Spellings
import Stride.Proofs.Priority
import Stride.Proofs.OwnText
import Stride.Proofs.Places
import Stride.Proofs.Views
import Stride.Proofs.Symmetry
import Stride.Proofs.Times
import Stride.Proofs.Lengths
