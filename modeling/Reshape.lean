import Reshape.Main
import Reshape.Proofs.ChainFaults
import Reshape.Proofs.Conservation
import Reshape.Proofs.Counters
import Reshape.Proofs.Alignment
import Reshape.Proofs.Addressing
import Reshape.Proofs.Removal
import Reshape.Proofs.Sifting
import Reshape.Proofs.Reordering
import Reshape.Proofs.Echoing
import Reshape.Proofs.Spreading
import Reshape.Proofs.Splitting
import Reshape.Proofs.Widening
import Reshape.Proofs.Skipping
import Reshape.Proofs.Lenses
import Reshape.Proofs.Holes
import Reshape.Proofs.Unordered
import Reshape.Proofs.Key.GeneralStars
import Reshape.Proofs.Key.Survival
import Reshape.Proofs.Locations
import Reshape.Proofs.Transform.Sort
import Reshape.Proofs.Transform.LookupArguments
import Reshape.Proofs.Transform.Anchoring
import Reshape.Proofs.Decimal.Places
import Reshape.Proofs.Decimal.Truncation
import Reshape.Proofs.Function.Sums
import Reshape.Proofs.Function.Ordering
import Reshape.Proofs.Transform.DeclaredArrays
import Reshape.Proofs.Spec.Revisiting
import Reshape.Proofs.Transform.Idempotence
import Reshape.Proofs.CommandLine.Sessions
import Reshape.Proofs.Fitting
