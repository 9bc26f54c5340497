import Columnar.Bindings
import Columnar.Expr.Folding
import Columnar.Main
import Columnar.Proofs.Meaning
import Columnar.Proofs.Words
import Columnar.Proofs.Views
import Columnar.Proofs.Conformance
import Columnar.Proofs.Readings
import Columnar.Proofs.Conditions
import Columnar.Proofs.Soundness
import Columnar.Proofs.Refinement
import Columnar.Proofs.Doubles
import Columnar.Proofs.NullComparison
import Columnar.Proofs.Locality
import Columnar.Proofs.FoldedViews
import Columnar.Proofs.Folding
import Columnar.Proofs.Segments
import Columnar.Proofs.Inference
import Columnar.Proofs.NullLeaves
import Columnar.Proofs.FoldedReadings
import Columnar.Proofs.Flooring
import Columnar.Proofs.SymbolTables
import Columnar.Proofs.Arguments
import Columnar.Proofs.Responses
import Columnar.Proofs.NormalForm
import Columnar.Proofs.Offenders
import Columnar.Proofs.Orders
import Columnar.Proofs.Swapping
import Columnar.Proofs.Questions
import Columnar.Proofs.Replacement
import Columnar.Proofs.FilledColumns
import Columnar.Proofs.ExplicitNull
import Columnar.Proofs.ModularArithmetic
import Columnar.Proofs.ConvertedValues
import Columnar.Proofs.CodeComparisons
import Columnar.Proofs.Decimals
import Columnar.Proofs.Literals
import Columnar.Proofs.PrintedLiterals
import Columnar.Proofs.Sessions
import Columnar.Proofs.Surroundings
