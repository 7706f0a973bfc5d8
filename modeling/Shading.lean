import Shading.Blob.Writer
import Shading.Expr.Coerce
import Shading.Main
import Shading.ParseTree
import Shading.Report.Program
import Shading.Symbol.Overload
import Shading.Proofs.Blob.RoundTrip
import Shading.Proofs.Store.Table
import Shading.Proofs.Proper
import Shading.Proofs.Blob.Forward
import Shading.Proofs.Decode.History
import Shading.Proofs.Decode.Extends
import Shading.Proofs.Decode.Account
import Shading.Proofs.Decode.Symbol
import Shading.Proofs.Decode.Table
import Shading.Proofs.Expr.Built
import Shading.Proofs.Decode.Expr
import Shading.Proofs.Decode.Stmt
import Shading.Proofs.Decode.Element
import Shading.Proofs.Decode.Session
import Shading.Proofs.Decode.Conservative
import Shading.Proofs.Decode.Progress
import Shading.Proofs.Type.Standard
import Shading.Proofs.Expr.WellTyped
import Shading.Proofs.Stmt.WellTyped
import Shading.Proofs.Decode.WellTyped
import Shading.Proofs.Blob.Wire
import Shading.Proofs.Blob.Entry
import Shading.Proofs.Decode.Chronicle
import Shading.Proofs.Decode.Chronicled
import Shading.Proofs.Decode.Registry
import Shading.Proofs.Decode.Resolution
import Shading.Proofs.Decode.Nesting
import Shading.Proofs.Store.Calls
import Shading.Proofs.Blob.Longer
import Shading.Proofs.Decode.Arrivals
import Shading.Proofs.Decode.Parallel
import Shading.Proofs.Decode.ParallelElement
import Shading.Proofs.Decode.Shifted
import Shading.Proofs.Decode.Wider
import Shading.Proofs.Decode.Again
import Shading.Proofs.Diagnostic.Interleaving
import Shading.Proofs.Expr.Conversion
import Shading.Proofs.Expr.Links
import Shading.Proofs.Expr.Circles
import Shading.Proofs.Expr.Queries
import Shading.Proofs.Number.Bits
import Shading.Proofs.Type.Arithmetic
import Shading.Proofs.Type.Slots
import Shading.Proofs.Expr.Parts
import Shading.Proofs.Expr.Exact
import Shading.Proofs.Expr.Range
import Shading.Proofs.Expr.Coercion
import Shading.Proofs.Expr.Lanes
import Shading.Proofs.Expr.Folding
import Shading.Proofs.Type.Flatten
import Shading.Proofs.Expr.Agreement
import Shading.Proofs.Expr.CoercedConstants
import Shading.Proofs.Expr.Misplaced
import Shading.Proofs.Blob.Rewritten
import Shading.Proofs.Type.Equality
import Shading.Proofs.Expr.Constructed
import Shading.Proofs.Symbol.Overload
import Shading.Proofs.Expr.Operands
import Shading.Proofs.Store.Import
import Shading.Proofs.Span.Merge
import Shading.Proofs.Number.FloatText
import Shading.Proofs.Decode.Roots
import Shading.Proofs.CommandLine
import Shading.Proofs.Decode.Filed
import Shading.Proofs.Decode.Enumerators
