import BuildTransform.CallSite
import BuildTransform.Config.Session
import BuildTransform.Expr.OfScript
import BuildTransform.Proofs.Config.Reported
import BuildTransform.Proofs.Config.Override
import BuildTransform.Proofs.Expr.Overrun
import BuildTransform.Proofs.Expr.RawText
import BuildTransform.Proofs.Expr.Spans
import BuildTransform.Proofs.Expr.Typing
import BuildTransform.Proofs.Path.Grouping
import BuildTransform.Proofs.Expr.Alike
import BuildTransform.Proofs.Script.Agreement
import BuildTransform.Proofs.Script.Arguments
import BuildTransform.Proofs.Script.Beside
import BuildTransform.Proofs.Script.Excerpts
import BuildTransform.Proofs.Script.Reparsing
import BuildTransform.Proofs.Config.Ancestry
import BuildTransform.Proofs.Expr.Folding
import BuildTransform.Proofs.Config.Merging
import BuildTransform.Proofs.Config.History
import BuildTransform.Proofs.Expr.Rereading
import BuildTransform.Proofs.Expr.Confinement
import BuildTransform.Proofs.Expr.FirstRefusal
import BuildTransform.Proofs.Expr.Relocation
import BuildTransform.Proofs.Expr.Spellings
import BuildTransform.Proofs.Config.Dependence
import BuildTransform.Proofs.Path.NormalForm
import BuildTransform.Proofs.Path.Names
import BuildTransform.Proofs.Expr.Phrases
import BuildTransform.Proofs.Decimal.Rendering
import BuildTransform.Proofs.Expr.Joining
import BuildTransform.Proofs.Config.Modules
import BuildTransform.Proofs.Config.Delivery
import BuildTransform.Proofs.Json.Breaks
import BuildTransform.Proofs.Expr.Requests
import BuildTransform.Proofs.Expr.Chains
import BuildTransform.Proofs.Config.Indirection
import BuildTransform.Proofs.Expr.Renaming
import BuildTransform.Proofs.Expr.Offsets
