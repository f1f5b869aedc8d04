import SmtBackend.Text.Unicode
import SmtBackend.Number.Binary64
import SmtBackend.Kinds
import SmtBackend.Failure
import SmtBackend.Options
import SmtBackend.Profile
import SmtBackend.Numeral
import SmtBackend.Sort
import SmtBackend.Term.Basic
import SmtBackend.Term.Bound
import SmtBackend.Layout.Doc
import SmtBackend.Term.Print
import SmtBackend.OpKind
import SmtBackend.Handle
import SmtBackend.Values
import SmtBackend.Build.Shape
import SmtBackend.Build.Term
import SmtBackend.Solver.Param
import SmtBackend.Eval.Bits
import SmtBackend.Eval.Float
import SmtBackend.Eval.Strings
import SmtBackend.Eval.Value
import SmtBackend.Eval.Normal
import SmtBackend.Eval.Arrays
import SmtBackend.Eval.Reduce
import SmtBackend.Hash.Bytes
import SmtBackend.Hash.Table
import SmtBackend.Solver.Model
import SmtBackend.Solver.Universe
import SmtBackend.Solver.Forcing
import SmtBackend.Solver.Check
import SmtBackend.Solver.Unconstrained
import SmtBackend.Solver.Equations
import SmtBackend.Solver.Residual
import SmtBackend.Sat.Lit
import SmtBackend.Sat.Random
import SmtBackend.Sat.Heap
import SmtBackend.Sat.Formula
import SmtBackend.Sat.Fact
import SmtBackend.Sat.Context
import SmtBackend.Sat.Propagate
import SmtBackend.Sat.Scope
import SmtBackend.Sat.Conflict
import SmtBackend.Sat.Search
import SmtBackend.Solver.Propositional
import SmtBackend.Session
import SmtBackend.Session.Run
import SmtBackend.Proofs.Session.Effects
import SmtBackend.Proofs.Session.Runs
import SmtBackend.Proofs.Session.Transparency
import SmtBackend.Proofs.Session.LastResult
import SmtBackend.Proofs.Session.Failure
import SmtBackend.Proofs.Session.Tracking
import SmtBackend.Proofs.Session.Cores
import SmtBackend.Proofs.Session.Settings
import SmtBackend.Proofs.Values.Readback
import SmtBackend.Proofs.Session.Scopes
import SmtBackend.Proofs.Values.BitNumerals
import SmtBackend.Proofs.Values.BitLiterals
import SmtBackend.Proofs.Values.SpecialBits
import SmtBackend.Proofs.Build.Dispatch
import SmtBackend.Proofs.Build.IndexedBits
import SmtBackend.Proofs.Build.Folds
import SmtBackend.Proofs.Values.IntegerNumerals
import SmtBackend.Proofs.Values.RealNumerals
import SmtBackend.Proofs.Options.Reading
import SmtBackend.Proofs.Sorts.Components
