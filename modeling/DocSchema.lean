import DocSchema.Proofs.Validation.Trials
import DocSchema.Report.Render
import DocSchema.Suite.Runner
import DocSchema.Proofs.Schema.Built
import DocSchema.Proofs.Validation.Fitting
import DocSchema.Proofs.Validation.Conformance
import DocSchema.Proofs.Coercion.Reshaping
import DocSchema.Proofs.Coercion.Memory
import DocSchema.Proofs.Coercion.Quiet
import DocSchema.Proofs.Double.Whole
import DocSchema.Proofs.Coercion.Steady
import DocSchema.Proofs.Coercion.Conversion
import DocSchema.Proofs.Coercion.FixedPoint
import DocSchema.Proofs.Coercion.Distinct
import DocSchema.Proofs.Coercion.Outcome
import DocSchema.Proofs.Schema.Resolved
import DocSchema.Proofs.Engine.Patience
import DocSchema.Proofs.Engine.Again
import DocSchema.Proofs.Coercion.Agreement
import DocSchema.Proofs.Coercion.Simulation
import DocSchema.Proofs.Coercion.Sites
import DocSchema.Proofs.Coercion.Halting
import DocSchema.Proofs.Coercion.Remembered
import DocSchema.Proofs.Schema.History
import DocSchema.Proofs.Schema.Resolution
import DocSchema.Proofs.Engine.Expanding
import DocSchema.Proofs.Report.Marking
import DocSchema.Proofs.Node.RoundTrip
import DocSchema.Proofs.Coercion.Accounting
import DocSchema.Proofs.Coercion.Candidates
import DocSchema.Proofs.Schema.Consistency
import DocSchema.Proofs.Coercion.Discriminator
import DocSchema.Proofs.Coercion.Defaulting
import DocSchema.Proofs.Coercion.Unwrapping
import DocSchema.Proofs.Schema.Overriding
import DocSchema.Proofs.Validation.Shifting
import DocSchema.Proofs.Coercion.Moving
import DocSchema.Proofs.Coercion.Independence
import DocSchema.Proofs.Validation.Limits
import DocSchema.Proofs.Validation.Locality
import DocSchema.Proofs.Validation.EqualValues
import DocSchema.Proofs.Coercion.Spelling
import DocSchema.Proofs.Node.Replacing
import DocSchema.Proofs.Schema.Precedence
import DocSchema.Proofs.Validation.Selection
import DocSchema.Proofs.Report.Nearest
import DocSchema.Proofs.Validation.Balance
import DocSchema.Proofs.Coercion.Conservation
