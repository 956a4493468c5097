import ExtraMetas.Gate
import ExtraMetas.NodeClient
import ExtraMetas.Descriptor.Encode
import ExtraMetas.Proofs.Descriptor.Encoding
import ExtraMetas.Proofs.Descriptor.SeedPacking
import ExtraMetas.Proofs.Descriptor.RoundTrip
import ExtraMetas.Proofs.Runs
import ExtraMetas.Proofs.Resolution.Parts
import ExtraMetas.Proofs.Resolution.ErrorKinds
import ExtraMetas.Proofs.Resolution.Causality
import ExtraMetas.Proofs.Resolution.Agreement
import ExtraMetas.Proofs.Resolution.Fetches
import ExtraMetas.Proofs.Gate.Nesting
import ExtraMetas.Proofs.Descriptor.Acceptance
import ExtraMetas.Proofs.Resolution.Transparency
import ExtraMetas.Proofs.Descriptor.NormalForm
import ExtraMetas.Proofs.Gate.Soundness
import ExtraMetas.Proofs.Gate.Dependence
import ExtraMetas.Proofs.Resolution.CacheHistory
import ExtraMetas.Proofs.Address.Search
import ExtraMetas.Proofs.Address.Regrouping
import ExtraMetas.Proofs.Descriptor.SeedGrammar
import ExtraMetas.Proofs.Resolution.ClosedForm
import ExtraMetas.Proofs.Resolution.Windows
import ExtraMetas.Proofs.Resolution.InstructionData
import ExtraMetas.Proofs.Descriptor.Limits
import ExtraMetas.Proofs.Descriptor.FieldKinds
import ExtraMetas.Proofs.RetrySchedule
import ExtraMetas.Proofs.Settings.Layers
import ExtraMetas.Proofs.Settings.Precedence
import ExtraMetas.Proofs.Text.Trimming
import ExtraMetas.Proofs.Settings.Garbled
import ExtraMetas.Proofs.Settings.NodeUrl
import ExtraMetas.Proofs.Settings.WrittenConfig
