import SchemaValidation.Engine.Order
import SchemaValidation.Engine.Deferred
import SchemaValidation.Engine.Service
import SchemaValidation.Value.Slot
import SchemaValidation.Json.Reader
import SchemaValidation.Proofs.KeyOrder
import SchemaValidation.Proofs.SchemaTree
import SchemaValidation.Proofs.NodeStep
import SchemaValidation.Proofs.TrailFrame
import SchemaValidation.Proofs.Ruling
import SchemaValidation.Proofs.Permissiveness
import SchemaValidation.Proofs.Conformance
import SchemaValidation.Proofs.Revalidation
import SchemaValidation.Proofs.Channels
import SchemaValidation.Proofs.Shorthand
import SchemaValidation.Proofs.MemberReports
import SchemaValidation.Proofs.Downgrades
import SchemaValidation.Proofs.RequiredMembers
import SchemaValidation.Proofs.EachReport
import SchemaValidation.Proofs.Strictness
import SchemaValidation.Proofs.Provenance
import SchemaValidation.Proofs.SourceTree
import SchemaValidation.Proofs.Recompilation
import SchemaValidation.Proofs.OptionBags
import SchemaValidation.Proofs.Agreement
import SchemaValidation.Proofs.ConstraintMap
import SchemaValidation.Proofs.DeclaredPresence
import SchemaValidation.Proofs.CheckInfluence
import SchemaValidation.Proofs.DeliverySteps
import SchemaValidation.Proofs.Identities
import SchemaValidation.Proofs.DeliveryOrder
import SchemaValidation.Proofs.ReportRecords
import SchemaValidation.Proofs.Enforcement
import SchemaValidation.Proofs.ReportJson
import SchemaValidation.Proofs.EqualInputs
import SchemaValidation.Proofs.Choices
import SchemaValidation.Proofs.ItemAccounts
import SchemaValidation.Proofs.MemberAccounts
import SchemaValidation.Proofs.Defaults
import SchemaValidation.Proofs.Candidates
import SchemaValidation.Proofs.UnionSources
import SchemaValidation.Proofs.Aliases
import SchemaValidation.Proofs.FieldWrites
import SchemaValidation.Proofs.EquivalentValues
import SchemaValidation.Proofs.Castings
import SchemaValidation.Proofs.RepeatedItems
import SchemaValidation.Proofs.NormalTrees
import SchemaValidation.Proofs.DetailReports
import SchemaValidation.Proofs.SilentChecks
import SchemaValidation.Proofs.Positions
import SchemaValidation.Proofs.ReportPositions
