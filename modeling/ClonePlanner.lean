import ClonePlanner.Main
import ClonePlanner.Proofs.Planning.FirstDeclarations
import ClonePlanner.Proofs.Planning.PlanCoverage
import ClonePlanner.Proofs.Planning.InheritanceComposition
import ClonePlanner.Proofs.Planning.ClassificationCases
import ClonePlanner.Proofs.Planning.CanonicalActions
import ClonePlanner.Proofs.Planning.CapabilityAgreement
import ClonePlanner.Proofs.Documents.DescriptorRoundTrip
import ClonePlanner.Proofs.Documents.DeclarationRoundTrip
import ClonePlanner.Proofs.Json.Progress
import ClonePlanner.Proofs.Json.WrittenTokens
import ClonePlanner.Proofs.Json.Trees
import ClonePlanner.Proofs.Json.ReadBack
import ClonePlanner.Proofs.Json.AcceptedValues
import ClonePlanner.Proofs.Filters.Outputs
import ClonePlanner.Proofs.Documents.ReportRoundTrip
import ClonePlanner.Proofs.Loading.FaultPrecedence
import ClonePlanner.Proofs.Documents.AcceptedParts
import ClonePlanner.Proofs.Documents.DescriptorGrammar
import ClonePlanner.Proofs.Json.Embedding
import ClonePlanner.Proofs.Loading.Packaging
import ClonePlanner.Proofs.Files.WrittenFile
import ClonePlanner.Proofs.Loading.RunOutcome
import ClonePlanner.Proofs.Documents.Roles
import ClonePlanner.Proofs.Documents.FaultLocations
import ClonePlanner.Proofs.Documents.DeclarationLists
import ClonePlanner.Proofs.Documents.RelaidDocuments
import ClonePlanner.Proofs.Documents.KeyOrder
import ClonePlanner.Proofs.Documents.Agreement
import ClonePlanner.Proofs.Planning.CollectedMembers
import ClonePlanner.Proofs.Planning.CapabilityIndependence
import ClonePlanner.Proofs.Planning.CorrespondingDeclarations
import ClonePlanner.Proofs.Planning.Shapes
import ClonePlanner.Proofs.Planning.ShapeDependence
import ClonePlanner.Proofs.Planning.ArrayStatements
import ClonePlanner.Proofs.Planning.MemberOrder
import ClonePlanner.Proofs.Documents.PositionalForm
import ClonePlanner.Proofs.Reports.Legibility
import ClonePlanner.Proofs.Reports.PlainExplanation
import ClonePlanner.Proofs.Loading.FilterSelection
import ClonePlanner.Proofs.Reports.ColoredExplanation
