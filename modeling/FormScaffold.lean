import FormScaffold.Main
import FormScaffold.Pipeline.Journal
import FormScaffold.Proofs.Pipeline.Lifecycle
import FormScaffold.Proofs.Calendar.Civil
import FormScaffold.Proofs.Calendar.Timestamps
import FormScaffold.Proofs.Archive.Extraction
import FormScaffold.Proofs.Archive.RoundTrip
import FormScaffold.Proofs.Archive.Packing
import FormScaffold.Proofs.Output.Organizing
import FormScaffold.Proofs.Output.Confinement
import FormScaffold.Proofs.Registry.FileNames
import FormScaffold.Proofs.Pipeline.RenderingPlan
import FormScaffold.Proofs.Pipeline.WiredRun
import FormScaffold.Proofs.Pipeline.Delivery
import FormScaffold.Shipped.TemplateFiles
import FormScaffold.Proofs.Record.Fields
import FormScaffold.Proofs.Record.KeyedOrder
import FormScaffold.Proofs.Job.StoredParts
import FormScaffold.Proofs.Job.Reachable
import FormScaffold.Proofs.Job.Stored
import FormScaffold.Proofs.Json.Scalars
import FormScaffold.Proofs.Json.ReadBack
import FormScaffold.Proofs.Job.InPlace
import FormScaffold.Proofs.Output.Listing
import FormScaffold.Proofs.Template.EngineCache
import FormScaffold.Proofs.Output.Replacement
import FormScaffold.Proofs.Files.Landing
import FormScaffold.Proofs.Form.Accepted
import FormScaffold.Proofs.Model.Values
import FormScaffold.Proofs.Naming.WordCuts
import FormScaffold.Proofs.Pipeline.ShippedRuns
import FormScaffold.Proofs.Shipped.DatabaseLayer
import FormScaffold.Proofs.Shipped.LengthBounds
import FormScaffold.Proofs.Shipped.MemberNames
import FormScaffold.Proofs.Shipped.SampleValues
import FormScaffold.Proofs.Shipped.SettingsDocument
import FormScaffold.Proofs.Shipped.ClassAgreement
import FormScaffold.Proofs.Shipped.FrontendFiles
import FormScaffold.Proofs.Shipped.ValidatorTexts
import FormScaffold.Proofs.Shipped.FrontendImports
import FormScaffold.Proofs.Naming.CaseStyles
import FormScaffold.Proofs.Naming.WordPlaces
import FormScaffold.Proofs.Naming.PluralForms
import FormScaffold.Proofs.Pipeline.KeptFiles
import FormScaffold.Proofs.Naming.SingularForms
import FormScaffold.Proofs.Archive.Neighbours
import FormScaffold.Proofs.Archive.PathsBelow
import FormScaffold.Proofs.CommandLine.TemplateCalls
import FormScaffold.Proofs.Form.TypeTags
import FormScaffold.Proofs.Form.Stored
import FormScaffold.Proofs.Output.FolderTrees
import FormScaffold.Proofs.Output.Drawing
