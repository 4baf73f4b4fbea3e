import ClassDiagram.Main
import ClassDiagram.Manifest.Writer
import ClassDiagram.Proofs.ByteOrder
import ClassDiagram.Proofs.DistinctNames
import ClassDiagram.Proofs.Merging
import ClassDiagram.Proofs.StableOrder
import ClassDiagram.Proofs.IndexContents
import ClassDiagram.Proofs.Inheritance
import ClassDiagram.Proofs.Browsing
import ClassDiagram.Proofs.ConcurrentLoads
import ClassDiagram.Proofs.Watching
import ClassDiagram.Proofs.Registrations
import ClassDiagram.Proofs.ProjectNames
import ClassDiagram.Proofs.Spelling
import ClassDiagram.Proofs.BaseEntries
import ClassDiagram.Proofs.Rearranging
import ClassDiagram.Proofs.Outline
import ClassDiagram.Proofs.Agreement
import ClassDiagram.Proofs.DrawnTwice
import ClassDiagram.Proofs.ManifestChanges
import ClassDiagram.Proofs.PartialAndNested
import ClassDiagram.Proofs.SeparateAssemblies
import ClassDiagram.Proofs.Setbacks
import ClassDiagram.Proofs.Publishing
import ClassDiagram.Proofs.WrittenJson
import ClassDiagram.Proofs.TextBytes
import ClassDiagram.Proofs.WrittenManifests
import ClassDiagram.Proofs.WrittenFiles
import ClassDiagram.Proofs.AttachedOptions
import ClassDiagram.Proofs.RenderCommand
import ClassDiagram.Proofs.BaseOrder
import ClassDiagram.Proofs.Referents
import ClassDiagram.Proofs.MemberOrder
import ClassDiagram.Proofs.Listings
import ClassDiagram.Proofs.TypesWithModel
import ClassDiagram.Proofs.Styles
import ClassDiagram.Proofs.PlainNames
import ClassDiagram.Proofs.RecordFields
import ClassDiagram.Proofs.ManifestPlaces
import ClassDiagram.Proofs.RewrittenManifests
import ClassDiagram.Proofs.TextLines
import ClassDiagram.Proofs.LegibleDrawings
import ClassDiagram.Proofs.NameOrder
