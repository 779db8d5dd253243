import DomainForge.Files.Tree
import DomainForge.Main
import DomainForge.Proofs.Code.Composition
import DomainForge.Proofs.Diagnostics
import DomainForge.Proofs.Files.Writing
import DomainForge.Proofs.Folders
import DomainForge.Proofs.Generation
import DomainForge.Proofs.ImportOrder
import DomainForge.Proofs.Lookups
import DomainForge.Proofs.Namespaces
import DomainForge.Proofs.OutputPaths
import DomainForge.Proofs.Php.ClassFile
import DomainForge.Proofs.Php.EnumFile
import DomainForge.Proofs.Php.FrameworkImports
import DomainForge.Proofs.Php.Layout
import DomainForge.Proofs.Reordering
import DomainForge.Proofs.Rules
import DomainForge.Proofs.Settings.Labels
import DomainForge.Proofs.Settings.RoundTrip
import DomainForge.Proofs.Settings.Validation
import DomainForge.Proofs.Skeleton
import DomainForge.Proofs.Source.CollectionPattern
import DomainForge.Proofs.Source.Enumerations
import DomainForge.Proofs.Source.Lines
import DomainForge.Proofs.Source.Marks
