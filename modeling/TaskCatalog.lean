import TaskCatalog.Main
import TaskCatalog.Proofs.ArgumentKinds
import TaskCatalog.Proofs.BlockedDefinitions
import TaskCatalog.Proofs.ClassMarkers
import TaskCatalog.Proofs.DerivedGoals
import TaskCatalog.Proofs.DescriptorFile
import TaskCatalog.Proofs.ExtractorSelection
import TaskCatalog.Proofs.FileListings
import TaskCatalog.Proofs.FirstParagraph
import TaskCatalog.Proofs.FrozenData
import TaskCatalog.Proofs.HelpReading
import TaskCatalog.Proofs.ModuleFailures
import TaskCatalog.Proofs.ModuleNames
import TaskCatalog.Proofs.PageFiles
import TaskCatalog.Proofs.PageTables
import TaskCatalog.Proofs.ProjectLoading
import TaskCatalog.Proofs.ReadOnlyFlags
import TaskCatalog.Proofs.References
import TaskCatalog.Proofs.RepeatedSettings
import TaskCatalog.Proofs.RunPrefix
import TaskCatalog.Proofs.ScriptDocument
import TaskCatalog.Proofs.ScriptNumerals
import TaskCatalog.Proofs.ScriptPlaces
import TaskCatalog.Proofs.SkippedProjects
import TaskCatalog.Proofs.StylesAgree
import TaskCatalog.Proofs.TagLookups
