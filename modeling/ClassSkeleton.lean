import ClassSkeleton.Archive
import ClassSkeleton.Archive.CodePage
import ClassSkeleton.Archive.Crc
import ClassSkeleton.Archive.Directory
import ClassSkeleton.Archive.Inflate
import ClassSkeleton.Cache.Basic
import ClassSkeleton.Cache.Load
import ClassSkeleton.Cache.Nest
import ClassSkeleton.Cache.Release
import ClassSkeleton.ClassFile.Basic
import ClassSkeleton.ClassFile.Cursor
import ClassSkeleton.ClassFile.Parse
import ClassSkeleton.ClassFile.Pool
import ClassSkeleton.ClassRoot
import ClassSkeleton.CommandLine
import ClassSkeleton.Descriptor
import ClassSkeleton.Digest
import ClassSkeleton.Error
import ClassSkeleton.FileTree
import ClassSkeleton.Filter
import ClassSkeleton.Identifier
import ClassSkeleton.Json.Basic
import ClassSkeleton.Json.Parse
import ClassSkeleton.Json.Token
import ClassSkeleton.Listing
import ClassSkeleton.Main
import ClassSkeleton.Model
import ClassSkeleton.Naming
import ClassSkeleton.Options
import ClassSkeleton.Options.File
import ClassSkeleton.Options.Resolve
import ClassSkeleton.Output.Directory
import ClassSkeleton.Output.Memory
import ClassSkeleton.Output.Outlet
import ClassSkeleton.Output.Stream
import ClassSkeleton.Output.Summary
import ClassSkeleton.Path
import ClassSkeleton.Pattern.Basic
import ClassSkeleton.Pattern.Class
import ClassSkeleton.Pattern.Escape
import ClassSkeleton.Pattern.Flags
import ClassSkeleton.Pattern.Normal
import ClassSkeleton.Pattern.Parse
import ClassSkeleton.Pattern.Weight
import ClassSkeleton.Program
import ClassSkeleton.Run.Batch
import ClassSkeleton.Run.Paths
import ClassSkeleton.Run.Report
import ClassSkeleton.Run.Unit
import ClassSkeleton.Run.World
import ClassSkeleton.Scan
import ClassSkeleton.Scan.Glob
import ClassSkeleton.Scan.Ignore
import ClassSkeleton.Session
import ClassSkeleton.Table
import ClassSkeleton.Text.Age
import ClassSkeleton.Text.Alphabet
import ClassSkeleton.Text.Binary
import ClassSkeleton.Text.Blank
import ClassSkeleton.Text.Break
import ClassSkeleton.Text.Category
import ClassSkeleton.Text.CharSet
import ClassSkeleton.Text.Cut
import ClassSkeleton.Text.Fold
import ClassSkeleton.Text.LowerCase
import ClassSkeleton.Text.Property
import ClassSkeleton.Text.Run
import ClassSkeleton.Text.Script
import ClassSkeleton.Text.ScriptExtension
import ClassSkeleton.Text.Utf8
import ClassSkeleton.TypeName
import ClassSkeleton.Usage
import ClassSkeleton.Version
import ClassSkeleton.Proofs.Actions
import ClassSkeleton.Proofs.AncestorNames
import ClassSkeleton.Proofs.Phases
import ClassSkeleton.Proofs.SinkDiscipline
import ClassSkeleton.Proofs.BatchAccounts
import ClassSkeleton.Proofs.SessionLikeness
import ClassSkeleton.Proofs.ScriptedSinks
import ClassSkeleton.Proofs.FailureIsolation
import ClassSkeleton.Proofs.SupertypeOrder
import ClassSkeleton.Proofs.NamingPurity
import ClassSkeleton.Proofs.MethodPass
import ClassSkeleton.Proofs.OverrideNames
import ClassSkeleton.Proofs.CacheInvariant
import ClassSkeleton.Proofs.NestModels
import ClassSkeleton.Proofs.MethodBodies
import ClassSkeleton.Proofs.SessionSteps
import ClassSkeleton.Proofs.PrintedTexts
import ClassSkeleton.Proofs.ReleasedState
import ClassSkeleton.Proofs.SinkInHand
import ClassSkeleton.Proofs.Consumption
import ClassSkeleton.Proofs.Truncation
import ClassSkeleton.Proofs.ClassLayout
import ClassSkeleton.Proofs.RunAccounts
import ClassSkeleton.Proofs.SinkRequests
import ClassSkeleton.Proofs.FileGrowth
import ClassSkeleton.Proofs.RunInvariants
import ClassSkeleton.Proofs.SummaryFile
import ClassSkeleton.Proofs.KeptFiles
import ClassSkeleton.Proofs.CandidateTurns
import ClassSkeleton.Proofs.FaultlessTurns
import ClassSkeleton.Proofs.NamedClasses
import ClassSkeleton.Proofs.NestExpansion
import ClassSkeleton.Proofs.LastingModels
import ClassSkeleton.Proofs.FileCollisions
import ClassSkeleton.Proofs.OrderlyDirectory
import ClassSkeleton.Proofs.RepeatedBatch
import ClassSkeleton.Proofs.DescriptorGrammar
import ClassSkeleton.Proofs.ParameterParts
import ClassSkeleton.Proofs.FieldPass
import ClassSkeleton.Proofs.FieldNames
import ClassSkeleton.Proofs.RenamedMethods
import ClassSkeleton.Proofs.TypeSpelling
import ClassSkeleton.Proofs.SpelledNames
import ClassSkeleton.Proofs.ArchiveListing
import ClassSkeleton.Proofs.FailedLoads
import ClassSkeleton.Proofs.NestLoading
import ClassSkeleton.Proofs.ShownMembers
import ClassSkeleton.Proofs.FailingWrites
import ClassSkeleton.Proofs.TruthfulDigests
import ClassSkeleton.Proofs.LegalNames
import ClassSkeleton.Proofs.SourcePaths
import ClassSkeleton.Proofs.ClassRoots
import ClassSkeleton.Proofs.ModifiedText
import ClassSkeleton.Proofs.SupertypeVisits
import ClassSkeleton.Proofs.AncestorSearch
import ClassSkeleton.Proofs.NestRelease
import ClassSkeleton.Proofs.ToldCauses
