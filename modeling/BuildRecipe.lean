import BuildRecipe.Build.Backend
import BuildRecipe.Build.Pipeline
import BuildRecipe.Build.Run
import BuildRecipe.BuildType
import BuildRecipe.CMake
import BuildRecipe.Cli.Arguments
import BuildRecipe.Cli.Commands
import BuildRecipe.Command
import BuildRecipe.Compatibility
import BuildRecipe.Compiler.Banner
import BuildRecipe.Compiler.Family
import BuildRecipe.Compiler.Standard
import BuildRecipe.Compiler.Version
import BuildRecipe.Config
import BuildRecipe.Data.SortedMap
import BuildRecipe.Dependency
import BuildRecipe.Diagnostic
import BuildRecipe.Domain.Ascii
import BuildRecipe.Domain.Label
import BuildRecipe.Domain.Mapping
import BuildRecipe.Domain.Punycode
import BuildRecipe.EnvOverride
import BuildRecipe.Error
import BuildRecipe.Evaluation
import BuildRecipe.Failure
import BuildRecipe.FileTree
import BuildRecipe.FileTree.Walk
import BuildRecipe.Generation
import BuildRecipe.Hook.Artifacts
import BuildRecipe.Hook.Context
import BuildRecipe.Hook.Registry
import BuildRecipe.JsonData
import BuildRecipe.Layout
import BuildRecipe.License.Basic
import BuildRecipe.License.Manifest
import BuildRecipe.License.Report
import BuildRecipe.Main
import BuildRecipe.Options
import BuildRecipe.Package.Kind
import BuildRecipe.Package.Name
import BuildRecipe.Package.Recipe
import BuildRecipe.Package.Reference
import BuildRecipe.Path
import BuildRecipe.Platform
import BuildRecipe.Profile
import BuildRecipe.Profile.Read
import BuildRecipe.Proofs.Artifacts
import BuildRecipe.Proofs.Build
import BuildRecipe.Proofs.CMakeCache
import BuildRecipe.Proofs.CMakeQuoting
import BuildRecipe.Proofs.Compatibility
import BuildRecipe.Proofs.CompilerBanner
import BuildRecipe.Proofs.CompilerVersion
import BuildRecipe.Proofs.Configuration
import BuildRecipe.Proofs.Evaluation
import BuildRecipe.Proofs.FileTree
import BuildRecipe.Proofs.GeneratedFiles
import BuildRecipe.Proofs.Generation
import BuildRecipe.Proofs.Glob
import BuildRecipe.Proofs.Hooks
import BuildRecipe.Proofs.Job
import BuildRecipe.Proofs.JsonText
import BuildRecipe.Proofs.License
import BuildRecipe.Proofs.OptionOverrides
import BuildRecipe.Proofs.PackageReference
import BuildRecipe.Proofs.Pipeline
import BuildRecipe.Proofs.Placement
import BuildRecipe.Proofs.PlainPath
import BuildRecipe.Proofs.PostBuild
import BuildRecipe.Proofs.ReportText
import BuildRecipe.Proofs.Requirement
import BuildRecipe.Proofs.RequirementJson
import BuildRecipe.Proofs.SettingsResolution
import BuildRecipe.Proofs.SortedMap
import BuildRecipe.Proofs.TextPositions
import BuildRecipe.Proofs.Toolchain
import BuildRecipe.Proofs.Walk
import BuildRecipe.Requirement.Graph
import BuildRecipe.Requirement.Pinned
import BuildRecipe.SemVer
import BuildRecipe.Settings
import BuildRecipe.Text.Basic
import BuildRecipe.Text.Blank
import BuildRecipe.Text.Case
import BuildRecipe.Text.Number
import BuildRecipe.Toml.Document
import BuildRecipe.Toml.Lexical
import BuildRecipe.Toml.Value
import BuildRecipe.Toolchain
import BuildRecipe.Unicode.Bidi
import BuildRecipe.Unicode.Category
import BuildRecipe.Unicode.CombiningClass
import BuildRecipe.Unicode.Decomposition
import BuildRecipe.Unicode.GraphemeExtend
import BuildRecipe.Unicode.Joining
import BuildRecipe.Unicode.Normalization
import BuildRecipe.Unicode.RangeTable
import BuildRecipe.Url
import BuildRecipe.Url.Host
import BuildRecipe.Url.Path
import BuildRecipe.Url.Percent
import BuildRecipe.Workspace
import BuildRecipe.Proofs.SettingTexts
