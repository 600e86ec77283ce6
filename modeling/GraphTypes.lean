import GraphTypes.Name.Convention
import GraphTypes.Name.Registry
import GraphTypes.Text.Line
import GraphTypes.Source.Quoted
import GraphTypes.Source.Token
import GraphTypes.Operation.Basic
import GraphTypes.Operation.Reader
import GraphTypes.Sdl.Basic
import GraphTypes.Sdl.Reader
import GraphTypes.Introspection.Meta
import GraphTypes.Introspection.Closure
import GraphTypes.Dictionary
import GraphTypes.Json.Basic
import GraphTypes.Json.Reader
import GraphTypes.Config.Options
import GraphTypes.Config.Reference
import GraphTypes.Config.Settings
import GraphTypes.Error
import GraphTypes.Declaration.Basic
import GraphTypes.Declaration.OfSchema
import GraphTypes.Resolver.Basic
import GraphTypes.Resolver.OfSchema
import GraphTypes.Generator
import GraphTypes.CommandLine.Arguments
import GraphTypes.CommandLine.Files
import GraphTypes.CommandLine.Help
import GraphTypes.CommandLine.Run
import GraphTypes.Main
import GraphTypes.Proofs.Dictionary
import GraphTypes.Proofs.Config.Reference
import GraphTypes.Proofs.Introspection.Closure
import GraphTypes.Proofs.Introspection.Occurrence
import GraphTypes.Proofs.Name.Registry
import GraphTypes.Proofs.Schema.WellFormed
import GraphTypes.Proofs.Declaration.TypeNames
import GraphTypes.Proofs.Declaration.Structure
import GraphTypes.Proofs.Declaration.References
import GraphTypes.Proofs.Resolver.Imports
import GraphTypes.Proofs.Resolver.Structure
import GraphTypes.Proofs.Resolver.References
import GraphTypes.Proofs.Declaration.Identifiers
import GraphTypes.Proofs.SharedFile
import GraphTypes.Proofs.Introspection.Usage
import GraphTypes.Proofs.Declaration.Documents
import GraphTypes.Proofs.Declaration.Uniqueness
import GraphTypes.Proofs.Resolver.Names
import GraphTypes.Proofs.Schema.OfDocument
import GraphTypes.Proofs.Declaration.Completeness
import GraphTypes.Proofs.Declaration.Lookup
import GraphTypes.Proofs.Generator
import GraphTypes.Proofs.Resolver.Mapping
import GraphTypes.Proofs.Resolver.Signatures
import GraphTypes.Proofs.Declaration.Rendering
import GraphTypes.Proofs.DefinitionSet
import GraphTypes.Proofs.Declaration.Requested
import GraphTypes.Proofs.SelfContained
import GraphTypes.Proofs.CommandLine.Files
import GraphTypes.Proofs.CommandLine.Run
import GraphTypes.Proofs.Name.History
import GraphTypes.Proofs.Output
import GraphTypes.Proofs.Resolver.Layout
import GraphTypes.Proofs.Declaration.EnumsOnly
import GraphTypes.Proofs.Resolver.Identifiers
import GraphTypes.Proofs.TypeScript.Wrappers
import GraphTypes.Proofs.Records
import GraphTypes.Proofs.ArgumentRecords
import GraphTypes.Proofs.AbstractTypes
import GraphTypes.Proofs.TypeScript.Comment
import GraphTypes.Proofs.TypeScript.Literal
import GraphTypes.Proofs.Declaration.Enums
import GraphTypes.Proofs.Name.Spelling
import GraphTypes.Proofs.Name.Canonical
import GraphTypes.Proofs.Config.Grammar
import GraphTypes.Proofs.Config.TypeArguments
import GraphTypes.Proofs.Resolver.ImportLine
import GraphTypes.Proofs.Resolver.ReadBack
import GraphTypes.Proofs.Resolver.ImportedNames
import GraphTypes.Proofs.Config.Faults
import GraphTypes.Proofs.Name.Words
import GraphTypes.Proofs.CommandLine.Arguments
import GraphTypes.Proofs.Independence
import GraphTypes.Proofs.Config.TypeParameter
