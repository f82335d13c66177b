import RecordSynth.Command
import RecordSynth.CommandLine
import RecordSynth.Declaration
import RecordSynth.Declaration.Decoration
import RecordSynth.Declaration.Markers
import RecordSynth.Declaration.Methods
import RecordSynth.Declaration.Source
import RecordSynth.Declaration.TypeSet
import RecordSynth.DocumentFormat
import RecordSynth.Dump
import RecordSynth.Error
import RecordSynth.Fields
import RecordSynth.FileTree
import RecordSynth.Identifier
import RecordSynth.Journal
import RecordSynth.Json
import RecordSynth.Json.Reader
import RecordSynth.Json.Writer
import RecordSynth.Main
import RecordSynth.Number
import RecordSynth.Number.Binary64
import RecordSynth.Number.Shortest
import RecordSynth.PackagePath
import RecordSynth.Pass
import RecordSynth.Path
import RecordSynth.Plugin
import RecordSynth.Proofs.ComesTo
import RecordSynth.Proofs.Declaration.Imports
import RecordSynth.Proofs.Pass.BuiltIn
import RecordSynth.Proofs.Pass.Hooks
import RecordSynth.Proofs.Pass.Imports
import RecordSynth.Proofs.Pass.Protocol
import RecordSynth.Proofs.Pass.Records
import RecordSynth.Proofs.QualifiedName
import RecordSynth.Proofs.Record
import RecordSynth.Proofs.Service
import RecordSynth.Proofs.Text
import RecordSynth.Proofs.TypeExpr.RoundTrip
import RecordSynth.Properties
import RecordSynth.QualifiedName
import RecordSynth.Schema
import RecordSynth.Service
import RecordSynth.Settings.Domain
import RecordSynth.Settings.Run
import RecordSynth.Settings.Service
import RecordSynth.Table
import RecordSynth.Text.Alphanumeric
import RecordSynth.Text.Blank
import RecordSynth.Text.CamelCase
import RecordSynth.Text.CodePoints
import RecordSynth.Text.LetterCase
import RecordSynth.Text.Quoted
import RecordSynth.Text.Split
import RecordSynth.Text.Unprintable
import RecordSynth.TypeExpr
import RecordSynth.TypeExpr.Meaning
import RecordSynth.TypeExpr.Reader
import RecordSynth.TypeExpr.Cursor
import RecordSynth.Yaml.Cursor
import RecordSynth.Yaml.Decoding
import RecordSynth.Yaml.Node
import RecordSynth.Yaml.Node.Reader
import RecordSynth.Yaml.Plain
import RecordSynth.Yaml.Scalar
import RecordSynth.Yaml.Tag
import RecordSynth.Yaml.Token
import RecordSynth.Yaml.Token.Reader
import RecordSynth.Yaml.Writer
import RecordSynth.Proofs.TypeExpr.Grammar
import RecordSynth.Proofs.Service.Outcome
import RecordSynth.Proofs.Declaration.Markers
import RecordSynth.Proofs.Pass.Steps
import RecordSynth.Proofs.Pass.Annotations
import RecordSynth.Proofs.Pass.Independence
import RecordSynth.Proofs.Declaration.Edits
import RecordSynth.Proofs.Pass.ShortNames
import RecordSynth.Proofs.Command.Files
import RecordSynth.Proofs.Declaration.Order
import RecordSynth.Proofs.Dump
import RecordSynth.Proofs.Pass.Interference
import RecordSynth.Proofs.Schema
import RecordSynth.Proofs.Command.Outcome
import RecordSynth.Proofs.Declaration.Methods
import RecordSynth.Proofs.Service.Dependence
import RecordSynth.Proofs.PackagePath
import RecordSynth.Proofs.Command.SourcePaths
import RecordSynth.Proofs.Pass.Rejection
import RecordSynth.Proofs.Pass.DateSettings
import RecordSynth.Proofs.Properties
import RecordSynth.Proofs.Settings.Document
import RecordSynth.Proofs.Settings.Effective
import RecordSynth.Proofs.Settings.Plugins
import RecordSynth.Proofs.Declaration.Source
import RecordSynth.Proofs.Declaration.Layout
import RecordSynth.Proofs.Text.CamelCase
import RecordSynth.Proofs.Pass.Accessors
import RecordSynth.Proofs.Pass.ClassNames
import RecordSynth.Proofs.Declaration.TypeSet
import RecordSynth.Proofs.Declaration.Additions
import RecordSynth.Proofs.TypeExpr.ShortText
import RecordSynth.Proofs.TypeExpr.Place
import RecordSynth.Proofs.TypeExpr.Cursor
