import ShaderAnalysis.Main
import ShaderAnalysis.Outline.Index
import ShaderAnalysis.Proofs.Code.CallSite
import ShaderAnalysis.Proofs.Code.Declared
import ShaderAnalysis.Proofs.Code.FunctionScope
import ShaderAnalysis.Proofs.Code.NameToken
import ShaderAnalysis.Proofs.Code.OpenCall
import ShaderAnalysis.Proofs.Code.Parameter
import ShaderAnalysis.Proofs.Code.ParameterList
import ShaderAnalysis.Proofs.Document.Batch
import ShaderAnalysis.Proofs.Document.Client
import ShaderAnalysis.Proofs.Document.Column
import ShaderAnalysis.Proofs.Document.DocComment
import ShaderAnalysis.Proofs.Document.Formatting
import ShaderAnalysis.Proofs.Document.Offset
import ShaderAnalysis.Proofs.Document.Position
import ShaderAnalysis.Proofs.Document.Stripped
import ShaderAnalysis.Proofs.Feature.Completion
import ShaderAnalysis.Proofs.Feature.DocumentSymbol
import ShaderAnalysis.Proofs.Feature.SemanticToken
import ShaderAnalysis.Proofs.Files.Disk
import ShaderAnalysis.Proofs.Files.Normal
import ShaderAnalysis.Proofs.Files.Path
import ShaderAnalysis.Proofs.Files.Same
import ShaderAnalysis.Proofs.Format.Again
import ShaderAnalysis.Proofs.Format.BlockComment
import ShaderAnalysis.Proofs.Format.Braces
import ShaderAnalysis.Proofs.Format.Clash
import ShaderAnalysis.Proofs.Format.Comment
import ShaderAnalysis.Proofs.Format.Content
import ShaderAnalysis.Proofs.Format.Ink
import ShaderAnalysis.Proofs.Format.Merge
import ShaderAnalysis.Proofs.Format.Reread
import ShaderAnalysis.Proofs.Format.Respaced
import ShaderAnalysis.Proofs.Format.Steady
import ShaderAnalysis.Proofs.Format.Token
import ShaderAnalysis.Proofs.Format.Whole
import ShaderAnalysis.Proofs.Inclusion.Agreement
import ShaderAnalysis.Proofs.Inclusion.Directive
import ShaderAnalysis.Proofs.Inclusion.Newest
import ShaderAnalysis.Proofs.Inclusion.Precedence
import ShaderAnalysis.Proofs.Inclusion.Resolution
import ShaderAnalysis.Proofs.Inclusion.Scan
import ShaderAnalysis.Proofs.Inclusion.Version
import ShaderAnalysis.Proofs.Lexical.Arena
import ShaderAnalysis.Proofs.Lexical.Beginning
import ShaderAnalysis.Proofs.Lexical.Brackets
import ShaderAnalysis.Proofs.Lexical.Enclosing
import ShaderAnalysis.Proofs.Lexical.Fitting
import ShaderAnalysis.Proofs.Lexical.Innermost
import ShaderAnalysis.Proofs.Lexical.Lines
import ShaderAnalysis.Proofs.Lexical.Mask
import ShaderAnalysis.Proofs.Lexical.Matching
import ShaderAnalysis.Proofs.Lexical.Pending
import ShaderAnalysis.Proofs.Lexical.Query
import ShaderAnalysis.Proofs.Lexical.Regions
import ShaderAnalysis.Proofs.Lexical.Remask
import ShaderAnalysis.Proofs.Lexical.Scan
import ShaderAnalysis.Proofs.Lexical.Window
import ShaderAnalysis.Proofs.Outline.Alignment
import ShaderAnalysis.Proofs.Outline.BlockAlignment
import ShaderAnalysis.Proofs.Outline.Code
import ShaderAnalysis.Proofs.Outline.Declaration
import ShaderAnalysis.Proofs.Outline.Distinct
import ShaderAnalysis.Proofs.Outline.Filling
import ShaderAnalysis.Proofs.Outline.Forest
import ShaderAnalysis.Proofs.Outline.GroupVariable
import ShaderAnalysis.Proofs.Outline.Growth
import ShaderAnalysis.Proofs.Outline.Header
import ShaderAnalysis.Proofs.Outline.Justified
import ShaderAnalysis.Proofs.Outline.Kernel
import ShaderAnalysis.Proofs.Outline.Lookup
import ShaderAnalysis.Proofs.Outline.Methods
import ShaderAnalysis.Proofs.Outline.Names
import ShaderAnalysis.Proofs.Outline.Nesting
import ShaderAnalysis.Proofs.Outline.Origin
import ShaderAnalysis.Proofs.Outline.Parameters
import ShaderAnalysis.Proofs.Outline.Prepared
import ShaderAnalysis.Proofs.Outline.Shader
import ShaderAnalysis.Proofs.Outline.Stack
import ShaderAnalysis.Proofs.Outline.TypeWord
import ShaderAnalysis.Proofs.Outline.Visible
import ShaderAnalysis.Proofs.Scan.Alignment
import ShaderAnalysis.Proofs.Scan.Reading
import ShaderAnalysis.Proofs.Scan.Running
import ShaderAnalysis.Proofs.Server.Freshness
import ShaderAnalysis.Proofs.Server.Inclusion
import ShaderAnalysis.Proofs.Settings.Merge
import ShaderAnalysis.Proofs.Settings.Tidy
import ShaderAnalysis.Proofs.Text.CodeUnits
import ShaderAnalysis.Proofs.Text.Cut
import ShaderAnalysis.Proofs.Text.Line
import ShaderAnalysis.Proofs.Text.Trim
import ShaderAnalysis.Proofs.Workspace.Analysis
import ShaderAnalysis.Proofs.Workspace.Discovery
import ShaderAnalysis.Proofs.Workspace.IncludeGraph
import ShaderAnalysis.Proofs.Workspace.LastOpened
import ShaderAnalysis.Proofs.Workspace.Memo
import ShaderAnalysis.Proofs.Workspace.OpenDocuments
import ShaderAnalysis.Proofs.Workspace.Parameters
import ShaderAnalysis.Proofs.Workspace.Search
import ShaderAnalysis.Proofs.Workspace.Session
import ShaderAnalysis.Proofs.Workspace.Truncation
import ShaderAnalysis.Proofs.Feature.SemanticToken
import ShaderAnalysis.Proofs.Inclusion.Directive
