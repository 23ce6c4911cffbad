import Haml.CommandLine.Arguments
import Haml.CommandLine.Files
import Haml.CommandLine.Run
import Haml.Compiler
import Haml.Decimal.Basic
import Haml.Decimal.Binary64
import Haml.Decimal.Floating
import Haml.Doctype
import Haml.Dump.Json
import Haml.Dump.TreeView
import Haml.Dump.Yaml
import Haml.Element.Basic
import Haml.Element.Parse
import Haml.Element.Tags
import Haml.Error
import Haml.LineKind
import Haml.Main
import Haml.Markup
import Haml.Options
import Haml.Outline.Basic
import Haml.Outline.Expectation
import Haml.Outline.Indentation
import Haml.Outline.Parse
import Haml.Proofs.Outline.Forest
import Haml.Proofs.Outline.Grouping
import Haml.Proofs.Outline.Nesting
import Haml.Proofs.Outline.Rows
import Haml.Proofs.Outline.Scanning
import Haml.Proofs.Render.Outcome
import Haml.Proofs.Script.Listing
import Haml.Proofs.Script.Literal
import Haml.Proofs.Text.Escape
import Haml.Proofs.Text.Lines
import Haml.Proofs.Text.Trim
import Haml.Render
import Haml.Settings.Decode
import Haml.Settings.Error
import Haml.Settings.KeyPath
import Haml.Settings.Layers
import Haml.Settings.Value
import Haml.Target.Basic
import Haml.Target.Capability
import Haml.Target.Emission
import Haml.Target.Fragment
import Haml.Target.Script
import Haml.Target.Transcript
import Haml.Text.Basic
import Haml.Text.Blank
import Haml.Text.Cased
import Haml.Text.Entity
import Haml.Text.Json
import Haml.Text.Lines
import Haml.Text.Lower
import Haml.Text.Printed
import Haml.Text.Quoted
import Haml.Text.Scalar
import Haml.Text.Shown
import Haml.Text.Utf8
import Haml.Toml.Basic
import Haml.Toml.Moment
import Haml.Toml.Number
import Haml.Toml.Parse
import Haml.Toml.String
import Haml.Toml.Table
import Haml.Warning
import Haml.Proofs.Element.Block
import Haml.Proofs.Element.Division
import Haml.Proofs.Element.Reading
import Haml.Proofs.Element.Selectors
import Haml.Proofs.Element.Tail
import Haml.Proofs.Script.Layout
import Haml.Proofs.Script.Assignment
import Haml.Proofs.Script.Page
import Haml.Proofs.Element.Canonical
import Haml.Proofs.Script.Enclosure
import Haml.Proofs.Script.Inline
import Haml.Proofs.Outline.Printing
import Haml.Proofs.Outline.Relayout
import Haml.Proofs.Element.Fault
import Haml.Proofs.Render.Refusal
import Haml.Proofs.Render.Calls
import Haml.Proofs.Render.Requests
import Haml.Proofs.Render.Restriction
import Haml.Proofs.Render.InPlace
import Haml.Proofs.Render.Warnings
import Haml.Proofs.Render.Session
import Haml.Proofs.Guarded.Basic
import Haml.Proofs.Outline.Concatenation
import Haml.Proofs.Guarded.Outline
import Haml.Proofs.Guarded.Element
import Haml.Proofs.Guarded.Render
import Haml.Proofs.Dump.TreeView
import Haml.Proofs.Text.Json
import Haml.Proofs.Dump.Json
import Haml.Proofs.Dump.Yaml
import Haml.Proofs.Settings.Keys
import Haml.Proofs.Settings.Precedence
import Haml.Proofs.Text.Utf8
import Haml.Proofs.Render.Discarded
import Haml.Proofs.CommandLine.Ending
import Haml.Proofs.CommandLine.Output
import Haml.Proofs.Element.Tags
import Haml.Proofs.Text.Entity
import Haml.Proofs.Element.InlineText
import Haml.Proofs.Render.UsedOptions
import Haml.Proofs.Target.Writing
import Haml.Proofs.Target.Appending
