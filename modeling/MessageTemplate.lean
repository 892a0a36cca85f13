import MessageTemplate.Json.Values
import MessageTemplate.Main
import MessageTemplate.MessageBlock.Expansion
import MessageTemplate.Translator
import MessageTemplate.Proofs.Compiled.Equivalence
import MessageTemplate.Proofs.Grammar
import MessageTemplate.Proofs.Parser.Machine
import MessageTemplate.Proofs.Parser.Complete
import MessageTemplate.Proofs.Parser.Sound
import MessageTemplate.Proofs.Parser.Failure
import MessageTemplate.Proofs.Parser.Completion
import MessageTemplate.Proofs.Parser.Depth
import MessageTemplate.Proofs.Parser.Limit
import MessageTemplate.Proofs.Parser.TopLevel
import MessageTemplate.Proofs.Catalog.Writes
import MessageTemplate.Proofs.Catalog.Session
import MessageTemplate.Proofs.MessageBlock.Distinct
import MessageTemplate.Proofs.MessageBlock.Written
import MessageTemplate.Proofs.Lexer
import MessageTemplate.Proofs.Lexer.Canonical
import MessageTemplate.Proofs.NormalForm
import MessageTemplate.Proofs.Place
import MessageTemplate.Proofs.Printing
import MessageTemplate.Proofs.RoundTrip
import MessageTemplate.Proofs.Source.Spelling
import MessageTemplate.Proofs.Source.StringLiteral
import MessageTemplate.Proofs.Source.Word
import MessageTemplate.Proofs.Storage
import MessageTemplate.Proofs.MessageBlock.Stored
import MessageTemplate.Proofs.Compiled.Layout
import MessageTemplate.Proofs.Compiled.Lines
import MessageTemplate.Proofs.Compiled.Reading
import MessageTemplate.Proofs.Compiled.Outline
import MessageTemplate.Proofs.Compiled.Places
import MessageTemplate.Proofs.Compiled.Uses
import MessageTemplate.Proofs.Compiled.Source
import MessageTemplate.Proofs.Compiled.Escaping
import MessageTemplate.Proofs.Choice
import MessageTemplate.Proofs.Induction
import MessageTemplate.Proofs.Names
import MessageTemplate.Proofs.Rendering
import MessageTemplate.Proofs.Visits
import MessageTemplate.Proofs.Reports
import MessageTemplate.Proofs.Agreement
import MessageTemplate.Proofs.Composition
import MessageTemplate.Proofs.Compiled.Scope
import MessageTemplate.Proofs.Compiled.Steps
import MessageTemplate.Proofs.NumberField
import MessageTemplate.Proofs.Constant
import MessageTemplate.Proofs.Sinks
import MessageTemplate.Proofs.SuppliedText
import MessageTemplate.Proofs.Parser.Spaces
import MessageTemplate.Proofs.OptionOrder
import MessageTemplate.Proofs.Parser.Branches
import MessageTemplate.Proofs.MessageBlock.Conflicts
import MessageTemplate.Proofs.MessageBlock.Reading
import MessageTemplate.Proofs.MessageBlock.Running
import MessageTemplate.Proofs.Number.Rounding
import MessageTemplate.Proofs.Number.DecimalValue
import MessageTemplate.Proofs.Number.Digits
import MessageTemplate.Proofs.Number.Display
import MessageTemplate.Proofs.DisplayedValue
import MessageTemplate.Proofs.NumberText
import MessageTemplate.Proofs.Compiled.Pieces
import MessageTemplate.Proofs.PrintedFunction
import MessageTemplate.Proofs.MessageBlock.Expanding
import MessageTemplate.Proofs.EditDistance
import MessageTemplate.Proofs.Parser.Frames
import MessageTemplate.Proofs.Checking
