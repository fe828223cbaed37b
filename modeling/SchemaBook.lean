import SchemaBook.Text.Integer
import SchemaBook.Text.Quoted
import SchemaBook.Text.Reference
import SchemaBook.Text.Split
import SchemaBook.Decimal.Notation
import SchemaBook.Decimal.Reading
import SchemaBook.Value.Display
import SchemaBook.OrderedSet
import SchemaBook.Schema.Reading
import SchemaBook.Schema.Facts
import SchemaBook.Schema.JoinTable
import SchemaBook.Mermaid.Entity
import SchemaBook.Book.Document
import SchemaBook.Yaml.Layout
import SchemaBook.Yaml.Graph.Grammar
import SchemaBook.Yaml.Reader
import SchemaBook.Loader.SchemaFile
import SchemaBook.CommandLine.Run
import SchemaBook.Main
import SchemaBook.Proofs.Prepared
import SchemaBook.Proofs.Book.Chapters
import SchemaBook.Proofs.Diagram.Syntax
import SchemaBook.Proofs.Diagram.Restriction
import SchemaBook.Proofs.Diagram.JoinTables
import SchemaBook.Proofs.Book.Hidden
import SchemaBook.Proofs.JoinTable.Order
import SchemaBook.Proofs.Diagram.Headers
import SchemaBook.Proofs.JoinTable.Opposite
import SchemaBook.Proofs.CommandLine.Files
import SchemaBook.Proofs.Book.Faults
import SchemaBook.Proofs.Book.Steps
import SchemaBook.Proofs.Diagram.UnknownTargets
import SchemaBook.Proofs.Wording.Document
import SchemaBook.Proofs.Wording.LineEnds
import SchemaBook.Proofs.Findings
import SchemaBook.Proofs.Loader.Repair
import SchemaBook.Proofs.JoinTable.Halves
import SchemaBook.Proofs.JoinTable.KeyColumns
import SchemaBook.Proofs.Loader.TextEntry
import SchemaBook.Proofs.Diagram.Ends
import SchemaBook.Proofs.Yaml.Quoted
import SchemaBook.Proofs.Diagram.LocalColumn
import SchemaBook.Proofs.Doc.Items
import SchemaBook.Proofs.Configuration
import SchemaBook.Proofs.Diagram.ColumnNames
import SchemaBook.Proofs.Schema.Reading
import SchemaBook.Proofs.Loader.SchemaText
import SchemaBook.Proofs.Pairing
