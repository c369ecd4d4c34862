import XmlQuery.Query.Engine
import XmlQuery.Text.Pool
import XmlQuery.XPath.Batch
import XmlQuery.Proofs.Document.Admission
import XmlQuery.Proofs.Document.Tour
import XmlQuery.Proofs.Namespace.Scoping
import XmlQuery.Proofs.XPath.CompiledCode
import XmlQuery.Proofs.XPath.NodeSets
import XmlQuery.Proofs.XPath.Parsing
import XmlQuery.Proofs.XPath.Typing
import XmlQuery.Proofs.XPath.Axes
import XmlQuery.Proofs.XPath.Bindings
import XmlQuery.Proofs.Query.Transparency
import XmlQuery.Proofs.Markup.CharacterData
import XmlQuery.Proofs.Text.Delimiters
import XmlQuery.Proofs.Markup.Constructs
import XmlQuery.Proofs.Document.Building
import XmlQuery.Proofs.Namespace.Writing
import XmlQuery.Proofs.Document.Isomorphism
import XmlQuery.Proofs.Document.RoundTrip
import XmlQuery.Proofs.Markup.Decoding
import XmlQuery.Proofs.XPath.Prefixes
import XmlQuery.Proofs.Markup.TagGrammar
import XmlQuery.Proofs.XPath.Masking
import XmlQuery.Proofs.XPath.Invisibility
import XmlQuery.Proofs.Text.LineEnds
import XmlQuery.Proofs.Markup.LineEnds
import XmlQuery.Proofs.Markup.Rewriting
import XmlQuery.Proofs.Document.LineEnds
import XmlQuery.Proofs.Document.Encodings
import XmlQuery.Proofs.XPath.Limits
import XmlQuery.Proofs.Markup.Tiling
import XmlQuery.Proofs.XPath.Composition
import XmlQuery.Proofs.XPath.Fusion
import XmlQuery.Proofs.XPath.Lexemes
import XmlQuery.Proofs.XPath.Spacing
import XmlQuery.Proofs.XPath.Abbreviations
import XmlQuery.Proofs.XPath.WrittenOut
import XmlQuery.Proofs.XPath.Filtering
import XmlQuery.Proofs.XPath.Resolution
import XmlQuery.Proofs.Document.StringValues
import XmlQuery.Proofs.Markup.Deciphering
import XmlQuery.Proofs.Markup.DoctypeGrammar
import XmlQuery.Proofs.Document.Prolog
import XmlQuery.Proofs.XPath.Comparison
import XmlQuery.Proofs.Document.FaultPlaces
import XmlQuery.Proofs.XPath.Numerals
import XmlQuery.Proofs.XPath.Searching
import XmlQuery.Proofs.XPath.BindingTables
import XmlQuery.Proofs.Text.Interning
import XmlQuery.Proofs.XPath.CheckedRuns
