import LoxLexer.Console.Command
import LoxLexer.Console.FileTree
import LoxLexer.Cursor
import LoxLexer.Main
import LoxLexer.Session
import LoxLexer.Proofs.Element
import LoxLexer.Proofs.Grammar
import LoxLexer.Proofs.Reading
import LoxLexer.Proofs.Events
import LoxLexer.Proofs.Sharing
import LoxLexer.Proofs.Tokenization
import LoxLexer.Proofs.Spacing
import LoxLexer.Proofs.Spans
import LoxLexer.Proofs.Stretch
import LoxLexer.Proofs.FirstError
import LoxLexer.Proofs.LineEnds
import LoxLexer.Proofs.Bookkeeping
import LoxLexer.Proofs.Recovery
import LoxLexer.Proofs.Cuts
import LoxLexer.Proofs.Lookahead
import LoxLexer.Proofs.Numerals
import LoxLexer.Proofs.Consistency
import LoxLexer.Proofs.Formatting
import LoxLexer.Proofs.Rendering
import LoxLexer.Proofs.Comments
import LoxLexer.Proofs.CarriageReturns
import LoxLexer.Proofs.Ordering
import LoxLexer.Proofs.Streaming
import LoxLexer.Proofs.Decoding
import LoxLexer.Proofs.Blocks
import LoxLexer.Proofs.Listings
import LoxLexer.Proofs.Scripts
import LoxLexer.Proofs.Conversations
import LoxLexer.Proofs.LineByLine
import LoxLexer.Proofs.Diagnostics
import LoxLexer.Proofs.LostInput
import LoxLexer.Proofs.Magnitudes
import LoxLexer.Proofs.Rounding
import LoxLexer.Proofs.NumberLiterals
import LoxLexer.Proofs.FewestDigits
import LoxLexer.Proofs.ShortestForms
import LoxLexer.Proofs.RoundTrips
import LoxLexer.Proofs.LiteralForms
import LoxLexer.Proofs.LiteralTokens
import LoxLexer.Proofs.ControlSequences
