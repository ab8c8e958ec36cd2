import Dialogue.Alphabet
import Dialogue.Config
import Dialogue.Cursor
import Dialogue.Delivery
import Dialogue.Encoding.Codec
import Dialogue.Encoding.Decode
import Dialogue.Encoding.EucJp
import Dialogue.Encoding.Jis.Grid
import Dialogue.Encoding.Jis.Standard
import Dialogue.Encoding.Jis.Supplement
import Dialogue.Encoding.Jis.Vendor
import Dialogue.Encoding.Piece
import Dialogue.Encoding.Remedy
import Dialogue.Encoding.ShiftJis
import Dialogue.Encoding.Utf8
import Dialogue.Fault
import Dialogue.Lexeme
import Dialogue.Lexer
import Dialogue.Location
import Dialogue.Mode
import Dialogue.Position
import Dialogue.Proofs.Accounting
import Dialogue.Proofs.Allowance
import Dialogue.Proofs.Canonical
import Dialogue.Proofs.Comments
import Dialogue.Proofs.Coordinates
import Dialogue.Proofs.Course
import Dialogue.Proofs.Decoding
import Dialogue.Proofs.Draining
import Dialogue.Proofs.Extension
import Dialogue.Proofs.Faults
import Dialogue.Proofs.Grammar
import Dialogue.Proofs.Halting
import Dialogue.Proofs.Independence
import Dialogue.Proofs.Joining
import Dialogue.Proofs.Lines
import Dialogue.Proofs.Locations
import Dialogue.Proofs.Log
import Dialogue.Proofs.Lookahead
import Dialogue.Proofs.Names
import Dialogue.Proofs.Nesting
import Dialogue.Proofs.Patterns
import Dialogue.Proofs.Protocol
import Dialogue.Proofs.Quoting
import Dialogue.Proofs.Relocation
import Dialogue.Proofs.Rules
import Dialogue.Proofs.Runs
import Dialogue.Proofs.Sharing
import Dialogue.Proofs.Spelling
import Dialogue.Proofs.Words
import Dialogue.Reader
import Dialogue.Report
import Dialogue.Script
import Dialogue.Session
import Dialogue.Text.Basic
import Dialogue.Text.Numeral
import Dialogue.Text.Printable
import Dialogue.Text.Quoted
import Dialogue.Token
