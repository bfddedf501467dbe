import BracketBalance.Main
import BracketBalance.Pattern.CharSet
import BracketBalance.Pattern.Escape
import BracketBalance.Text.Letter
import BracketBalance.Pattern.Brackets
import BracketBalance.Pattern.Reading
import BracketBalance.Pattern
import BracketBalance.Proofs.Diagnosis
import BracketBalance.Proofs.Tokens
import BracketBalance.Proofs.Language
import BracketBalance.Proofs.Viability
import BracketBalance.Proofs.Chunks
import BracketBalance.Proofs.Lines
import BracketBalance.Proofs.Places
import BracketBalance.Proofs.Report
import BracketBalance.Proofs.Likeness
import BracketBalance.Proofs.Insertion
import BracketBalance.Proofs.Grammars
import BracketBalance.Proofs.Composition
import BracketBalance.Proofs.Encoding
import BracketBalance.Proofs.Observation
import BracketBalance.Proofs.Files
import BracketBalance.Proofs.Log
import BracketBalance.Proofs.Classes
import BracketBalance.Proofs.Verbosity
import BracketBalance.Proofs.Literals
import BracketBalance.Proofs.Comments
import BracketBalance.Proofs.Window
import BracketBalance.Proofs.Percent
import BracketBalance.Proofs.Cells
import BracketBalance.Proofs.Coherence
import BracketBalance.Proofs.Throttle
import BracketBalance.Proofs.Wording
