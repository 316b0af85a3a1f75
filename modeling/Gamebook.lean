import Gamebook.Command.Check
import Gamebook.Command.Play
import Gamebook.Form.Condition
import Gamebook.Main
import Gamebook.Number.Bits
import Gamebook.Proofs.Choices
import Gamebook.Proofs.Diagnosis
import Gamebook.Proofs.Grammar
import Gamebook.Proofs.Reachability
import Gamebook.Proofs.Unset
import Gamebook.Proofs.Numerals
import Gamebook.Proofs.Strings
import Gamebook.Proofs.SyntaxTree
import Gamebook.Proofs.Literals
import Gamebook.Proofs.SetAndTest
import Gamebook.Proofs.WrittenJson
import Gamebook.Proofs.Presentation
import Gamebook.Proofs.ByteOrder
import Gamebook.Proofs.Overwriting
import Gamebook.Proofs.Scenes
import Gamebook.Proofs.Documents
import Gamebook.Proofs.Interpolation
import Gamebook.Proofs.CheckedFiles
import Gamebook.Proofs.Steps
import Gamebook.Proofs.Incremental
import Gamebook.Proofs.JsonLines
import Gamebook.Proofs.Comparisons
import Gamebook.Proofs.Entering
import Gamebook.Proofs.Quoting
import Gamebook.Proofs.ClosingBraces
import Gamebook.Proofs.Tally
import Gamebook.Proofs.Joining
import Gamebook.Proofs.OperatorLaws
import Gamebook.Proofs.Thresholds
import Gamebook.Proofs.Selecting
import Gamebook.Proofs.Rounds
import Gamebook.Proofs.Calls
import Gamebook.Proofs.Reentering
import Gamebook.Proofs.Borders
import Gamebook.Proofs.ScannedDirectives
import Gamebook.Proofs.ScannedTemplates
import Gamebook.Proofs.ScannedPlaceholders
import Gamebook.Proofs.Scanners
import Gamebook.Proofs.Decimals
import Gamebook.Proofs.Rounding
import Gamebook.Proofs.Scaling
import Gamebook.Proofs.ShortestDigits
import Gamebook.Proofs.WrittenNumbers
import Gamebook.Proofs.SavedVariables
