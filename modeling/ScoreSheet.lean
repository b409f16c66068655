import ScoreSheet.Address
import ScoreSheet.Address.Domain
import ScoreSheet.Average
import ScoreSheet.Binary32
import ScoreSheet.CommandLine.Options
import ScoreSheet.Decimal.Literal
import ScoreSheet.Decimal.Text
import ScoreSheet.Log.Line
import ScoreSheet.Main
import ScoreSheet.Proofs.Average.Accuracy
import ScoreSheet.Proofs.Average.Comparison
import ScoreSheet.Proofs.Average.Equivalence
import ScoreSheet.Proofs.Average.Exact
import ScoreSheet.Proofs.Average.Range
import ScoreSheet.Proofs.Average.Rounding
import ScoreSheet.Proofs.Average.Script
import ScoreSheet.Proofs.Average.Size
import ScoreSheet.Proofs.Binary.Codes
import ScoreSheet.Proofs.Binary.Precision
import ScoreSheet.Proofs.CommandLine.Precedence
import ScoreSheet.Proofs.CommandLine.SampleRate
import ScoreSheet.Proofs.Decimal.Hundredths
import ScoreSheet.Proofs.Log.Cuts
import ScoreSheet.Proofs.Log.LongestTarget
import ScoreSheet.Proofs.Log.Passing
import ScoreSheet.Proofs.Log.Selection
import ScoreSheet.Proofs.Log.SetUp
import ScoreSheet.Proofs.Report.Condition
import ScoreSheet.Proofs.Report.Cut
import ScoreSheet.Proofs.Report.CutCharacter
import ScoreSheet.Proofs.Report.ExactMean
import ScoreSheet.Proofs.Report.LostTail
import ScoreSheet.Proofs.Report.Reading
import ScoreSheet.Proofs.Report.ScoreLines
import ScoreSheet.Proofs.Report.Sequence
import ScoreSheet.Proofs.Run.Ending
import ScoreSheet.Proofs.Run.Failure
import ScoreSheet.Proofs.Session.Independence
import ScoreSheet.Proofs.Session.LoggedAverage
import ScoreSheet.Proofs.Session.Progress
import ScoreSheet.Proofs.Session.ReportLines
import ScoreSheet.Proofs.Session.SetUpOnce
import ScoreSheet.Proofs.Text.Bytes
import ScoreSheet.Report
import ScoreSheet.Run
import ScoreSheet.Sample
import ScoreSheet.Session
import ScoreSheet.Sink
import ScoreSheet.Terminal
import ScoreSheet.Text.CharacterTable
import ScoreSheet.Text.Cut
