import PocketCalculator.CommandLine.Program
import PocketCalculator.Http.Api
import PocketCalculator.Main
import PocketCalculator.Proofs.KeyHistory
import PocketCalculator.Proofs.DisplayLines
import PocketCalculator.Proofs.Precedence
import PocketCalculator.Proofs.DoubleEvaluation
import PocketCalculator.Proofs.FailureLabels
import PocketCalculator.Proofs.RegistryOrder
import PocketCalculator.Proofs.SessionIsolation
import PocketCalculator.Proofs.RequestEffects
import PocketCalculator.Proofs.TypedExpressions
import PocketCalculator.Proofs.TokenRows
import PocketCalculator.Proofs.SessionRemoval
import PocketCalculator.Proofs.ResultLine
import PocketCalculator.Proofs.AccumulatorLine
import PocketCalculator.Proofs.ExpressionTexts
import PocketCalculator.Proofs.ZeroDivisions
import PocketCalculator.Proofs.NearestDecimals
import PocketCalculator.Proofs.TrimmedTexts
import PocketCalculator.Proofs.SyntaxTrees
import PocketCalculator.Proofs.TokenOrder
import PocketCalculator.Proofs.WholeNumbers
import PocketCalculator.Proofs.Overflow
import PocketCalculator.Proofs.RoundedNumerals
import PocketCalculator.Proofs.UnknownLabels
import PocketCalculator.Proofs.KeyRequests
import PocketCalculator.Proofs.JsonLines
import PocketCalculator.Proofs.KeyTraces
import PocketCalculator.Proofs.DigitEntry
import PocketCalculator.Proofs.SettingTexts
import PocketCalculator.Proofs.OptionGrammar
import PocketCalculator.Proofs.KeyArguments
import PocketCalculator.Proofs.SettingLayers
