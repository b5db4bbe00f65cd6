import EngineLink.Proofs.Client.AnsweredPages
import EngineLink.Proofs.Client.ForwardScan
import EngineLink.Proofs.Client.GuardBalance
import EngineLink.Proofs.Client.HandleLatches
import EngineLink.Proofs.Client.JsonRows
import EngineLink.Proofs.Client.LiveQuery
import EngineLink.Proofs.Client.NestedBlocks
import EngineLink.Proofs.Client.NestedSession
import EngineLink.Proofs.Client.OwnRows
import EngineLink.Proofs.Client.PlainCursor
import EngineLink.Proofs.Client.SafeMoves
import EngineLink.Proofs.Client.SerialTransactions
import EngineLink.Proofs.Client.SessionTruth
import EngineLink.Proofs.Client.SharedHandle
import EngineLink.Proofs.Number.LeadingDecimal
import EngineLink.Proofs.Reference.ByteBoundary
import EngineLink.Proofs.Script.InstanceBalance
import EngineLink.Script.Run
import EngineLink.Settings.Load
import EngineLink.Proofs.Message.Truncation
import EngineLink.Proofs.Message.Layouts
import EngineLink.Proofs.Failure.ToldCause
import EngineLink.Proofs.Failure.ReportedKind
import EngineLink.Proofs.Number.IntegerText
import EngineLink.Proofs.Page.GivenNumbers
import EngineLink.Proofs.Page.Retention
import EngineLink.Proofs.Page.Splitting
import EngineLink.Proofs.Script.Bindings
import EngineLink.Proofs.Script.SentArguments
import EngineLink.Proofs.Settings.ValidTexts
import EngineLink.Proofs.Settings.Precedence
