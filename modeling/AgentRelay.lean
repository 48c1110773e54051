import AgentRelay.Conversation.Encoding
import AgentRelay.Main
import AgentRelay.Proofs.Launches
import AgentRelay.Proofs.LetterCase
import AgentRelay.Proofs.Noise
import AgentRelay.Proofs.Pieces
import AgentRelay.Proofs.Provenance
import AgentRelay.Proofs.Supervision.Protocol
import AgentRelay.Settings.Encoding
import AgentRelay.Proofs.ImageBytes
import AgentRelay.Proofs.MessageEncoding
import AgentRelay.Proofs.Precedence
import AgentRelay.Proofs.JsonOrder
import AgentRelay.Proofs.JsonText
import AgentRelay.Proofs.Wire
import AgentRelay.Proofs.Diagnostics
import AgentRelay.Proofs.ChunkLines
import AgentRelay.Proofs.KeySecrecy
import AgentRelay.Proofs.ExitCodes
import AgentRelay.Proofs.Usage.Reading
import AgentRelay.Proofs.Usage.IllTyped
import AgentRelay.Proofs.Usage.Dialects
import AgentRelay.Proofs.Usage.Charge
import AgentRelay.Proofs.Usage.Source
import AgentRelay.Proofs.Conversation.Leaves
import AgentRelay.Proofs.Conversation.Translation
import AgentRelay.Proofs.Event.RuleTable
import AgentRelay.Proofs.Event.Items
import AgentRelay.Proofs.Event.Failures
import AgentRelay.Proofs.Framing
import AgentRelay.Proofs.Auth.Probing
import AgentRelay.Proofs.Auth.Negation
import AgentRelay.Proofs.Overrides
import AgentRelay.Proofs.Arguments
import AgentRelay.Proofs.ModelChoice
import AgentRelay.Proofs.FirstReport
import AgentRelay.Proofs.Amounts
import AgentRelay.Proofs.ShownTexts
import AgentRelay.Proofs.PlainAnswers
import AgentRelay.Proofs.KeyVariable
