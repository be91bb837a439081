import PassportKit.ModelB
import PassportKit.PaymentCompliance
import PassportKit.TenantIsolation
import PassportKit.RevocationCascade
import PassportKit.ClaimValidity
import PassportKit.ClaimSlots
import PassportKit.WalletMap
import PassportKit.AgentAttestation
import PassportKit.ClaimSigning
import PassportKit.Positions
import PassportKit.LogCache
import PassportKit.WorldVerify
import PassportKit.VerificationCallbacks
import PassportKit.MandateHook
import PassportKit.MandateGate
import PassportKit.JsNumber
import PassportKit.KeyGrammar
import PassportKit.JsValue
import PassportKit.JsonText
import PassportKit.TextEncoder
import PassportKit.Evidence
import PassportKit.Refusals
import PassportKit.X402
import PassportKit.DemoChain
import PassportKit.Concierge
import PassportKit.TicketRecords
import PassportKit.PaymentApprovals
import PassportKit.DemoIdentity
import PassportKit.ClaimStatus
import PassportKit.AddressCodec
import PassportKit.DecimalCodec
import PassportKit.WalletPolicy
import PassportKit.WorldCredentials
import PassportKit.TransferLimit
import PassportKit.DemoFallbacks
import PassportKit.VerificationView
import PassportKit.VerificationOperations
import PassportKit.PassportAgreement
import PassportKit.PolicyAgreement
import PassportKit.HeroChain
import PassportKit.HeroService
import PassportKit.SendRetries
import PassportKit.AgentLinking
import PassportKit.NameBindings
import PassportKit.WebClients
import PassportKit.AttestedRuns
import PassportKit.HouseBooks
import PassportKit.HouseDeployment
