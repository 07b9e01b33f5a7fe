import GasSponsor.Api.Backend
import GasSponsor.Config.Settings
import GasSponsor.Node.Scripted
import GasSponsor.Rpc.Ledger
import GasSponsor.Proofs.Quote
import GasSponsor.Proofs.Wire.Varint
import GasSponsor.Proofs.Wire.Scalar
import GasSponsor.Proofs.Wire.RoundTrip
import GasSponsor.Proofs.Ethereum.Message
import GasSponsor.Proofs.Envelope
import GasSponsor.Proofs.Relay.Request
import GasSponsor.Proofs.Relay.Account
import GasSponsor.Proofs.Relay.History
import GasSponsor.Proofs.Relay.Sequence
import GasSponsor.Proofs.Relay.Queue
import GasSponsor.Proofs.Relay.Outcome
import GasSponsor.Proofs.Relay.Progress
import GasSponsor.Proofs.Relay.Ledger
import GasSponsor.Proofs.Relay.Contiguous
import GasSponsor.Proofs.Relay.Recovery
import GasSponsor.Proofs.Relay.Receipts
import GasSponsor.Proofs.Relay.Conservation
import GasSponsor.Proofs.Rpc.Hearing
import GasSponsor.Proofs.Rpc.Verdict
import GasSponsor.Proofs.Rpc.Failover
import GasSponsor.Proofs.Rpc.AccountQuery
import GasSponsor.Proofs.Bytes.Base64
import GasSponsor.Proofs.Bytes.Number
import GasSponsor.Proofs.Text.Decimal
import GasSponsor.Proofs.Bytes.Hex
import GasSponsor.Proofs.Rlp.Reader
import GasSponsor.Proofs.Ethereum.Reading
import GasSponsor.Proofs.Ethereum.LedgerForm
import GasSponsor.Proofs.Ethereum.Canonical
import GasSponsor.Proofs.Ethereum.Rebuilt
import GasSponsor.Proofs.Ethereum.Image
import GasSponsor.Proofs.Projection
import GasSponsor.Proofs.Wire.Parts
import GasSponsor.Proofs.Envelope.Binding
import GasSponsor.Proofs.Relay.Price
import GasSponsor.Proofs.Metrics
import GasSponsor.Proofs.Ensures
import GasSponsor.Proofs.Relay.Bookkeeping
import GasSponsor.Proofs.Relay.Patience
import GasSponsor.Proofs.Steps
import GasSponsor.Proofs.Relay.Grace
import GasSponsor.Proofs.Relay.Gone
import GasSponsor.Proofs.Relay.Shutdown
import GasSponsor.Proofs.Projection.Minimum
import GasSponsor.Proofs.Relay.Discipline
import GasSponsor.Proofs.Api.Response
import GasSponsor.Proofs.Api.Submission
import GasSponsor.Proofs.Ledger.MessageType
import GasSponsor.Envelope.Buffered
import GasSponsor.Proofs.Wire.Layout
import GasSponsor.Proofs.Envelope.Capacity
import GasSponsor.Proofs.Wire.Reading
import GasSponsor.Proofs.Wire.Alike
import GasSponsor.Proofs.Rpc.Undeclared
import GasSponsor.Proofs.Config.Environment
import GasSponsor.Proofs.Text.Numeral
import GasSponsor.Proofs.Rpc.BaseFee
import GasSponsor.Proofs.Quote.Answers
import GasSponsor.Proofs.Quote.Monotone
import GasSponsor.Proofs.Quote.Gauge
import GasSponsor.Proofs.Ethereum.Minimal
import GasSponsor.Proofs.Account
import GasSponsor.Proofs.Bech32.Regroup
import GasSponsor.Proofs.Bech32.Checksum
import GasSponsor.Proofs.Bech32.Text
import GasSponsor.Proofs.Payer
