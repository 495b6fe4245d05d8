import Switchboard.Failure.Reader
import Switchboard.Endpoint.Station
import Switchboard.Exchange.Station
import Switchboard.Identifier
import Switchboard.Main
import Switchboard.Proofs.Envelope.Codec
import Switchboard.Proofs.Exchange.FanOut
import Switchboard.Proofs.Exchange.Provenance
import Switchboard.Proofs.Endpoint.Act
import Switchboard.Proofs.Exchange.Evolution
import Switchboard.Proofs.Exchange.Ending
import Switchboard.Proofs.Exchange.Lingering
import Switchboard.Proofs.Endpoint.Farewell
import Switchboard.Proofs.Exchange.Dormant
import Switchboard.Proofs.Session.Step
import Switchboard.Proofs.Session.Handshake
import Switchboard.Proofs.Session.Lines
import Switchboard.Proofs.Session.Refusal
import Switchboard.Proofs.Endpoint.Run
import Switchboard.Proofs.Endpoint.Outputs
import Switchboard.Proofs.Endpoint.Reading
import Switchboard.Proofs.Endpoint.Retirement
import Switchboard.Proofs.Exchange.Drain
import Switchboard.Proofs.Exchange.Handover
import Switchboard.Proofs.Session.Routing
import Switchboard.Proofs.Failure.Rendering
import Switchboard.Proofs.Exchange.Size
import Switchboard.Proofs.Endpoint.CloseCode
import Switchboard.Proofs.Exchange.Carrying
import Switchboard.Proofs.Session.Teardown
import Switchboard.Proofs.Session.Ending
import Switchboard.Proofs.Board
import Switchboard.Proofs.Session.GoingAway
import Switchboard.Proofs.Endpoint.Observation
import Switchboard.Proofs.Endpoint.Receipt
import Switchboard.Proofs.Endpoint.Ending
import Switchboard.Proofs.Endpoint.Request
import Switchboard.Proofs.Endpoint.Departure
import Switchboard.Proofs.Endpoint.Capacity
import Switchboard.Proofs.Endpoint.Causes
import Switchboard.Proofs.Gate.Validation
import Switchboard.Proofs.Session.Deadline
import Switchboard.Proofs.Endpoint.Cadence
import Switchboard.Proofs.Settings
