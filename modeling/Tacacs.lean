import Tacacs.Octets
import Tacacs.Text.Utf8
import Tacacs.Text.Unprintable
import Tacacs.Text.Quoted
import Tacacs.Digest.Md5
import Tacacs.Coded
import Tacacs.Buffer
import Tacacs.Header
import Tacacs.Pad
import Tacacs.Argument
import Tacacs.Access
import Tacacs.Authentication
import Tacacs.Authorization
import Tacacs.Body
import Tacacs.Packet
import Tacacs.Duration
import Tacacs.Failure
import Tacacs.Config
import Tacacs.Chap
import Tacacs.Frame
import Tacacs.Clock
import Tacacs.Registry
import Tacacs.Waiting
import Tacacs.Dialog
import Tacacs.Log
import Tacacs.Reception
import Tacacs.Outflow
import Tacacs.Line
import Tacacs.Connection.Basic
import Tacacs.Connection.Step
import Tacacs.Connection.Move
import Tacacs.Connection.Settle
import Tacacs.Client
import Tacacs.Proofs.Exchange.Events
import Tacacs.Proofs.Exchange.OneShot
import Tacacs.Proofs.Connection.Passage
import Tacacs.Proofs.Connection.Ending
import Tacacs.Proofs.Connection.Moves
import Tacacs.Proofs.Connection.Untouched
import Tacacs.Proofs.Connection.Replies
import Tacacs.Proofs.Connection.NoFalseSuccess
import Tacacs.Proofs.Connection.Refusal
import Tacacs.Proofs.Connection.Closing
import Tacacs.Proofs.Body.Clip
import Tacacs.Proofs.Body.NormalForm
import Tacacs.Proofs.Body.Grammar
import Tacacs.Proofs.Body.Verbatim
import Tacacs.Proofs.Packet.Reading
import Tacacs.Proofs.Packet.RoundTrip
import Tacacs.Proofs.Packet.Hiding
import Tacacs.Proofs.Packet.Filling
import Tacacs.Proofs.Stream.Pieces
import Tacacs.Proofs.Connection.Delivery
import Tacacs.Proofs.Connection.Frames
import Tacacs.Proofs.Connection.ArrivalOrder
import Tacacs.Proofs.Connection.Inbound
import Tacacs.Proofs.Stream.Course
import Tacacs.Proofs.Connection.Stopping
import Tacacs.Proofs.Connection.Writing
import Tacacs.Proofs.Connection.Twins
import Tacacs.Proofs.Connection.Unseen
import Tacacs.Proofs.Connection.Record
import Tacacs.Proofs.Connection.Pace
import Tacacs.Proofs.Connection.Numbering
import Tacacs.Proofs.Connection.Login
import Tacacs.Proofs.Stream.Framing
import Tacacs.Proofs.Packet.InPlace
import Tacacs.Proofs.Packet.Headers
import Tacacs.Proofs.Packet.Admission
import Tacacs.Proofs.Packet.Arguments
import Tacacs.Proofs.Body.Truncation
import Tacacs.Proofs.Connection.WritingSide
import Tacacs.Proofs.Connection.Unmixed
import Tacacs.Proofs.Connection.CutOff
import Tacacs.Proofs.Connection.Standing
import Tacacs.Proofs.Connection.Accounts
import Tacacs.Proofs.Connection.Requests
import Tacacs.Proofs.Connection.Outcomes
import Tacacs.Proofs.Connection.FirstPacket
import Tacacs.Proofs.Connection.Attempts
import Tacacs.Proofs.Connection.Unclaimed
import Tacacs.Proofs.Connection.Negotiation
import Tacacs.Proofs.Connection.Crossing
import Tacacs.Proofs.Connection.Withdrawal
import Tacacs.Proofs.Connection.Prompts
import Tacacs.Proofs.Connection.Dialogs
import Tacacs.Proofs.Connection.Stages
