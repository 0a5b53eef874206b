import Sponge.Adapter.Ethernet
import Sponge.BidirectionalStreamCopy.Runs
import Sponge.ByteStream.History
import Sponge.IPv4Datagram.Acceptance
import Sponge.NetworkInterface.Filtering
import Sponge.NetworkInterface.Pacing
import Sponge.NetworkSimulator.Internet
import Sponge.Router.Robustness
import Sponge.Router.Selection
import Sponge.StreamReassembler.Completion
import Sponge.StreamReassembler.Discarding
import Sponge.TCPConnection.Diagram
import Sponge.TCPOverIP.Listening
import Sponge.TCPOverIP.RoundTrip
import Sponge.TCPReceiver.Simulation
import Sponge.TCPSegment.Acceptance
import Sponge.TCPSender.Exhausted
import Sponge.TCPSender.Timer
import Sponge.TCPSpongeSocket.Transfer
import Sponge.Util.ParserCalls
