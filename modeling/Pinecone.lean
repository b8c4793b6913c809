import Pinecone.Types
import Pinecone.Dissector.Lua
import Pinecone.Dissector.Varu64
import Pinecone.Dissector.Layout
import Pinecone.Dissector.Dissect
import Pinecone.Dissector.RoundTrip
import Pinecone.Peer.Basic
import Pinecone.Peer.Lifecycle
import Pinecone.Peer.Forward
import Pinecone.Peer.Order
import Pinecone.Peer.Reader
import Pinecone.Peer.Tasks
import Pinecone.Router.DHTInfo
import Pinecone.Simulator.Links
import Pinecone.Peer.Announce
import Pinecone.Peer.Wire
import Pinecone.Dissector.Accepted
import Pinecone.Peer.Handoff
