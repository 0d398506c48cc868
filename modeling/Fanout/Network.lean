import Fanout.Transport

/-!
A network of servers that follow scripts. It needs no operating system, so a round on it always
goes the same way. A server plays the next script for every connection it takes, as far as the
bytes it was sent allow, and after the script it stays silent. A network without a route refuses
every connection.
-/

set_option autoImplicit false

namespace Fanout

inductive ScriptStep where
  /-- Reads a number of bytes, or up to the end of the connection. -/
  | receive (count : Nat)
  | send (bytes : ByteArray)
  | pause
  | endOfStream

abbrev Script := List ScriptStep

structure Server where
  address : Address
  port : UInt16
  /-- The scripts of the connections still to come. -/
  scripts : List Script
  /-- What the scripts of the connections so far have read. -/
  received : Array ByteArray := #[]

structure Network where
  hasRoute : Bool := true
  servers : List Server := []

structure Peer where
  server : Nat
  number : Nat
  script : Script
  unread : ByteArray := .empty
  received : ByteArray := .empty
  /-- Sent by the server and not yet delivered. -/
  outgoing : ByteArray := .empty
  ended : Bool := false
  established : Bool := false

namespace Peer

/-- Follows the script until it has to wait for bytes. -/
def play (peer : Peer) : Script → Peer
  | [] => { peer with script := [], unread := .empty }
  | .receive count :: script =>
      if count ≤ peer.unread.size then
        play { peer with
          received := peer.received ++ peer.unread.extract 0 count
          unread := peer.unread.extract count peer.unread.size } script
      else { peer with script := .receive count :: script }
  | .send bytes :: script => play { peer with outgoing := peer.outgoing ++ bytes } script
  | .pause :: script => play peer script
  | .endOfStream :: script => play { peer with ended := true } script

/-- Everything that the script reads when no more bytes will come. -/
def receivedAtEnd (peer : Peer) : ByteArray :=
  let demand := peer.script.foldl (fun demand step =>
    match step with
    | .receive count => demand + count
    | _ => demand) 0
  peer.received ++ peer.unread.extract 0 demand

def shake (peer : Peer) : Handshake × Peer := (.established, { peer with established := true })

def send (peer : Peer) (bytes : ByteArray) : SendAnswer × Peer :=
  (.accepts bytes.size, { peer with unread := peer.unread ++ bytes }.play peer.script)

def receive (peer : Peer) (room : Nat) : ReceiveAnswer × Peer :=
  if peer.outgoing.isEmpty then
    (if peer.ended then .delivers .empty else .fails .wouldBlock, peer)
  else
    (.delivers (peer.outgoing.extract 0 room),
      { peer with outgoing := peer.outgoing.extract room peer.outgoing.size })

def ready (peer : Peer) : Readiness :=
  { read := peer.established && (!peer.outgoing.isEmpty || peer.ended), write := true }

end Peer

namespace Network

def unreachable : IoError := .system "Network is unreachable" 101

def connectionRefused : IoError := .system "Connection refused" 111

/-- Opens a connection. Only literal hosts have an address. -/
def dial (network : Network) (endpoint : Endpoint) : Dialing Peer × Network :=
  match endpoint.address? with
  | none => (.unresolved, network)
  | some address =>
      if !network.hasRoute then (.refused unreachable, network)
      else
        match network.servers.findIdx? fun server =>
            server.address = address && server.port = endpoint.port with
        | none => (.refused connectionRefused, network)
        | some index =>
            match network.servers[index]? with
            | none => (.refused connectionRefused, network)
            | some server =>
                let script := server.scripts.headD []
                let peer : Peer :=
                  { server := index, number := server.received.size, script := script }
                let taken := { server with
                  scripts := server.scripts.tail
                  received := server.received.push .empty }
                (.opened (peer.play script),
                  { network with servers := network.servers.set index taken })

/-- The end of a connection: the server keeps what its script has read. -/
def hangUp (network : Network) (peer : Peer) : Network :=
  { network with
    servers := network.servers.modify peer.server fun server =>
      { server with received := server.received.setIfInBounds peer.number peer.receivedAtEnd } }

/-- Reports every socket that has something for its pair, or lets the time pass. -/
def poll (network : Network) (watched : List (Watched Peer)) (patience : Nat) :
    Wake × Nat × Network :=
  let events := watched.filterMap fun entry =>
    let hit := entry.socket.ready.inter entry.wanted
    if hit.isEmpty then none else some (entry.ordinal, hit)
  (.ready events, if events.isEmpty then patience else 0, network)

def transport : Transport Network Peer where
  dial := dial
  shake := Peer.shake
  send := Peer.send
  receive := Peer.receive
  watch := .answering none
  deregister := fun network _ => (none, network)
  hangUp := hangUp
  poll := poll
  patience := fun _ => 0
  send_interrupted := by
    intro peer bytes later answer
    simp [Peer.send] at answer
  receive_interrupted := by
    intro peer room later answer
    unfold Peer.receive at answer
    split at answer
    · split at answer <;> simp at answer
    · simp at answer

end Network

end Fanout
