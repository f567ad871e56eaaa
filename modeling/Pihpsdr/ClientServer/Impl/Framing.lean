import Pihpsdr.ClientServer.Impl.Messages
import Mathlib.Data.List.Basic

/-!
Messages on the TCP connection: `recv_tcp`, the read loop that `client_thread` and `server_thread`
share up to the sizes of the messages, with its search for the next sync word, and the bytes that
the `send_*` functions write.
-/

namespace ClientServer

abbrev Byte :=
  BitVec 8

-- the outcome of a call of `recv`
inductive Recv where
  | error
  | bunch (n : Nat)

/--
The bytes on their way to a peer and how its next calls of `recv` go. Later calls get all the bytes
that they ask for, as far as these were sent.
-/
structure Socket where
  data : List Byte
  recvs : List Recv

namespace Socket

def recv (sock : Socket) (bytes : Nat) : Option (List Byte × Socket) :=
  match sock.recvs with
  | [] => some (sock.data.take bytes, ⟨sock.data.drop bytes, []⟩)
  | .error :: _ => none
  | .bunch n :: recvs =>
    some (sock.data.take (min n bytes), ⟨sock.data.drop (min n bytes), recvs⟩)

-- `left` calls of `recv` are left, the last of which fails whatever it receives
def recvBunches (sock : Socket) : Nat → Nat → Option (List Byte × Socket)
  | 0, _ => none
  | left + 1, bytes =>
    if bytes = 0 then
      some ([], sock)
    else
      match sock.recv bytes with
      | none => none
      | some (bunch, sock) =>
        if left = 0 then
          none
        else
          match sock.recvBunches left (bytes - bunch.length) with
          | none => none
          | some (buffer, sock) => some (bunch ++ buffer, sock)

def recvTcp (sock : Socket) (bytes : Nat) : Option (List Byte × Socket) :=
  sock.recvBunches 10 bytes

end Socket

def syncBytes : List Byte :=
  [0xFA, 0xFA, 0xAF, 0xAF]

-- the search for the sync word, byte by byte, with `syncs` of its bytes found; `limit` bytes at most
def resync (syncs : Nat) (sock : Socket) : Nat → Option Socket
  | 0 => none
  | limit + 1 =>
    if syncs = syncBytes.length then
      some sock
    else
      match sock.recvTcp 1 with
      | none => none
      | some (c, sock) =>
        if c.head? = syncBytes[syncs]? then
          resync (syncs + 1) sock limit
        else
          resync 0 sock limit

/-- A message as it was read: the header after the sync word, and the rest of the structure. -/
structure RawMessage where
  header : List Byte
  body : List Byte
  deriving DecidableEq

-- the header after the sync word
def readHeader (sock : Socket) : Option (List Byte × Socket) :=
  match sock.recvTcp headerSize with
  | none => none
  | some (header, sock) =>
    if header.take syncBytes.length = syncBytes then
      some (header.drop syncBytes.length, sock)
    else
      match resync 0 sock (sock.data.length + 1) with
      | none => none
      | some sock => sock.recvTcp (headerSize - syncBytes.length)

-- the two bytes of a field of 16 bits, in the order of the host
def bytes16 (x : BitVec 16) : List Byte :=
  [x.setWidth 8, (x >>> 8).setWidth 8]

def field16 : List Byte → BitVec 16
  | lo :: hi :: _ => lo.setWidth 16 ||| (hi.setWidth 16 <<< 8)
  | _ => 0

def dataType (header : List Byte) : Option DataType :=
  DataType.ofCode (from16 (field16 header))

namespace Peer

-- one pass of the read loop
def readMessage (peer : Peer) (sock : Socket) : Option (RawMessage × Socket) :=
  match readHeader sock with
  | none => none
  | some (header, sock) =>
    match peer.reading (dataType header) with
    | .stop => none
    | .rest s =>
      match sock.recvTcp s.bodySize with
      | none => none
      | some (body, sock) => some (⟨header, body⟩, sock)

/--
The messages that the first `passes` of the read loop process, and the connection after them: it
was given up if there is none.
-/
def readLoop (peer : Peer) : Nat → Socket → List RawMessage × Option Socket
  | 0, sock => ([], some sock)
  | passes + 1, sock =>
    match peer.readMessage sock with
    | none => ([], none)
    | some (message, sock) =>
      let (messages, sock) := peer.readLoop passes sock
      (message :: messages, sock)

end Peer

/--
A message that a peer is sent. The fields `b1`, `b2`, `s1` and `s2` of the header and the bytes of
the body are arbitrary, as many as the structure of the `send_*` function has.
-/
structure Message (peer : Peer) where
  type : DataType
  fields : List Byte
  body : List Byte
  sentTo_type : type.sentTo peer = true
  length_fields : fields.length = 6
  length_body : type.struct.map Struct.bodySize = some body.length

namespace Message

variable {peer : Peer}

def toRaw (m : Message peer) : RawMessage where
  header := bytes16 (to16 m.type.code) ++ m.fields
  body := m.body

def bytes (m : Message peer) : List Byte :=
  syncBytes ++ m.toRaw.header ++ m.toRaw.body

def stream (messages : List (Message peer)) : List Byte :=
  messages.flatMap bytes

end Message

end ClientServer
