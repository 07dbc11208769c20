import DlmsTransport.Transport.Basic

/-! The scripted stand-ins of `fake_transport.hpp`. They make no OS call. -/

set_option autoImplicit false

namespace DlmsTransport.Transport

structure FakeByteStream where
  open_ : Bool
  readChunks_ : List (List UInt8)
  writes_ : List (List UInt8)
  nextReadStatus_ : TransportStatus
  nextWriteStatus_ : TransportStatus
  deriving DecidableEq, Repr

namespace FakeByteStream

def new : FakeByteStream where
  open_ := false
  readChunks_ := []
  writes_ := []
  nextReadStatus_ := .ok
  nextWriteStatus_ := .ok

def «open» (self : FakeByteStream) : TransportStatus × FakeByteStream :=
  if self.open_ then
    (.alreadyOpen, self)
  else
    (.ok, { self with open_ := true })

def close (self : FakeByteStream) : TransportStatus × FakeByteStream :=
  (.ok, { self with open_ := false })

def isOpen (self : FakeByteStream) : Bool := self.open_

def readSome (self : FakeByteStream) (output : OutputBuffer) : ReadReply × FakeByteStream :=
  if self.open_ = false then
    (.empty .notOpen, self)
  else if output.invalid then
    (.empty .invalidArgument, self)
  else if self.nextReadStatus_ ≠ .ok then
    (.empty self.nextReadStatus_, { self with nextReadStatus_ := .ok })
  else
    match self.readChunks_ with
    | [] => (.empty .wouldBlock, self)
    | chunk :: rest =>
        let count := min output.size chunk.length
        (⟨.ok, count, chunk.take count⟩,
          { self with
            readChunks_ := if count = chunk.length then rest else chunk.drop count :: rest })

def writeAll (self : FakeByteStream) (input : InputBuffer) : TransportStatus × FakeByteStream :=
  if self.open_ = false then
    (.notOpen, self)
  else if input.invalid then
    (.invalidArgument, self)
  else if self.nextWriteStatus_ ≠ .ok then
    (self.nextWriteStatus_, { self with nextWriteStatus_ := .ok })
  else
    (.ok, { self with
      writes_ := self.writes_ ++ [if input.size = 0 then [] else input.data] })

def scriptRead (self : FakeByteStream) (bytes : List UInt8) : FakeByteStream :=
  { self with readChunks_ := self.readChunks_ ++ [bytes] }

def scriptNextReadStatus (self : FakeByteStream) (status : TransportStatus) : FakeByteStream :=
  { self with nextReadStatus_ := status }

def scriptNextWriteStatus (self : FakeByteStream) (status : TransportStatus) : FakeByteStream :=
  { self with nextWriteStatus_ := status }

def writes (self : FakeByteStream) : List (List UInt8) := self.writes_

def reset (_self : FakeByteStream) : FakeByteStream where
  open_ := false
  readChunks_ := []
  writes_ := []
  nextReadStatus_ := .ok
  nextWriteStatus_ := .ok

/-- The operations of `IByteStream` on the fake, which never loops. -/
def perform (self : FakeByteStream) : StreamMethod → StreamReply × FakeByteStream
  | .open => Prod.map .status id self.open
  | .close => Prod.map .status id self.close
  | .isOpen => (.flag self.isOpen, self)
  | .readSome output => Prod.map .read id (self.readSome output)
  | .writeAll input _ => Prod.map .status id (self.writeAll input)

end FakeByteStream

/-- Everything a test may do with the fake. -/
inductive FakeMethod where
  | stream (method : StreamMethod)
  | scriptRead (bytes : List UInt8)
  | scriptNextReadStatus (status : TransportStatus)
  | scriptNextWriteStatus (status : TransportStatus)
  | writes
  | reset
  deriving DecidableEq, Repr

inductive FakeReply where
  | stream (reply : StreamReply)
  | writes (value : List (List UInt8))
  | done
  deriving DecidableEq, Repr

def FakeByteStream.operate (self : FakeByteStream) : FakeMethod → FakeReply × FakeByteStream
  | .stream method => Prod.map .stream id (self.perform method)
  | .scriptRead bytes => (.done, self.scriptRead bytes)
  | .scriptNextReadStatus status => (.done, self.scriptNextReadStatus status)
  | .scriptNextWriteStatus status => (.done, self.scriptNextWriteStatus status)
  | .writes => (.writes self.writes, self)
  | .reset => (.done, self.reset)

structure FakeDatagramTransport where
  open_ : Bool
  receiveDatagrams_ : List (List UInt8)
  sentDatagrams_ : List (List UInt8)
  nextReceiveStatus_ : TransportStatus
  nextSendStatus_ : TransportStatus
  deriving DecidableEq, Repr

namespace FakeDatagramTransport

def new : FakeDatagramTransport where
  open_ := false
  receiveDatagrams_ := []
  sentDatagrams_ := []
  nextReceiveStatus_ := .ok
  nextSendStatus_ := .ok

def «open» (self : FakeDatagramTransport) : TransportStatus × FakeDatagramTransport :=
  if self.open_ then
    (.alreadyOpen, self)
  else
    (.ok, { self with open_ := true })

def close (self : FakeDatagramTransport) : TransportStatus × FakeDatagramTransport :=
  (.ok, { self with open_ := false })

def isOpen (self : FakeDatagramTransport) : Bool := self.open_

def send (self : FakeDatagramTransport) (input : InputBuffer) :
    TransportStatus × FakeDatagramTransport :=
  if self.open_ = false then
    (.notOpen, self)
  else if input.invalid then
    (.invalidArgument, self)
  else if self.nextSendStatus_ ≠ .ok then
    (self.nextSendStatus_, { self with nextSendStatus_ := .ok })
  else
    (.ok, { self with
      sentDatagrams_ := self.sentDatagrams_ ++ [if input.size = 0 then [] else input.data] })

def receive (self : FakeDatagramTransport) (output : OutputBuffer) :
    ReadReply × FakeDatagramTransport :=
  if self.open_ = false then
    (.empty .notOpen, self)
  else if output.invalid then
    (.empty .invalidArgument, self)
  else if self.nextReceiveStatus_ ≠ .ok then
    (.empty self.nextReceiveStatus_, { self with nextReceiveStatus_ := .ok })
  else
    match self.receiveDatagrams_ with
    | [] => (.empty .wouldBlock, self)
    | datagram :: rest =>
        if output.size < datagram.length then
          (.empty .outputBufferTooSmall, self)
        else
          (⟨.ok, datagram.length, datagram⟩, { self with receiveDatagrams_ := rest })

def scriptReceive (self : FakeDatagramTransport) (bytes : List UInt8) : FakeDatagramTransport :=
  { self with receiveDatagrams_ := self.receiveDatagrams_ ++ [bytes] }

def scriptNextReceiveStatus (self : FakeDatagramTransport) (status : TransportStatus) :
    FakeDatagramTransport :=
  { self with nextReceiveStatus_ := status }

def scriptNextSendStatus (self : FakeDatagramTransport) (status : TransportStatus) :
    FakeDatagramTransport :=
  { self with nextSendStatus_ := status }

def sentDatagrams (self : FakeDatagramTransport) : List (List UInt8) := self.sentDatagrams_

def reset (_self : FakeDatagramTransport) : FakeDatagramTransport where
  open_ := false
  receiveDatagrams_ := []
  sentDatagrams_ := []
  nextReceiveStatus_ := .ok
  nextSendStatus_ := .ok

def perform (self : FakeDatagramTransport) :
    DatagramMethod → DatagramReply × FakeDatagramTransport
  | .open => Prod.map .status id self.open
  | .close => Prod.map .status id self.close
  | .isOpen => (.flag self.isOpen, self)
  | .send input => Prod.map .status id (self.send input)
  | .receive output => Prod.map .read id (self.receive output)

end FakeDatagramTransport

/-- Everything a test may do with the fake datagram transport. -/
inductive FakeDatagramMethod where
  | datagram (method : DatagramMethod)
  | scriptReceive (bytes : List UInt8)
  | scriptNextReceiveStatus (status : TransportStatus)
  | scriptNextSendStatus (status : TransportStatus)
  | sentDatagrams
  | reset
  deriving DecidableEq, Repr

inductive FakeDatagramReply where
  | datagram (reply : DatagramReply)
  | sentDatagrams (value : List (List UInt8))
  | done
  deriving DecidableEq, Repr

def FakeDatagramTransport.operate (self : FakeDatagramTransport) :
    FakeDatagramMethod → FakeDatagramReply × FakeDatagramTransport
  | .datagram method => Prod.map .datagram id (self.perform method)
  | .scriptReceive bytes => (.done, self.scriptReceive bytes)
  | .scriptNextReceiveStatus status => (.done, self.scriptNextReceiveStatus status)
  | .scriptNextSendStatus status => (.done, self.scriptNextSendStatus status)
  | .sentDatagrams => (.sentDatagrams self.sentDatagrams, self)
  | .reset => (.done, self.reset)

end DlmsTransport.Transport
