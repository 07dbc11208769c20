import DlmsTransport.Text.Search
import DlmsTransport.Transport.Basic

/-! The sign-on helper of `iec62056_21_mode_e.cpp`. A `std::string` is the list of its
bytes. -/

set_option autoImplicit false

namespace DlmsTransport.Transport

open Text

/-- The enumeration, which can hold any value of its underlying `int`. -/
structure Iec62056_21BaudRate where
  value : Int32
  deriving DecidableEq, Repr

namespace Iec62056_21BaudRate

def baud300 : Iec62056_21BaudRate := ⟨0⟩
def baud600 : Iec62056_21BaudRate := ⟨1⟩
def baud1200 : Iec62056_21BaudRate := ⟨2⟩
def baud2400 : Iec62056_21BaudRate := ⟨3⟩
def baud4800 : Iec62056_21BaudRate := ⟨4⟩
def baud9600 : Iec62056_21BaudRate := ⟨5⟩
def baud19200 : Iec62056_21BaudRate := ⟨6⟩

end Iec62056_21BaudRate

structure Iec62056_21Identification where
  raw : List UInt8
  supportsModeE : Bool
  maxBaudRate : Iec62056_21BaudRate
  deriving DecidableEq, Repr

def Iec62056_21Identification.new : Iec62056_21Identification where
  raw := []
  supportsModeE := false
  maxBaudRate := .baud300

def isKnownBaudRate (baudRate : Iec62056_21BaudRate) : Bool :=
  if baudRate = .baud300 then true
  else if baudRate = .baud600 then true
  else if baudRate = .baud1200 then true
  else if baudRate = .baud2400 then true
  else if baudRate = .baud4800 then true
  else if baudRate = .baud9600 then true
  else if baudRate = .baud19200 then true
  else false

/-- The status, and what the call leaves in `baudRate`. -/
def baudRateFromCode (code : UInt8) (baudRate : Iec62056_21BaudRate) :
    TransportStatus × Iec62056_21BaudRate :=
  if code = ascii '0' then (.ok, .baud300)
  else if code = ascii '1' then (.ok, .baud600)
  else if code = ascii '2' then (.ok, .baud1200)
  else if code = ascii '3' then (.ok, .baud2400)
  else if code = ascii '4' then (.ok, .baud4800)
  else if code = ascii '5' then (.ok, .baud9600)
  else if code = ascii '6' then (.ok, .baud19200)
  else (.invalidArgument, baudRate)

def baudRank (baudRate : Iec62056_21BaudRate) : Int32 := baudRate.value

def modeMarker : List UInt8 := [ascii '\\', ascii 'W']

def parseIec62056_21Identification (input : List UInt8)
    (_identification : Iec62056_21Identification) :
    TransportStatus × Iec62056_21Identification :=
  let identification := Iec62056_21Identification.new
  if input.length < 5 ∨ input[0]? ≠ some (ascii '/') then
    (.invalidArgument, identification)
  else if input.length < 2 ∨ input[input.length - 2]? ≠ some (ascii '\r') ∨
      input[input.length - 1]? ≠ some (ascii '\n') then
    (.invalidArgument, identification)
  else
    let identification := { identification with raw := input }
    match baudRateFromCode (input.getD 4 0) identification.maxBaudRate with
    | (.ok, maxBaudRate) =>
        let identification := { identification with maxBaudRate }
        match find modeMarker input with
        | none => (.ok, { identification with supportsModeE := false })
        | some marker =>
            if marker + modeMarker.length ≥ input.length then
              (.ok, { identification with supportsModeE := false })
            else
              (.ok, { identification with
                supportsModeE := input[marker + modeMarker.length]? == some (ascii '2') })
    | (baudStatus, maxBaudRate) => (baudStatus, { identification with maxBaudRate })

def selectIec62056_21ModeEBaudRate (identification : Iec62056_21Identification)
    (requestedMax _selected : Iec62056_21BaudRate) : TransportStatus × Iec62056_21BaudRate :=
  if identification.supportsModeE = false ∨ isKnownBaudRate requestedMax = false then
    (.unsupportedFeature, .baud300)
  else
    (.ok, if baudRank identification.maxBaudRate < baudRank requestedMax
      then identification.maxBaudRate
      else requestedMax)

def iec62056_21BaudRateCode (baudRate : Iec62056_21BaudRate) : UInt8 :=
  if baudRate = .baud300 then ascii '0'
  else if baudRate = .baud600 then ascii '1'
  else if baudRate = .baud1200 then ascii '2'
  else if baudRate = .baud2400 then ascii '3'
  else if baudRate = .baud4800 then ascii '4'
  else if baudRate = .baud9600 then ascii '5'
  else if baudRate = .baud19200 then ascii '6'
  else ascii '?'

def buildIec62056_21ModeEAck (baudRate : Iec62056_21BaudRate) (_output : List UInt8) :
    TransportStatus × List UInt8 :=
  if isKnownBaudRate baudRate = false then
    (.invalidArgument, [])
  else
    (.ok, [0x06, ascii '2', iec62056_21BaudRateCode baudRate, ascii '2', ascii '\r', ascii '\n'])

def iec62056_21BaudRateValue (baudRate : Iec62056_21BaudRate) : UInt32 :=
  if baudRate = .baud300 then 300
  else if baudRate = .baud600 then 600
  else if baudRate = .baud1200 then 1200
  else if baudRate = .baud2400 then 2400
  else if baudRate = .baud4800 then 4800
  else if baudRate = .baud9600 then 9600
  else if baudRate = .baud19200 then 19200
  else 0

end DlmsTransport.Transport
