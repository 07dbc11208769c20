import DlmsTransport.Interaction.Program
import DlmsTransport.Text.Search
import DlmsTransport.Text.Sorting
import DlmsTransport.Transport.Basic

/-! The POSIX half of `serial_port_discovery.cpp`. -/

set_option autoImplicit false

namespace DlmsTransport.Transport

open Interaction Text

/-- The calls on a directory stream. `readdir` answers with the name of the next entry,
or `none` at the end, and `opendir` with `false` when it fails. -/
inductive DirectoryCall where
  | opendir (directory : List UInt8)
  | readdir
  | closedir
  deriving DecidableEq, Repr

@[reducible] def DirectoryCall.Answer : DirectoryCall → Type
  | .opendir _ => Bool
  | .readdir => Option (List UInt8)
  | .closedir => Unit

abbrev DirectoryProgram := Program DirectoryCall DirectoryCall.Answer

abbrev browse (request : DirectoryCall) : DirectoryProgram request.Answer := Program.ask request

abbrev DirectoryTrace := Trace DirectoryCall DirectoryCall.Answer

structure SerialPortInfo where
  device : List UInt8
  displayName : List UInt8
  hardwareId : List UInt8
  deriving DecidableEq, Repr

def SerialPortInfo.new (deviceValue : List UInt8) : SerialPortInfo where
  device := deviceValue
  displayName := []
  hardwareId := []

/-- `value.compare(0, length of start, start) == 0`, where a shorter value is compared
as far as it goes. -/
def hasPrefix (value start : List UInt8) : Bool :=
  compare (value.take start.length) start == .eq

def isPortName (name : List UInt8) : Bool :=
  hasPrefix name ([ 't', 't', 'y', 'S'].map ascii) ||
    hasPrefix name ([ 't', 't', 'y', 'U', 'S', 'B'].map ascii) ||
    hasPrefix name ([ 't', 't', 'y', 'A', 'C', 'M'].map ascii) ||
    hasPrefix name ([ 'c', 'u', '.'].map ascii)

/-- The loop over `readdir`. `budget` bounds the entries that are unfolded. -/
def appendEntries (directory : List UInt8) :
    Nat → List SerialPortInfo → DirectoryProgram (List SerialPortInfo)
  | 0, _ => .pending
  | budget + 1, ports => do
      let entry ← browse .readdir
      match entry with
      | none => pure ports
      | some name =>
          if isPortName name then
            let info := SerialPortInfo.new (directory ++ [ascii '/'] ++ name)
            appendEntries directory budget (ports ++ [{ info with displayName := name }])
          else
            appendEntries directory budget ports

def appendUnixPortsFromDirectory (directory : List UInt8) (budget : Nat)
    (ports : List SerialPortInfo) : DirectoryProgram (List SerialPortInfo) := do
  let dir ← browse (.opendir directory)
  if dir = false then
    pure ports
  else
    let ports ← appendEntries directory budget ports
    let _ ← browse .closedir
    pure ports

def PlatformSerialPortDiscovery.listPorts (_ports : List SerialPortInfo) (budget : Nat) :
    DirectoryProgram (TransportStatus × List SerialPortInfo) := do
  let ports ← appendUnixPortsFromDirectory ([ '/', 'd', 'e', 'v'].map ascii) budget []
  pure (.ok, sortByKey SerialPortInfo.device ports)

end DlmsTransport.Transport
