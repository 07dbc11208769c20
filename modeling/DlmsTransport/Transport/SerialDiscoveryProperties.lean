import DlmsTransport.Transport.SerialDiscovery

/-! The vector that a listing leaves is the sorted selection of the directory, whatever
order it is read in. -/

set_option autoImplicit false

namespace DlmsTransport.Transport

open Interaction Text

/-- How the name of a serial device may start. -/
def portStarts : List (List UInt8) :=
  [[ 't', 't', 'y', 'S'].map ascii, [ 't', 't', 'y', 'U', 'S', 'B'].map ascii,
    [ 't', 't', 'y', 'A', 'C', 'M'].map ascii, [ 'c', 'u', '.'].map ascii]

def NamesPort (name : List UInt8) : Prop := ∃ start ∈ portStarts, start <+: name

instance (name : List UInt8) : Decidable (NamesPort name) :=
  inferInstanceAs (Decidable (∃ start ∈ portStarts, start <+: name))

theorem hasPrefix_iff {value start : List UInt8} :
    hasPrefix value start = true ↔ start <+: value := by
  rw [hasPrefix, Std.LawfulEqOrd.compare_beq_iff_eq, List.prefix_iff_eq_take, eq_comm]

theorem isPortName_iff {name : List UInt8} : isPortName name = true ↔ NamesPort name := by
  simp [isPortName, NamesPort, portStarts, hasPrefix_iff, or_assoc]

def portOf (directory name : List UInt8) : SerialPortInfo where
  device := directory ++ [ascii '/'] ++ name
  displayName := name
  hardwareId := []

def portsOf (directory : List UInt8) (entries : List (List UInt8)) : List SerialPortInfo :=
  (entries.filter fun name => NamesPort name).map (portOf directory)

theorem portsOf_cons (directory name : List UInt8) (entries : List (List UInt8)) :
    portsOf directory (name :: entries) =
      portsOf directory [name] ++ portsOf directory entries := by
  rw [portsOf, ← List.singleton_append, List.filter_append, List.map_append]
  rfl

theorem appendEntries_succ (directory : List UInt8) (budget : Nat) (ports : List SerialPortInfo) :
    appendEntries directory (budget + 1) ports = .call .readdir fun entry =>
      match entry with
      | none => .done ports
      | some name => appendEntries directory budget (ports ++ portsOf directory [name]) := by
  rw [appendEntries, Program.ask_bind]
  congr 1
  funext entry
  cases entry with
  | none => rfl
  | some name =>
      dsimp only
      split
      · next named => simp [portsOf, isPortName_iff.mp named, portOf, SerialPortInfo.new]
      · next other =>
        rw [isPortName_iff] at other
        simp [portsOf, other]

/-- The answers of `readdir` on a directory with these entries. -/
def reading (entries : List (List UInt8)) : DirectoryTrace :=
  entries.map (fun name => ⟨.readdir, some name⟩) ++ [⟨.readdir, none⟩]

/-- The calls on a directory that can be opened and has these entries. -/
def browsing (directory : List UInt8) (entries : List (List UInt8)) : DirectoryTrace :=
  ⟨.opendir directory, true⟩ :: (reading entries ++ [⟨.closedir, ()⟩])

/-- Where the listing looks. -/
def devices : List UInt8 := [ '/', 'd', 'e', 'v'].map ascii

theorem appendEntries_runs_iff {directory : List UInt8} {budget : Nat}
    {ports final : List SerialPortInfo} {trace : DirectoryTrace} :
    (appendEntries directory budget ports).Runs trace final ↔
      ∃ entries, entries.length < budget ∧ trace = reading entries ∧
        final = ports ++ portsOf directory entries := by
  induction budget generalizing ports trace with
  | zero => simp [appendEntries]
  | succ budget ih =>
      rw [appendEntries_succ, Program.runs_call_iff]
      constructor
      · intro run
        obtain ⟨entry, rest, rfl, following⟩ := run
        cases entry with
        | none =>
            obtain ⟨rfl, rfl⟩ := Program.runs_done_iff.mp following
            exact ⟨[], by simp [reading, portsOf]⟩
        | some name =>
            obtain ⟨entries, fewer, rfl, rfl⟩ := ih.mp following
            refine ⟨name :: entries, Nat.succ_lt_succ fewer, rfl, ?_⟩
            rw [portsOf_cons directory name entries, List.append_assoc]
      · intro read
        obtain ⟨entries, fewer, rfl, rfl⟩ := read
        cases entries with
        | nil => exact ⟨none, [], rfl, Program.runs_done_iff.mpr ⟨rfl, by simp [portsOf]⟩⟩
        | cons name entries =>
            refine ⟨some name, reading entries, rfl, ih.mpr ⟨entries, Nat.lt_of_succ_lt_succ fewer,
              rfl, ?_⟩⟩
            rw [portsOf_cons directory name entries, List.append_assoc]

theorem reading_injective {entries others : List (List UInt8)}
    (same : reading entries = reading others) : entries = others := by
  refine List.map_injective_iff.mpr ?_ (List.append_cancel_right same)
  intro first second equal
  simpa using equal

theorem appendUnixPortsFromDirectory_runs_iff {directory : List UInt8} {budget : Nat}
    {entries : List (List UInt8)} {ports final : List SerialPortInfo} :
    (appendUnixPortsFromDirectory directory budget ports).Runs (browsing directory entries) final ↔
      entries.length < budget ∧ final = ports ++ portsOf directory entries := by
  rw [appendUnixPortsFromDirectory, Program.ask_bind, browsing]
  constructor
  · intro run
    obtain ⟨_, _, same, following⟩ := Program.runs_call_iff.mp run
    cases same
    obtain ⟨front, back, found, parted, read, closing⟩ := Program.runs_bind_iff.mp following
    obtain ⟨_, rest, rfl, ended⟩ := Program.runs_call_iff.mp closing
    obtain ⟨rfl, rfl⟩ := Program.runs_done_iff.mp ended
    obtain ⟨others, fewer, rfl, rfl⟩ := appendEntries_runs_iff.mp read
    obtain rfl := reading_injective (List.append_inj' parted rfl).1
    exact ⟨fewer, rfl⟩
  · intro listed
    obtain ⟨fewer, rfl⟩ := listed
    refine Program.runs_call_iff.mpr ⟨true, _, rfl, Program.runs_bind_iff.mpr ?_⟩
    exact ⟨_, _, _, rfl, appendEntries_runs_iff.mpr ⟨entries, fewer, rfl, rfl⟩, .call .refl⟩

theorem listPorts_runs_iff {previous : List SerialPortInfo} {budget : Nat}
    {entries : List (List UInt8)} {outcome : TransportStatus × List SerialPortInfo} :
    (PlatformSerialPortDiscovery.listPorts previous budget).Runs (browsing devices entries)
        outcome ↔
      entries.length < budget ∧
        outcome = (.ok, sortByKey SerialPortInfo.device (portsOf devices entries)) := by
  rw [PlatformSerialPortDiscovery.listPorts, Program.runs_bind_iff]
  constructor
  · intro run
    obtain ⟨front, back, found, parted, listed, ended⟩ := run
    obtain ⟨rfl, rfl⟩ := Program.runs_done_iff.mp ended
    rw [List.append_nil] at parted
    subst parted
    obtain ⟨fewer, rfl⟩ := appendUnixPortsFromDirectory_runs_iff.mp listed
    exact ⟨fewer, rfl⟩
  · intro listed
    obtain ⟨fewer, rfl⟩ := listed
    exact ⟨_, [], _, (List.append_nil _).symm,
      appendUnixPortsFromDirectory_runs_iff.mpr ⟨fewer, rfl⟩, .refl⟩

theorem devices_distinct {entries : List (List UInt8)} (distinct : entries.Nodup)
    (directory : List UInt8) : ((portsOf directory entries).map SerialPortInfo.device).Nodup := by
  rw [portsOf, List.map_map]
  apply (distinct.filter _).map
  intro first second same
  exact List.append_cancel_left same

/-- Two directories with the same names are listed alike. -/
theorem portsOf_perm {entries permuted : List (List UInt8)} (perm : permuted.Perm entries)
    (directory : List UInt8) : (portsOf directory permuted).Perm (portsOf directory entries) :=
  (perm.filter _).map _

/-- The selection of a directory: one port for each name that may be one, in order. -/
structure Selects (entries : List (List UInt8)) (ports : List SerialPortInfo) : Prop where
  selected : (ports.map SerialPortInfo.displayName).Perm
    (entries.filter fun name => NamesPort name)
  named : ∀ port ∈ ports, port.device = devices ++ [ascii '/'] ++ port.displayName ∧
    port.hardwareId = []
  increasing : ports.Pairwise fun left right => less left.device right.device = true

theorem selects_sorted {entries : List (List UInt8)} (distinct : entries.Nodup) :
    Selects entries (sortByKey SerialPortInfo.device (portsOf devices entries)) where
  selected := by
    have names : (portsOf devices entries).map SerialPortInfo.displayName =
        entries.filter fun name => NamesPort name := by
      rw [portsOf, List.map_map]
      exact List.map_id _
    rw [← names]
    exact (sortByKey_perm _ _).map _
  named port member := by
    rw [(sortByKey_perm _ _).mem_iff, portsOf, List.mem_map] at member
    obtain ⟨name, _, rfl⟩ := member
    exact ⟨rfl, rfl⟩
  increasing := sortByKey_increasing (devices_distinct distinct devices)

/-- Whatever it is given and in whatever order it reads the directory, a listing leaves
the one selection. -/
def ListsSelection (entries : List (List UInt8)) : Prop :=
  ∃ ports, Selects entries ports ∧
    (∀ previous budget, entries.length < budget →
      (PlatformSerialPortDiscovery.listPorts previous budget).Runs (browsing devices entries)
        (.ok, ports)) ∧
    ∀ permuted, permuted.Perm entries → ∀ previous budget outcome,
      (PlatformSerialPortDiscovery.listPorts previous budget).Runs (browsing devices permuted)
        outcome → outcome = (.ok, ports)

theorem listPorts_selects {entries : List (List UInt8)} (distinct : entries.Nodup) :
    ListsSelection entries := by
  refine ⟨_, selects_sorted distinct, ?_, ?_⟩
  · intro previous budget fewer
    exact listPorts_runs_iff.mpr ⟨fewer, rfl⟩
  · intro permuted perm previous budget outcome run
    obtain ⟨_, rfl⟩ := listPorts_runs_iff.mp run
    rw [sortByKey_eq_of_perm (devices_distinct distinct devices) (portsOf_perm perm devices)]

/-- Three ports, the name of one of them a bare start, and a name too short for any. -/
def meterDirectory : List (List UInt8) :=
  [[ 't', 't', 'y', 'U', 'S', 'B', '0'].map ascii, [ 't', 't', 'y'].map ascii,
    [ 't', 't', 'y', 'S'].map ascii, [ 'n', 'u', 'l', 'l'].map ascii,
    [ 't', 't', 'y', 'S', '1'].map ascii]

theorem listPorts_selects_meter : ListsSelection meterDirectory :=
  listPorts_selects (by decide)

end DlmsTransport.Transport
