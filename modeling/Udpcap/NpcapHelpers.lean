import Mathlib.Data.List.Basic
import Mathlib.Data.UInt

/-!
# The loopback device

The part of `npcap_helpers.cpp` that finds out which device is the loopback
device.  What it learns from the registry is kept in globals.

## Main definitions

* `NpcapHelpers` — the globals.
* `Registry` — what a lookup finds.
* `getLoopbackDeviceName`, `isLoopbackDevice` — the two questions that `bind` asks.
* `NpcapGlobals`, `initializeNpcap` — the globals with the flag of `Initialize`, and
  `Initialize` itself.
-/

namespace Udpcap

abbrev DeviceName := List Char

/-- The registry key of Npcap at the time of a lookup. -/
inductive Registry
  | missing
  /-- The values of the key, `none` for one that does not exist. -/
  | parameters (loopbackSupport : Option ℕ) (loopbackAdapter : Option (List Char))
  deriving Repr

/-- The globals of `npcap_helpers.cpp`, and how often the registry was looked up. -/
structure NpcapHelpers where
  loopbackDeviceUuidString : List Char
  loopbackDeviceNameInitialized : Bool
  humanReadibleError : String
  lookups : ℕ
  deriving Repr

namespace NpcapHelpers

/-- The globals at program start. -/
def initial : NpcapHelpers := ⟨[], false, "Npcap has not been initialized, yet", 0⟩

/-- `std::string::npos` -/
def npos : ℕ := 2 ^ 64 - 1

/-- `s.find(c, pos)` -/
def find (s : List Char) (c : Char) (pos : ℕ) : ℕ :=
  match (s.drop pos).findIdx? (· == c) with
  | some i => pos + i
  | none => npos

/-- `a - b` and `a + b` on `size_t`. -/
def subSize (a b : ℕ) : ℕ := (a + 2 ^ 64 - b) % 2 ^ 64

def addSize (a b : ℕ) : ℕ := (a + b) % 2 ^ 64

/-- `s.substr(pos, count)`, for a `pos` within the string. -/
def substr (s : List Char) (pos count : ℕ) : List Char := (s.drop pos).take count

/-- The text that is taken for the UUID in the name of the loopback adapter. -/
def uuidOf (loopbackDeviceName : List Char) : List Char :=
  let openBracketPos := find loopbackDeviceName '\x7b' 0
  let closingBracketPos := find loopbackDeviceName '\x7d' openBracketPos
  substr loopbackDeviceName (addSize openBracketPos 1)
    (subSize (subSize closingBracketPos openBracketPos) 1)

/-- `LoadLoopbackDeviceNameFromRegistry` -/
def loadLoopbackDeviceNameFromRegistry (registry : ℕ → Registry) (g : NpcapHelpers) :
    NpcapHelpers × Bool :=
  let found := registry g.lookups
  let g := { g with lookups := g.lookups + 1 }
  match found with
  | .missing =>
    ({ g with humanReadibleError := "NPCAP doesn't seem to be installed. Please download and " ++
        "install Npcap from https://nmap.org/npcap/#download" }, false)
  | .parameters loopbackSupport loopbackAdapter =>
    if loopbackSupport.getD 0 = 0 then
      ({ g with humanReadibleError :=
          "NPCAP was installed without loopback support. Please re-install NPCAP" }, false)
    else ({ g with loopbackDeviceUuidString := uuidOf (loopbackAdapter.getD []) }, true)

/-- `\device\npf_loopback`, the loopback device of recent versions of Npcap. -/
def npfLoopback : DeviceName := "\\device\\npf_loopback".toList

/-- `IsLoopbackDevice` -/
def isLoopbackDevice (registry : ℕ → Registry) (g : NpcapHelpers) (deviceName : DeviceName) :
    NpcapHelpers × Bool :=
  let g := if g.loopbackDeviceNameInitialized then g else
    let (g, loaded) := loadLoopbackDeviceNameFromRegistry registry g
    { g with loopbackDeviceNameInitialized := loaded }
  let loopbackDeviceName := if g.loopbackDeviceUuidString ≠ [] then
      "\\device\\\x7b".toList ++ g.loopbackDeviceUuidString ++ "\x7d".toList
    else npfLoopback
  let lowerGivenDeviceName := deviceName.map Char.toLower
  let lowerLoopbackDeviceName := loopbackDeviceName.map Char.toLower
  (g, lowerGivenDeviceName = npfLoopback || lowerLoopbackDeviceName = lowerGivenDeviceName)

/-- `GetLoopbackDeviceName` -/
def getLoopbackDeviceName (registry : ℕ → Registry) (g : NpcapHelpers) :
    NpcapHelpers × DeviceName :=
  let g := if g.loopbackDeviceNameInitialized then g else
    let (g, _) := loadLoopbackDeviceNameFromRegistry registry g
    { g with loopbackDeviceNameInitialized := true }
  (g, if g.loopbackDeviceUuidString ≠ [] then
      "\\device\\npcap_\x7b".toList ++ g.loopbackDeviceUuidString ++ "\x7d".toList
    else npfLoopback)

/-- `GetLoopbackDeviceUuidString` -/
def getLoopbackDeviceUuidString (registry : ℕ → Registry) (g : NpcapHelpers) :
    NpcapHelpers × List Char :=
  let g := if g.loopbackDeviceNameInitialized then g else
    let (g, loaded) := loadLoopbackDeviceNameFromRegistry registry g
    { g with loopbackDeviceNameInitialized := loaded }
  (g, g.loopbackDeviceUuidString)

/-! ### Initialisation -/

/-- What `LoadNpcapDlls` comes to. -/
inductive DllResult
  | noSystemDirectory
  | noDllDirectory
  | noLibrary
  | loaded
  deriving DecidableEq, Repr

/-- `LoadNpcapDlls` -/
def loadNpcapDlls (dlls : DllResult) (g : NpcapHelpers) : NpcapHelpers × Bool :=
  match dlls with
  | .noSystemDirectory => ({ g with humanReadibleError := "Error in GetSystemDirectory" }, false)
  | .noDllDirectory => ({ g with humanReadibleError := "Error in SetDllDirectory" }, false)
  | .noLibrary => (g, false)
  | .loaded => (g, true)

/-- `TestLoopbackDevice`, with the names of the devices that Npcap enumerates or the text
of the error. -/
def testLoopbackDevice (registry : ℕ → Registry) (alldevs : Except String (List DeviceName))
    (g : NpcapHelpers) : NpcapHelpers × Bool :=
  match alldevs with
  | .error errbuf =>
    ({ g with humanReadibleError := "Error in pcap_findalldevs: " ++ errbuf }, false)
  | .ok devices =>
    let (g, loopbackDeviceFound) := devices.foldl (fun o name =>
      let (g, isLoopback) := isLoopbackDevice registry o.1 name
      (g, o.2 || isLoopback)) (g, false)
    if loopbackDeviceFound then (g, true)
    else ({ g with humanReadibleError := "Udpcap ERROR: Loopback adapter is inaccessible. " ++
      "On some systems the Npcap driver fails to start properly. Please open a command prompt " ++
      "with administrative privileges and run the following commands:\n" ++
      "    When npcap was installed in normal mode:\n" ++
      "       > sc stop npcap\n       > sc start npcap\n" ++
      "    When npcap was installed in WinPcap compatible mode:\n" ++
      "       > sc stop npf\n       > sc start npf" }, false)

end NpcapHelpers

/-- All globals of `npcap_helpers.cpp`. -/
structure NpcapGlobals where
  helpers : NpcapHelpers
  isInitialized : Bool
  deriving Repr

namespace NpcapGlobals

open NpcapHelpers

/-- The globals at program start. -/
def initial : NpcapGlobals := ⟨.initial, false⟩

/-- `Initialize` -/
def initializeNpcap (registry : ℕ → Registry) (dlls : DllResult)
    (alldevs : Except String (List DeviceName)) (g : NpcapGlobals) : NpcapGlobals × Bool :=
  if g.isInitialized then (g, true)
  else
    -- modern versions of Npcap work without the registry key
    let (h, _) := loadLoopbackDeviceNameFromRegistry registry
      { g.helpers with humanReadibleError := "Unknown error" }
    let (h, loaded) := loadNpcapDlls dlls h
    if !loaded then ({ g with helpers := h }, false)
    else
      let (h, tested) := testLoopbackDevice registry alldevs h
      if !tested then ({ g with helpers := h }, false)
      else (⟨{ h with humanReadibleError := "Npcap is ready" }, true⟩, true)

end NpcapGlobals

end Udpcap
