import Udpcap.Foundation.CriticalSection
import Udpcap.StatusText

/-!
# Threads that call the helpers

The functions of `npcap_helpers.h` as they access the globals one after another, called by
any number of threads.  Each of them locks `npcap_mutex` first, so together they behave as
if every call took effect at once.

## Main definitions

* `loadProg`, `isLoopbackDeviceProg`, `initializeProg` and so on — the functions, access by
  access.
* `HelperFunction`, `HelperFunction.apply` — the functions, each as a whole.

## Main results

* `exec_body` — **access by access, a function does what it does as a whole.**
* `helpers_linearizable` — the same for any interleaving of any number of threads.
-/

namespace Udpcap

open Foundation NpcapHelpers

/-! ### Access by access -/

/-- A lookup in the registry. -/
def lookupProg (registry : ℕ → Registry) : Prog NpcapGlobals Registry :=
  .access (fun g => { g with helpers.lookups := g.helpers.lookups + 1 })
    fun g => .done (registry g.helpers.lookups)

/-- `human_readible_error_ = text` -/
def setErrorProg (text : String) : Prog NpcapGlobals Unit :=
  .write fun g => { g with helpers.humanReadibleError := text }

/-- `LoadLoopbackDeviceNameFromRegistry` -/
def loadProg (registry : ℕ → Registry) : Prog NpcapGlobals Bool :=
  (lookupProg registry).bind fun found =>
    match found with
    | .missing =>
      (setErrorProg ("NPCAP doesn't seem to be installed. Please download and " ++
        "install Npcap from https://nmap.org/npcap/#download")).bind fun _ => .done false
    | .parameters loopbackSupport loopbackAdapter =>
      if loopbackSupport.getD 0 = 0 then
        (setErrorProg "NPCAP was installed without loopback support. Please re-install NPCAP").bind
          fun _ => .done false
      else
        (Prog.write fun g : NpcapGlobals =>
          { g with helpers.loopbackDeviceUuidString := uuidOf (loopbackAdapter.getD []) }).bind
            fun _ => .done true

/-- `if (!loopback_device_name_initialized)` and the lookup behind it; `initialized` is what
the flag is set to, given whether the lookup was successful. -/
def ensureLoadedProg (registry : ℕ → Registry) (initialized : Bool → Bool) :
    Prog NpcapGlobals Unit :=
  (Prog.read fun g : NpcapGlobals => g.helpers.loopbackDeviceNameInitialized).bind fun known =>
    if known then .done ()
    else (loadProg registry).bind fun loaded =>
      .write fun g => { g with helpers.loopbackDeviceNameInitialized := initialized loaded }

/-- `loopback_device_uuid_string.empty()`, and the string between `before` and `after` if it
is not. -/
def deviceNameProg (before after : List Char) : Prog NpcapGlobals DeviceName :=
  (Prog.read fun g : NpcapGlobals => decide (g.helpers.loopbackDeviceUuidString ≠ [])).bind
    fun known =>
      if known then
        (Prog.read fun g : NpcapGlobals => g.helpers.loopbackDeviceUuidString).bind fun uuid =>
          .done (before ++ uuid ++ after)
      else .done npfLoopback

/-- `IsLoopbackDevice_NoLock` -/
def isLoopbackDeviceProg (registry : ℕ → Registry) (deviceName : DeviceName) :
    Prog NpcapGlobals Bool :=
  (ensureLoadedProg registry id).bind fun _ =>
    (deviceNameProg "\\device\\\x7b".toList "\x7d".toList).bind fun loopbackDeviceName =>
      let lowerGivenDeviceName := deviceName.map Char.toLower
      let lowerLoopbackDeviceName := loopbackDeviceName.map Char.toLower
      .done (lowerGivenDeviceName = npfLoopback || lowerLoopbackDeviceName = lowerGivenDeviceName)

/-- `GetLoopbackDeviceName` -/
def getLoopbackDeviceNameProg (registry : ℕ → Registry) : Prog NpcapGlobals DeviceName :=
  (ensureLoadedProg registry fun _ => true).bind fun _ =>
    deviceNameProg "\\device\\npcap_\x7b".toList "\x7d".toList

/-- `GetLoopbackDeviceUuidString` -/
def getLoopbackDeviceUuidStringProg (registry : ℕ → Registry) : Prog NpcapGlobals (List Char) :=
  (ensureLoadedProg registry id).bind fun _ =>
    .read fun g => g.helpers.loopbackDeviceUuidString

/-- `LoadNpcapDlls` -/
def loadNpcapDllsProg (dlls : DllResult) : Prog NpcapGlobals Bool :=
  match dlls with
  | .noSystemDirectory => (setErrorProg "Error in GetSystemDirectory").bind fun _ => .done false
  | .noDllDirectory => (setErrorProg "Error in SetDllDirectory").bind fun _ => .done false
  | .noLibrary => .done false
  | .loaded => .done true

/-- The loop of `TestLoopbackDevice`. -/
def testLoopProg (registry : ℕ → Registry) : List DeviceName → Bool → Prog NpcapGlobals Bool
  | [], found => .done found
  | name :: devices, found => (isLoopbackDeviceProg registry name).bind fun isLoopback =>
    testLoopProg registry devices (found || isLoopback)

/-- `TestLoopbackDevice` -/
def testLoopbackDeviceProg (registry : ℕ → Registry)
    (alldevs : Except String (List DeviceName)) : Prog NpcapGlobals Bool :=
  match alldevs with
  | .error errbuf =>
    (setErrorProg ("Error in pcap_findalldevs: " ++ errbuf)).bind fun _ => .done false
  | .ok devices => (testLoopProg registry devices false).bind fun loopbackDeviceFound =>
    if loopbackDeviceFound then .done true
    else (setErrorProg ("Udpcap ERROR: Loopback adapter is inaccessible. " ++
      "On some systems the Npcap driver fails to start properly. Please open a command prompt " ++
      "with administrative privileges and run the following commands:\n" ++
      "    When npcap was installed in normal mode:\n" ++
      "       > sc stop npcap\n       > sc start npcap\n" ++
      "    When npcap was installed in WinPcap compatible mode:\n" ++
      "       > sc stop npf\n       > sc start npf")).bind fun _ => .done false

/-- `Initialize` -/
def initializeProg (registry : ℕ → Registry) (dlls : DllResult)
    (alldevs : Except String (List DeviceName)) : Prog NpcapGlobals Bool :=
  (Prog.read NpcapGlobals.isInitialized).bind fun initialized =>
    if initialized then .done true
    else
      (setErrorProg "Unknown error").bind fun _ =>
      (loadProg registry).bind fun _ =>
      (loadNpcapDllsProg dlls).bind fun loaded =>
      if !loaded then .done false
      else (testLoopbackDeviceProg registry alldevs).bind fun tested =>
        if !tested then .done false
        else (setErrorProg "Npcap is ready").bind fun _ =>
          (Prog.write fun g : NpcapGlobals => { g with isInitialized := true }).bind fun _ =>
            .done true

/-! ### Each function as a whole -/

section Exec

variable (registry : ℕ → Registry) (g : NpcapGlobals)

@[simp] theorem exec_loadProg : (loadProg registry).exec g =
    ({ g with helpers := (loadLoopbackDeviceNameFromRegistry registry g.helpers).1 },
      (loadLoopbackDeviceNameFromRegistry registry g.helpers).2) := by
  unfold loadProg lookupProg loadLoopbackDeviceNameFromRegistry
  simp only [Prog.exec_bind, Prog.exec_access, Prog.exec_done]
  cases registry g.helpers.lookups with
  | missing => simp [setErrorProg]
  | parameters loopbackSupport loopbackAdapter =>
    by_cases hzero : loopbackSupport.getD 0 = 0
    · simp [setErrorProg, hzero]
    · simp [hzero]

/-- The globals after `if (!loopback_device_name_initialized)`. -/
theorem exec_ensureLoadedProg (initialized : Bool → Bool) :
    (ensureLoadedProg registry initialized).exec g =
      ({ g with helpers := if g.helpers.loopbackDeviceNameInitialized then g.helpers else
          { (loadLoopbackDeviceNameFromRegistry registry g.helpers).1 with
            loopbackDeviceNameInitialized :=
              initialized (loadLoopbackDeviceNameFromRegistry registry g.helpers).2 } }, ()) := by
  unfold ensureLoadedProg
  cases hknown : g.helpers.loopbackDeviceNameInitialized with
  | true => simp [hknown]
  | false => simp [hknown]

theorem exec_deviceNameProg (before after : List Char) : (deviceNameProg before after).exec g =
    (g, if g.helpers.loopbackDeviceUuidString ≠ [] then
      before ++ g.helpers.loopbackDeviceUuidString ++ after else npfLoopback) := by
  unfold deviceNameProg
  by_cases hnil : g.helpers.loopbackDeviceUuidString = []
  · simp [hnil]
  · simp [hnil]

@[simp] theorem exec_isLoopbackDeviceProg (deviceName : DeviceName) :
    (isLoopbackDeviceProg registry deviceName).exec g =
      ({ g with helpers := (isLoopbackDevice registry g.helpers deviceName).1 },
        (isLoopbackDevice registry g.helpers deviceName).2) := by
  unfold isLoopbackDeviceProg
  simp only [Prog.exec_bind, exec_ensureLoadedProg, exec_deviceNameProg, Prog.exec_done]
  rfl

@[simp] theorem exec_getLoopbackDeviceNameProg : (getLoopbackDeviceNameProg registry).exec g =
    ({ g with helpers := (getLoopbackDeviceName registry g.helpers).1 },
      (getLoopbackDeviceName registry g.helpers).2) := by
  unfold getLoopbackDeviceNameProg
  simp only [Prog.exec_bind, exec_ensureLoadedProg, exec_deviceNameProg]
  rfl

@[simp] theorem exec_getLoopbackDeviceUuidStringProg :
    (getLoopbackDeviceUuidStringProg registry).exec g =
      ({ g with helpers := (getLoopbackDeviceUuidString registry g.helpers).1 },
        (getLoopbackDeviceUuidString registry g.helpers).2) := by
  unfold getLoopbackDeviceUuidStringProg
  simp only [Prog.exec_bind, exec_ensureLoadedProg, Prog.exec_read]
  rfl

@[simp] theorem exec_loadNpcapDllsProg (dlls : DllResult) : (loadNpcapDllsProg dlls).exec g =
    ({ g with helpers := (loadNpcapDlls dlls g.helpers).1 },
      (loadNpcapDlls dlls g.helpers).2) := by
  cases dlls <;> simp [loadNpcapDllsProg, loadNpcapDlls, setErrorProg]

/-- The loop goes through the devices one after another. -/
theorem exec_testLoopProg (devices : List DeviceName) (found : Bool) :
    (testLoopProg registry devices found).exec g =
      ({ g with helpers := (testLoop registry devices (g.helpers, found)).1 },
        (testLoop registry devices (g.helpers, found)).2) := by
  induction devices generalizing g found with
  | nil => rfl
  | cons name devices ih =>
    unfold testLoopProg
    rw [Prog.exec_bind, exec_isLoopbackDeviceProg, ih]
    rfl

@[simp] theorem exec_testLoopbackDeviceProg (alldevs : Except String (List DeviceName)) :
    (testLoopbackDeviceProg registry alldevs).exec g =
      ({ g with helpers := (testLoopbackDevice registry alldevs g.helpers).1 },
        (testLoopbackDevice registry alldevs g.helpers).2) := by
  cases alldevs with
  | error errbuf => simp [testLoopbackDeviceProg, testLoopbackDevice, setErrorProg]
  | ok devices =>
    have hloop : devices.foldl (fun o name => ((isLoopbackDevice registry o.1 name).1,
          o.2 || (isLoopbackDevice registry o.1 name).2)) (g.helpers, false) =
        testLoop registry devices (g.helpers, false) := rfl
    unfold testLoopbackDeviceProg testLoopbackDevice
    simp only [Prog.exec_bind, exec_testLoopProg]
    rw [hloop]
    cases (testLoop registry devices (g.helpers, false)).2 with
    | true => rfl
    | false => rfl

@[simp] theorem exec_initializeProg (dlls : DllResult)
    (alldevs : Except String (List DeviceName)) :
    (initializeProg registry dlls alldevs).exec g = g.initializeNpcap registry dlls alldevs := by
  unfold initializeProg NpcapGlobals.initializeNpcap
  cases hinit : g.isInitialized with
  | true => simp [hinit]
  | false =>
    simp only [Prog.exec_bind, Prog.exec_read, hinit, setErrorProg, Prog.exec_write,
      exec_loadProg, exec_loadNpcapDllsProg, Bool.false_eq_true, if_false]
    cases hloaded : (loadNpcapDlls dlls (loadLoopbackDeviceNameFromRegistry registry
        { g.helpers with humanReadibleError := "Unknown error" }).1).2 with
    | false => rfl
    | true =>
      simp only [Bool.not_true, Bool.false_eq_true, if_false, Prog.exec_bind,
        exec_testLoopbackDeviceProg]
      split
      next => rfl
      next => rfl

end Exec

/-! ### Threads -/

/-- A function of `npcap_helpers.h`, with its argument and what it finds. -/
inductive HelperFunction
  | call (call : NpcapCall)
  | getHumanReadibleErrorText

/-- What a function returns. -/
inductive HelperResult
  | flag (result : Bool)
  | name (result : List Char)
  | text (result : String)
  deriving DecidableEq, Repr

namespace HelperFunction

/-- The function, access by access. -/
def body (registry : ℕ → Registry) : HelperFunction → Prog NpcapGlobals HelperResult
  | .call (.helper (.initializeNpcap dlls alldevs)) =>
    (initializeProg registry dlls alldevs).bind fun result => .done (.flag result)
  | .call (.helper .getLoopbackDeviceName) =>
    (getLoopbackDeviceNameProg registry).bind fun result => .done (.name result)
  | .call (.helper .getLoopbackDeviceUuidString) =>
    (getLoopbackDeviceUuidStringProg registry).bind fun result => .done (.name result)
  | .call (.helper (.isLoopbackDevice deviceName)) =>
    (isLoopbackDeviceProg registry deviceName).bind fun result => .done (.flag result)
  | .call .isInitialized => .read fun g => .flag g.isInitialized
  | .getHumanReadibleErrorText => .read fun g => .text g.getHumanReadibleErrorText

/-- The function as a whole. -/
def apply (registry : ℕ → Registry) (f : HelperFunction) (g : NpcapGlobals) :
    NpcapGlobals × HelperResult :=
  match f with
  | .call (.helper c) => (g.apply registry c,
      match c with
      | .initializeNpcap dlls alldevs => .flag (g.initializeNpcap registry dlls alldevs).2
      | .getLoopbackDeviceName => .name (getLoopbackDeviceName registry g.helpers).2
      | .getLoopbackDeviceUuidString => .name (getLoopbackDeviceUuidString registry g.helpers).2
      | .isLoopbackDevice deviceName => .flag (isLoopbackDevice registry g.helpers deviceName).2)
  | .call .isInitialized => (g, .flag g.isInitialized)
  | .getHumanReadibleErrorText => (g, .text g.getHumanReadibleErrorText)

/-- **Access by access, a function does what it does as a whole.** -/
theorem exec_body (registry : ℕ → Registry) (f : HelperFunction) (g : NpcapGlobals) :
    (f.body registry).exec g = f.apply registry g := by
  cases f with
  | getHumanReadibleErrorText => rfl
  | call call =>
    cases call with
    | isInitialized => rfl
    | helper call =>
      cases call <;> simp [body, apply, NpcapGlobals.apply]

end HelperFunction

/-- **Any number of threads see the functions take effect one after another**, each of them
at once and before it returns, however their accesses to the globals interleave; and
whenever no thread is inside, the cache holds the text of the latest lookup that found
one. -/
theorem helpers_linearizable {θ : Type} [DecidableEq θ] (registry : ℕ → Registry)
    (labels : List (GuardedLabel θ HelperFunction))
    (g : Guarded θ HelperFunction NpcapGlobals HelperResult)
    (events : List (CallEvent θ HelperFunction HelperResult))
    (h : observe (guardedStep (HelperFunction.body registry)) (Guarded.start .initial) labels =
      some (g, events)) :
    ∃ a, Allows (atomicStep (HelperFunction.apply registry)) (Atomic.start .initial) events a ∧
      (g.mutex.owner = none → g.shared = a.state ∧ g.shared.helpers.Tracks registry) := by
  obtain ⟨a, hallows, hfree⟩ := guarded_atomic (HelperFunction.body registry) .initial h
  have happly : (fun c s => ((HelperFunction.body registry) c).exec s) =
      HelperFunction.apply registry :=
    funext fun c => funext fun s => HelperFunction.exec_body registry c s
  rw [happly] at hallows
  have htracks : ∀ c s, s.helpers.Tracks registry →
      (HelperFunction.apply registry c s).1.helpers.Tracks registry := by
    intro c s hs
    cases c with
    | getHumanReadibleErrorText => exact hs
    | call call =>
      cases call with
      | isInitialized => exact hs
      | helper call => exact NpcapGlobals.tracks_apply hs call
  refine ⟨a, hallows, fun howner => ⟨hfree howner, ?_⟩⟩
  rw [hfree howner]
  exact atomic_invariant (I := fun s => s.helpers.Tracks registry) htracks hallows rfl

/-- One thread initializes Npcap; another one asks for the UUID meanwhile, and waits. -/
theorem helpers_linearizable_two_threads :
    let registry : ℕ → Registry := fun _ => .missing
    let setUp : HelperFunction :=
      .call (.helper (.initializeNpcap .loaded (.ok ["\\Device\\NPF_Loopback".toList])))
    let uuid : HelperFunction := .call (.helper .getLoopbackDeviceUuidString)
    let labels : List (GuardedLabel Bool HelperFunction) :=
      [.call true setUp, .lock true, .access true, .call false uuid] ++
        List.replicate 10 (.access true) ++ [.unlock true, .lock false] ++
        List.replicate 5 (.access false) ++ [.unlock false]
    let events : List (CallEvent Bool HelperFunction HelperResult) :=
      [.call true setUp, .call false uuid, .ret true (.flag true), .ret false (.name [])]
    ∃ g a, observe (guardedStep (HelperFunction.body registry)) (Guarded.start .initial) labels =
        some (g, events) ∧
      Allows (atomicStep (HelperFunction.apply registry)) (Atomic.start .initial) events a := by
  intro registry setUp uuid labels events
  obtain ⟨g, hg⟩ : ∃ g, observe (guardedStep (HelperFunction.body registry))
      (Guarded.start .initial) labels = some (g, events) := ⟨_, by with_unfolding_all rfl⟩
  obtain ⟨a, hallows, -⟩ := helpers_linearizable registry labels g events hg
  exact ⟨g, a, hg, hallows⟩

end Udpcap
