import Udpcap.Foundation.Transition
import Udpcap.LoopbackTest

/-!
# The status text

`GetHumanReadibleErrorText` reports a global that every lookup in the registry overwrites
when it fails, also long after `Initialize` has set it to the ready status.

## Main definitions

* `NpcapCall`, `npcapStep` — the calls, and what they do to the globals.
* `NpcapGlobals.StatusReady` — if Npcap is initialized, the status is the ready status.
* `NpcapGlobals.KeepsStatus` — a call does not look up the registry in vain.

## Main results

* `statusReady_step` — a call keeps the ready status if it does not look up the registry in
  vain.
* `not_statusReady_step` — **a vain lookup replaces it.**
* `status_ready_iff` — the status is ready in every state exactly of the runs without such
  a call.
-/

namespace Udpcap

open NpcapHelpers

/-- The status of an initialized Npcap. -/
def readyText : String := "Npcap is ready"

/-- A call of a function of `npcap_helpers.h`. -/
inductive NpcapCall
  | helper (call : HelperCall)
  | isInitialized

/-- What a call does to the globals. -/
def npcapStep (registry : ℕ → Registry) (g : NpcapGlobals) : NpcapCall → Option NpcapGlobals
  | .helper call => some (g.apply registry call)
  | .isInitialized => some g

/-- The call asks for the loopback device, and so may look up the registry. -/
def NpcapCall.asksForDevice : NpcapCall → Bool
  | .helper (.initializeNpcap _ _) => false
  | .helper .getLoopbackDeviceName => true
  | .helper .getLoopbackDeviceUuidString => true
  | .helper (.isLoopbackDevice _) => true
  | .isInitialized => false

namespace NpcapGlobals

/-- `GetHumanReadibleErrorText` -/
def getHumanReadibleErrorText (g : NpcapGlobals) : String := g.helpers.humanReadibleError

/-- If Npcap is initialized, the status is the ready status. -/
def StatusReady (g : NpcapGlobals) : Prop :=
  g.isInitialized = true → g.getHumanReadibleErrorText = readyText

/-- Once Npcap is initialized, the call does not ask for the loopback device, or its name
is known, or the lookup finds the key with loopback support. -/
def KeepsStatus (registry : ℕ → Registry) (g : NpcapGlobals) (call : NpcapCall) : Prop :=
  g.isInitialized = true → call.asksForDevice = true →
    g.helpers.loopbackDeviceNameInitialized = true ∨
      ((registry g.helpers.lookups).uuid).isSome = true

end NpcapGlobals

/-! ### One lookup -/

variable {registry : ℕ → Registry}

/-- A lookup that finds a text leaves the status alone. -/
theorem humanReadibleError_load_of_isSome {g : NpcapHelpers}
    (h : ((registry g.lookups).uuid).isSome = true) :
    (loadLoopbackDeviceNameFromRegistry registry g).1.humanReadibleError =
      g.humanReadibleError := by
  obtain ⟨uuid, huuid⟩ := Option.isSome_iff_exists.mp h
  rw [load_of_some huuid]

/-- **A lookup that finds none writes an error text.** -/
theorem humanReadibleError_load_of_none {g : NpcapHelpers}
    (h : (registry g.lookups).uuid = none) :
    (loadLoopbackDeviceNameFromRegistry registry g).1.humanReadibleError ≠ readyText := by
  obtain ⟨text, htext, hload⟩ := load_of_none h
  rw [hload]
  exact htext

/-- The status after a question for the loopback device. -/
theorem humanReadibleError_apply (registry : ℕ → Registry) {g : NpcapGlobals} {call : NpcapCall}
    (hasks : call.asksForDevice = true) :
    ∃ t, npcapStep registry g call = some t ∧ t.isInitialized = g.isInitialized ∧
      t.getHumanReadibleErrorText =
        if g.helpers.loopbackDeviceNameInitialized then g.getHumanReadibleErrorText
        else (loadLoopbackDeviceNameFromRegistry registry g.helpers).1.humanReadibleError := by
  cases call with
  | isInitialized => cases hasks
  | helper call =>
    cases call with
    | initializeNpcap dlls alldevs => cases hasks
    | getLoopbackDeviceName | getLoopbackDeviceUuidString | isLoopbackDevice deviceName =>
      refine ⟨_, rfl, rfl, ?_⟩
      cases hinit : g.helpers.loopbackDeviceNameInitialized with
      | true =>
        simp [NpcapGlobals.getHumanReadibleErrorText, NpcapGlobals.apply, getLoopbackDeviceName,
          getLoopbackDeviceUuidString, isLoopbackDevice, hinit]
      | false =>
        simp [NpcapGlobals.getHumanReadibleErrorText, NpcapGlobals.apply, getLoopbackDeviceName,
          getLoopbackDeviceUuidString, isLoopbackDevice, hinit]

/-- `Initialize` returns whether Npcap is initialized, and has set the ready status if it
was not before. -/
theorem initializeNpcap_status (g : NpcapGlobals) (dlls : DllResult)
    (alldevs : Except String (List DeviceName)) :
    (g.initializeNpcap registry dlls alldevs).2 =
        (g.initializeNpcap registry dlls alldevs).1.isInitialized ∧
      ((g.initializeNpcap registry dlls alldevs).1 = g ∨
        (g.initializeNpcap registry dlls alldevs).1.StatusReady) := by
  cases hfresh : g.isInitialized with
  | true =>
    have heq : g.initializeNpcap registry dlls alldevs = (g, true) := by
      unfold NpcapGlobals.initializeNpcap
      rw [hfresh]
      rfl
    rw [heq, hfresh]
    exact ⟨rfl, Or.inl rfl⟩
  | false =>
    obtain ⟨helpers, initialized⟩ := g
    cases hfresh
    cases dlls with
    | noSystemDirectory | noDllDirectory | noLibrary =>
      exact ⟨rfl, Or.inr fun h => absurd h Bool.false_ne_true⟩
    | loaded =>
      obtain ⟨k, -, heq⟩ := NpcapGlobals.initializeNpcap_loaded registry
        (g := ⟨helpers, false⟩) rfl alldevs
      rw [heq]
      cases (testLoopbackDevice registry alldevs k).2 with
      | true => exact ⟨rfl, Or.inr fun _ => rfl⟩
      | false => exact ⟨rfl, Or.inr fun h => absurd h Bool.false_ne_true⟩

/-! ### Calls and runs -/

/-- **A call keeps the ready status if it does not look up the registry in vain.** -/
theorem statusReady_step {g t : NpcapGlobals} {call : NpcapCall} (hg : g.StatusReady)
    (hkeeps : g.KeepsStatus registry call) (hstep : npcapStep registry g call = some t) :
    t.StatusReady := by
  cases hasks : call.asksForDevice with
  | true =>
    obtain ⟨t', ht', hinitialized, herror⟩ := humanReadibleError_apply registry (g := g) hasks
    rw [hstep] at ht'
    cases ht'
    intro hready
    rw [hinitialized] at hready
    rw [herror]
    by_cases hinit : g.helpers.loopbackDeviceNameInitialized = true
    · rw [if_pos hinit]
      exact hg hready
    · rw [if_neg hinit]
      rcases hkeeps hready hasks with hinit' | hfound
      · exact absurd hinit' hinit
      · rw [humanReadibleError_load_of_isSome hfound]
        exact hg hready
  | false =>
    cases call with
    | isInitialized =>
      cases hstep
      exact hg
    | helper call =>
      cases call with
      | initializeNpcap dlls alldevs =>
        cases hstep
        rcases (initializeNpcap_status g dlls alldevs).2 with hsame | hready
        · show (g.initializeNpcap registry dlls alldevs).1.StatusReady
          rw [hsame]
          exact hg
        · exact hready
      | getLoopbackDeviceName | getLoopbackDeviceUuidString | isLoopbackDevice => cases hasks

/-- **A vain lookup replaces the ready status.** -/
theorem not_statusReady_step {g : NpcapGlobals} {call : NpcapCall}
    (hkeeps : ¬g.KeepsStatus registry call) :
    ∃ t, npcapStep registry g call = some t ∧ ¬t.StatusReady := by
  unfold NpcapGlobals.KeepsStatus at hkeeps
  push Not at hkeeps
  obtain ⟨hready, hasks, hinit, hnone⟩ := hkeeps
  obtain ⟨t, ht, hinitialized, herror⟩ := humanReadibleError_apply registry (g := g) hasks
  refine ⟨t, ht, ?_⟩
  intro hstatus
  rw [if_neg hinit] at herror
  have hvain : (registry g.helpers.lookups).uuid = none := by simpa using hnone
  apply humanReadibleError_load_of_none hvain
  rw [← herror]
  exact hstatus (hinitialized.trans hready)

/-- **In every state in which Npcap is initialized the status is the ready status, exactly
if no call looks up the registry in vain from then on**, for every registry outcome at
every lookup and every sequence of calls. -/
theorem status_ready_iff (registry : ℕ → Registry) (calls : List NpcapCall) :
    Foundation.HoldsAlong (npcapStep registry) NpcapGlobals.StatusReady .initial calls ↔
      Foundation.StepsMeet (npcapStep registry) (NpcapGlobals.KeepsStatus registry) .initial
        calls := by
  constructor
  · intro h
    exact h.stepsMeet fun g call _ hkeeps => not_statusReady_step hkeeps
  · intro h
    have hinitial : NpcapGlobals.initial.StatusReady := fun h => absurd h Bool.false_ne_true
    exact Foundation.holdsAlong_of_stepsMeet (fun _ hg => hg)
      (fun _ _ _ hg hkeeps hstep => statusReady_step hg hkeeps hstep) hinitial h

/-- Without the key in the registry, `Initialize` succeeds, and the next question for the
loopback device replaces the status. -/
theorem status_overwritten :
    let step := npcapStep fun _ => .missing
    let calls : List NpcapCall :=
      [.helper (.initializeNpcap .loaded (.ok ["\\Device\\NPF_Loopback".toList])),
        .helper .getLoopbackDeviceUuidString]
    (Foundation.run step .initial calls).map (fun g =>
        (g.isInitialized, g.getHumanReadibleErrorText)) =
      some (true, "NPCAP doesn't seem to be installed. Please download and " ++
        "install Npcap from https://nmap.org/npcap/#download") ∧
    ¬Foundation.HoldsAlong step NpcapGlobals.StatusReady .initial calls := by
  intro step calls
  refine ⟨by decide +kernel, ?_⟩
  refine Foundation.not_holdsAlong (fun g => g.isInitialized &&
    decide (g.getHumanReadibleErrorText ≠ readyText)) ?_ (by decide +kernel)
  intro g hg hstatus
  obtain ⟨hready, herror⟩ := (Bool.and_eq_true _ _).mp hg
  exact of_decide_eq_true herror (hstatus hready)

end Udpcap
