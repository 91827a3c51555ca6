import Udpcap.LoopbackDevice

/-!
# The test for the loopback device

`Initialize` tests whether one of the enumerated devices is a loopback device, and `bind`
opens the device that `GetLoopbackDeviceName` names.  Both go by what is cached of the
registry, but the test looks for `\device\npf_loopback` and `\device\{UUID}`, and the name
is `\device\npcap_{UUID}`.

## Main definitions

* `NpcapHelpers.refresh`, `NpcapHelpers.settled` — the cache after one question, and what
  it holds after several.
* `accepts`, `loopbackName` — the test and the name, from the cached text.
* `Enumerated` — a device is among the enumerated ones.
* `NamedDevicePresent` — when the name is that of an enumerated device.

## Main results

* `found_spec` — what the test has found if it succeeds.
* `nameText_of_steady` — a registry that does not change tells one text.
* `named_device_enumerated_iff` — **after a successful `Initialize` the named device is
  enumerated exactly if the registry has told no UUID, or the device `\device\npcap_{UUID}`
  is enumerated.**
-/

namespace Udpcap

/-! ### The cache -/

/-- The text of the first of `n` lookups from the `k`-th on that finds one, `uuid` if none
does. -/
def firstUuid (registry : ℕ → Registry) (uuid : List Char) : ℕ → ℕ → List Char
  | _, 0 => uuid
  | k, n + 1 => ((registry k).uuid).getD (firstUuid registry uuid (k + 1) n)

/-- The device is one of the enumerated ones, up to letter case. -/
def Enumerated (devices : List DeviceName) (name : DeviceName) : Prop :=
  ∃ device ∈ devices, device.map Char.toLower = name.map Char.toLower

instance (devices : List DeviceName) (name : DeviceName) : Decidable (Enumerated devices name) :=
  inferInstanceAs (Decidable (∃ device ∈ devices, _ = _))

namespace NpcapHelpers

/-- The name that is built from a text. -/
def loopbackName (uuid : List Char) : DeviceName :=
  if uuid ≠ [] then "\\device\\npcap_\x7b".toList ++ uuid ++ "\x7d".toList else npfLoopback

/-- The test of a device name that is built from a text. -/
def accepts (uuid : List Char) (deviceName : DeviceName) : Bool :=
  decide (deviceName.map Char.toLower = npfLoopback) ||
    decide ((if uuid ≠ [] then "\\device\\\x7b".toList ++ uuid ++ "\x7d".toList
      else npfLoopback).map Char.toLower = deviceName.map Char.toLower)

/-- The globals after a question whether a device is the loopback device. -/
def refresh (registry : ℕ → Registry) (g : NpcapHelpers) : NpcapHelpers :=
  if g.loopbackDeviceNameInitialized then g else
    { (loadLoopbackDeviceNameFromRegistry registry g).1 with
      loopbackDeviceNameInitialized := (loadLoopbackDeviceNameFromRegistry registry g).2 }

/-- The text that is cached when the registry has been asked `n` times more, or until a
lookup succeeds. -/
def settled (registry : ℕ → Registry) (g : NpcapHelpers) (n : ℕ) : List Char :=
  if g.loopbackDeviceNameInitialized then g.loopbackDeviceUuidString
  else firstUuid registry g.loopbackDeviceUuidString g.lookups n

variable (registry : ℕ → Registry) (g : NpcapHelpers)

theorem getLoopbackDeviceName_snd :
    (getLoopbackDeviceName registry g).2 = loopbackName (g.settled registry 1) := by
  unfold getLoopbackDeviceName loopbackName settled firstUuid
  simp only
  by_cases hinit : g.loopbackDeviceNameInitialized = true
  · simp only [hinit, if_true]
  · simp only [hinit, Bool.false_eq_true, if_false, uuid_load]
    rfl

theorem settled_of_initialized (hinit : g.loopbackDeviceNameInitialized = true) (n : ℕ) :
    g.settled registry n = g.loopbackDeviceUuidString := if_pos hinit

/-- **A question uses up one lookup.** -/
theorem settled_refresh (n : ℕ) : (g.refresh registry).settled registry n =
    g.settled registry (n + 1) := by
  unfold refresh
  by_cases hinit : g.loopbackDeviceNameInitialized = true
  · rw [if_pos hinit, settled_of_initialized registry g hinit,
      settled_of_initialized registry g hinit]
  · rw [if_neg hinit]
    unfold settled
    simp only
    rw [loaded_load, uuid_load, lookups_load, if_neg hinit, firstUuid]
    cases (registry g.lookups).uuid with
    | none => rfl
    | some uuid => rfl

/-- A question leaves the text as it is, or settles it. -/
theorem refresh_cases : (g.refresh registry).loopbackDeviceNameInitialized = true ∨
    ((g.refresh registry).loopbackDeviceNameInitialized = false ∧
      (g.refresh registry).loopbackDeviceUuidString = g.loopbackDeviceUuidString) := by
  unfold refresh
  by_cases hinit : g.loopbackDeviceNameInitialized = true
  · rw [if_pos hinit]
    exact Or.inl hinit
  · rw [if_neg hinit]
    simp only
    rw [loaded_load, uuid_load]
    cases (registry g.lookups).uuid with
    | none => exact Or.inr ⟨rfl, rfl⟩
    | some uuid => exact Or.inl rfl

/-! ### The test -/

/-- The loop of `TestLoopbackDevice`. -/
def testLoop (devices : List DeviceName) (o : NpcapHelpers × Bool) : NpcapHelpers × Bool :=
  devices.foldl (fun o name => (o.1.refresh registry,
    o.2 || accepts (o.1.refresh registry).loopbackDeviceUuidString name)) o

/-- After the loop, the text is settled by the remaining lookups. -/
theorem settled_testLoop (devices : List DeviceName) (found : Bool) (n : ℕ) :
    (testLoop registry devices (g, found)).1.settled registry n =
      g.settled registry (devices.length + n) := by
  induction devices generalizing g found with
  | nil => rw [List.length_nil, Nat.zero_add]; rfl
  | cons name devices ih =>
    have hrest := ih (g.refresh registry)
      (found || accepts (g.refresh registry).loopbackDeviceUuidString name)
    have hlength : devices.length + n + 1 = (name :: devices).length + n := by
      rw [List.length_cons]
      omega
    rw [← hlength, ← settled_refresh]
    exact hrest

/-- **What the test has found**: a device that it accepts for the text that was cached
before, or for the text that is settled in the end. -/
theorem found_spec (n : ℕ) (devices : List DeviceName) (found : Bool)
    (h : (testLoop registry devices (g, found)).2 = true) :
    found = true ∨ ∃ name ∈ devices, accepts g.loopbackDeviceUuidString name = true ∨
      accepts (g.settled registry (devices.length + n)) name = true := by
  induction devices generalizing g found with
  | nil => exact Or.inl h
  | cons name devices ih =>
    have hlength : (name :: devices).length + n = devices.length + n + 1 := by
      rw [List.length_cons]
      omega
    rw [hlength, ← settled_refresh]
    -- the text of the first question is the old one or the settled one
    have hfirst : ∀ name', accepts (g.refresh registry).loopbackDeviceUuidString name' = true →
        accepts g.loopbackDeviceUuidString name' = true ∨
          accepts ((g.refresh registry).settled registry (devices.length + n)) name' = true := by
      intro name' haccepts
      rcases refresh_cases registry g with hinit | ⟨-, huuid⟩
      · rw [settled_of_initialized registry _ hinit]
        exact Or.inr haccepts
      · rw [huuid] at haccepts
        exact Or.inl haccepts
    rcases ih (g.refresh registry) _ h with hfound | ⟨name', hmem, haccepts⟩
    · rcases (Bool.or_eq_true _ _).mp hfound with hfound | haccepts
      · exact Or.inl hfound
      · exact Or.inr ⟨name, List.mem_cons_self, hfirst name haccepts⟩
    · right
      refine ⟨name', List.mem_cons_of_mem name hmem, ?_⟩
      rcases haccepts with haccepts | haccepts
      · exact hfirst name' haccepts
      · exact Or.inr haccepts

theorem accepts_nil {name : DeviceName} (h : accepts [] name = true) :
    name.map Char.toLower = npfLoopback.map Char.toLower := by
  have hlower : npfLoopback.map Char.toLower = npfLoopback := by decide
  unfold accepts at h
  rw [if_neg (fun h => h rfl), hlower, Bool.or_eq_true] at h
  rw [hlower]
  rcases h with h | h
  · exact of_decide_eq_true h
  · exact (of_decide_eq_true h).symm

theorem testLoopbackDevice_spec {alldevs : Except String (List DeviceName)}
    (h : (testLoopbackDevice registry alldevs g).2 = true) :
    ∃ devices, alldevs = .ok devices ∧ (testLoop registry devices (g, false)).2 = true ∧
      (testLoopbackDevice registry alldevs g).1 = (testLoop registry devices (g, false)).1 := by
  cases alldevs with
  | error errbuf => cases h
  | ok devices =>
    refine ⟨devices, rfl, ?_⟩
    unfold testLoopbackDevice at h ⊢
    simp only at h ⊢
    split at h
    next hfound =>
      rw [if_pos hfound]
      exact ⟨hfound, rfl⟩
    next => cases h

end NpcapHelpers

open NpcapHelpers

namespace NpcapGlobals

/-- The text that is cached after the lookup that `Initialize` makes itself. -/
def firstText (registry : ℕ → Registry) (g : NpcapGlobals) : List Char :=
  ((registry g.helpers.lookups).uuid).getD g.helpers.loopbackDeviceUuidString

/-- `Initialize` with the libraries loaded comes to what the test comes to. -/
theorem initializeNpcap_loaded (registry : ℕ → Registry) {g : NpcapGlobals}
    (hfresh : g.isInitialized = false) (alldevs : Except String (List DeviceName)) :
    ∃ k, k = (loadLoopbackDeviceNameFromRegistry registry
        { g.helpers with humanReadibleError := "Unknown error" }).1 ∧
      g.initializeNpcap registry .loaded alldevs =
        bif (testLoopbackDevice registry alldevs k).2 then
          (⟨{ (testLoopbackDevice registry alldevs k).1 with
            humanReadibleError := "Npcap is ready" }, true⟩, true)
        else ({ g with helpers := (testLoopbackDevice registry alldevs k).1 }, false) := by
  refine ⟨_, rfl, ?_⟩
  unfold initializeNpcap
  rw [hfresh, if_neg Bool.false_ne_true]
  dsimp only [loadNpcapDlls]
  generalize testLoopbackDevice registry alldevs _ = o
  obtain ⟨h, tested⟩ := o
  cases tested <;> rfl

/-- **What a successful `Initialize` has done.** -/
theorem initializeNpcap_spec {registry : ℕ → Registry} {dlls : DllResult}
    {alldevs : Except String (List DeviceName)} {g : NpcapGlobals}
    (hfresh : g.isInitialized = false)
    (h : (g.initializeNpcap registry dlls alldevs).2 = true) :
    ∃ devices k, alldevs = .ok devices ∧ k.loopbackDeviceUuidString = g.firstText registry ∧
      k.loopbackDeviceNameInitialized = g.helpers.loopbackDeviceNameInitialized ∧
      k.lookups = g.helpers.lookups + 1 ∧ (testLoop registry devices (k, false)).2 = true ∧
      (g.initializeNpcap registry dlls alldevs).1.helpers =
        { (testLoop registry devices (k, false)).1 with
          humanReadibleError := "Npcap is ready" } := by
  cases dlls with
  | noSystemDirectory | noDllDirectory | noLibrary =>
    unfold initializeNpcap at h
    rw [hfresh] at h
    cases h
  | loaded =>
    obtain ⟨k, hk, heq⟩ := initializeNpcap_loaded registry hfresh alldevs
    rw [heq] at h ⊢
    cases htested : (testLoopbackDevice registry alldevs k).2 with
    | false =>
      rw [htested] at h
      cases h
    | true =>
      obtain ⟨devices, hdevices, hfound, hstate⟩ := testLoopbackDevice_spec registry k htested
      refine ⟨devices, k, hdevices, ?_, ?_, ?_, hfound, ?_⟩
      · rw [hk, uuid_load]
        rfl
      · rw [hk, loopbackDeviceNameInitialized_load]
      · rw [hk, lookups_load]
      · rw [← hstate]
        rfl

/-- The text that the name is built from after `Initialize` has gone through `n` devices:
of the lookup that `Initialize` makes itself and the following ones, one for each device and
one for the name, it is that of the first to find one after the first. -/
def nameText (registry : ℕ → Registry) (g : NpcapGlobals) (n : ℕ) : List Char :=
  if g.helpers.loopbackDeviceNameInitialized then g.firstText registry
  else firstUuid registry (g.firstText registry) (g.helpers.lookups + 1) (n + 1)

/-- When the named device is an enumerated one, by the texts that the registry has told.  If
it has told no UUID, neither to `Initialize` nor later, it always is.  If a UUID was told to
`Initialize` and none for the name, `\device\npf_loopback` has to be enumerated, which the
test need not have found.  If there is a UUID for the name, the test says nothing about
`\device\npcap_{UUID}`, since it looks for other names: the condition is then that this very
device is enumerated, which repeats the conclusion for the text. -/
def NamedDevicePresent (registry : ℕ → Registry) (g : NpcapGlobals) (devices : List DeviceName) :
    Prop :=
  (g.nameText registry devices.length = [] →
    g.firstText registry = [] ∨ Enumerated devices npfLoopback) ∧
  (g.nameText registry devices.length ≠ [] → Enumerated devices
    ("\\device\\npcap_\x7b".toList ++ g.nameText registry devices.length ++ "\x7d".toList))

/-- A registry that does not change tells one text. -/
theorem nameText_of_steady {registry : ℕ → Registry} {g : NpcapGlobals}
    (h : ∀ n ≥ g.helpers.lookups, registry n = registry g.helpers.lookups) (n : ℕ) :
    g.nameText registry n = g.firstText registry := by
  have hfirst : ∀ n k, g.helpers.lookups ≤ k →
      firstUuid registry (g.firstText registry) k n = g.firstText registry := by
    intro n
    induction n with
    | zero => intro k hk; rfl
    | succ n ih =>
      intro k hk
      rw [firstUuid, ih (k + 1) (by omega), h k hk]
      unfold firstText
      cases (registry g.helpers.lookups).uuid with
      | none => rfl
      | some uuid => rfl
  unfold nameText
  rw [hfirst (n + 1) (g.helpers.lookups + 1) (by omega), ite_self]

end NpcapGlobals

open NpcapGlobals

/-- **After a successful `Initialize`, the device that `GetLoopbackDeviceName` names is
enumerated exactly if no UUID has been told or the device with its name is enumerated**,
for every registry outcome at every lookup. -/
theorem named_device_enumerated_iff (registry : ℕ → Registry) (dlls : DllResult)
    (devices : List DeviceName) (g : NpcapGlobals) (hfresh : g.isInitialized = false)
    (hready : (g.initializeNpcap registry dlls (.ok devices)).2 = true) :
    Enumerated devices (getLoopbackDeviceName registry
        (g.initializeNpcap registry dlls (.ok devices)).1.helpers).2 ↔
      NamedDevicePresent registry g devices := by
  obtain ⟨devices', k, hdevices, huuid, hinit, hlookups, hfound, hstate⟩ :=
    initializeNpcap_spec hfresh hready
  cases hdevices
  -- the text of the name, and the texts that the test went by
  have hsettled : k.settled registry (devices.length + 1) =
      g.nameText registry devices.length := by
    unfold settled nameText
    rw [huuid, hinit, hlookups]
  have hname : (getLoopbackDeviceName registry
      (g.initializeNpcap registry dlls (.ok devices)).1.helpers).2 =
        loopbackName (g.nameText registry devices.length) := by
    rw [hstate, getLoopbackDeviceName_snd, ← hsettled, ← settled_testLoop registry k devices false]
    rfl
  rw [hname]
  unfold NamedDevicePresent loopbackName
  by_cases hnil : g.nameText registry devices.length = []
  · rw [if_neg (not_not.mpr hnil)]
    constructor
    · intro h
      exact ⟨fun _ => Or.inr h, fun hne => absurd hnil hne⟩
    · rintro ⟨h, -⟩
      rcases h hnil with hfirst | h
      · rcases found_spec registry k 1 devices false hfound with hfalse | ⟨name, hmem, haccepts⟩
        · cases hfalse
        · rw [huuid, hfirst, hsettled, hnil, or_self] at haccepts
          exact ⟨name, hmem, accepts_nil haccepts⟩
      · exact h
  · rw [if_pos hnil]
    exact ⟨fun h => ⟨fun hnil' => absurd hnil' hnil, fun _ => h⟩, fun h => h.2 hnil⟩

/-- Without the key in the registry, the device of recent versions of Npcap is found and
named. -/
theorem named_device_enumerated_without_key :
    Enumerated ["\\Device\\NPF_Loopback".toList] (getLoopbackDeviceName (fun _ => .missing)
      (NpcapGlobals.initial.initializeNpcap (fun _ => .missing) .loaded
        (.ok ["\\Device\\NPF_Loopback".toList])).1.helpers).2 :=
  (named_device_enumerated_iff _ .loaded _ .initial rfl (by decide +kernel)).mpr
    ⟨fun _ => Or.inl (by decide), fun hne => absurd (by decide) hne⟩

/-- An entry of an older version of Npcap is left in the registry, and only the device of
recent versions is enumerated: `Initialize` succeeds, and the device that is named does not
exist. -/
theorem named_device_missing :
    let registry := Npcap.withLoopbackAdapter.registry
    let devices := ["\\Device\\NPF_Loopback".toList]
    let o := NpcapGlobals.initial.initializeNpcap registry .loaded (.ok devices)
    o.2 = true ∧ ¬Enumerated devices (getLoopbackDeviceName registry o.1.helpers).2 := by
  decide +kernel

end Udpcap
