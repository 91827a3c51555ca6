import Udpcap.FilterCurrency
import Udpcap.Foundation.UniquePtr
import Udpcap.HandleLifecycle

/-!
# A process with any number of sockets

The objects of class `UdpcapSocket`.  Each of them owns its implementation through a
`std::unique_ptr`, and can be constructed, moved, assigned to and destroyed.  All sockets of
the process share Npcap and the globals that remember the loopback device.

## Main definitions

* `SocketImpl` — an implementation on the heap.
* `Process`, `processStep` — the state, and one step.
* `Driver.Apart` — the handles of one socket and those of the others.
* `Process.HandlesOwned` — every implementation has one owner, and every handle too.

## Main results

* `World.preserved_apart` — **no action of an operation touches the handles of others.**
* `handles_owned` — the property in every state of a process.
* `sockets_isolated` — **a step for one socket leaves all others alone, and every bound
  socket has its own filter on each of its devices.**
-/

namespace Udpcap

open Foundation

variable {R : Type} {np : Npcap} {api : IPReassembly R} {handler : Handler R}

/-! ### The state -/

/-- An object of class `UdpcapSocket`. -/
abbrev ObjectId := ℕ

/-- A `UdpcapSocketPrivate` on the heap, with the call of `receiveDatagram` in progress. -/
structure SocketImpl (R : Type) where
  socket : UdpcapSocket R
  receiver : Option Receiver

/-- The handles that an implementation owns. -/
def SocketImpl.handles (x : SocketImpl R) : List Handle :=
  x.socket.pcapDevices.map PcapDev.pcapHandle

/-- The objects with their implementations, Npcap, and the globals of `npcap_helpers.cpp`. -/
structure Process (R : Type) where
  sockets : UniquePtrs ObjectId (SocketImpl R)
  driver : Driver
  globals : NpcapGlobals

inductive ProcessLabel
  /-- An object is constructed, while Npcap enumerates the given devices. -/
  | construct (o : ObjectId) (dlls : NpcapHelpers.DllResult)
      (alldevs : Except String (List DeviceName))
  | moveConstruct (o source : ObjectId)
  | moveAssign (o source : ObjectId)
  | destroy (o : ObjectId)
  /-- An operation is called on an object. -/
  | op (o : ObjectId) (op : Op)
  /-- `receiveDatagram` is called on an object. -/
  | call (o : ObjectId) (args : ReceiveArgs)
  /-- The call in progress on an implementation gets an answer. -/
  | reply (i : ℕ) (reply : Reply)

namespace Process

/-- A process that has just started. -/
def start (globals : NpcapGlobals) : Process R := ⟨.empty, ⟨0, []⟩, globals⟩

/-- What an implementation works on. -/
def world (p : Process R) (x : SocketImpl R) : World R := ⟨x.socket, p.driver, p.globals.helpers⟩

/-- `~UdpcapSocketPrivate`; `none` while another thread is in `receiveDatagram`. -/
def destructor (helpers : NpcapHelpers) (x : SocketImpl R) (driver : Driver) : Option Driver :=
  if x.receiver.isSome then none
  else some (World.close ⟨x.socket, driver, helpers⟩).driver

/-- A call of an operation on the implementation at `i`. -/
def applyOp (np : Npcap) (api : IPReassembly R) (p : Process R) (i : ℕ) (x : SocketImpl R)
    (op : Op) : Option (Process R) :=
  if x.receiver.isSome then none
  else ((p.world x).apply np api op).map fun o =>
    { sockets := p.sockets.store i { x with socket := o.1.socket }
      driver := o.1.driver
      globals := { p.globals with helpers := o.1.helpers } }

/-- A step of the call in progress on the implementation at `i`. -/
def applyReply (handler : Handler R) (p : Process R) (i : ℕ) (x : SocketImpl R) (rx : Receiver)
    (reply : Reply) : Option (Process R) :=
  (receiveStep handler x.socket rx reply).bind fun o =>
    match o.2.pc with
    | .crashed => none
    | .returned _ => some { p with sockets := p.sockets.store i ⟨o.1, none⟩ }
    | _ => some { p with sockets := p.sockets.store i ⟨o.1, some o.2⟩ }

/-- `UdpcapSocket::UdpcapSocket`, while Npcap enumerates the given devices. -/
def construct (np : Npcap) (p : Process R) (o : ObjectId) (dlls : NpcapHelpers.DllResult)
    (alldevs : Except String (List DeviceName)) : Option (Process R) :=
  let initialized := p.globals.initializeNpcap np.registry dlls alldevs
  (p.sockets.makeUnique o ⟨.create initialized.2, none⟩).map fun sockets =>
    { p with sockets := sockets, globals := initialized.1 }

/-- `UdpcapSocket::UdpcapSocket(UdpcapSocket&&)` -/
def moveConstruct (p : Process R) (o source : ObjectId) : Option (Process R) :=
  (p.sockets.moveConstruct o source).map fun sockets => { p with sockets := sockets }

/-- `UdpcapSocket::operator=(UdpcapSocket&&)` -/
def moveAssign (p : Process R) (o source : ObjectId) : Option (Process R) :=
  (p.sockets.moveAssign (destructor p.globals.helpers) o source p.driver).map fun r =>
    { p with sockets := r.1, driver := r.2 }

/-- `UdpcapSocket::~UdpcapSocket` -/
def destroy (p : Process R) (o : ObjectId) : Option (Process R) :=
  (p.sockets.destroy (destructor p.globals.helpers) o p.driver).map fun r =>
    { p with sockets := r.1, driver := r.2 }

/-- `receiveDatagram` is called on the implementation at `i`. -/
def applyCall (p : Process R) (i : ℕ) (x : SocketImpl R) (args : ReceiveArgs) :
    Option (Process R) :=
  if x.receiver.isSome then none
  else some { p with sockets := p.sockets.store i { x with receiver := some (.create args) } }

end Process

/-- One step of a process; `none` for undefined behaviour, as when an object is used that
has been moved from. -/
def processStep (np : Npcap) (api : IPReassembly R) (handler : Handler R) (p : Process R) :
    ProcessLabel → Option (Process R)
  | .construct o dlls alldevs => p.construct np o dlls alldevs
  | .moveConstruct o source => p.moveConstruct o source
  | .moveAssign o source => p.moveAssign o source
  | .destroy o => p.destroy o
  | .op o op => (p.sockets.deref o).bind fun r => p.applyOp np api r.1 r.2 op
  | .call o args => (p.sockets.deref o).bind fun r => p.applyCall r.1 r.2 args
  | .reply i reply => (p.sockets.get i).bind fun x => x.receiver.bind fun rx =>
    p.applyReply handler i x rx reply

/-! ### What a socket must not touch -/

theorem Driver.installedFilter_record {d : Driver} {c : Call} {h : Handle}
    (hc : ∀ text code, c ≠ .setFilter h text code) :
    (d.record c).installedFilter h = d.installedFilter h := by
  unfold Driver.installedFilter Driver.record
  cases c with
  | setFilter h' text code =>
    have hne : h' ≠ h := fun heq => hc text code (heq ▸ rfl)
    show (if h' = h ∧ code ≠ pcapError then _ else _) = _
    rw [if_neg fun hand => hne hand.1]
  | create | setBufferSize | activate | compile | close | kickstart => rfl

/-- The open handles are those of a socket and those of the others, and the others have the
given filters. -/
structure Driver.Apart (own others : List Handle) (installed : Handle → Option (List Char))
    (d : Driver) : Prop where
  holds : d.Holds (own ++ others)
  installed_eq : ∀ h ∈ others, d.installedFilter h = installed h

namespace Driver.Apart

variable {d : Driver} {own others : List Handle} {installed : Handle → Option (List Char)}
  {h : Handle}

theorem create (hd : d.Apart own others installed) (deviceName : DeviceName) :
    Apart (d.created :: own) others installed
      ⟨d.created + 1, .create deviceName (some d.created) :: d.calls⟩ :=
  ⟨hd.holds.create deviceName, hd.installed_eq⟩

theorem create_none (hd : d.Apart own others installed) (deviceName : DeviceName) :
    Apart own others installed ⟨d.created + 1, .create deviceName none :: d.calls⟩ :=
  ⟨hd.holds.create_none deviceName, hd.installed_eq⟩

/-- The socket uses a handle of its own. -/
theorem use (hd : d.Apart own others installed) (hmem : h ∈ own) {c : Call}
    (hc : c.handleEvents = [.use h]) : (d.record c).Apart own others installed where
  holds := hd.holds.use (List.mem_append_left _ hmem) hc
  installed_eq := by
    intro h' hh'
    have hdisjoint := (List.nodup_append'.mp hd.holds.nodup).2.2
    have hne : h' ≠ h := by
      rintro rfl
      exact hdisjoint hmem hh'
    refine (installedFilter_record ?_).trans (hd.installed_eq h' hh')
    rintro text code rfl
    exact hne (by simpa [Call.handleEvents] using hc)

theorem close (hd : d.Apart (h :: own) others installed) :
    (d.record (.close h)).Apart own others installed where
  holds := hd.holds.close
  installed_eq := fun h' hh' => (installedFilter_record (by simp)).trans (hd.installed_eq h' hh')

theorem kickstart (hd : d.Apart own others installed) (groups : List HostAddress) :
    (d.record (.kickstart groups)).Apart own others installed where
  holds := hd.holds.record rfl
  installed_eq := fun h' hh' => (installedFilter_record (by simp)).trans (hd.installed_eq h' hh')

theorem perm (hd : d.Apart own others installed) {own' : List Handle} (hperm : own.Perm own') :
    d.Apart own' others installed :=
  ⟨hd.holds.perm (hperm.append_right others), hd.installed_eq⟩

end Driver.Apart

namespace World

variable {w w' : World R} {others : List Handle} {installed : Handle → Option (List Char)}

/-- The same for the handles that a socket has. -/
def Apart (others : List Handle) (installed : Handle → Option (List Char)) (w : World R) : Prop :=
  w.driver.Apart (w.socket.pcapDevices.map PcapDev.pcapHandle) others installed

theorem pcapActivate_apart (np : Npcap) {h : Handle} {own : List Handle}
    (hw : w.driver.Apart own others installed) (hmem : h ∈ own) :
    (w.pcapActivate np h).1.driver.Apart own others installed := by
  unfold pcapActivate
  simp only
  split
  · exact Driver.Apart.use (hw.use hmem rfl) hmem rfl
  · exact hw.use hmem rfl

theorem apart_openPcapDeviceNolock (hw : w.Apart others installed) (deviceName : DeviceName) :
    (w.openPcapDeviceNolock np api deviceName).1.Apart others installed := by
  unfold openPcapDeviceNolock pcapCreate
  simp only
  cases hcreate : np.create w.driver.created with
  | false =>
    rw [if_neg Bool.false_ne_true]
    exact hw.create_none deviceName
  | true =>
    rw [if_pos rfl]
    let v : World R := { w with
      driver := ⟨w.driver.created + 1,
        .create deviceName (some w.driver.created) :: w.driver.calls⟩ }
    have hv : v.driver.Apart (w.driver.created :: w.socket.pcapDevices.map PcapDev.pcapHandle)
        others installed := hw.create deviceName
    have hactive := pcapActivate_apart np hv List.mem_cons_self
    have hsocket : (v.pcapActivate np w.driver.created).1.socket = w.socket :=
      (pcapActivate_spec np v w.driver.created).1
    show Apart others installed (if _ then _ else _ : World R × Bool).1
    split
    · unfold Apart addDevice
      simp only
      rw [hsocket, List.map_append]
      exact hactive.perm (List.perm_append_singleton _ _).symm
    · unfold Apart
      show Driver.Apart ((v.pcapActivate np w.driver.created).1.socket.pcapDevices.map _) _ _ _
      rw [hsocket]
      exact hactive.close

theorem apart_updateCaptureFilter (hw : w.Apart others installed) (dev : PcapDev)
    (hdev : dev ∈ w.socket.pcapDevices) :
    (w.updateCaptureFilter np dev).Apart others installed := by
  have hmem : dev.pcapHandle ∈ w.socket.pcapDevices.map PcapDev.pcapHandle :=
    List.mem_map_of_mem hdev
  unfold updateCaptureFilter
  simp only
  split
  · exact hw.use hmem rfl
  · exact Driver.Apart.use (hw.use hmem rfl) hmem rfl

theorem apart_foldl_close (devs : List PcapDev)
    (hw : w.driver.Apart (devs.map PcapDev.pcapHandle) others installed) :
    (devs.foldl (fun w dev => w.record (.close dev.pcapHandle)) w).driver.Apart [] others
      installed := by
  induction devs generalizing w with
  | nil => exact hw
  | cons dev devs ih =>
    apply ih
    exact hw.close

/-- `close` closes the handles of the socket, and no others. -/
theorem apart_close (hw : w.Apart others installed) : w.close.driver.Apart [] others installed := by
  unfold close
  exact apart_foldl_close (w := { w with socket.pcapDevicesClosed := true }) _ hw

/-- **No action of an operation touches the handles of others.** -/
theorem preserved_apart (np : Npcap) (api : IPReassembly R) (others : List Handle)
    (installed : Handle → Option (List Char)) : Preserved np api (Apart others installed) where
  isLoopbackDevice := fun _ _ hw => hw
  getLoopbackDeviceName := fun _ hw => hw
  opens := fun _ deviceName hw => apart_openPcapDeviceNolock hw deviceName
  filters := fun _ dev hdev hw => apart_updateCaptureFilter hw dev hdev
  kickstart := fun _ hw => hw.kickstart _
  socket := by
    intro w s hdevices hw
    unfold Apart at hw ⊢
    rw [hdevices]
    exact hw
  closes := by
    intro w hw
    unfold Apart
    rw [close_socket]
    exact apart_close hw

end World

/-! ### Steps of a process -/

namespace Process

variable {p q : Process R}

/-- The handles that the implementations own. -/
def handles (p : Process R) : List Handle := p.sockets.owned SocketImpl.handles

/-- The implementation that a step is for, if it exists before the step. -/
def target (p : Process R) : ProcessLabel → Option ℕ
  | .construct .. | .moveConstruct .. => none
  | .moveAssign o source => if o = source then none else (p.sockets.pointer o).join
  | .destroy o | .op o _ | .call o _ => (p.sockets.pointer o).join
  | .reply i _ => some i

/-- What is known of a step for the sockets that it is not for: they stay as they are, the
filters of their devices stay installed, and a new socket is not bound. -/
structure Isolates (p q : Process R) (i : Option ℕ) : Prop where
  kept : ∀ j x, i ≠ some j → p.sockets.get j = some x → q.sockets.get j = some x
  filters : ∀ j x, i ≠ some j → p.sockets.get j = some x → ∀ h ∈ x.handles,
    q.driver.installedFilter h = p.driver.installedFilter h
  fresh : ∀ j y, q.sockets.get j = some y → p.sockets.get j = none → y.socket.boundState = false

/-- The invariant behind it. -/
structure Kept (p : Process R) : Prop where
  sound : p.sockets.Sound none
  holds : p.driver.Holds p.handles
  atDevice : ∀ i x, p.sockets.get i = some x → ∀ rx ∈ x.receiver, rx.AtDevice x.socket

/-- The handles of one implementation are apart from those of the others. -/
theorem Kept.apart (hp : p.Kept) {i : ℕ} {x : SocketImpl R} (hx : p.sockets.get i = some x) :
    ∃ others, p.driver.Apart x.handles others p.driver.installedFilter ∧
      (∀ y, ((p.sockets.store i y).owned SocketImpl.handles).Perm (y.handles ++ others)) ∧
      ((p.sockets.delete i).owned SocketImpl.handles).Perm others ∧
      ∀ j y, j ≠ i → p.sockets.get j = some y → y.handles ⊆ others := by
  obtain ⟨others, hall, hstore, hdelete, hothers⟩ :=
    UniquePtrs.owned_set hx SocketImpl.handles
  exact ⟨others, ⟨hp.holds.perm hall, fun _ _ => rfl⟩, hstore, hdelete, hothers⟩

/-- A step that replaces one implementation, and touches the handles of that one only. -/
theorem Kept.store (hp : p.Kept) {i : ℕ} {x y : SocketImpl R} (hx : p.sockets.get i = some x)
    {driver : Driver} (globals : NpcapGlobals)
    (hdriver : ∀ others, p.driver.Apart x.handles others p.driver.installedFilter →
      driver.Apart y.handles others p.driver.installedFilter)
    (hat : ∀ rx ∈ y.receiver, rx.AtDevice y.socket) :
    Kept ⟨p.sockets.store i y, driver, globals⟩ ∧
      Isolates p ⟨p.sockets.store i y, driver, globals⟩ (some i) := by
  obtain ⟨others, hapart, hstore, -, hothers⟩ := hp.apart hx
  have hafter := hdriver others hapart
  refine ⟨⟨hp.sound.store hx y, hafter.holds.perm (hstore y).symm, ?_⟩, ?_, ?_, ?_⟩
  · intro j z hz
    rw [UniquePtrs.get_store hx] at hz
    by_cases hij : i = j
    · rw [if_pos hij] at hz
      cases hz
      exact hat
    · rw [if_neg hij] at hz
      exact hp.atDevice j z hz
  · intro j z hne hz
    have hij : i ≠ j := fun heq => hne (heq ▸ rfl)
    exact (UniquePtrs.get_store hx y).trans ((if_neg hij).trans hz)
  · intro j z hne hz h hh
    have hji : j ≠ i := fun heq => hne (heq ▸ rfl)
    exact hafter.installed_eq h (hothers j z hji hz hh)
  · intro j z hz hnone
    rw [UniquePtrs.get_store hx] at hz
    by_cases hij : i = j
    · subst hij
      rw [hx] at hnone
      cases hnone
    · rw [if_neg hij, hnone] at hz
      cases hz

/-- Deleting an implementation closes its handles, and no others. -/
theorem Kept.reset (hp : p.Kept) {u u' : UniquePtrs ObjectId (SocketImpl R)} {old : Option ℕ}
    {driver : Driver} {helpers : NpcapHelpers}
    (hreset : UniquePtrs.reset (destructor helpers) u old p.driver = some (u', driver))
    (hheap : u.heap = p.sockets.heap) (hsound : u'.Sound none) :
    Kept ⟨u', driver, p.globals⟩ ∧ Isolates p ⟨u', driver, p.globals⟩ old ∧
      ∀ i, old = some i → u'.get i = none := by
  have hget : ∀ j, u.get j = p.sockets.get j := by
    intro j
    unfold UniquePtrs.get
    rw [hheap]
  have howned : u.owned SocketImpl.handles = p.handles := by
    unfold handles UniquePtrs.owned
    rw [hheap]
  cases old with
  | none =>
    cases hreset
    refine ⟨⟨hsound, ?_, ?_⟩, ⟨?_, fun _ _ _ _ _ _ => rfl, ?_⟩, fun i hi => by cases hi⟩
    · show p.driver.Holds (u.owned SocketImpl.handles)
      rw [howned]
      exact hp.holds
    · intro j x hx
      rw [hget] at hx
      exact hp.atDevice j x hx
    · intro j x _ hx
      exact (hget j).trans hx
    · intro j y hy hnone
      rw [hget, hnone] at hy
      cases hy
  | some i =>
    obtain ⟨x, hx, hreset⟩ := Option.bind_eq_some_iff.mp hreset
    obtain ⟨d, hclosed, heq⟩ := Option.map_eq_some_iff.mp hreset
    cases heq
    have hxp : p.sockets.get i = some x := (hget i).symm.trans hx
    obtain ⟨others, hapart, -, hdelete, hothers⟩ := hp.apart hxp
    unfold destructor at hclosed
    split at hclosed
    next => cases hclosed
    next =>
      cases hclosed
      have hafter := World.apart_close (w := ⟨x.socket, p.driver, helpers⟩) hapart
      have hgone : ∀ j, (u.delete i).get j = if i = j then none else p.sockets.get j := by
        intro j
        rw [UniquePtrs.get_delete hx, hget]
      refine ⟨⟨hsound, ?_, ?_⟩, ⟨?_, ?_, ?_⟩, ?_⟩
      · have hperm : ((u.delete i).owned SocketImpl.handles).Perm others := by
          unfold UniquePtrs.owned UniquePtrs.delete at hdelete ⊢
          rw [hheap]
          exact hdelete
        exact hafter.holds.perm hperm.symm
      · intro j y hy
        rw [hgone] at hy
        by_cases hij : i = j
        · rw [if_pos hij] at hy
          cases hy
        · rw [if_neg hij] at hy
          exact hp.atDevice j y hy
      · intro j y hne hy
        have hij : i ≠ j := fun heq => hne (heq ▸ rfl)
        exact (hgone j).trans ((if_neg hij).trans hy)
      · intro j y hne hy h hh
        have hji : j ≠ i := fun heq => hne (heq ▸ rfl)
        exact hafter.installed_eq h (hothers j y hji hy hh)
      · intro j y hy hnone
        rw [hgone, hnone, ite_self] at hy
        cases hy
      · intro j hj
        cases hj
        rw [hgone, if_pos rfl]

/-- An operation works on the handles of its own socket. -/
theorem Kept.applyOp (hp : p.Kept) {i : ℕ} {x : SocketImpl R} (hx : p.sockets.get i = some x)
    {op : Op} (hstep : p.applyOp np api i x op = some q) : q.Kept ∧ p.Isolates q (some i) := by
  unfold Process.applyOp at hstep
  split at hstep
  next => cases hstep
  next hidle =>
    obtain ⟨⟨w, out⟩, happly, heq⟩ := Option.map_eq_some_iff.mp hstep
    subst heq
    refine hp.store hx _ ?_ ?_
    · intro others hapart
      exact (World.preserved_apart np api others _).apply (w := p.world x) hapart happly
    · intro rx hrx
      have hsome : x.receiver = some rx := hrx
      rw [hsome] at hidle
      exact absurd rfl hidle

/-- A step of `receiveDatagram` works on the devices of its own socket. -/
theorem Kept.applyReply (hp : p.Kept) {i : ℕ} {x : SocketImpl R} {rx : Receiver}
    (hx : p.sockets.get i = some x) (hrx : x.receiver = some rx) {reply : Reply}
    (hstep : p.applyReply handler i x rx reply = some q) : q.Kept ∧ p.Isolates q (some i) := by
  obtain ⟨⟨s, rx'⟩, hreceive, hstep⟩ := Option.bind_eq_some_iff.mp hstep
  obtain ⟨reassemblers, hsocket⟩ := receiveStep_socket hreceive
  have hat := (receiveStep_atDevice hreceive (hp.atDevice i x hx rx hrx)).2
  have hdriver : ∀ (y : SocketImpl R), y.socket = s → ∀ others,
      p.driver.Apart x.handles others p.driver.installedFilter →
      p.driver.Apart y.handles others p.driver.installedFilter := by
    intro y hy others hapart
    unfold SocketImpl.handles at hapart ⊢
    rw [hy, hsocket]
    exact hapart
  simp only at hstep
  split at hstep
  next => cases hstep
  next =>
    cases hstep
    exact hp.store hx _ (hdriver ⟨s, none⟩ rfl)
      fun rx₁ hrx₁ => absurd hrx₁ (Option.not_mem_none rx₁)
  next =>
    cases hstep
    refine hp.store hx _ (hdriver ⟨s, some rx'⟩ rfl) ?_
    intro rx₁ hrx₁
    cases hrx₁
    exact hat

theorem Kept.construct (hp : p.Kept) {o : ObjectId} {dlls : NpcapHelpers.DllResult}
    {alldevs : Except String (List DeviceName)} (hstep : p.construct np o dlls alldevs = some q) :
    q.Kept ∧ p.Isolates q none := by
  obtain ⟨u, hu, heq⟩ := Option.map_eq_some_iff.mp hstep
  have hsound := hp.sound.makeUnique hu
  unfold UniquePtrs.makeUnique at hu
  split at hu
  next =>
    cases hu
    subst heq
    refine ⟨⟨hsound, ?_, ?_⟩, ?_, fun _ _ _ _ _ _ => rfl, ?_⟩
    · unfold handles
      rw [UniquePtrs.owned_append]
      exact hp.holds.perm (by simp [SocketImpl.handles, UdpcapSocket.create, handles])
    · intro i x hx
      rw [UniquePtrs.get_append] at hx
      split at hx
      next =>
        cases hx
        exact fun rx hrx => absurd hrx (Option.not_mem_none rx)
      next => exact hp.atDevice i x hx
    · intro i x _ hx
      have hlt := UniquePtrs.lt_of_get hx
      exact (UniquePtrs.get_append ..).trans ((if_neg (by omega)).trans hx)
    · intro i x hx hnone
      rw [UniquePtrs.get_append] at hx
      split at hx
      next =>
        cases hx
        rfl
      next =>
        rw [hnone] at hx
        cases hx
  next => cases hu

theorem Kept.moveConstruct (hp : p.Kept) {o source : ObjectId}
    (hstep : p.moveConstruct o source = some q) : q.Kept ∧ p.Isolates q none := by
  obtain ⟨u, hu, heq⟩ := Option.map_eq_some_iff.mp hstep
  have hsound := hp.sound.moveConstruct hu
  unfold UniquePtrs.moveConstruct at hu
  split at hu
  next =>
    cases hu
    subst heq
    refine ⟨⟨hsound, hp.holds, hp.atDevice⟩, fun _ _ _ hx => hx, fun _ _ _ _ _ _ => rfl, ?_⟩
    intro i x hx hnone
    have hsome : p.sockets.get i = some x := hx
    rw [hnone] at hsome
    cases hsome
  next => cases hu

theorem Kept.moveAssign (hp : p.Kept) {o source : ObjectId}
    (hstep : p.moveAssign o source = some q) :
    q.Kept ∧ p.Isolates q (p.target (.moveAssign o source)) ∧
      ∀ i, p.target (.moveAssign o source) = some i → q.sockets.get i = none := by
  obtain ⟨⟨u, d⟩, hu, heq⟩ := Option.map_eq_some_iff.mp hstep
  subst heq
  have hsound := hp.sound.moveAssign hu
  obtain ⟨ptr, hsource, hu⟩ := Option.bind_eq_some_iff.mp hu
  obtain ⟨old, hold, hreset⟩ := Option.bind_eq_some_iff.mp hu
  have htarget : p.target (.moveAssign o source) = old := by
    unfold target
    simp only at hold ⊢
    by_cases hself : o = source
    · subst hself
      rw [Function.update_self] at hold
      rw [if_pos rfl]
      exact Option.some.inj hold
    · rw [Function.update_of_ne hself] at hold
      rw [if_neg hself, hold]
      rfl
  rw [htarget]
  exact hp.reset hreset rfl hsound

theorem Kept.destroy (hp : p.Kept) {o : ObjectId} (hstep : p.destroy o = some q) :
    q.Kept ∧ p.Isolates q (p.target (.destroy o)) ∧
      ∀ i, p.target (.destroy o) = some i → q.sockets.get i = none := by
  obtain ⟨⟨u, d⟩, hu, heq⟩ := Option.map_eq_some_iff.mp hstep
  subst heq
  have hsound := hp.sound.destroy hu
  obtain ⟨old, hold, hreset⟩ := Option.bind_eq_some_iff.mp hu
  have htarget : p.target (.destroy o) = old := by
    unfold target
    simp only
    rw [hold]
    rfl
  rw [htarget]
  exact hp.reset hreset rfl hsound

theorem Kept.applyCall (hp : p.Kept) {i : ℕ} {x : SocketImpl R} (hx : p.sockets.get i = some x)
    {args : ReceiveArgs} (hstep : p.applyCall i x args = some q) :
    q.Kept ∧ p.Isolates q (some i) := by
  unfold Process.applyCall at hstep
  split at hstep
  next => cases hstep
  next =>
    cases hstep
    refine hp.store hx _ (fun _ hapart => hapart) ?_
    intro rx hrx
    cases hrx
    trivial

/-- The implementation that an object points to is the target. -/
theorem target_of_deref {o : ObjectId} {i : ℕ} {x : SocketImpl R}
    (h : p.sockets.deref o = some (i, x)) :
    p.sockets.get i = some x ∧ (p.sockets.pointer o).join = some i := by
  obtain ⟨hpointer, hx⟩ := UniquePtrs.deref_eq_some.mp h
  exact ⟨hx, Option.join_eq_some_iff.mpr hpointer⟩

/-- **A step keeps the invariant, and leaves the sockets alone that it is not for.** -/
theorem Kept.step (hp : p.Kept) {l : ProcessLabel}
    (hstep : processStep np api handler p l = some q) : q.Kept ∧ p.Isolates q (p.target l) := by
  cases l with
  | construct o dlls alldevs => exact hp.construct hstep
  | moveConstruct o source => exact hp.moveConstruct hstep
  | moveAssign o source =>
    obtain ⟨hq, hisolates, -⟩ := hp.moveAssign hstep
    exact ⟨hq, hisolates⟩
  | destroy o =>
    obtain ⟨hq, hisolates, -⟩ := hp.destroy hstep
    exact ⟨hq, hisolates⟩
  | op o op =>
    obtain ⟨⟨i, x⟩, hderef, hop⟩ := Option.bind_eq_some_iff.mp hstep
    obtain ⟨hx, hi⟩ := target_of_deref hderef
    show q.Kept ∧ p.Isolates q (p.sockets.pointer o).join
    rw [hi]
    exact hp.applyOp hx hop
  | call o args =>
    obtain ⟨⟨i, x⟩, hderef, hcall⟩ := Option.bind_eq_some_iff.mp hstep
    obtain ⟨hx, hi⟩ := target_of_deref hderef
    show q.Kept ∧ p.Isolates q (p.sockets.pointer o).join
    rw [hi]
    exact hp.applyCall hx hcall
  | reply i reply =>
    obtain ⟨x, hx, hstep⟩ := Option.bind_eq_some_iff.mp hstep
    obtain ⟨rx, hrx, hstep⟩ := Option.bind_eq_some_iff.mp hstep
    exact hp.applyReply hx hrx hstep

theorem kept_start (globals : NpcapGlobals) : (start globals : Process R).Kept where
  sound := .empty
  holds := ⟨trivial, fun _ hacquired => absurd hacquired List.not_mem_nil, .nil⟩
  atDevice := fun i x hx => by simp [start] at hx

end Process

/-! ### Ownership -/

/-- Who owns the implementations and the handles of a process. -/
structure Process.HandlesOwned (p : Process R) : Prop where
  /-- No object points to an implementation that is deleted. -/
  valid : ∀ o i, p.sockets.pointer o = some (some i) → ∃ x, p.sockets.get i = some x
  /-- Every implementation belongs to exactly one object. -/
  owner : ∀ i x, p.sockets.get i = some x → ∃! o, p.sockets.pointer o = some (some i)
  /-- The open handles are those of the implementations that exist. -/
  isOpen_iff : ∀ h, p.driver.IsOpen h ↔ ∃ i x, p.sockets.get i = some x ∧ h ∈ x.handles
  /-- No handle belongs to two devices, of one implementation or of two. -/
  nodup : ∀ i x, p.sockets.get i = some x → x.handles.Nodup
  disjoint : ∀ i j x y h, p.sockets.get i = some x → p.sockets.get j = some y →
    h ∈ x.handles → h ∈ y.handles → i = j
  /-- No handle is used before it is created. -/
  disciplined : Disciplined p.driver.handleLog
  /-- No handle is closed twice, or used after it is closed. -/
  after_close : ∀ later earlier h, p.driver.handleLog = later ++ .release h :: earlier →
    ResourceEvent.acquire h ∉ later ∧ ResourceEvent.use h ∉ later ∧
      ResourceEvent.release h ∉ later
  /-- `pcap_next_ex` is called with an open handle of the same implementation. -/
  polls_open : ∀ i x, p.sockets.get i = some x → ∀ rx ∈ x.receiver, ∀ k pcapDev,
    rx.pc = .poll k pcapDev → p.driver.IsOpen pcapDev.pcapHandle ∧ pcapDev.pcapHandle ∈ x.handles
  /-- No handle is left open by objects that are destroyed or moved from. -/
  closed : (∀ o i, p.sockets.pointer o ≠ some (some i)) → ∀ h, ¬p.driver.IsOpen h

theorem Process.Kept.handlesOwned {p : Process R} (hp : p.Kept) : p.HandlesOwned := by
  have hopen : ∀ h, p.driver.IsOpen h ↔ ∃ i x, p.sockets.get i = some x ∧ h ∈ x.handles :=
    fun h => hp.holds.isOpen_iff.trans UniquePtrs.mem_owned
  refine ⟨hp.sound.valid, ?_, hopen, ?_, ?_, hp.holds.disciplined, ?_, ?_, ?_⟩
  · intro i x hx
    obtain ⟨o, ho⟩ := hp.sound.owner i x hx nofun
    exact ⟨o, ho, fun o' ho' => hp.sound.unique o' o i ho' ho⟩
  · intro i x hx
    obtain ⟨others, hapart, -⟩ := hp.apart hx
    exact (List.nodup_append'.mp hapart.holds.nodup).1
  · intro i j x y h hx hy hhx hhy
    obtain ⟨others, hapart, -, -, hothers⟩ := hp.apart hx
    by_contra hij
    have hdisjoint := (List.nodup_append'.mp hapart.holds.nodup).2.2
    exact hdisjoint hhx (hothers j y (Ne.symm hij) hy hhy)
  · intro later earlier h hlog
    have hdisciplined := hp.holds.disciplined
    rw [hlog] at hdisciplined
    exact hdisciplined.after_release
  · intro i x hx rx hrx k pcapDev hpc
    have hdevice := (hp.atDevice i x hx rx hrx).at_poll hpc
    have hmem : pcapDev.pcapHandle ∈ x.handles :=
      List.mem_map_of_mem (List.mem_of_getElem? hdevice.getElem?)
    exact ⟨(hopen _).mpr ⟨i, x, hx, hmem⟩, hmem⟩
  · intro hnone h hh
    obtain ⟨i, x, hx, -⟩ := (hopen h).mp hh
    obtain ⟨o, ho⟩ := hp.sound.owner i x hx nofun
    exact hnone o i ho

/-- **In every state of every process**, whatever objects are constructed, moved, assigned
to, used and destroyed, every handle has one owner. -/
theorem handles_owned (np : Npcap) (api : IPReassembly R) (handler : Handler R)
    (globals : NpcapGlobals) (labels : List ProcessLabel) :
    HoldsAlong (processStep np api handler) Process.HandlesOwned (Process.start globals) labels :=
  holdsAlong_of_invariant (I := Process.Kept) (fun _ hp => hp.handlesOwned)
    (fun _ _ _ hp hstep => (hp.step hstep).1) (Process.kept_start globals)

/-! ### Isolation -/

namespace Process

variable {p q : Process R}

/-- Every bound socket has its own filter on each of its devices. -/
def FiltersCurrent (np : Npcap) (p : Process R) : Prop :=
  ∀ i x, p.sockets.get i = some x → (p.world x).FiltersCurrent np

/-- The sockets that a step is not for keep their filters, and a new one has no devices. -/
theorem FiltersCurrent.of_isolates {i : Option ℕ} (hp : p.FiltersCurrent np) (h : p.Isolates q i)
    (htarget : ∀ j y, i = some j → q.sockets.get j = some y → (q.world y).FiltersCurrent np) :
    q.FiltersCurrent np := by
  intro j y hy
  by_cases hij : i = some j
  · exact htarget j y hij hy
  · intro hbound dev hdev
    cases hj : p.sockets.get j with
    | none =>
      have hfresh : y.socket.boundState = false := h.fresh j y hy hj
      have htrue : y.socket.boundState = true := hbound
      rw [hfresh] at htrue
      cases htrue
    | some x =>
      have hsame := h.kept j x hij hj
      rw [hy] at hsame
      cases hsame
      have hmem : dev.pcapHandle ∈ y.handles := List.mem_map_of_mem hdev
      exact (h.filters j y hij hj _ hmem).trans (hp j y hj hbound dev hdev)

/-- A step does not enable multicast loopback on a socket with an exception that leaves a
filter behind. -/
def KeepsFilters (np : Npcap) (p : Process R) : ProcessLabel → Prop
  | .op o operation => operation = .setMulticastLoopbackEnabled true →
    ∀ r ∈ p.sockets.deref o, r.2.receiver.isNone = true → ¬(p.world r.2).LeavesFilterBehind np
  | .construct .. | .moveConstruct .. | .moveAssign .. | .destroy _ | .call .. | .reply .. => True

instance (np : Npcap) (p : Process R) (l : ProcessLabel) : Decidable (p.KeepsFilters np l) :=
  match l with
  | .op o operation => inferInstanceAs (Decidable (operation = .setMulticastLoopbackEnabled true →
      ∀ r ∈ p.sockets.deref o, _ → ¬_))
  | .construct .. | .moveConstruct .. | .moveAssign .. | .destroy _ | .call .. | .reply .. =>
    isTrue trivial

theorem Kept.handlesApart (hp : p.Kept) {i : ℕ} {x : SocketImpl R}
    (hx : p.sockets.get i = some x) : (p.world x).HandlesApart where
  handle_lt := by
    intro dev hdev
    have howned := hp.handlesOwned
    have hopen := (howned.isOpen_iff _).mpr ⟨i, x, hx, List.mem_map_of_mem hdev⟩
    exact hp.holds.acquired_lt _ hopen.1
  nodup := hp.handlesOwned.nodup i x hx

/-- **A step keeps the filters current**, of the socket that it is for and of the others,
unless it leaves one behind. -/
theorem FiltersCurrent.step (hok : World.FiltersSucceed np) (hp : p.Kept)
    (hcurrent : p.FiltersCurrent np) {l : ProcessLabel} (hl : p.KeepsFilters np l)
    (hstep : processStep np api handler p l = some q) : q.FiltersCurrent np := by
  refine hcurrent.of_isolates (hp.step hstep).2 ?_
  intro j y hj hy
  cases l with
  | construct o dlls alldevs => cases hj
  | moveConstruct o source => cases hj
  | moveAssign o source =>
    rw [(hp.moveAssign hstep).2.2 j hj] at hy
    cases hy
  | destroy o =>
    rw [(hp.destroy hstep).2.2 j hj] at hy
    cases hy
  | op o op =>
    obtain ⟨⟨i, x⟩, hderef, hop⟩ := Option.bind_eq_some_iff.mp hstep
    obtain ⟨hx, hi⟩ := target_of_deref hderef
    rw [show (p.sockets.pointer o).join = some j from hj, Option.some.injEq] at hi
    subst hi
    unfold Process.applyOp at hop
    split at hop
    next => cases hop
    next hidle =>
      obtain ⟨⟨w, out⟩, happly, heq⟩ := Option.map_eq_some_iff.mp hop
      subst heq
      have hw := (hcurrent j x hx).apply hok (hp.handlesApart hx) happly fun hset =>
        hl hset _ hderef (by simpa using hidle)
      rw [UniquePtrs.get_store hx, if_pos rfl, Option.some.injEq] at hy
      subst hy
      exact hw
  | call o args =>
    obtain ⟨⟨i, x⟩, hderef, hcall⟩ := Option.bind_eq_some_iff.mp hstep
    obtain ⟨hx, hi⟩ := target_of_deref hderef
    rw [show (p.sockets.pointer o).join = some j from hj, Option.some.injEq] at hi
    subst hi
    unfold Process.applyCall at hcall
    split at hcall
    next => cases hcall
    next =>
      cases hcall
      rw [UniquePtrs.get_store hx, if_pos rfl, Option.some.injEq] at hy
      subst hy
      exact hcurrent j x hx
  | reply i reply =>
    cases hj
    obtain ⟨x, hx, hstep⟩ := Option.bind_eq_some_iff.mp hstep
    obtain ⟨rx, hrx, hstep⟩ := Option.bind_eq_some_iff.mp hstep
    obtain ⟨⟨s, rx'⟩, hreceive, hstep⟩ := Option.bind_eq_some_iff.mp hstep
    obtain ⟨reassemblers, hsocket⟩ := receiveStep_socket hreceive
    -- the step replaces the reassemblers, and filters do not depend on them
    have hkeeps : World.FiltersCurrent np ⟨s, p.driver, p.globals.helpers⟩ := by
      rw [hsocket]
      exact hcurrent j x hx
    simp only at hstep
    split at hstep
    next => cases hstep
    next =>
      cases hstep
      rw [UniquePtrs.get_store hx, if_pos rfl, Option.some.injEq] at hy
      subst hy
      exact hkeeps
    next =>
      cases hstep
      rw [UniquePtrs.get_store hx, if_pos rfl, Option.some.injEq] at hy
      subst hy
      exact hkeeps

end Process

/-- **A step for one socket leaves all others alone**, their state, their call in progress
and the filters of their devices; and in every state of every process in which no exception
of a kickstart leaves a filter behind, every bound socket has its own filter on each of its
devices. -/
theorem sockets_isolated (hok : World.FiltersSucceed np) (api : IPReassembly R)
    (handler : Handler R) (globals : NpcapGlobals) (labels : List ProcessLabel) :
    let step := processStep np api handler
    StepsMeet step (fun p l => ∀ q, step p l = some q → p.Isolates q (p.target l))
      (Process.start globals) labels ∧
    (StepsMeet step (Process.KeepsFilters np) (Process.start globals) labels →
      HoldsAlong step (Process.FiltersCurrent np) (Process.start globals) labels) := by
  intro step
  constructor
  · refine StepsMeet.mono_of_invariant (C := fun _ _ => True) (I := Process.Kept)
      (fun p l hp _ q hstep => (hp.step hstep).2) (fun p l q hp _ hstep => (hp.step hstep).1)
      (Process.kept_start globals) (stepsMeet_of_forall (fun _ _ => trivial) labels _)
  · refine holdsAlong_of_stepsMeet
      (I := fun p : Process R => p.Kept ∧ p.FiltersCurrent np) (fun p hp => hp.2)
      (fun p l q hp hl hstep => ⟨(hp.1.step hstep).1, hp.2.step hok hp.1 hl hstep⟩) ?_
    exact ⟨Process.kept_start globals, fun i x hx => by simp [Process.start] at hx⟩

/-- Two sockets are bound to the loopback device, and the second one is moved into the first:
the handle of the first one is closed. -/
theorem sockets_isolated_move :
    let np := Npcap.ofLinkTypes fun _ => linktypeNull
    let step := processStep np SmallPcpp.api (packetHandlerRawPtr SmallPcpp.pcpp SmallPcpp.api)
    let devices : Except String (List DeviceName) := .ok ["\\Device\\NPF_Loopback".toList]
    let labels : List ProcessLabel := [.construct 0 .loaded devices, .construct 1 .loaded devices,
      .op 0 (.bind none .localHost 5000), .op 1 (.bind none .localHost 6000), .moveAssign 0 1]
    HoldsAlong step (Process.FiltersCurrent np) (Process.start .initial) labels ∧
      (run step (Process.start .initial) labels).map (fun p =>
        (p.sockets.pointer 0, p.sockets.pointer 1, live p.driver.handleLog)) =
          some (some (some 1), some none, [1]) := by
  intro np step devices labels
  refine ⟨(sockets_isolated (filtersSucceed_ofLinkTypes _) _ _ _ labels).2 ?_, ?_⟩
  · decide +kernel
  · decide +kernel

end Udpcap
