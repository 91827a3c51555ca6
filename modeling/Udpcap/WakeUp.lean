import Udpcap.Session
import Udpcap.SmallPcpp
import Udpcap.SocketSpec

/-!
# Wake-ups

A session together with the auto-reset event of every device.  An arriving packet
sets the event of its device; a wait that succeeds clears one event, however many
packets are in the buffers.

## Main definitions

* `Waiting`, `wakeStep` — a session with its events, and one step.
* `Waiting.NoLostWakeUp` — the receiver does not sleep over a packet.
* `Receiver.Seen` — what a round of polls has found out so far.
* `Waiting.Watchful` — the invariant.

## Main results

* `receiveStep_seen` — **a round keeps its findings**, from poll to poll up to the wait.
* `Waiting.Watchful.step` — every step keeps the invariant.
* `no_lost_wake_up` — in no state of any session is a wake-up lost.
-/

namespace Udpcap

variable {R : Type}

/-! ### Events -/

/-- A session, and the event of each device. -/
structure Waiting (R : Type) where
  session : Session R
  /-- Whether the event is set. -/
  events : Handle → Bool

/-- The handles that are passed to `WaitForMultipleObjects`. -/
def UdpcapSocket.waitHandles (s : UdpcapSocket R) : List Handle :=
  s.pcapWin32Handles.take (Receiver.numHandles s).toNat

/-- The handle whose event a wait reports. -/
def UdpcapSocket.signaled (s : UdpcapSocket R) (waitResult : UInt32) : Option Handle :=
  s.waitHandles[(waitResult - waitObject0).toNat]?

namespace Waiting

/-- The events after an answer to the call in progress; `none` when Npcap or Windows
does not answer so. -/
def eventsAfter (s : Waiting R) : Pc → Reply → Option (Handle → Bool)
  | .poll _ pcapDev, .next errorcode _ _ =>
    -- 0 means that the buffer is empty
    if errorcode = 0 ∧ s.session.queues pcapDev.pcapHandle ≠ [] then none else some s.events
  | .wait _, .wait waitResult _ =>
    match s.session.world.socket.signaled waitResult with
    | none => some s.events
    | some h => if s.events h then some (Function.update s.events h false) else none
  | _, _ => some s.events

/-- An answer to the call in progress. -/
def replyStep (handler : Handler R) (s : Waiting R) (reply : Reply) : Option (Waiting R) :=
  s.session.current.bind fun c => (s.eventsAfter c.receiver.pc reply).bind fun events =>
    (s.session.replyStep handler reply).map fun t => ⟨t, events⟩

end Waiting

/-- One step of a session with events. -/
def wakeStep (np : Npcap) (api : IPReassembly R) (handler : Handler R) (s : Waiting R) :
    SessionLabel → Option (Waiting R)
  | .arrive h pktData =>
    (sessionStep np api handler s.session (.arrive h pktData)).map fun t =>
      ⟨t, Function.update s.events h true⟩
  | .reply reply => s.replyStep handler reply
  | label => (sessionStep np api handler s.session label).map fun t => ⟨t, s.events⟩

namespace Waiting

/-- The receiver is blocked: it waits, and the event of no device that it waits for is
set. -/
def Blocked (s : Waiting R) : Prop :=
  ∃ c ∈ s.session.current, ∃ ms, c.receiver.pc = .wait ms ∧
    ∀ h ∈ s.session.world.socket.waitHandles, s.events h = false

/-- The receiver is not blocked while a packet is in the buffer of a device, unless
there are more devices than it can wait for. -/
def NoLostWakeUp (s : Waiting R) : Prop :=
  s.session.world.socket.pcapDevices.length ≤ maximumWaitObjects.toNat → s.Blocked →
    ∀ pcapDev ∈ s.session.world.socket.pcapDevices, s.session.queues pcapDev.pcapHandle = []

end Waiting

/-! ### The findings of a round -/

namespace Receiver

variable {s : UdpcapSocket R} {A B : Handle → Prop}

/-- What a round of polls has found out so far: as long as it has not received any
data, `A` holds of the devices behind it. -/
def Seen (A : Handle → Prop) (pcapDevices : List PcapDev) (rx : Receiver) : Prop :=
  match rx.pc with
  | .poll k _ =>
    rx.receivedAnyData = false → ∀ pcapDev ∈ pcapDevices.take k, A pcapDev.pcapHandle
  | .handle _ _ _ => rx.receivedAnyData = true
  | .unlockCallback =>
    rx.receivedAnyData = false → ∀ pcapDev ∈ pcapDevices, A pcapDev.pcapHandle
  | .timeCheck | .wait _ => ∀ pcapDev ∈ pcapDevices, A pcapDev.pcapHandle
  | _ => True

theorem Seen.mono (hAB : ∀ h, A h → B h) {pcapDevices : List PcapDev} {rx : Receiver}
    (h : rx.Seen A pcapDevices) : rx.Seen B pcapDevices := by
  unfold Seen at h ⊢
  cases hpc : rx.pc with
  | poll k pcapDev =>
    rw [hpc] at h
    intro hdata dev hdev
    exact hAB _ (h hdata dev hdev)
  | unlockCallback =>
    rw [hpc] at h
    intro hdata dev hdev
    exact hAB _ (h hdata dev hdev)
  | timeCheck =>
    rw [hpc] at h
    intro dev hdev
    exact hAB _ (h dev hdev)
  | wait ms =>
    rw [hpc] at h
    intro dev hdev
    exact hAB _ (h dev hdev)
  | handle k pcapDev pktData =>
    rw [hpc] at h
    exact h
  | _ => trivial

theorem seen_toDevice (rx : Receiver) (s : UdpcapSocket R) (k : ℕ)
    (h : rx.receivedAnyData = false → ∀ pcapDev ∈ s.pcapDevices.take k, A pcapDev.pcapHandle) :
    (rx.toDevice s k).Seen A s.pcapDevices := by
  unfold toDevice Seen
  cases hk : s.pcapDevices[k]? with
  | some pcapDev => exact h
  | none =>
    -- no device is left
    rw [List.take_of_length_le (List.getElem?_eq_none_iff.mp hk)] at h
    exact h

/-- After a packet the round does not end in a wait. -/
theorem seen_afterHandler (A : Handle → Prop) (rx : Receiver) (s : UdpcapSocket R)
    (hdata : rx.receivedAnyData = true) (k : ℕ) (callbackArgs : CallbackArgsRawPtr) :
    (rx.afterHandler s k callbackArgs).Seen A s.pcapDevices := by
  unfold afterHandler
  simp only
  split
  · trivial
  · refine seen_toDevice _ s (k + 1) ?_
    intro hnodata
    have hfalse : rx.receivedAnyData = false := hnodata
    rw [hfalse] at hdata
    cases hdata

end Receiver

/-- **A round keeps its findings**, provided that a poll without a packet finds `B`, and
that what is known to hold does not cease to before the wait ends. -/
theorem receiveStep_seen {handler : Handler R} {s s' : UdpcapSocket R} {rx rx' : Receiver}
    {reply : Reply} {A B : Handle → Prop}
    (h : receiveStep handler s rx reply = some (s', rx')) (hat : rx.AtDevice s)
    (hseen : rx.Seen A s.pcapDevices)
    (hempty : ∀ k pcapDev pktData geterr, rx.pc = .poll k pcapDev →
      reply = .next 0 pktData geterr → B pcapDev.pcapHandle)
    (hAB : (∀ ms, rx.pc ≠ .wait ms) → ∀ h, A h → B h) : rx'.Seen B s'.pcapDevices := by
  have hB : (∀ ms, rx.pc ≠ .wait ms) → rx.Seen B s.pcapDevices := fun hpc =>
    Receiver.Seen.mono (hAB hpc) hseen
  unfold Receiver.Seen at hseen hB
  cases receiveStep_case h with
  | first hpc _ _ =>
    exact Receiver.seen_toDevice rx s 0 fun _ dev hdev => absurd hdev List.not_mem_nil
  | take k pcapDev pktData geterr hpc => exact rfl
  | skip k pcapDev pktData geterr hpc =>
    -- the device is one more that the round has passed
    have hnowait : ∀ ms, rx.pc ≠ .wait ms := by rw [hpc]; nofun
    have hbefore := hB hnowait
    rw [hpc] at hbefore
    refine Receiver.seen_toDevice rx s (k + 1) ?_
    intro hdata dev hdev
    rw [List.take_add_one, (hat.at_poll hpc).getElem?] at hdev
    rcases List.mem_append.mp hdev with hdev | hdev
    · exact hbefore hdata dev hdev
    · rw [List.mem_singleton.mp hdev]
      exact hempty k pcapDev pktData geterr hpc rfl
  | handle k pcapDev pktData env reassemblers callbackArgs hpc _ =>
    rw [hpc] at hseen
    exact Receiver.seen_afterHandler B rx s hseen k callbackArgs
  | noData hpc hdata =>
    have hnowait : ∀ ms, rx.pc ≠ .wait ms := by rw [hpc]; nofun
    have hround := hB hnowait
    rw [hpc] at hround
    exact hround hdata
  | wait now hpc _ =>
    have hnowait : ∀ ms, rx.pc ≠ .wait ms := by rw [hpc]; nofun
    have hround := hB hnowait
    rw [hpc] at hround
    exact hround
  | _ => trivial

/-! ### Devices and events -/

namespace World

variable {np : Npcap} {api : IPReassembly R} {w w' : World R}

/-- The events that the receiver waits for are those of the open devices, in order. -/
def Aligned (w : World R) : Prop :=
  w.socket.pcapWin32Handles = w.socket.pcapDevices.map PcapDev.pcapHandle

theorem Aligned.congr (h : w.Aligned) (hhandles : w'.socket.pcapWin32Handles =
    w.socket.pcapWin32Handles) (hdevices : w'.socket.pcapDevices = w.socket.pcapDevices) :
    w'.Aligned := by
  unfold Aligned at h ⊢
  rw [hhandles, hdevices, h]

/-- **Every operation keeps devices and events aligned.** -/
theorem Aligned.apply (h : w.Aligned) {op : Op} {out : OpResult}
    (hop : w.apply np api op = some (w', out)) : w'.Aligned :=
  (lockstep_apply hop).handles_eq h

/-- Up to 64 devices, the receiver waits for every one of them. -/
theorem Aligned.waitHandles_eq (h : w.Aligned)
    (hle : w.socket.pcapDevices.length ≤ maximumWaitObjects.toNat) :
    w.socket.waitHandles = w.socket.pcapDevices.map PcapDev.pcapHandle := by
  have hlength : w.socket.pcapWin32Handles.length = w.socket.pcapDevices.length := by
    rw [h, List.length_map]
  have hle' : w.socket.pcapDevices.length ≤ 64 := hle
  have hnum : (UInt32.ofNat w.socket.pcapDevices.length).toNat = w.socket.pcapDevices.length := by
    rw [UInt32.toNat_ofNat']
    exact Nat.mod_eq_of_lt (by omega)
  have hnot : ¬maximumWaitObjects < UInt32.ofNat w.socket.pcapDevices.length := by
    rw [UInt32.lt_iff_toNat_lt, hnum]
    exact not_lt.mpr hle
  unfold UdpcapSocket.waitHandles Receiver.numHandles
  simp only [hlength]
  rw [if_neg hnot, hnum, ← hlength, List.take_length, h]

end World

/-! ### The invariant -/

namespace Waiting

variable {np : Npcap} {api : IPReassembly R} {handler : Handler R} {s t : Waiting R}

/-- The event of a device tells of the packets in its buffer. -/
def Announced (s : Waiting R) (h : Handle) : Prop := s.session.queues h ≠ [] → s.events h = true

/-- Devices and events are aligned, and the packets in the buffers of the devices that
a round has passed without receiving data are announced. -/
structure Watchful (handler : Handler R) (s : Waiting R) : Prop where
  wellFormed : s.session.WellFormed handler
  aligned : s.session.world.Aligned
  seen : ∀ c ∈ s.session.current,
    c.receiver.Seen s.Announced s.session.world.socket.pcapDevices

/-- A packet sets the event of its device. -/
theorem Announced.arrive {h : Handle} (hs : s.Announced h) (h' : Handle) (pktData : Bytes)
    (ht : t.session.queues = Function.update s.session.queues h' (s.session.queues h' ++ [pktData]))
    (hevents : t.events = Function.update s.events h' true) : t.Announced h := by
  unfold Announced at hs ⊢
  rw [ht, hevents]
  by_cases hh : h = h'
  · subst hh
    intro _
    exact Function.update_self h true s.events
  · rw [Function.update_of_ne hh, Function.update_of_ne hh]
    exact hs

/-- Unless a wait ends, an answer leaves the events alone. -/
theorem eventsAfter_eq {pc : Pc} (hpc : ∀ ms, pc ≠ .wait ms) {reply : Reply}
    {events : Handle → Bool} (h : s.eventsAfter pc reply = some events) : events = s.events := by
  unfold eventsAfter at h
  split at h
  next =>
    split at h
    · cases h
    · exact (Option.some.inj h).symm
  next ms waitResult lastError => exact absurd rfl (hpc ms)
  next => exact (Option.some.inj h).symm

/-- **What an answer does to a session with events.** -/
theorem replyStep_cases {reply : Reply} (h : s.replyStep handler reply = some t) :
    ∃ c rx, ReplyEffect handler s.session t.session reply c rx ∧
      s.eventsAfter c.receiver.pc reply = some t.events := by
  obtain ⟨c, hc, h⟩ := Option.bind_eq_some_iff.mp h
  obtain ⟨events, hevents, h⟩ := Option.bind_eq_some_iff.mp h
  obtain ⟨u, hu, rfl⟩ := Option.map_eq_some_iff.mp h
  obtain ⟨c', rx, heffect⟩ := replyStep_effect hu
  have hcc : c' = c := Option.some.inj (heffect.current_eq.symm.trans hc)
  subst hcc
  exact ⟨c', rx, heffect, hevents⟩

/-- The session of a session with events takes the same steps. -/
theorem session_step {l : SessionLabel} (h : wakeStep np api handler s l = some t) :
    sessionStep np api handler s.session l = some t.session := by
  cases l with
  | reply reply =>
    obtain ⟨c, -, h⟩ := Option.bind_eq_some_iff.mp h
    obtain ⟨events, -, h⟩ := Option.bind_eq_some_iff.mp h
    obtain ⟨u, hu, rfl⟩ := Option.map_eq_some_iff.mp h
    exact hu
  | arrive h' pktData =>
    cases h
    rfl
  | _ =>
    obtain ⟨u, hu, rfl⟩ := Option.map_eq_some_iff.mp h
    exact hu

/-- A poll that finds no packet has been of an empty buffer. -/
theorem queues_eq_nil_of_next {k : ℕ} {pcapDev : PcapDev} {pktData : Bytes} {geterr : String}
    {events : Handle → Bool}
    (h : s.eventsAfter (.poll k pcapDev) (.next 0 pktData geterr) = some events) :
    s.session.queues pcapDev.pcapHandle = [] := by
  by_contra hqueue
  unfold eventsAfter at h
  simp only at h
  rw [if_pos ⟨trivial, hqueue⟩] at h
  cases h

/-- **An answer to the receiver** keeps the findings of its round. -/
theorem Watchful.reply (hs : s.Watchful handler) {reply : Reply}
    (h : s.replyStep handler reply = some t) :
    t.session.world.Aligned ∧ ∀ c ∈ t.session.current,
      c.receiver.Seen t.Announced t.session.world.socket.pcapDevices := by
  obtain ⟨c, rx, heffect, hevents⟩ := replyStep_cases h
  have hat := hs.wellFormed.atDevice c heffect.current_eq
  have hqueue : ∀ h, s.session.queues h = [] → t.session.queues h = [] := by
    intro h hnil
    have heq := heffect.queues_eq h
    rw [hnil] at heq
    exact (List.append_eq_nil_iff.mp heq.symm).2
  have hseen : rx.Seen t.Announced t.session.world.socket.pcapDevices := by
    refine receiveStep_seen heffect.step hat (hs.seen c heffect.current_eq) ?_ ?_
    · intro k pcapDev pktData geterr hpc hreply
      rw [hpc, hreply] at hevents
      intro hnonempty
      exact absurd (hqueue _ (queues_eq_nil_of_next hevents)) hnonempty
    · intro hpc h hannounced hnonempty
      rw [eventsAfter_eq hpc hevents]
      exact hannounced fun hnil => hnonempty (hqueue h hnil)
  constructor
  · obtain ⟨reassemblers, hsocket⟩ := receiveStep_socket heffect.step
    exact hs.aligned.congr (by rw [hsocket]) (by rw [hsocket])
  · intro c' hc'
    rcases heffect.proceeds _ rfl with ⟨hcurrent, -⟩ | ⟨hcurrent, -⟩
    · rw [hcurrent] at hc'
      cases hc'
      exact hseen
    · rw [hcurrent] at hc'
      cases hc'

/-- **Every step keeps the invariant.** -/
theorem Watchful.step (hs : s.Watchful handler) {l : SessionLabel}
    (h : wakeStep np api handler s l = some t) : t.Watchful handler := by
  have hwf := hs.wellFormed.step (session_step h)
  cases l with
  | arrive h' pktData =>
    cases h
    refine ⟨hwf, hs.aligned, ?_⟩
    intro c hc
    exact Receiver.Seen.mono (fun h hA => hA.arrive h' pktData rfl rfl) (hs.seen c hc)
  | op op =>
    obtain ⟨u, hu, rfl⟩ := Option.map_eq_some_iff.mp h
    unfold sessionStep at hu
    simp only at hu
    split at hu
    next => cases hu
    next hcurrent =>
      obtain ⟨⟨w, out⟩, happly, rfl⟩ := Option.map_eq_some_iff.mp hu
      refine ⟨hwf, hs.aligned.apply happly, ?_⟩
      intro c hc
      exact absurd (Option.isSome_iff_exists.mpr ⟨c, hc⟩) hcurrent
  | call args =>
    obtain ⟨u, hu, rfl⟩ := Option.map_eq_some_iff.mp h
    unfold sessionStep at hu
    simp only at hu
    split at hu
    next => cases hu
    next =>
      cases hu
      refine ⟨hwf, hs.aligned, ?_⟩
      intro c hc
      cases hc
      trivial
  | reply reply =>
    obtain ⟨haligned, hseen⟩ := hs.reply h
    exact ⟨hwf, haligned, hseen⟩

/-- A watchful receiver does not sleep over a packet. -/
theorem Watchful.noLostWakeUp (hs : s.Watchful handler) : s.NoLostWakeUp := by
  rintro hle ⟨c, hc, ms, hpc, hclear⟩ pcapDev hdev
  by_contra hqueue
  have hseen := hs.seen c hc
  unfold Receiver.Seen at hseen
  rw [hpc] at hseen
  have hset : s.events pcapDev.pcapHandle = true := hseen pcapDev hdev hqueue
  rw [hs.aligned.waitHandles_eq hle] at hclear
  rw [hclear _ (List.mem_map.mpr ⟨pcapDev, hdev, rfl⟩)] at hset
  cases hset

end Waiting

/-- **In no state of any session is a wake-up lost**: whenever the receiver is blocked,
the buffers of all devices are empty. -/
theorem no_lost_wake_up (np : Npcap) (api : IPReassembly R) (handler : Handler R)
    (initialized : Bool) (driver : Driver) (helpers : NpcapHelpers) (events : Handle → Bool)
    (labels : List SessionLabel) :
    Foundation.HoldsAlong (wakeStep np api handler) Waiting.NoLostWakeUp
      ⟨Session.start (World.create initialized driver helpers), events⟩ labels := by
  refine Foundation.holdsAlong_of_invariant (I := Waiting.Watchful handler)
    (fun s hs => hs.noLostWakeUp) (fun s l t hs hst => hs.step hst) ?_
  exact ⟨Session.wellFormed_start handler _, rfl, fun c hc => absurd hc (Option.not_mem_none c)⟩

-- a packet that arrives after its device was polled ends the wait; the event is then clear
-- with the packet still in the buffer, but the receiver polls once more
example :
    let np := Npcap.ofLinkTypes fun _ => linktypeNull
    let step := wakeStep np SmallPcpp.api (packetHandlerRawPtr SmallPcpp.pcpp SmallPcpp.api)
    let start : Waiting SmallPcpp.Reassembler :=
      ⟨Session.start (World.create true ⟨0, []⟩ .initial), fun _ => false⟩
    let args : ReceiveArgs := ⟨[0], 1, by decide, -1, none, none, .ofCode .ok⟩
    let labels : List SessionLabel := [.op (.bind none .localHost 5000), .call args, .reply .tau,
      .reply .tau, .reply .tau, .reply .tau, .reply (.next 0 [] ""), .arrive 0 [7], .reply .tau,
      .reply (.clock 0), .reply (.wait 0 "")]
    (Foundation.run step start labels).map (fun s =>
      (s.session.current.map (fun c => c.receiver.pc), s.events 0, s.session.queues 0)) =
        some (some .lockCallback, false, [[7]]) := by
  decide +kernel

end Udpcap
