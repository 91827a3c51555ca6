import Udpcap.Foundation.Transition
import Udpcap.Receive

/-!
# Sessions

A socket whose user calls `receiveDatagram` and the other operations in any order,
while packets arrive at the devices.  A session also keeps account of the packets
that arrived and were taken, of every call of the packet handler, and of every
finished call of `receiveDatagram`.

## Main definitions

* `HandlerCall`, `CallRecord` — the account of a handler call and of a finished call.
* `Session`, `sessionStep` — the state, and one step.
* `ReplyEffect` — what a step of `receiveDatagram` does to a session.
* `HandlerCall.Made` — what the handler is called with.

## Main results

* `replyStep_effect` — a step of `receiveDatagram` has the effect that it should.
* `Session.WellFormed.step` — **every handler call is made for a device of a bound
  socket**, with the arguments of the source.
-/

namespace Udpcap

variable {R : Type}

/-! ### The account -/

/-- A call of the packet handler. -/
structure HandlerCall (R : Type) where
  /-- The socket at the time of the call. -/
  socket : UdpcapSocket R
  /-- The position of the device in `pcap_devices_`. -/
  device : ℕ
  pcapDev : PcapDev
  args : CallbackArgsRawPtr
  pktData : Bytes
  env : ProcessEnv
  result : Option (List (IpReassembly R) × CallbackArgsRawPtr)

/-- The handler has filled in a datagram. -/
def HandlerCall.succeeded (x : HandlerCall R) : Bool := x.result.any fun o => o.2.success

/-- A finished call of `receiveDatagram`: its arguments, what its pointers point to
now, its return value, and the handler calls it made. -/
structure CallRecord (R : Type) where
  receiver : Receiver
  result : ℕ
  handlerCalls : List (HandlerCall R)

/-- A call of `receiveDatagram` in progress. -/
structure CallInProgress (R : Type) where
  receiver : Receiver
  handlerCalls : List (HandlerCall R)

/-- The state of a session. -/
structure Session (R : Type) where
  world : World R
  /-- The packets in the buffer of each device, the oldest first. -/
  queues : Handle → List Bytes
  /-- The packets that have ever arrived at each device. -/
  arrived : Handle → List Bytes
  /-- The packets that `pcap_next_ex` has returned. -/
  taken : List (Handle × Bytes)
  current : Option (CallInProgress R)
  returned : List (CallRecord R)

/-- A session that begins in a given world. -/
def Session.start (w : World R) : Session R := ⟨w, fun _ => [], fun _ => [], [], none, []⟩

/-- The handler calls of a session, in order. -/
def Session.handlerCalls (s : Session R) : List (HandlerCall R) :=
  s.returned.flatMap CallRecord.handlerCalls ++ (s.current.map CallInProgress.handlerCalls).getD []

/-! ### Steps -/

inductive SessionLabel
  /-- A packet arrives at a device. -/
  | arrive (h : Handle) (pktData : Bytes)
  /-- An operation is called. -/
  | op (op : Op)
  /-- `receiveDatagram` is called. -/
  | call (args : ReceiveArgs)
  /-- The call in progress gets an answer. -/
  | reply (reply : Reply)

/-- A packet that `pcap_next_ex` returns comes from the head of the buffer. -/
def Session.takePacket (s : Session R) (pc : Pc) (reply : Reply) : Option (Session R) :=
  match pc.takes reply with
  | none => some s
  | some (h, pktData) =>
    match s.queues h with
    | [] => none
    | head :: later =>
      if head = pktData then
        some { s with
          queues := Function.update s.queues h later
          taken := s.taken ++ [(h, pktData)] }
      else none

/-- The handler call that a step of `receiveDatagram` consists of, if any. -/
def handlerCallOf (handler : Handler R) (s : UdpcapSocket R) (rx : Receiver) (reply : Reply) :
    List (HandlerCall R) :=
  match rx.pc, reply with
  | .handle k pcapDev pktData, .handled env =>
    [⟨s, k, pcapDev, rx.callbackArgs s, pktData, env,
      handler s.pcapDevicesIpReassembly (rx.callbackArgs s) pktData env⟩]
  | _, _ => []

/-- A step without a packet in flight makes no handler call. -/
theorem handlerCallOf_of_inFlight {handler : Handler R} {s : UdpcapSocket R} {rx : Receiver}
    (h : rx.pc.inFlight = none) (reply : Reply) : handlerCallOf handler s rx reply = [] := by
  unfold handlerCallOf
  split
  next hpc =>
    rw [hpc] at h
    cases h
  next => rfl

theorem mem_handlerCallOf {handler : Handler R} {s : UdpcapSocket R} {rx : Receiver}
    {reply : Reply} {x : HandlerCall R} (hx : x ∈ handlerCallOf handler s rx reply) :
    ∃ k pcapDev pktData env, rx.pc = .handle k pcapDev pktData ∧
      x = ⟨s, k, pcapDev, rx.callbackArgs s, pktData, env,
        handler s.pcapDevicesIpReassembly (rx.callbackArgs s) pktData env⟩ := by
  unfold handlerCallOf at hx
  split at hx
  case h_1 k pcapDev pktData env hpc =>
    exact ⟨k, pcapDev, pktData, env, hpc, List.mem_singleton.mp hx⟩
  case h_2 => cases hx

/-- Files a call that has returned. -/
def Session.proceed (s : Session R) (c : CallInProgress R) : Session R :=
  match c.receiver.pc with
  | .returned result =>
    { s with current := none, returned := s.returned ++ [⟨c.receiver, result, c.handlerCalls⟩] }
  | _ => { s with current := some c }

/-- A step of the call in progress. -/
def Session.replyStep (handler : Handler R) (s : Session R) (reply : Reply) : Option (Session R) :=
  s.current.bind fun c => (s.takePacket c.receiver.pc reply).bind fun s =>
    (receiveStep handler s.world.socket c.receiver reply).map fun o =>
      let t : Session R := { s with world.socket := o.1 }
      t.proceed ⟨o.2, c.handlerCalls ++ handlerCallOf handler s.world.socket c.receiver reply⟩

/-- One step of a session.  Operations are not called while `receiveDatagram` runs. -/
def sessionStep (np : Npcap) (api : IPReassembly R) (handler : Handler R) (s : Session R) :
    SessionLabel → Option (Session R)
  | .arrive h pktData =>
    some { s with
      queues := Function.update s.queues h (s.queues h ++ [pktData])
      arrived := Function.update s.arrived h (s.arrived h ++ [pktData]) }
  | .op op =>
    if s.current.isSome then none
    else (s.world.apply np api op).map fun o => { s with world := o.1 }
  | .call args =>
    if s.current.isSome then none else some { s with current := some ⟨.create args, []⟩ }
  | .reply reply => s.replyStep handler reply

/-! ### The effect of a step of `receiveDatagram` -/

/-- The packets of one device, in order. -/
def packetsOn (h : Handle) (l : List (Handle × Bytes)) : List Bytes :=
  (l.filter fun p => p.1 = h).map Prod.snd

theorem packetsOn_append (h : Handle) (l l' : List (Handle × Bytes)) :
    packetsOn h (l ++ l') = packetsOn h l ++ packetsOn h l' := by
  unfold packetsOn
  rw [List.filter_append, List.map_append]

theorem packetsOn_singleton (h h' : Handle) (pktData : Bytes) :
    packetsOn h [(h', pktData)] = if h' = h then [pktData] else [] := by
  unfold packetsOn
  by_cases hh : h' = h
  · simp [hh]
  · simp [hh]

variable {handler : Handler R} {s t : Session R}

/-- What the step of a call `c` to `rx` does to a session. -/
structure ReplyEffect (handler : Handler R) (s t : Session R) (reply : Reply)
    (c : CallInProgress R) (rx : Receiver) : Prop where
  current_eq : s.current = some c
  step : receiveStep handler s.world.socket c.receiver reply = some (t.world.socket, rx)
  driver_eq : t.world.driver = s.world.driver
  arrived_eq : t.arrived = s.arrived
  taken_eq : t.taken = s.taken ++ (c.receiver.pc.takes reply).toList
  queues_eq : ∀ h, s.queues h = packetsOn h (c.receiver.pc.takes reply).toList ++ t.queues h
  /-- The call goes on, or it has returned and is filed. -/
  proceeds : ∀ calls,
    calls = c.handlerCalls ++ handlerCallOf handler s.world.socket c.receiver reply →
    (t.current = some ⟨rx, calls⟩ ∧ t.returned = s.returned) ∨
      (t.current = none ∧ ∃ n, rx.pc = .returned n ∧ t.returned = s.returned ++ [⟨rx, n, calls⟩])

theorem takePacket_cases {pc : Pc} {reply : Reply} (h : s.takePacket pc reply = some t) :
    (pc.takes reply = none ∧ t = s) ∨
      ∃ h pktData later, pc.takes reply = some (h, pktData) ∧ s.queues h = pktData :: later ∧
        t = { s with
          queues := Function.update s.queues h later
          taken := s.taken ++ [(h, pktData)] } := by
  unfold Session.takePacket at h
  split at h
  next hnone =>
    cases h
    exact Or.inl ⟨hnone, rfl⟩
  next h' pktData hsome =>
    right
    split at h
    next => cases h
    next head later hqueue =>
      split at h
      next hhead =>
        cases h
        exact ⟨h', pktData, later, hsome, hhead ▸ hqueue, rfl⟩
      next => cases h

/-- **A step of `receiveDatagram` has the effect that it should.** -/
theorem replyStep_effect {reply : Reply} (h : s.replyStep handler reply = some t) :
    ∃ c rx, ReplyEffect handler s t reply c rx := by
  unfold Session.replyStep at h
  obtain ⟨c, hc, h⟩ := Option.bind_eq_some_iff.mp h
  obtain ⟨v, hv, h⟩ := Option.bind_eq_some_iff.mp h
  obtain ⟨⟨socket, rx⟩, hstep, ht⟩ := Option.map_eq_some_iff.mp h
  have hworld : v.world = s.world ∧ v.arrived = s.arrived ∧ v.returned = s.returned ∧
      v.taken = s.taken ++ (c.receiver.pc.takes reply).toList ∧
      ∀ h, s.queues h = packetsOn h (c.receiver.pc.takes reply).toList ++ v.queues h := by
    rcases takePacket_cases hv with ⟨hnone, rfl⟩ | ⟨h', pktData, later, hsome, hqueue, rfl⟩
    · rw [hnone]
      exact ⟨rfl, rfl, rfl, (List.append_nil _).symm, fun h => rfl⟩
    · rw [hsome]
      refine ⟨rfl, rfl, rfl, rfl, ?_⟩
      intro h
      show s.queues h = packetsOn h [(h', pktData)] ++ Function.update s.queues h' later h
      rw [packetsOn_singleton]
      by_cases hh : h' = h
      · subst hh
        rw [if_pos rfl, Function.update_self, hqueue]
        rfl
      · rw [if_neg hh, Function.update_of_ne (Ne.symm hh)]
        rfl
  obtain ⟨hworld, harrived, hreturned, htaken, hqueues⟩ := hworld
  rw [hworld] at hstep ht
  refine ⟨c, rx, ?_⟩
  unfold Session.proceed at ht
  simp only at ht
  split at ht
  next n hpc =>
    subst ht
    exact ⟨hc, hstep, rfl, harrived, htaken, hqueues, fun calls hcalls =>
      Or.inr ⟨rfl, n, hpc, by rw [hcalls, ← hreturned]⟩⟩
  next =>
    subst ht
    exact ⟨hc, hstep, rfl, harrived, htaken, hqueues, fun calls hcalls =>
      Or.inl ⟨by rw [hcalls], hreturned⟩⟩

/-- The handler calls of a session grow by the one that the step consists of. -/
theorem ReplyEffect.handlerCalls_eq {reply : Reply} {c : CallInProgress R} {rx : Receiver}
    (h : ReplyEffect handler s t reply c rx) :
    t.handlerCalls = s.handlerCalls ++ handlerCallOf handler s.world.socket c.receiver reply := by
  unfold Session.handlerCalls
  rw [h.current_eq]
  rcases h.proceeds _ rfl with ⟨hcurrent, hreturned⟩ | ⟨hcurrent, n, -, hreturned⟩
  · rw [hcurrent, hreturned]
    exact (List.append_assoc _ _ _).symm
  · rw [hcurrent, hreturned, List.flatMap_append, List.append_assoc]
    simp

/-- **What a step of a session is.** -/
theorem sessionStep_cases {np : Npcap} {api : IPReassembly R} {l : SessionLabel}
    (h : sessionStep np api handler s l = some t) :
    (∃ h pktData, l = .arrive h pktData ∧ t = { s with
        queues := Function.update s.queues h (s.queues h ++ [pktData])
        arrived := Function.update s.arrived h (s.arrived h ++ [pktData]) }) ∨
      (∃ op w out, l = .op op ∧ s.current = none ∧ s.world.apply np api op = some (w, out) ∧
        t = { s with world := w }) ∨
      (∃ args, l = .call args ∧ s.current = none ∧
        t = { s with current := some ⟨.create args, []⟩ }) ∨
      ∃ reply c rx, l = .reply reply ∧ ReplyEffect handler s t reply c rx := by
  cases l with
  | arrive h' pktData =>
    cases h
    exact Or.inl ⟨h', pktData, rfl, rfl⟩
  | op op =>
    right; left
    unfold sessionStep at h
    simp only at h
    split at h
    next => cases h
    next hcurrent =>
      obtain ⟨⟨w, out⟩, happly, ht⟩ := Option.map_eq_some_iff.mp h
      exact ⟨op, w, out, rfl, by simpa using hcurrent, happly, ht.symm⟩
  | call args =>
    right; right; left
    unfold sessionStep at h
    simp only at h
    split at h
    next => cases h
    next hcurrent =>
      cases h
      exact ⟨args, rfl, by simpa using hcurrent, rfl⟩
  | reply reply =>
    right; right; right
    obtain ⟨c, rx, heffect⟩ := replyStep_effect h
    exact ⟨reply, c, rx, rfl, heffect⟩

/-- A call of `receiveDatagram` has changed at most the reassemblers of the socket. -/
structure World.Reassembles (w w' : World R) : Prop where
  socket : ∃ reassemblers, w'.socket = { w.socket with pcapDevicesIpReassembly := reassemblers }
  driver : w'.driver = w.driver

theorem World.Reassembles.refl (w : World R) : w.Reassembles w := ⟨⟨_, rfl⟩, rfl⟩

theorem ReplyEffect.reassembles {reply : Reply} {c : CallInProgress R} {rx : Receiver}
    (h : ReplyEffect handler s t reply c rx) : s.world.Reassembles t.world :=
  ⟨receiveStep_socket h.step, h.driver_eq⟩

/-- **What a step of a session does to the world**: it is an operation, or it changes at most
the reassemblers. -/
theorem sessionStep_world {np : Npcap} {api : IPReassembly R} {l : SessionLabel}
    (h : sessionStep np api handler s l = some t) :
    (∃ op out, l = .op op ∧ s.current = none ∧
        s.world.apply np api op = some (t.world, out)) ∨ s.world.Reassembles t.world := by
  rcases sessionStep_cases h with ⟨h', pktData, -, rfl⟩ | ⟨op, w, out, hl, hcurrent, hop, rfl⟩ |
    ⟨args, -, -, rfl⟩ | ⟨reply, c, rx, -, heffect⟩
  · exact Or.inr (.refl s.world)
  · exact Or.inl ⟨op, out, hl, hcurrent, hop⟩
  · exact Or.inr (.refl s.world)
  · exact Or.inr heffect.reassembles

/-! ### What the handler is called with -/

/-- A handler call is made for a device of a bound socket, with the arguments of the
source. -/
structure HandlerCall.Made (handler : Handler R) (x : HandlerCall R) : Prop where
  deviceAt : Receiver.DeviceAt x.socket x.device x.pcapDev
  linkType : x.args.linkType = linktypeNull
  boundPort : x.args.boundPort = x.socket.boundPort
  ipReassembly : x.args.ipReassembly = none
  success : x.args.success = false
  result : x.result = handler x.socket.pcapDevicesIpReassembly x.args x.pktData x.env

/-- A call in progress works on the devices of a bound socket, and all handler calls
are made as they should be. -/
structure Session.WellFormed (handler : Handler R) (s : Session R) : Prop where
  atDevice : ∀ c ∈ s.current, c.receiver.AtDevice s.world.socket
  made : ∀ x ∈ s.handlerCalls, x.Made handler

theorem made_handlerCallOf {socket : UdpcapSocket R} {rx : Receiver} (hat : rx.AtDevice socket)
    (reply : Reply) : ∀ x ∈ handlerCallOf handler socket rx reply, x.Made handler := by
  intro x hx
  obtain ⟨k, pcapDev, pktData, env, hpc, rfl⟩ := mem_handlerCallOf hx
  exact ⟨hat.at_handle hpc, rfl, rfl, rfl, rfl, rfl⟩

theorem Session.wellFormed_start (handler : Handler R) (w : World R) :
    (Session.start w).WellFormed handler where
  atDevice := fun c hc => absurd hc (Option.not_mem_none c)
  made := fun x hx => absurd hx (List.not_mem_nil (a := x))

/-- **Every handler call is made for a device of a bound socket**, with the arguments
of the source. -/
theorem Session.WellFormed.step {np : Npcap} {api : IPReassembly R} {l : SessionLabel}
    (hs : s.WellFormed handler) (h : sessionStep np api handler s l = some t) :
    t.WellFormed handler := by
  rcases sessionStep_cases h with ⟨h', pktData, rfl, rfl⟩ | ⟨op, w, out, rfl, hcurrent, -, rfl⟩ |
    ⟨args, rfl, hcurrent, rfl⟩ | ⟨reply, c, rx, rfl, heffect⟩
  · exact ⟨hs.atDevice, hs.made⟩
  · refine ⟨?_, hs.made⟩
    intro c hc
    have hc' : c ∈ s.current := hc
    rw [hcurrent] at hc'
    cases hc'
  · constructor
    · intro c hc
      cases hc
      trivial
    · intro x hx
      apply hs.made x
      unfold Session.handlerCalls at hx ⊢
      rw [hcurrent]
      exact hx
  · have hat := hs.atDevice c heffect.current_eq
    constructor
    · obtain ⟨-, hat'⟩ := receiveStep_atDevice heffect.step hat
      intro c' hc'
      rcases heffect.proceeds _ rfl with ⟨hcurrent, -⟩ | ⟨hcurrent, -⟩
      · rw [hcurrent] at hc'
        cases hc'
        exact hat'
      · rw [hcurrent] at hc'
        cases hc'
    · intro x hx
      rw [heffect.handlerCalls_eq] at hx
      rcases List.mem_append.mp hx with hx | hx
      · exact hs.made x hx
      · exact made_handlerCallOf hat reply x hx

end Udpcap
