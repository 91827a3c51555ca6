import Udpcap.Session

/-!
# What `receiveDatagram` delivers

Every packet that is taken from a device is handled once, a call that succeeds
returns the packet it handled last, and a call that fails leaves no trace.  What the
handler recognises in a packet is a parameter.

## Main definitions

* `Recognizer`, `handlerOf` — the part of the handler that decides what a packet is, and
  the handler that is built on it.
* `Outcome` — what a call has done when it returns.
* `Session.Delivered` — the property of a session.

## Main results

* `packetHandlerRawPtr_eq_handlerOf` — the packet handler is built on `recognizePacket`.
* `Progress.step` — **a step of `receiveDatagram` keeps the account of a call.**
* `session_delivered` — the property in every state of a session.
-/

namespace Udpcap

variable {R : Type}

/-! ### Recognition -/

/-- What decides what the handler takes a packet for. -/
abbrev Recognizer (R : Type) :=
  List (IpReassembly R) → LinkLayerType → Option ℕ → Bytes → ProcessEnv →
    Option (List (IpReassembly R) × Recognized)

/-- The handler that is built on a recogniser. -/
def handlerOf (recognize : Recognizer R) : Handler R := fun reassemblers callbackArgs pktData env =>
  (recognize reassemblers callbackArgs.linkType callbackArgs.ipReassembly pktData env).map
    fun o => (o.1, fillRecognized callbackArgs o.2)

theorem packetHandlerRawPtr_eq_handlerOf (pcpp : Pcpp) (api : IPReassembly R) :
    packetHandlerRawPtr pcpp api = handlerOf (recognizePacket pcpp api) := by
  funext reassemblers callbackArgs pktData env
  exact packetHandlerRawPtr_eq reassemblers callbackArgs pktData env

variable {recognize : Recognizer R}

namespace HandlerCall

/-- What the packet of a handler call was taken for. -/
def recognized (recognize : Recognizer R) (x : HandlerCall R) : Recognized :=
  (recognize x.socket.pcapDevicesIpReassembly x.args.linkType x.args.ipReassembly x.pktData
    x.env).bind Prod.snd

/-- The packet of a handler call, and the device that it comes from. -/
def packet (x : HandlerCall R) : Handle × Bytes := (x.pcapDev.pcapHandle, x.pktData)

/-- The handler succeeds exactly on the datagrams for the bound port. -/
theorem Made.succeeded_iff {x : HandlerCall R} (hx : x.Made (handlerOf recognize)) :
    x.succeeded = true ↔ ∃ ip udp, x.recognized recognize = some (ip, udp) ∧
      ntohs udp.portDst = x.socket.boundPort := by
  unfold succeeded recognized
  rw [hx.result, ← hx.boundPort]
  unfold handlerOf
  cases recognize x.socket.pcapDevicesIpReassembly x.args.linkType x.args.ipReassembly x.pktData
      x.env with
  | none =>
    constructor
    · intro h
      cases h
    · rintro ⟨ip, udp, h, -⟩
      cases h
  | some o => exact success_fillRecognized o.2 hx.success

end HandlerCall

/-! ### The outcome of a call -/

/-- A call has not touched what its pointers point to, apart from the error. -/
structure Receiver.Untouched (rx : Receiver) : Prop where
  data : rx.data = rx.args.data
  sourceAddress : rx.sourceAddress = rx.args.sourceAddress
  sourcePort : rx.sourcePort = rx.args.sourcePort

theorem Receiver.Untouched.congr {rx rx' : Receiver} (h : rx.Untouched) (hquiet : rx.Quiet rx') :
    rx'.Untouched where
  data := by rw [hquiet.data, hquiet.args, h.data]
  sourceAddress := by rw [hquiet.sourceAddress, hquiet.args, h.sourceAddress]
  sourcePort := by rw [hquiet.sourcePort, hquiet.args, h.sourcePort]

/-- A call has filled in a datagram: the buffer up to the result, and the source. -/
structure Receiver.Filled (rx : Receiver) (n : ℕ) (ip : IPv4Layer) (udp : UdpLayer) : Prop where
  result : n = min rx.args.maxLen udp.layerPayload.length
  take_data : rx.data.take n = udp.layerPayload.take n
  drop_data : rx.data.drop n = rx.args.data.drop n
  sourceAddress : rx.sourceAddress =
    rx.args.sourceAddress.map fun _ => HostAddress.ofInt ip.srcIPv4Address
  sourcePort : rx.sourcePort = rx.args.sourcePort.map fun _ => ntohs udp.portSrc

/-- A call that returns `result` and has made the handler calls `calls` has succeeded
with its last handler call, or has failed. -/
def Outcome (recognize : Recognizer R) (rx : Receiver) (result : ℕ)
    (calls : List (HandlerCall R)) : Prop :=
  (rx.error.errorCode = .ok ∧ ∃ earlier x ip udp, calls = earlier ++ [x] ∧
      (∀ y ∈ earlier, y.succeeded = false) ∧ x.succeeded = true ∧
      x.recognized recognize = some (ip, udp) ∧ rx.Filled result ip udp) ∨
    (rx.error.errorCode ≠ .ok ∧ (∀ y ∈ calls, y.succeeded = false) ∧ result = 0 ∧ rx.Untouched)

/-- The account of a call in progress. -/
def Progress (recognize : Recognizer R) (rx : Receiver) (calls : List (HandlerCall R)) : Prop :=
  match rx.pc.result with
  | some result => Outcome recognize rx result calls
  | none => (∀ y ∈ calls, y.succeeded = false) ∧ rx.Untouched

theorem Outcome.congr {rx rx' : Receiver} {result : ℕ} {calls : List (HandlerCall R)}
    (h : Outcome recognize rx result calls) (hquiet : rx.Quiet rx')
    (herror : rx'.error = rx.error) : Outcome recognize rx' result calls := by
  rcases h with ⟨hok, earlier, x, ip, udp, hcalls, hearlier, hx, hrec, hfilled⟩ |
    ⟨hfail, hcalls, hresult, huntouched⟩
  · refine Or.inl ⟨herror ▸ hok, earlier, x, ip, udp, hcalls, hearlier, hx, hrec, ?_⟩
    refine ⟨?_, ?_, ?_, ?_, ?_⟩
    · rw [hquiet.args]
      exact hfilled.result
    · rw [hquiet.data]
      exact hfilled.take_data
    · rw [hquiet.data, hquiet.args]
      exact hfilled.drop_data
    · rw [hquiet.sourceAddress, hquiet.args]
      exact hfilled.sourceAddress
    · rw [hquiet.sourcePort, hquiet.args]
      exact hfilled.sourcePort
  · exact Or.inr ⟨herror ▸ hfail, hcalls, hresult, huntouched.congr hquiet⟩

/-- A step that does not call the handler keeps the account of a call. -/
theorem Progress.quiet {rx rx' : Receiver} {calls : List (HandlerCall R)}
    (h : Progress recognize rx calls) (hquiet : rx.Quiet rx') : Progress recognize rx' calls := by
  unfold Progress at h ⊢
  rcases hquiet.result with ⟨hnone, hnone'⟩ | ⟨hnone, hzero, herror⟩ | ⟨hsame, herror⟩
  · rw [hnone] at h
    rw [hnone']
    exact ⟨h.1, h.2.congr hquiet⟩
  · rw [hnone] at h
    rw [hzero]
    exact Or.inr ⟨herror, h.1, rfl, h.2.congr hquiet⟩
  · rw [hsame]
    cases hres : rx.pc.result with
    | none =>
      rw [hres] at h
      exact ⟨h.1, h.2.congr hquiet⟩
    | some result =>
      rw [hres] at h
      exact h.congr hquiet herror

/-- The datagram is filled into the memory that the caller has passed. -/
theorem filled_fillRecognized (rx : Receiver) (s : UdpcapSocket R) (huntouched : rx.Untouched)
    {ip : IPv4Layer} {udp : UdpLayer} (hport : ntohs udp.portDst = s.boundPort) (k : ℕ) :
    let callbackArgs := fillRecognized (rx.callbackArgs s) (some (ip, udp))
    rx.afterHandler s k callbackArgs = { rx with
      data := callbackArgs.destinationBuffer
      sourceAddress := callbackArgs.sourceAddress
      sourcePort := callbackArgs.sourcePort
      error := rx.error.assignCode .ok
      pc := .leaveRound callbackArgs.bytesCopied } ∧
    (rx.afterHandler s k callbackArgs).Filled callbackArgs.bytesCopied ip udp := by
  intro callbackArgs
  have hfill : callbackArgs = { rx.callbackArgs s with
      sourceAddress := rx.sourceAddress.map fun _ => HostAddress.ofInt ip.srcIPv4Address
      sourcePort := rx.sourcePort.map fun _ => ntohs udp.portSrc
      destinationBuffer := copyPrefix rx.data udp.layerPayload
        (min rx.args.maxLen udp.layerPayload.length)
      bytesCopied := min rx.args.maxLen udp.layerPayload.length
      success := true } := if_pos hport
  have hafter : rx.afterHandler s k callbackArgs = { rx with
      data := callbackArgs.destinationBuffer
      sourceAddress := callbackArgs.sourceAddress
      sourcePort := callbackArgs.sourcePort
      error := rx.error.assignCode .ok
      pc := .leaveRound callbackArgs.bytesCopied } := by
    unfold Receiver.afterHandler
    have hsuccess : callbackArgs.success = true := by rw [hfill]
    exact if_pos hsuccess
  refine ⟨hafter, ?_⟩
  rw [hafter, hfill]
  have hlen : (udp.layerPayload.take (min rx.args.maxLen udp.layerPayload.length)).length =
      min rx.args.maxLen udp.layerPayload.length := by
    rw [List.length_take]
    omega
  constructor
  · rfl
  · exact List.take_left' hlen
  · show List.drop _ (copyPrefix rx.data udp.layerPayload _) = _
    rw [← huntouched.data]
    exact List.drop_left' hlen
  · show rx.sourceAddress.map _ = _
    rw [huntouched.sourceAddress]
  · show rx.sourcePort.map _ = _
    rw [huntouched.sourcePort]

/-- A call that goes on after a handler call without success. -/
theorem Progress.unsuccessful {rx : Receiver} {calls : List (HandlerCall R)} {x : HandlerCall R}
    (hcalls : ∀ y ∈ calls, y.succeeded = false) (hx : x.succeeded = false)
    (hresult : rx.pc.result = none) (huntouched : rx.Untouched) :
    Progress recognize rx (calls ++ [x]) := by
  unfold Progress
  rw [hresult]
  refine ⟨?_, huntouched⟩
  intro y hy
  rcases List.mem_append.mp hy with hy | hy
  · exact hcalls y hy
  · rw [List.mem_singleton.mp hy]
    exact hx

/-- A handler call with success ends the call, and its datagram is returned. -/
theorem Progress.successful {s : UdpcapSocket R} {rx : Receiver} {calls : List (HandlerCall R)}
    {x : HandlerCall R} (hcalls : ∀ y ∈ calls, y.succeeded = false) (huntouched : rx.Untouched)
    (hx : x.succeeded = true) {ip : IPv4Layer} {udp : UdpLayer}
    (hrec : x.recognized recognize = some (ip, udp)) (hport : ntohs udp.portDst = s.boundPort)
    (k : ℕ) :
    Progress recognize (rx.afterHandler s k (fillRecognized (rx.callbackArgs s) (some (ip, udp))))
      (calls ++ [x]) := by
  obtain ⟨hafter, hfilled⟩ := filled_fillRecognized rx s huntouched hport k
  have hok : (rx.afterHandler s k
      (fillRecognized (rx.callbackArgs s) (some (ip, udp)))).error.errorCode = .ok := by
    rw [hafter]
    rfl
  have hresult : (rx.afterHandler s k
      (fillRecognized (rx.callbackArgs s) (some (ip, udp)))).pc.result =
        some (fillRecognized (rx.callbackArgs s) (some (ip, udp))).bytesCopied := by
    rw [hafter]
    rfl
  unfold Progress
  rw [hresult]
  exact Or.inl ⟨hok, calls, x, ip, udp, rfl, hcalls, hx, hrec, hfilled⟩

/-- **A step of `receiveDatagram` keeps the account of a call.** -/
theorem Progress.step {s s' : UdpcapSocket R} {rx rx' : Receiver} {reply : Reply}
    {calls : List (HandlerCall R)} (h : Progress recognize rx calls)
    (hstep : receiveStep (handlerOf recognize) s rx reply = some (s', rx')) :
    Progress recognize rx' (calls ++ handlerCallOf (handlerOf recognize) s rx reply) := by
  rcases receiveStep_cases hstep with ⟨k, pcapDev, pktData, env, hpc, rfl, hcase⟩ |
    ⟨hin, -, hquiet⟩
  · unfold Progress at h
    rw [hpc] at h
    obtain ⟨hcalls, huntouched⟩ : (∀ y ∈ calls, y.succeeded = false) ∧ rx.Untouched := h
    have hcall : handlerCallOf (handlerOf recognize) s rx (.handled env) =
        [⟨s, k, pcapDev, rx.callbackArgs s, pktData, env,
          handlerOf recognize s.pcapDevicesIpReassembly (rx.callbackArgs s) pktData env⟩] := by
      unfold handlerCallOf
      rw [hpc]
    rw [hcall]
    rcases hcase with ⟨hcrash, -, rfl⟩ | ⟨reassemblers, callbackArgs, hresult, -, rfl⟩
    · -- the handler had undefined behaviour
      refine Progress.unsuccessful hcalls ?_ rfl
        ⟨huntouched.data, huntouched.sourceAddress, huntouched.sourcePort⟩
      unfold HandlerCall.succeeded
      rw [hcrash]
      rfl
    · obtain ⟨⟨_, d⟩, hrec, heq⟩ := Option.map_eq_some_iff.mp hresult
      obtain ⟨rfl, rfl⟩ := Prod.mk.inj heq
      cases hsuccess : (fillRecognized (rx.callbackArgs s) d).success with
      | true =>
        obtain ⟨ip, udp, rfl, hport⟩ := (success_fillRecognized d rfl).mp hsuccess
        refine Progress.successful hcalls huntouched ?_ ?_ hport k
        · unfold HandlerCall.succeeded
          rw [hresult]
          exact hsuccess
        · have hrec' : recognize s.pcapDevicesIpReassembly (rx.callbackArgs s).linkType
              (rx.callbackArgs s).ipReassembly pktData env = some (_, some (ip, udp)) := hrec
          unfold HandlerCall.recognized
          simp only
          rw [hrec']
          rfl
      | false =>
        have hsame := fillRecognized_of_not_success d hsuccess
        have hafter : rx.afterHandler s k (rx.callbackArgs s) = rx.toDevice s (k + 1) := rfl
        rw [hsame, hafter]
        refine Progress.unsuccessful hcalls ?_ (rx.result_toDevice s (k + 1))
          ⟨huntouched.data, huntouched.sourceAddress, huntouched.sourcePort⟩
        unfold HandlerCall.succeeded
        rw [hresult]
        exact hsuccess
  · rw [handlerCallOf_of_inFlight hin, List.append_nil]
    exact h.quiet hquiet

/-! ### Sessions -/

/-- The handler call with which a finished call has succeeded, if it has. -/
def CallRecord.delivering (c : CallRecord R) : Option (HandlerCall R) :=
  if c.receiver.error.errorCode = .ok then c.handlerCalls.getLast? else none

/-- The packet that the call in progress has taken and not yet handled. -/
def Session.inFlight (s : Session R) : Option (Handle × Bytes) :=
  s.current.bind fun c => c.receiver.pc.inFlight

/-- What is delivered in a session. -/
structure Session.Delivered (recognize : Recognizer R) (s : Session R) : Prop where
  /-- A device hands out what arrives, in order. -/
  arrived_eq : ∀ h, s.arrived h = packetsOn h s.taken ++ s.queues h
  /-- Every packet that is taken is handled once, in order. -/
  taken_eq : s.taken = s.handlerCalls.map HandlerCall.packet ++ s.inFlight.toList
  /-- The successful calls return, device by device and in order, the packets on which
  the handler has succeeded, each in the call that took it. -/
  delivering_eq : ∀ h,
    (s.returned.filterMap CallRecord.delivering).filter (fun x => x.pcapDev.pcapHandle = h) =
      ((s.returned.flatMap CallRecord.handlerCalls).filter fun x => x.pcapDev.pcapHandle = h).filter
        HandlerCall.succeeded
  outcome : ∀ c ∈ s.returned, Outcome recognize c.receiver c.result c.handlerCalls

/-- The invariant behind it. -/
structure Session.Accounted (recognize : Recognizer R) (s : Session R) : Prop where
  wellFormed : s.WellFormed (handlerOf recognize)
  arrived_eq : ∀ h, s.arrived h = packetsOn h s.taken ++ s.queues h
  taken_eq : s.taken = s.handlerCalls.map HandlerCall.packet ++ s.inFlight.toList
  progress : ∀ c ∈ s.current, Progress recognize c.receiver c.handlerCalls
  outcome : ∀ c ∈ s.returned, Outcome recognize c.receiver c.result c.handlerCalls

/-- A finished call delivers the packet on which the handler succeeded. -/
theorem Outcome.delivering_eq {c : CallRecord R}
    (h : Outcome recognize c.receiver c.result c.handlerCalls) :
    c.handlerCalls.filter HandlerCall.succeeded = c.delivering.toList := by
  unfold CallRecord.delivering
  rcases h with ⟨hok, earlier, x, ip, udp, hcalls, hearlier, hx, -⟩ | ⟨hfail, hcalls, -⟩
  · have hnone : earlier.filter HandlerCall.succeeded = [] := by
      rw [List.filter_eq_nil_iff]
      intro y hy
      rw [hearlier y hy]
      exact Bool.false_ne_true
    rw [if_pos hok, hcalls, List.filter_append, hnone, List.nil_append, List.getLast?_concat,
      List.filter_singleton, hx]
    rfl
  · rw [if_neg hfail]
    show _ = []
    rw [List.filter_eq_nil_iff]
    intro y hy
    rw [hcalls y hy]
    exact Bool.false_ne_true

namespace Session.Accounted

variable {np : Npcap} {api : IPReassembly R} {s t : Session R}

theorem delivered (h : s.Accounted recognize) : s.Delivered recognize where
  arrived_eq := h.arrived_eq
  taken_eq := h.taken_eq
  outcome := h.outcome
  delivering_eq := by
    intro hd
    have hall : ∀ l : List (CallRecord R),
        (∀ c ∈ l, Outcome recognize c.receiver c.result c.handlerCalls) →
          (l.flatMap CallRecord.handlerCalls).filter HandlerCall.succeeded =
            l.filterMap CallRecord.delivering := by
      intro l hl
      induction l with
      | nil => rfl
      | cons c l ih =>
        have hc := (hl c List.mem_cons_self).delivering_eq
        rw [List.flatMap_cons, List.filter_append, hc,
          ih fun c' hc' => hl c' (List.mem_cons_of_mem c hc')]
        cases hdel : c.delivering with
        | none => rw [List.filterMap_cons_none hdel]; rfl
        | some x => rw [List.filterMap_cons_some hdel]; rfl
    rw [List.filter_comm, hall s.returned h.outcome]

theorem start (recognize : Recognizer R) (w : World R) :
    (Session.start w).Accounted recognize where
  wellFormed := Session.wellFormed_start _ w
  arrived_eq := fun _ => rfl
  taken_eq := rfl
  progress := fun c hc => absurd hc (Option.not_mem_none c)
  outcome := fun c hc => absurd hc (List.not_mem_nil (a := c))

/-- The packet in flight is the one that the handler is called with. -/
theorem packet_handlerCallOf {handler : Handler R} {socket socket' : UdpcapSocket R}
    {rx rx' : Receiver} {reply : Reply}
    (h : receiveStep handler socket rx reply = some (socket', rx')) :
    (handlerCallOf handler socket rx reply).map HandlerCall.packet = rx.pc.inFlight.toList := by
  rcases receiveStep_cases h with ⟨k, pcapDev, pktData, env, hpc, rfl, -⟩ | ⟨hin, -, -⟩
  · unfold handlerCallOf
    rw [hpc]
    rfl
  · rw [handlerCallOf_of_inFlight hin, hin]
    rfl

/-- A step of `receiveDatagram` keeps the account. -/
theorem reply {reply : Reply} {c : CallInProgress R} {rx : Receiver} (hs : s.Accounted recognize)
    (ht : t.WellFormed (handlerOf recognize))
    (h : ReplyEffect (handlerOf recognize) s t reply c rx) : t.Accounted recognize := by
  have hprogress := (hs.progress c h.current_eq).step h.step
  refine ⟨ht, ?_, ?_, ?_, ?_⟩
  · intro hd
    rw [h.arrived_eq, hs.arrived_eq hd, h.taken_eq, packetsOn_append, h.queues_eq hd,
      List.append_assoc]
  · have hin : s.inFlight = c.receiver.pc.inFlight := by
      unfold Session.inFlight
      rw [h.current_eq]
      rfl
    have htakes := (receiveStep_atDevice h.step (hs.wellFormed.atDevice c h.current_eq)).1
    have hin' : t.inFlight = c.receiver.pc.takes reply := by
      rw [← htakes]
      unfold Session.inFlight
      rcases h.proceeds _ rfl with ⟨hcurrent, -⟩ | ⟨hcurrent, n, hpc, -⟩
      · rw [hcurrent]
        rfl
      · rw [hcurrent, hpc]
        rfl
    rw [h.taken_eq, hs.taken_eq, h.handlerCalls_eq, List.map_append, packet_handlerCallOf h.step,
      hin, hin']
  · intro c' hc'
    rcases h.proceeds _ rfl with ⟨hcurrent, -⟩ | ⟨hcurrent, -⟩
    · rw [hcurrent] at hc'
      cases hc'
      exact hprogress
    · rw [hcurrent] at hc'
      cases hc'
  · intro c' hc'
    rcases h.proceeds _ rfl with ⟨-, hreturned⟩ | ⟨-, n, hpc, hreturned⟩
    · rw [hreturned] at hc'
      exact hs.outcome c' hc'
    · rw [hreturned] at hc'
      rcases List.mem_append.mp hc' with hc' | hc'
      · exact hs.outcome c' hc'
      · rw [List.mem_singleton.mp hc']
        unfold Progress at hprogress
        rw [hpc] at hprogress
        exact hprogress

/-- **Every step of a session keeps the account.** -/
theorem step {l : SessionLabel} (hs : s.Accounted recognize)
    (h : sessionStep np api (handlerOf recognize) s l = some t) : t.Accounted recognize := by
  have ht := hs.wellFormed.step h
  rcases sessionStep_cases h with ⟨hd, pktData, -, rfl⟩ | ⟨op, w, out, -, hcurrent, -, rfl⟩ |
    ⟨args, -, hcurrent, rfl⟩ | ⟨reply, c, rx, -, heffect⟩
  · refine ⟨ht, ?_, hs.taken_eq, hs.progress, hs.outcome⟩
    intro h'
    show Function.update s.arrived hd _ h' =
      packetsOn h' s.taken ++ Function.update s.queues hd _ h'
    by_cases hh : h' = hd
    · subst hh
      rw [Function.update_self, Function.update_self, hs.arrived_eq, List.append_assoc]
    · rw [Function.update_of_ne hh, Function.update_of_ne hh]
      exact hs.arrived_eq h'
  · exact ⟨ht, hs.arrived_eq, hs.taken_eq, hs.progress, hs.outcome⟩
  · refine ⟨ht, hs.arrived_eq, ?_, ?_, hs.outcome⟩
    · have htaken := hs.taken_eq
      unfold Session.handlerCalls Session.inFlight at htaken ⊢
      rw [hcurrent] at htaken
      exact htaken
    · intro c hc
      cases hc
      exact ⟨fun y hy => absurd hy List.not_mem_nil, rfl, rfl, rfl⟩
  · exact hs.reply ht heffect

end Session.Accounted

/-- **What a session delivers**, whatever the handler recognises: in every state, every
packet taken is handled once and in order, a successful call returns the packet that it
handled last, and a failing call returns 0 and touches nothing. -/
theorem session_delivered (np : Npcap) (api : IPReassembly R) (recognize : Recognizer R)
    (w : World R) (labels : List SessionLabel) :
    Foundation.HoldsAlong (sessionStep np api (handlerOf recognize))
      (Session.Delivered recognize) (Session.start w) labels :=
  Foundation.holdsAlong_of_invariant (I := Session.Accounted recognize)
    (fun _ hs => hs.delivered) (fun _ _ _ hs hst => hs.step hst)
    (Session.Accounted.start recognize w)

end Udpcap
