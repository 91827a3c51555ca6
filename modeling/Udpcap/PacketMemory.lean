import Udpcap.Foundation.Objects
import Udpcap.PacketHandler

/-!
# The packet objects of the handler

`PacketHandlerRawPtr` and `IpReassembly::processPacket` once more, with the `pcpp::Packet`
objects that they create on the heap and delete.  `pcpp::IPReassembly::processPacket` returns a
null pointer, the pointer that it was given, or a new object that the caller has to delete.

## Main definitions

* `processPacketPtr`, `processRawPacketPtr`, `packetHandlerPtr` — the functions on pointers.
* `handlePackets` — the handler on one packet after another.

## Main results

* `packetHandlerPtr_spec` — on pointers, the handler does what it does on values, and deletes
  what was created.
* `packets_deleted` — **however many packets are handled, every packet object is deleted once
  and not used after that.**
-/

namespace Udpcap

open Foundation Foundation.ObjectM

variable {R : Type}

section Pointers

variable (pcpp : Pcpp) (api : IPReassembly R) (returnsInput : R → Packet → Bool)

/-- A pointer to a `pcpp::Packet`, `none` for a null pointer, with the bytes of the packet. -/
abbrev PacketPtr := Option (ℕ × RawPacket)

/-- The pointer that `pcpp::IPReassembly::processPacket` returns. -/
def returnedPtr (r : R) (fragment : ℕ) (content : Packet) : ObjectM PacketPtr :=
  match (api.processPacket r content).packet with
  | none => pure none
  | some packet =>
    if returnsInput r content then pure (some (fragment, packet))
    else do
      let k ← new
      pure (some (k, packet))

/-- `processPacket(pcpp::Packet*, ..)` on the object `fragment`. -/
def processPacketPtr (s : IpReassembly R) (env : ProcessEnv) (fragment : ℕ) (content : Packet) :
    ObjectM (Except (Undefined R) (IpReassembly R × PacketPtr × ReassemblyStatus)) :=
  match s.removeOldPackages api env with
  | .error u => pure (.error u)
  | .ok s => do
    use fragment
    let result ← returnedPtr api returnsInput s.ipReassembly fragment content
    -- the wrapper reads the key of the fragment that it has handed over
    let status := (api.processPacket s.ipReassembly content).status
    useIf (status.isReassembled || status.isStored) fragment
    match s.reassemble pcpp api env content with
    | .error u => pure (.error u)
    | .ok (s, _, status) => pure (.ok (s, result, status))

/-- `processPacket(pcpp::RawPacket*, ..)` -/
def processRawPacketPtr (s : IpReassembly R) (env : ProcessEnv) (fragment : RawPacket) :
    ObjectM (Except (Undefined R) (IpReassembly R × PacketPtr × ReassemblyStatus)) := do
  let parsedFragment ← new
  let result ← processPacketPtr pcpp api returnsInput s env parsedFragment
    (pcpp.parse .unknownProtocol fragment)
  match result with
  | .error u => pure (.error u)
  | .ok (s, result, status) => do
    deleteIf (result.map Prod.fst != some parsedFragment) parsedFragment
    pure (.ok (s, result, status))

/-- `PacketHandlerRawPtr` -/
def packetHandlerPtr (reassemblers : List (IpReassembly R)) (callbackArgs : CallbackArgsRawPtr)
    (pktData : Bytes) (env : ProcessEnv) :
    ObjectM (Option (List (IpReassembly R) × CallbackArgsRawPtr)) :=
  let rawPacket : RawPacket := ⟨pktData, callbackArgs.linkType⟩
  let packet := pcpp.parse .udp rawPacket
  match packet.ipv4Layer with
  | none => pure (some (reassemblers, callbackArgs))
  | some ipLayer =>
    if ipLayer.isFragment then
      match callbackArgs.ipReassembly.bind fun k => reassemblers[k]?.map fun r => (k, r) with
      | none => pure none
      | some (k, r) => do
        let result ← processRawPacketPtr pcpp api returnsInput r env rawPacket
        match result with
        | .error _ => pure none
        | .ok (r, none, _) => pure (some (reassemblers.set k r, callbackArgs))
        | .ok (r, some (reassembledPacket, content), _) => do
          -- the packet is parsed again, and copied to the caller, where it is
          use reassembledPacket
          let reParsedPacket := pcpp.parse .udp content
          let callbackArgs := match reParsedPacket.ipv4Layer, reParsedPacket.udpLayer with
            | some ipLayer, some udpLayer => fillCallbackArgsRawPtr callbackArgs ipLayer udpLayer
            | _, _ => callbackArgs
          delete reassembledPacket
          pure (some (reassemblers.set k r, callbackArgs))
    else
      match packet.udpLayer with
      | some udpLayer =>
        pure (some (reassemblers, fillCallbackArgsRawPtr callbackArgs ipLayer udpLayer))
      | none => pure (some (reassemblers, callbackArgs))

end Pointers

/-! ### One packet -/

section Specs

variable (pcpp : Pcpp) (api : IPReassembly R) (returnsInput : R → Packet → Bool) {w : Lent ℕ ℕ}

/-- The values behind the pointers. -/
def forgetPtr (o : IpReassembly R × PacketPtr × ReassemblyStatus) :
    IpReassembly R × Option RawPacket × ReassemblyStatus :=
  (o.1, o.2.1.map Prod.snd, o.2.2)

/-- What a returned pointer points to: the fragment, or an object that is new. -/
def PtrFrom (fragment : ℕ) (before after : List ℕ) (result : PacketPtr) : Prop :=
  (after = before ∧ ∀ p ∈ result, p.1 = fragment) ∨
    ∃ k packet, result = some (k, packet) ∧ k ∉ before ∧ after = k :: before

/-- Pcap++ returns a pointer to the fragment, or to an object that is new. -/
theorem returnedPtr_spec (hw : Sound w) (r : R) (fragment : ℕ) (content : Packet) :
    ∃ result w' objects,
      Ends (returnedPtr api returnsInput r fragment content) w result w' objects ∧
        result.map Prod.snd = (api.processPacket r content).packet ∧
        PtrFrom fragment (live w.log) objects result := by
  unfold returnedPtr
  cases hpacket : (api.processPacket r content).packet with
  | none => exact ⟨none, w, _, Ends.pure hw none, rfl, Or.inl ⟨rfl, by simp⟩⟩
  | some packet =>
    cases hreturns : returnsInput r content with
    | true => exact ⟨some (fragment, packet), w, _, Ends.pure hw _, rfl, Or.inl ⟨rfl, by simp⟩⟩
    | false =>
      have hnew := Ends.new hw
      refine ⟨some (w.state, packet), _, _, hnew.bind (Ends.pure hnew.sound _), rfl, Or.inr ?_⟩
      exact ⟨w.state, packet, rfl, hw.not_mem_live, rfl⟩

/-- The packet that is returned is the one of Pcap++. -/
theorem reassemble_packet {s t : IpReassembly R} {env : ProcessEnv} {content : Packet}
    {packet : Option RawPacket} {status : ReassemblyStatus}
    (h : s.reassemble pcpp api env content = .ok (t, packet, status)) :
    packet = (api.processPacket s.ipReassembly content).packet := by
  unfold IpReassembly.reassemble at h
  simp only at h
  split at h
  · split at h <;> cases h
    rfl
  · split at h
    · split at h <;> cases h
      rfl
    · cases h
      rfl

/-- `processPacket(pcpp::Packet*, ..)`, on a fragment that exists. -/
theorem processPacketPtr_spec (hw : Sound w) {fragment : ℕ} (hf : fragment ∈ live w.log)
    (s : IpReassembly R) (env : ProcessEnv) (content : Packet) :
    ∃ o w' objects,
      Ends (processPacketPtr pcpp api returnsInput s env fragment content) w o w' objects ∧
        o.map forgetPtr = s.processPacket pcpp api env content ∧
        ∀ t result status, o = .ok (t, result, status) →
          PtrFrom fragment (live w.log) objects result := by
  unfold processPacketPtr IpReassembly.processPacket
  cases hold : s.removeOldPackages api env with
  | error u => exact ⟨.error u, w, _, Ends.pure hw _, rfl, by simp⟩
  | ok s =>
    have huse := Ends.use hw hf
    obtain ⟨result, w', objects, hreturned, hvalue, hptr⟩ :=
      returnedPtr_spec api returnsInput huse.sound s.ipReassembly fragment content
    have hlive : fragment ∈ live w'.log := by
      rw [hreturned.live_eq]
      rcases hptr with ⟨rfl, -⟩ | ⟨k, packet, -, -, rfl⟩
      · exact hf
      · exact List.mem_cons_of_mem k hf
    obtain ⟨w'', hkey⟩ := Ends.useIf hreturned.sound hlive
      ((api.processPacket s.ipReassembly content).status.isReassembled ||
        (api.processPacket s.ipReassembly content).status.isStored)
    cases hreassemble : s.reassemble pcpp api env content with
    | error u =>
      refine ⟨.error u, w'', live w''.log, huse.bind (hreturned.bind (hkey.bind ?_)), ?_, by simp⟩
      · simp only [hreassemble]
        exact Ends.pure hkey.sound _
      · simp [Except.map, bind, Except.bind, hreassemble]
    | ok o =>
      obtain ⟨t, packet, status⟩ := o
      refine ⟨.ok (t, result, status), w'', live w''.log,
        huse.bind (hreturned.bind (hkey.bind ?_)), ?_, ?_⟩
      · simp only [hreassemble]
        exact Ends.pure hkey.sound _
      · simp [Except.map, bind, Except.bind, forgetPtr, hvalue, hreassemble,
          ← reassemble_packet pcpp api hreassemble]
      · rintro t' result' status' heq
        cases heq
        rw [hkey.live_eq, hreturned.live_eq]
        exact hptr

/-- `processPacket(pcpp::RawPacket*, ..)`: the only object that is left is the one that the
result points to. -/
theorem processRawPacketPtr_spec (hw : Sound w) (s : IpReassembly R) (env : ProcessEnv)
    (fragment : RawPacket) :
    ∃ o w' objects, Ends (processRawPacketPtr pcpp api returnsInput s env fragment) w o w' objects ∧
      o.map forgetPtr = s.processRawPacket pcpp api env fragment ∧
      ∀ t result status, o = .ok (t, result, status) →
        objects = (result.map Prod.fst).toList ++ live w.log ∧
          ∀ p ∈ result, p.1 ∉ live w.log := by
  have hnew := Ends.new hw
  have hexists : w.state ∈ live (ResourceEvent.acquire w.state :: w.log) := List.mem_cons_self
  obtain ⟨o, w', objects, hprocess, hvalue, hptr⟩ :=
    processPacketPtr_spec pcpp api returnsInput hnew.sound hexists s env
      (pcpp.parse .unknownProtocol fragment)
  cases o with
  | error u =>
    exact ⟨.error u, w', live w'.log, hnew.bind (hprocess.bind (Ends.pure hprocess.sound _)),
      hvalue, by simp⟩
  | ok o =>
    obtain ⟨t, result, status⟩ := o
    have hfrom := hptr t result status rfl
    rw [hnew.live_eq] at hfrom
    have hlive : w.state ∈ live w'.log := by
      rw [hprocess.live_eq]
      rcases hfrom with ⟨rfl, -⟩ | ⟨k, packet, -, -, rfl⟩ <;> simp
    obtain ⟨w'', hdelete⟩ :=
      Ends.deleteIf hprocess.sound hlive (result.map Prod.fst != some w.state)
    refine ⟨.ok (t, result, status), w'', live w''.log,
      hnew.bind (hprocess.bind (hdelete.bind (Ends.pure hdelete.sound _))), hvalue, ?_⟩
    rintro t' result' status' heq
    cases heq
    rw [hdelete.live_eq, hprocess.live_eq]
    rcases hfrom with ⟨rfl, hfragment⟩ | ⟨k, packet, rfl, hk, rfl⟩
    · cases result with
      | none => simp
      | some p =>
        -- the fragment itself is returned
        obtain ⟨k, packet⟩ := p
        obtain rfl : k = w.state := hfragment (k, packet) rfl
        simpa using hw.not_mem_live
    · -- a new packet is returned, and the fragment is deleted
      obtain ⟨hne, hk⟩ : k ≠ w.state ∧ k ∉ live w.log := by simpa using hk
      simp [hne, hk]

/-! ### The handler -/

/-- **On pointers, the handler does what it does on values**, and what it has created it has
deleted when it returns. -/
theorem packetHandlerPtr_spec (hw : Sound w) (reassemblers : List (IpReassembly R))
    (callbackArgs : CallbackArgsRawPtr) (pktData : Bytes) (env : ProcessEnv) :
    ∃ w' objects,
      Ends (packetHandlerPtr pcpp api returnsInput reassemblers callbackArgs pktData env) w
          (packetHandlerRawPtr pcpp api reassemblers callbackArgs pktData env) w' objects ∧
        ((packetHandlerRawPtr pcpp api reassemblers callbackArgs pktData env).isSome →
          objects = live w.log) := by
  unfold packetHandlerPtr packetHandlerRawPtr
  simp only
  cases (pcpp.parse .udp ⟨pktData, callbackArgs.linkType⟩).ipv4Layer with
  | none => exact ⟨w, _, Ends.pure hw _, fun _ => rfl⟩
  | some ipLayer =>
    simp only
    cases ipLayer.isFragment with
    | false =>
      simp only [Bool.false_eq_true, if_false]
      cases (pcpp.parse .udp ⟨pktData, callbackArgs.linkType⟩).udpLayer with
      | none => exact ⟨w, _, Ends.pure hw _, fun _ => rfl⟩
      | some udpLayer => exact ⟨w, _, Ends.pure hw _, fun _ => rfl⟩
    | true =>
      simp only [if_true]
      cases callbackArgs.ipReassembly with
      | none => exact ⟨w, _, Ends.pure hw _, fun _ => rfl⟩
      | some k =>
        simp only [Option.bind_some]
        cases reassemblers[k]? with
        | none => exact ⟨w, _, Ends.pure hw _, fun _ => rfl⟩
        | some r =>
          simp only [Option.map_some, Option.bind_some]
          obtain ⟨o, w', objects, hprocess, hvalue, hptr⟩ := processRawPacketPtr_spec pcpp api
            returnsInput hw r env ⟨pktData, callbackArgs.linkType⟩
          rw [← hvalue]
          cases o with
          | error u =>
            exact ⟨w', _, hprocess.bind (Ends.pure hprocess.sound _), by simp [Except.map]⟩
          | ok o =>
            obtain ⟨r', result, status⟩ := o
            obtain ⟨hobjects, hnew⟩ := hptr r' result status rfl
            cases result with
            | none =>
              refine ⟨w', live w'.log, hprocess.bind (Ends.pure hprocess.sound _), fun _ => ?_⟩
              rw [hprocess.live_eq, hobjects]
              rfl
            | some p =>
              obtain ⟨k', content⟩ := p
              have hk : live w'.log = k' :: live w.log := hprocess.live_eq.trans hobjects
              have huse := Ends.use hprocess.sound (k := k') (by rw [hk]; exact List.mem_cons_self)
              have hdelete := Ends.delete huse.sound (k := k')
                (by rw [huse.live_eq, hk]; exact List.mem_cons_self)
              refine ⟨(w'.record (.use k')).record (.release k'),
                live ((w'.record (.use k')).record (.release k')).log, hprocess.bind (huse.bind
                  (hdelete.bind ?_)), fun _ => ?_⟩
              · simp only [Except.map, forgetPtr, Option.map_some]
                cases (pcpp.parse .udp content).ipv4Layer <;>
                  cases (pcpp.parse .udp content).udpLayer <;>
                  exact Ends.pure hdelete.sound _
              · rw [hdelete.live_eq, huse.live_eq, hk, List.erase_cons_head]

end Specs

/-! ### Any number of packets -/

/-- A call of the handler. -/
structure HandledPacket where
  callbackArgs : CallbackArgsRawPtr
  pktData : Bytes
  env : ProcessEnv

section Runs

variable (pcpp : Pcpp) (api : IPReassembly R) (returnsInput : R → Packet → Bool)

/-- The handler on one packet after another, on values: the reassemblers at the end, and what
the calls have left in their argument structs. -/
def handleValues : List (IpReassembly R) → List HandledPacket →
    Option (List (IpReassembly R) × List CallbackArgsRawPtr)
  | reassemblers, [] => some (reassemblers, [])
  | reassemblers, c :: cs =>
    match packetHandlerRawPtr pcpp api reassemblers c.callbackArgs c.pktData c.env with
    | none => none
    | some (reassemblers, callbackArgs) =>
      (handleValues reassemblers cs).map fun o => (o.1, callbackArgs :: o.2)

/-- The same on pointers. -/
def handlePackets : List (IpReassembly R) → List HandledPacket →
    ObjectM (Option (List (IpReassembly R) × List CallbackArgsRawPtr))
  | reassemblers, [] => pure (some (reassemblers, []))
  | reassemblers, c :: cs => do
    let result ←
      packetHandlerPtr pcpp api returnsInput reassemblers c.callbackArgs c.pktData c.env
    match result with
    | none => pure none
    | some (reassemblers, callbackArgs) => do
      let rest ← handlePackets reassemblers cs
      pure (rest.map fun o => (o.1, callbackArgs :: o.2))

/-- The run lemma: what existed before exists afterwards, and nothing else. -/
theorem handlePackets_spec {w : Lent ℕ ℕ} (hw : Sound w) (reassemblers : List (IpReassembly R))
    (cs : List HandledPacket) :
    ∃ w' objects, Ends (handlePackets pcpp api returnsInput reassemblers cs) w
          (handleValues pcpp api reassemblers cs) w' objects ∧
        ((handleValues pcpp api reassemblers cs).isSome → objects = live w.log) := by
  induction cs generalizing w reassemblers with
  | nil => exact ⟨w, _, Ends.pure hw _, fun _ => rfl⟩
  | cons c cs ih =>
    unfold handlePackets handleValues
    obtain ⟨w', objects, hhandler, hlive⟩ := packetHandlerPtr_spec pcpp api returnsInput hw
      reassemblers c.callbackArgs c.pktData c.env
    cases hresult : packetHandlerRawPtr pcpp api reassemblers c.callbackArgs c.pktData c.env with
    | none =>
      rw [hresult] at hhandler
      exact ⟨w', _, hhandler.bind (Ends.pure hhandler.sound _), by simp⟩
    | some o =>
      obtain ⟨reassemblers', callbackArgs⟩ := o
      rw [hresult] at hhandler hlive
      obtain ⟨w'', objects', hrest, hlive'⟩ := ih hhandler.sound reassemblers'
      refine ⟨w'', live w''.log, hhandler.bind (hrest.bind (Ends.pure hrest.sound _)), ?_⟩
      intro hsome
      rw [hrest.live_eq, hlive' (by simpa using hsome), hhandler.live_eq]
      exact hlive rfl

/-- **However many packets the handler is called with, every packet object that is created is
deleted exactly once, and not used before or after its life**, whichever of the three kinds of
pointers Pcap++ returns; and the datagrams are those of the handler on values. -/
theorem packets_deleted (reassemblers : List (IpReassembly R)) (cs : List HandledPacket) :
    ∃ w, LentM.exec (handlePackets pcpp api returnsInput reassemblers cs) ⟨0, []⟩ =
        (.ok (handleValues pcpp api reassemblers cs), w) ∧
      Disciplined w.log ∧ ((handleValues pcpp api reassemblers cs).isSome → live w.log = []) := by
  obtain ⟨w, objects, hends, hlive⟩ :=
    handlePackets_spec pcpp api returnsInput sound_nil reassemblers cs
  exact ⟨w, hends.exec_eq, hends.sound.disciplined, fun h => hends.live_eq.trans (hlive h)⟩

end Runs

end Udpcap
