import Udpcap.HandlerArguments
import Udpcap.ReassemblyExpiry

/-!
# Fragmented and unfragmented delivery agree

The packet handler, when its argument points to a live reassembler, is fed with the
fragments of a datagram in some order, among packets of other datagrams.

## Main definitions

* `Feed`, `feedStep` — a call of the handler with a reassembler, and its effect.
* `direct` — what the handler does when Pcap++ alone keeps the fragments.
* `answersTo` — what Pcap++ alone answers to the fragments of one package.
* `NoExpiry` — no package expires at a call.
* `Split`, `ArrivesSplit` — a datagram in fragments, and their arrival.

## Main results

* `Reference.forget_of_noneExpired` — while no package expires, nothing is forgotten.
* `outputs_eq_direct` — **while no package expires, the wrapper and its timestamps make
  no difference.**
* `fragments_agree` — the last fragment to arrive does what the datagram would have done,
  and the others do nothing.
-/

namespace Udpcap

open Foundation

variable {R : Type}

/-! ### While no package expires -/

/-- No package is too old at a time. -/
def IpReassembly.NoneExpired (s : IpReassembly R) (now : Int) : Prop :=
  ∀ e ∈ s.timestampMap.entries, isExpired s.maxPackageAge now e = false

instance (s : IpReassembly R) (now : Int) : Decidable (s.NoneExpired now) :=
  inferInstanceAs (Decidable (∀ e ∈ s.timestampMap.entries, _))

/-- The wrapper as a reference, whatever it has been through. -/
def IpReassembly.reference (s : IpReassembly R) : Reference R :=
  ⟨s.maxPackageAge, s.ipReassembly, s.timestampMap⟩

theorem IpReassembly.agrees_reference (s : IpReassembly R) : s.Agrees s.reference :=
  ⟨rfl, rfl, List.Perm.refl _⟩

/-- While no package expires, nothing is forgotten. -/
theorem Reference.forget_of_noneExpired {api : IPReassembly R} {s : IpReassembly R} {now : Int}
    (h : s.NoneExpired now) : s.reference.forget api now = s.reference := by
  have hnone : s.timestampMap.entries.filter (IpReassembly.isExpired s.maxPackageAge now) = [] := by
    rw [List.filter_eq_nil_iff]
    intro e he
    rw [h e he]
    exact Bool.false_ne_true
  have hall : s.timestampMap.entries.filter
      (fun e => !IpReassembly.isExpired s.maxPackageAge now e) = s.timestampMap.entries := by
    rw [List.filter_eq_self]
    intro e he
    rw [h e he]
    rfl
  unfold IpReassembly.reference forget
  simp only [hnone, hall]
  rfl

/-- A wrapper without expired packages visits a sparse order. -/
theorem IpReassembly.NoneExpired.visitsSparse {s : IpReassembly R} {env : ProcessEnv}
    (h : s.NoneExpired env.now) : s.VisitsSparse env := by
  apply sparse_of_forall
  intro e he
  exact h e ((env.order.visit_perm _).mem_iff.mp he)

/-! ### Feeding the handler -/

/-- A call of the packet handler: what the caller provides, and the packet. -/
structure Feed where
  destinationBuffer : Bytes
  destinationBufferSize : ℕ
  sourceAddress : Option HostAddress
  sourcePort : Option UInt16
  boundPort : UInt16
  rawPacket : RawPacket
  env : ProcessEnv

namespace Feed

/-- The argument struct, with `ip_reassembly_` pointing to the reassembler at `k`. -/
def args (k : ℕ) (x : Feed) : CallbackArgsRawPtr :=
  { CallbackArgsRawPtr.create x.destinationBuffer x.destinationBufferSize x.sourceAddress
      x.sourcePort x.boundPort x.rawPacket.linkType with ipReassembly := some k }

/-- The packet is handed to the reassembler. -/
def isFragment (pcpp : Pcpp) (x : Feed) : Bool := (pcpp.parse .udp x.rawPacket).isFragment

/-- The packet as the reassembler parses it. -/
def fragment (pcpp : Pcpp) (x : Feed) : Packet := pcpp.parse .unknownProtocol x.rawPacket

/-- The packet is a fragment of the package with the given key. -/
def isOf (pcpp : Pcpp) (key : PacketKey) (x : Feed) : Bool :=
  IPReassembly.fragmentKey (x.fragment pcpp) = some key

end Feed

/-- One call of the handler. -/
def feedStep (pcpp : Pcpp) (api : IPReassembly R) (k : ℕ) (reassemblers : List (IpReassembly R))
    (x : Feed) : Option (List (IpReassembly R) × CallbackArgsRawPtr) :=
  packetHandlerRawPtr pcpp api reassemblers (x.args k) x.rawPacket.data x.env

/-- What a datagram, or what Pcap++ returns for a fragment, is taken for. -/
def answered (pcpp : Pcpp) (answer : Option RawPacket) : Recognized :=
  answer.bind fun p => datagramOf (pcpp.parse .udp p)

/-- What the handler leaves in its arguments, call by call, when Pcap++ alone keeps the
fragments. -/
def direct (pcpp : Pcpp) (api : IPReassembly R) (k : ℕ) : R → List Feed → List CallbackArgsRawPtr
  | _, [] => []
  | r, x :: xs =>
    if x.isFragment pcpp then
      let o := api.processPacket r (x.fragment pcpp)
      fillRecognized (x.args k) (answered pcpp o.packet) :: direct pcpp api k o.object xs
    else fillRecognized (x.args k) (datagramOf (pcpp.parse .udp x.rawPacket)) ::
      direct pcpp api k r xs

/-- What Pcap++ alone answers to the fragments of one package, among all fragments that
are handed to it. -/
def answersTo (pcpp : Pcpp) (api : IPReassembly R) (key : PacketKey) :
    R → List Feed → List (Option RawPacket)
  | _, [] => []
  | r, x :: xs =>
    if x.isFragment pcpp then
      let o := api.processPacket r (x.fragment pcpp)
      if x.isOf pcpp key then o.packet :: answersTo pcpp api key o.object xs
      else answersTo pcpp api key o.object xs
    else answersTo pcpp api key r xs

/-- No package of the reassembler expires at a call that hands a fragment to it. -/
def NoExpiry (pcpp : Pcpp) (k : ℕ) (reassemblers : List (IpReassembly R)) (x : Feed) : Prop :=
  x.isFragment pcpp = true → ∀ s ∈ reassemblers[k]?, s.NoneExpired x.env.now

instance (pcpp : Pcpp) (k : ℕ) (reassemblers : List (IpReassembly R)) (x : Feed) :
    Decidable (NoExpiry pcpp k reassemblers x) :=
  inferInstanceAs (Decidable (_ → ∀ s ∈ reassemblers[k]?, _))

/-! ### The wrapper makes no difference -/

section Wrapper

variable {pcpp : Pcpp} {api : IPReassembly R} {k : ℕ} {reassemblers : List (IpReassembly R)}
  {s : IpReassembly R}

/-- A packet that is not a fragment. -/
theorem feedStep_datagram {x : Feed} (hfrag : x.isFragment pcpp = false) :
    feedStep pcpp api k reassemblers x = some (reassemblers,
      fillRecognized (x.args k) (datagramOf (pcpp.parse .udp x.rawPacket))) := by
  unfold feedStep
  rw [packetHandlerRawPtr_eq]
  show Option.map _ (recognizePacket pcpp api reassemblers x.rawPacket.linkType (some k) _ _) = _
  rw [recognizePacket_of_not_fragment hfrag]
  rfl

/-- A fragment, while no package is expired: the call does what Pcap++ alone would do. -/
theorem feedStep_fragment (hlaws : api.Laws) (hk : reassemblers[k]? = some s) {x : Feed}
    (hfrag : x.isFragment pcpp = true) (hnone : s.NoneExpired x.env.now) :
    ∃ s', feedStep pcpp api k reassemblers x = some (reassemblers.set k s',
        fillRecognized (x.args k)
          (answered pcpp (api.processPacket s.ipReassembly (x.fragment pcpp)).packet)) ∧
      s'.ipReassembly = (api.processPacket s.ipReassembly (x.fragment pcpp)).object := by
  obtain ⟨s', out, hok, hout, hagrees⟩ :=
    s.agrees_reference.processPacket pcpp hlaws hnone.visitsSparse (x.fragment pcpp)
  unfold Reference.processPacket at hout hagrees
  simp only at hout hagrees
  rw [Reference.forget_of_noneExpired hnone] at hout hagrees
  refine ⟨s', ?_, hagrees.ipReassembly⟩
  -- the handler parses again what the wrapper returns
  subst hout
  unfold feedStep
  rw [packetHandlerRawPtr_eq]
  show Option.map _ (recognizePacket pcpp api reassemblers x.rawPacket.linkType (some k) _ _) = _
  rw [recognizePacket_of_fragment hfrag hk hok]
  rfl

/-- **While no package expires, the wrapper and its timestamps make no difference.** -/
theorem outputs_eq_direct (hlaws : api.Laws) : ∀ {feeds : List Feed}
    {reassemblers : List (IpReassembly R)} {s : IpReassembly R}, reassemblers[k]? = some s →
      StepsMeet (silent (feedStep pcpp api k)) (NoExpiry pcpp k) reassemblers feeds →
        outputs (feedStep pcpp api k) reassemblers feeds =
          some (direct pcpp api k s.ipReassembly feeds) := by
  intro feeds
  induction feeds with
  | nil => intro reassemblers s _ _; rfl
  | cons x feeds ih =>
    intro reassemblers s hk hexpiry
    obtain ⟨hx, hlater⟩ := stepsMeet_cons.mp hexpiry
    unfold outputs direct
    by_cases hfrag : x.isFragment pcpp = true
    · -- the wrapper goes on with the object that Pcap++ alone would have
      obtain ⟨s', hstep, hobject⟩ := feedStep_fragment hlaws hk hfrag (hx hfrag s hk)
      have hk' : (reassemblers.set k s')[k]? = some s' := by
        rw [List.getElem?_set_self (List.getElem?_eq_some_iff.mp hk).1]
      have hrest := ih hk' (hlater _ (silent_eq_some.mpr ⟨_, hstep⟩))
      rw [hobject] at hrest
      rw [hstep, if_pos hfrag, Option.bind_some, hrest]
      rfl
    · have hfalse : x.isFragment pcpp = false := Bool.not_eq_true _ ▸ hfrag
      have hstep : feedStep pcpp api k reassemblers x = some (reassemblers, _) :=
        feedStep_datagram hfalse
      rw [hstep, if_neg hfrag, Option.bind_some,
        ih hk (hlater _ (silent_eq_some.mpr ⟨_, hstep⟩))]
      rfl

end Wrapper

/-! ### Fragments of a datagram -/

/-- A UDP datagram and a way of sending it in two or more fragments. -/
structure Split (pcpp : Pcpp) (whole : RawPacket) (fragments : List RawPacket) (key : PacketKey) :
    Prop where
  isDatagram : ∃ ip udp, (pcpp.parse .udp whole).IsDatagram ip udp
  two_le : 2 ≤ fragments.length
  linkType : ∀ f ∈ fragments, f.linkType = whole.linkType
  isFragment : ∀ f ∈ fragments, (pcpp.parse .udp f).isFragment = true
  fragmentKey : ∀ f ∈ fragments,
    IPReassembly.fragmentKey (pcpp.parse .unknownProtocol f) = some key

/-- The fragments arrive in some order, each of them once, among packets with other keys.
From its present state on, Pcap++ alone answers null to all but the last one, and to that
one with a packet that parses like the datagram. -/
structure ArrivesSplit (pcpp : Pcpp) (api : IPReassembly R) (r : R) (whole : RawPacket)
    (fragments : List RawPacket) (key : PacketKey) (feeds : List Feed) : Prop where
  arrival : ((feeds.filter (Feed.isOf pcpp key)).map Feed.rawPacket).Perm fragments
  answers : ∃ reassembled,
    answersTo pcpp api key r feeds =
        List.replicate (fragments.length - 1) none ++ [some reassembled] ∧
      datagramOf (pcpp.parse .udp reassembled) = datagramOf (pcpp.parse .udp whole)

section Fragments

variable {pcpp : Pcpp} {api : IPReassembly R} {k : ℕ} {key : PacketKey} {whole : RawPacket}
  {fragments : List RawPacket} {feeds : List Feed}

/-- The handler makes of each fragment of a package what Pcap++ answers to it. -/
theorem filter_zip_direct (hfrag : ∀ x ∈ feeds, x.isOf pcpp key = true → x.isFragment pcpp = true)
    (r : R) :
    (feeds.zip (direct pcpp api k r feeds)).filter (fun o => o.1.isOf pcpp key) =
      ((feeds.filter (Feed.isOf pcpp key)).zip (answersTo pcpp api key r feeds)).map
        fun o => (o.1, fillRecognized (o.1.args k) (answered pcpp o.2)) := by
  induction feeds generalizing r with
  | nil => rfl
  | cons x feeds ih =>
    obtain ⟨hx, hlater⟩ := List.forall_mem_cons.mp hfrag
    unfold direct answersTo
    cases hof : x.isOf pcpp key with
    | true =>
      have hkeep : ∀ (a : CallbackArgsRawPtr) (l : List (Feed × CallbackArgsRawPtr)),
          ((x, a) :: l).filter (fun o => o.1.isOf pcpp key) =
            (x, a) :: l.filter fun o => o.1.isOf pcpp key :=
        fun a l => List.filter_cons_of_pos hof
      rw [if_pos (hx hof), if_pos (hx hof), if_pos rfl, List.filter_cons_of_pos hof,
        List.zip_cons_cons, List.zip_cons_cons, List.map_cons, hkeep]
      exact congrArg _ (ih hlater _)
    | false =>
      -- another package, or no fragment at all
      have hnot : ¬x.isOf pcpp key = true := by
        rw [hof]
        exact Bool.false_ne_true
      have hdrop : ∀ (a : CallbackArgsRawPtr) (l : List (Feed × CallbackArgsRawPtr)),
          ((x, a) :: l).filter (fun o => o.1.isOf pcpp key) =
            l.filter fun o => o.1.isOf pcpp key :=
        fun a l => List.filter_cons_of_neg hnot
      rw [List.filter_cons_of_neg hnot]
      cases x.isFragment pcpp with
      | true =>
        rw [if_pos rfl, if_pos rfl, if_neg Bool.false_ne_true, List.zip_cons_cons, hdrop]
        exact ih hlater _
      | false =>
        rw [if_neg Bool.false_ne_true, if_neg Bool.false_ne_true, List.zip_cons_cons, hdrop]
        exact ih hlater r

/-- The handler fills in the unfragmented datagram, whatever is in the reassemblers. -/
theorem packetHandlerRawPtr_whole (hsplit : Split pcpp whole fragments key)
    (reassemblers : List (IpReassembly R)) {callbackArgs : CallbackArgsRawPtr}
    (hlink : callbackArgs.linkType = whole.linkType) (env : ProcessEnv) :
    packetHandlerRawPtr pcpp api reassemblers callbackArgs whole.data env =
      some (reassemblers, fillRecognized callbackArgs (datagramOf (pcpp.parse .udp whole))) := by
  obtain ⟨ip, udp, hdatagram⟩ := hsplit.isDatagram
  have hnot : (pcpp.parse .udp ⟨whole.data, callbackArgs.linkType⟩).isFragment = false := by
    rw [hlink]
    unfold Packet.isFragment
    rw [hdatagram.ipv4Layer]
    exact hdatagram.isFragment
  rw [packetHandlerRawPtr_eq, recognizePacket_of_not_fragment hnot, hlink]
  rfl

/-- **The last fragment to arrive does what the datagram would have done**, and the others
do nothing, whatever the reassembler has been through before. -/
theorem fragments_agree (hlaws : api.Laws) (hsplit : Split pcpp whole fragments key)
    {reassemblers : List (IpReassembly R)} {s : IpReassembly R} (hk : reassemblers[k]? = some s)
    (harrives : ArrivesSplit pcpp api s.ipReassembly whole fragments key feeds)
    (hexpiry : StepsMeet (silent (feedStep pcpp api k)) (NoExpiry pcpp k) reassemblers feeds) :
    ∃ outs, outputs (feedStep pcpp api k) reassemblers feeds = some outs ∧
      ∃ earlier last,
        (feeds.zip outs).filter (fun o => o.1.isOf pcpp key) = earlier ++ [last] ∧
        (∀ o ∈ earlier, o.2 = o.1.args k ∧ o.2.success = false) ∧
        ∀ (reassemblers' : List (IpReassembly R)) (env : ProcessEnv),
          packetHandlerRawPtr pcpp api reassemblers' (last.1.args k) whole.data env =
            some (reassemblers', last.2) := by
  obtain ⟨reassembled, hanswers, hparse⟩ := harrives.answers
  -- every packet of the package is one of the fragments
  have hmem : ∀ x ∈ feeds, x.isOf pcpp key = true → x.rawPacket ∈ fragments := by
    intro x hx hof
    apply harrives.arrival.subset
    exact List.mem_map_of_mem (List.mem_filter.mpr ⟨hx, hof⟩)
  have hfrag : ∀ x ∈ feeds, x.isOf pcpp key = true → x.isFragment pcpp = true :=
    fun x hx hof => hsplit.isFragment _ (hmem x hx hof)
  have hlength : (feeds.filter (Feed.isOf pcpp key)).length = fragments.length := by
    rw [← harrives.arrival.length_eq, List.length_map]
  have htwo := hsplit.two_le
  -- the last of them
  obtain ⟨first, x, hlast⟩ : ∃ first x, feeds.filter (Feed.isOf pcpp key) = first ++ [x] := by
    rcases List.eq_nil_or_concat (feeds.filter (Feed.isOf pcpp key)) with hnil | ⟨first, x, hcons⟩
    · rw [hnil, List.length_nil] at hlength
      omega
    · exact ⟨first, x, hcons.trans (List.concat_eq_append)⟩
  have hfirst : first.length = (List.replicate (fragments.length - 1)
      (none : Option RawPacket)).length := by
    rw [List.length_replicate, ← hlength, hlast, List.length_append]
    simp
  have hx : x ∈ feeds.filter (Feed.isOf pcpp key) := by
    rw [hlast]
    exact List.mem_append_right _ (List.mem_singleton_self x)
  obtain ⟨hxmem, hxof⟩ := List.mem_filter.mp hx
  refine ⟨_, outputs_eq_direct hlaws hk hexpiry, ?_⟩
  rw [filter_zip_direct hfrag]
  rw [hanswers, hlast, List.zip_append hfirst, List.map_append]
  refine ⟨_, _, rfl, ?_, ?_⟩
  · intro o ho
    obtain ⟨⟨y, a⟩, hy, rfl⟩ := List.mem_map.mp ho
    have ha : a = none := List.eq_of_mem_replicate (List.of_mem_zip hy).2
    subst ha
    exact ⟨rfl, rfl⟩
  · intro reassemblers' env
    rw [packetHandlerRawPtr_whole hsplit _ (hsplit.linkType _ (hmem x hxmem hxof)), ← hparse]
    rfl

end Fragments

open SmallPcpp

/-- A feed of a socket with four bytes of room. -/
def smallFeed (f : RawPacket) (time : Int) : Feed :=
  ⟨[0, 0, 0, 0], 4, none, some 0, 5000, f, .at time .newestFirst⟩

/-- A reassembler that has completed a package of the same key long ago, and still holds a
fragment of another one. -/
def usedReassemblers : List (IpReassembly Reassembler) :=
  (run (silent (feedStep SmallPcpp.pcpp SmallPcpp.api 0)) [.create SmallPcpp.api 5 10]
    [smallFeed (firstHalf 1) 0, smallFeed (secondHalf 1 [9]) 1, smallFeed (firstHalf 3) 99]).getD []

theorem usedReassemblers_live : (usedReassemblers[0]?).isSome = true := by decide +kernel

/-- The second fragment arrives before the first, with a fragment of another datagram
between them; the datagram is for the bound port. -/
theorem fragments_agree_out_of_order :
    let feeds := [smallFeed (secondHalf 1 [7, 8]) 100, smallFeed (firstHalf 2) 101,
      smallFeed (firstHalf 1) 104]
    ∃ outs, outputs (feedStep SmallPcpp.pcpp SmallPcpp.api 0) usedReassemblers feeds = some outs ∧
      ∃ earlier last,
        (feeds.zip outs).filter (fun o => o.1.isOf SmallPcpp.pcpp
          (.ipv4 1 0x0100000A 0x0200000A)) = earlier ++ [last] ∧
        (∀ o ∈ earlier, o.2 = o.1.args 0 ∧ o.2.success = false) ∧
        ∀ (reassemblers' : List (IpReassembly Reassembler)) (env : ProcessEnv),
          packetHandlerRawPtr SmallPcpp.pcpp SmallPcpp.api reassemblers' (last.1.args 0)
              (ipv4Frame [0, 1] [0, 0] [10, 0, 0, 1] [10, 0, 0, 2]
                [0x0F, 0xA0, 0x13, 0x88, 0, 10, 0, 0, 7, 8]).data env =
            some (reassemblers', last.2) := by
  intro feeds
  let whole : RawPacket := ipv4Frame [0, 1] [0, 0] [10, 0, 0, 1] [10, 0, 0, 2]
    [0x0F, 0xA0, 0x13, 0x88, 0, 10, 0, 0, 7, 8]
  have hsplit : Split SmallPcpp.pcpp whole [firstHalf 1, secondHalf 1 [7, 8]]
      (.ipv4 1 0x0100000A 0x0200000A) := by
    refine ⟨⟨_, _, rfl, rfl, rfl⟩, le_rfl, ?_, ?_, ?_⟩
    · decide
    · decide +kernel
    · decide +kernel
  have harrives : ArrivesSplit SmallPcpp.pcpp SmallPcpp.api
      ((usedReassemblers[0]?).get usedReassemblers_live).ipReassembly whole
      [firstHalf 1, secondHalf 1 [7, 8]] (.ipv4 1 0x0100000A 0x0200000A) feeds := by
    refine ⟨?_, whole, ?_, rfl⟩
    · decide +kernel
    · decide +kernel
  exact fragments_agree laws hsplit (Option.some_get usedReassemblers_live).symm harrives
    (by decide +kernel)

end Udpcap
