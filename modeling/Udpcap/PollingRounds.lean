import Udpcap.HandlerArguments
import Udpcap.Timeout

/-!
# Polling rounds and the deadline

`receiveDatagram` compares the clock with its deadline only after a round that has found
all buffers empty.

## Main definitions

* `TimedCall.RoundInTime` — a round begins after the deadline only because the one before
  began earlier, or because a packet from before the deadline is still unread.
* `TimedCall.NotInVain` — a round that has begun after the deadline takes no packet for
  nothing.

## Main results

* `TimedCall.Linked.step` — a call remembers whether its round has taken a packet.
* `TimedCall.Rounds.step` — a call that waits has begun its last round before the deadline.
* `rounds_in_time_iff` — **no round begins too late exactly if none that has begun after the
  deadline takes a packet for nothing.**
-/

namespace Udpcap

open Foundation

variable {R : Type} {handler : Handler R}

namespace TimedCall

variable {s t : TimedCall R} {l : TimedLabel}

/-! ### The property -/

/-- A packet that has arrived before the deadline is still in the buffer of a device. -/
def OldPacketUnread (s : TimedCall R) : Prop :=
  ∃ dev ∈ s.socket.pcapDevices, ∃ packet ∈ s.queues dev.pcapHandle, packet.1 < s.deadline

/-- A round that is about to begin after the deadline is the first one, or the round before
it has begun before the deadline, or a packet from before the deadline is still unread. -/
def RoundInTime (s : TimedCall R) : Prop :=
  s.receiver.pc = .lockCallback → 0 ≤ s.receiver.args.timeoutMs → s.deadline ≤ s.now →
    (∀ began ∈ s.rounds.head?, began < s.deadline) ∨ s.OldPacketUnread

/-- A round that has begun after the deadline and ends without success has taken no packet,
or it leaves a packet from before the deadline unread. -/
def NotInVain (s : TimedCall R) (l : TimedLabel) : Prop :=
  s.receiver.pc = .unlockCallback → l = .reply .tau → 0 ≤ s.receiver.args.timeoutMs →
    (∃ began ∈ s.rounds.head?, s.deadline ≤ began) → s.roundPackets ≠ [] → s.OldPacketUnread

/-! ### What a round remembers -/

/-- The call remembers whether its round has taken a packet. -/
structure Linked (s : TimedCall R) : Prop where
  inTime : s.InTime
  receivedAnyData : s.receiver.pc.inRound = true →
    (s.receiver.receivedAnyData = true ↔ s.roundPackets ≠ [])
  first : s.receiver.pc = .start ∨ s.receiver.pc = .lockLists → s.rounds = []

theorem linked_start (socket : UdpcapSocket R) (args : ReceiveArgs) (now : Int64)
    (queues : Handle → List (Int × Bytes)) : (start socket args now queues).Linked :=
  ⟨inTime_start socket args now queues, nofun, fun _ => rfl⟩

/-- **A call remembers whether its round has taken a packet.** -/
theorem Linked.step (hs : s.Linked) (h : timedStep handler s l = some t) : t.Linked := by
  refine ⟨hs.inTime.step h, ?_, ?_⟩
  · rcases timedStep_cases h with ⟨n, -, -, rfl⟩ | ⟨h', pktData, -, rfl⟩ |
      ⟨reply, socket, rx, -, -, hstep, rfl⟩
    · exact hs.receivedAnyData
    · exact hs.receivedAnyData
    · -- the round has taken what it had, and the packet of this step
      have hpackets : s.receiver.pc ≠ .lockCallback →
          (s.proceed reply socket rx).roundPackets =
            s.roundPackets ++ (s.receiver.pc.takes reply).toList := fun hpc => if_neg hpc
      show rx.pc.inRound = true → (rx.receivedAnyData = true ↔ _)
      intro hin
      cases receiveStep_case hstep with
      | lockCallback hpc =>
        have hnone : (s.proceed .tau s.socket { s.receiver with
            receivedAnyData := false
            pc := .checks }).roundPackets = [] := if_pos hpc
        rw [hnone]
        exact ⟨nofun, fun hne => absurd rfl hne⟩
      | take k pcapDev pktData geterr hpc =>
        rw [hpackets (by rw [hpc]; exact nofun), hpc]
        exact ⟨fun _ => List.append_ne_nil_of_right_ne_nil _ (List.cons_ne_nil _ _), fun _ => rfl⟩
      | first hpc | skip k pcapDev pktData geterr hpc =>
        rw [hpackets (by rw [hpc]; exact nofun), hpc]
        have hround := hs.receivedAnyData (by rw [hpc]; rfl)
        rw [← List.append_nil s.roundPackets] at hround
        exact hround
      | handle k pcapDev pktData env reassemblers callbackArgs hpc =>
        rw [hpackets (by rw [hpc]; exact nofun), hpc]
        have hround := hs.receivedAnyData (by rw [hpc]; rfl)
        rw [← List.append_nil s.roundPackets] at hround
        rcases s.receiver.pc_afterHandler s.socket k callbackArgs with
          ⟨-, hleave, -⟩ | ⟨-, -, hdata⟩
        · rw [hleave] at hin
          cases hin
        · rw [hdata]
          exact hround
      | invalid | valid | lockLists | refuse | pollError | crash | again | noData | timeout | wait
      | wake | waitTimeout | leaveRound | leave => cases hin
  · rcases timedStep_cases h with ⟨n, -, -, rfl⟩ | ⟨h', pktData, -, rfl⟩ |
      ⟨reply, socket, rx, -, -, hstep, rfl⟩
    · exact hs.first
    · exact hs.first
    · intro hpc
      change rx.pc = .start ∨ rx.pc = .lockLists at hpc
      have hstart := receiveStep_lockLists hstep hpc
      have hrounds : (s.proceed reply socket rx).rounds = s.rounds := by
        refine if_neg ?_
        rw [hstart]
        exact nofun
      rw [hrounds]
      exact hs.first (Or.inl hstart)

/-! ### The invariant -/

/-- The invariant: a call that waits has begun its last round before the deadline, and one
that is about to begin a round has done so, too, or finds a packet from before the
deadline. -/
structure Rounds (s : TimedCall R) : Prop where
  linked : s.Linked
  waiting : ∀ ms, s.receiver.pc = .wait ms → 0 ≤ s.receiver.args.timeoutMs →
    ∀ began ∈ s.rounds.head?, began < s.deadline
  next : s.receiver.pc = .lockCallback → 0 ≤ s.receiver.args.timeoutMs →
    (∀ began ∈ s.rounds.head?, began < s.deadline) ∨ s.OldPacketUnread

theorem Rounds.roundInTime (hs : s.Rounds) : s.RoundInTime := fun hpc hpos _ => hs.next hpc hpos

/-- A step that takes no packet leaves all packets unread. -/
theorem oldPacketUnread_proceed {reply : Reply} (htakes : s.receiver.pc.takes reply = none)
    {rx : Receiver} (hargs : rx.args = s.receiver.args) (hpc : s.receiver.pc ≠ .start) :
    (s.proceed reply s.socket rx).OldPacketUnread ↔ s.OldPacketUnread := by
  unfold OldPacketUnread
  rw [queues_proceed_none htakes, deadline_proceed _ _ hargs hpc]
  rfl

theorem OldPacketUnread.arrive (hs : s.OldPacketUnread) (h : Handle) (packet : Int × Bytes) :
    TimedCall.OldPacketUnread
      { s with queues := Function.update s.queues h (s.queues h ++ [packet]) } := by
  obtain ⟨dev, hdev, p, hp, hold⟩ := hs
  refine ⟨dev, hdev, p, ?_, hold⟩
  show p ∈ Function.update s.queues h _ dev.pcapHandle
  by_cases hh : dev.pcapHandle = h
  · rw [hh] at hp ⊢
    rw [Function.update_self]
    exact List.mem_append_left _ hp
  · rw [Function.update_of_ne hh]
    exact hp

/-- The deadline of the code is not behind the one of the caller. -/
theorem InTime.waitUntil_le (hs : s.InTime) (hpc : s.receiver.pc ≠ .start)
    (hpos : 0 ≤ s.receiver.args.timeoutMs) : s.receiver.waitUntil ≤ s.deadline := by
  rw [hs.waitUntil_int64 hpc hpos]
  refine int64_le ?_
  have hge := hs.started_ge
  unfold deadline
  omega

/-- **A step at whose end no packet was taken for nothing keeps the invariant.** -/
theorem Rounds.step (hs : s.Rounds) (hl : s.NotInVain l) (h : timedStep handler s l = some t) :
    t.Rounds := by
  refine ⟨hs.linked.step h, ?_, ?_⟩
  · rcases timedStep_cases h with ⟨n, -, -, rfl⟩ | ⟨h', pktData, -, rfl⟩ |
      ⟨reply, socket, rx, -, hso, hstep, rfl⟩
    · exact hs.waiting
    · exact hs.waiting
    · intro ms hpc hpos began hbegan
      change rx.pc = .wait ms at hpc
      change 0 ≤ rx.args.timeoutMs at hpos
      have hargs := (receiveStep_args hstep).1
      rw [hargs] at hpos
      obtain ⟨hcheck, now, rfl, htime, -⟩ := receiveStep_wait hstep hpc
      have hstart : s.receiver.pc ≠ .start := by
        rw [hcheck]
        exact nofun
      have hlock : s.receiver.pc ≠ .lockCallback := by
        rw [hcheck]
        exact nofun
      rw [rounds_proceed _ _ _ hlock] at hbegan
      rw [deadline_proceed _ _ hargs hstart]
      have hle := hs.linked.inTime.rounds_le began (List.mem_of_mem_head? hbegan)
      have hdeadline := hs.linked.inTime.waitUntil_le hstart hpos
      rw [now_of_answersSo hso] at htime
      omega
  · rcases timedStep_cases h with ⟨n, -, -, rfl⟩ | ⟨h', pktData, -, rfl⟩ |
      ⟨reply, socket, rx, rfl, -, hstep, rfl⟩
    · exact hs.next
    · intro hpc hpos
      rcases hs.next hpc hpos with hbegan | hold
      · exact Or.inl hbegan
      · exact Or.inr (hold.arrive h' _)
    · intro hpc hpos
      change rx.pc = .lockCallback at hpc
      change 0 ≤ rx.args.timeoutMs at hpos
      have hargs := (receiveStep_args hstep).1
      rw [hargs] at hpos
      obtain ⟨rfl, htakes, hfrom⟩ := receiveStep_lockCallback hstep hpc
      rcases hfrom with hlists | ⟨hunlock, hdata⟩ | ⟨ms, hwait⟩
      · -- the first round
        left
        rw [rounds_proceed _ _ _ (by rw [hlists]; exact nofun), hs.linked.first (Or.inr hlists)]
        exact nofun
      · -- another round at once
        have hstart : s.receiver.pc ≠ .start := by
          rw [hunlock]
          exact nofun
        rw [rounds_proceed _ _ _ (by rw [hunlock]; exact nofun), deadline_proceed _ _ hargs hstart,
          oldPacketUnread_proceed htakes hargs hstart]
        by_cases hbegan : ∃ began ∈ s.rounds.head?, s.deadline ≤ began
        · right
          have htau : reply = .tau := receiveStep_unlockCallback hstep hunlock
          have hpackets := (hs.linked.receivedAnyData (by rw [hunlock]; rfl)).mp hdata
          exact hl hunlock (congrArg TimedLabel.reply htau) hpos hbegan hpackets
        · left
          intro began hmem
          exact not_le.mp fun hle => hbegan ⟨began, hmem, hle⟩
      · -- after a wait
        left
        rw [rounds_proceed _ _ _ (by rw [hwait]; exact nofun),
          deadline_proceed _ _ hargs (by rw [hwait]; exact nofun)]
        exact hs.waiting ms hwait hpos

/-- **A round that takes a packet for nothing after the deadline is followed by a round that
begins too late.** -/
theorem Linked.late (hs : s.Linked) (handler : Handler R) (hl : ¬s.NotInVain l) :
    ∃ t, timedStep handler s l = some t ∧ ¬t.RoundInTime := by
  unfold NotInVain at hl
  push Not at hl
  obtain ⟨hunlock, rfl, hpos, ⟨began, hbegan, hlate⟩, hpackets, hunread⟩ := hl
  have hdata := (hs.receivedAnyData (by rw [hunlock]; rfl)).mpr hpackets
  have hstart : s.receiver.pc ≠ .start := by
    rw [hunlock]
    exact nofun
  have hstep : receiveStep handler s.socket s.receiver .tau =
      some (s.socket, { s.receiver with pc := .lockCallback }) := by
    unfold receiveStep Receiver.afterRound
    rw [hunlock]
    simp only
    rw [if_pos hdata]
  have htakes : s.receiver.pc.takes .tau = none := by
    rw [hunlock]
    rfl
  refine ⟨_, timedStep_reply rfl hstep, ?_⟩
  intro hround
  have hle : s.deadline ≤ s.now :=
    hlate.trans (hs.inTime.rounds_le began (List.mem_of_mem_head? hbegan))
  have hdeadline : (s.proceed .tau s.socket { s.receiver with pc := .lockCallback }).deadline =
      s.deadline := deadline_proceed _ _ rfl hstart
  rcases hround rfl hpos (hdeadline.trans_le hle) with hearly | hold
  · rw [rounds_proceed _ _ _ (by rw [hunlock]; exact nofun), hdeadline] at hearly
    exact absurd (hearly began hbegan) (not_lt.mpr hlate)
  · exact hunread ((oldPacketUnread_proceed htakes rfl hstart).mp hold)

end TimedCall

/-- **No polling round of a call begins too late exactly if none that has begun after the
deadline takes a packet for nothing.** -/
theorem rounds_in_time_iff (handler : Handler R) (socket : UdpcapSocket R) (args : ReceiveArgs)
    (now : Int64) (queues : Handle → List (Int × Bytes)) (labels : List TimedLabel) :
    let start := TimedCall.start socket args now queues
    HoldsAlong (timedStep handler) TimedCall.RoundInTime start labels ↔
      StepsMeet (timedStep handler) TimedCall.NotInVain start labels := by
  intro start
  have hlinked : start.Linked := TimedCall.linked_start socket args now queues
  have hrounds : start.Rounds := ⟨hlinked, nofun, nofun⟩
  constructor
  · intro hholds
    have hkept : HoldsAlong (timedStep handler) TimedCall.Linked start labels :=
      holdsAlong_of_invariant (fun _ hs => hs) (fun s l t hs hst => hs.step hst) hlinked
    have hboth : HoldsAlong (timedStep handler) (fun s => s.RoundInTime ∧ s.Linked) start labels :=
      holdsAlong_and.mpr ⟨hholds, hkept⟩
    refine HoldsAlong.stepsMeet ?_ hboth
    intro s l hs hl
    obtain ⟨t, hst, hlate⟩ := hs.2.late handler hl
    exact ⟨t, hst, fun ht => hlate ht.1⟩
  · exact holdsAlong_of_stepsMeet (fun s hs => hs.roundInTime)
      (fun s l t hs hl hst => hs.step hl hst) hrounds

/-- A call with a timeout of 1 ms, at whose only device a packet from the bound port to
another one arrives every millisecond, is still polling after 3 ms, although all but the
first packet have arrived after the deadline: its third round begins too late. -/
theorem rounds_go_on :
    let handler := packetHandlerRawPtr SmallPcpp.pcpp SmallPcpp.api
    let socket : UdpcapSocket SmallPcpp.Reassembler := { UdpcapSocket.create true with
      boundState := true
      boundAddress := .any
      boundPort := 4000
      pcapDevices := [⟨0, true, NpcapHelpers.npfLoopback⟩]
      pcapWin32Handles := [0] }
    let args : ReceiveArgs := ⟨[0], 1, by decide, 1, none, none, .ofCode .ok⟩
    let env : ProcessEnv := .at 0 .oldestFirst
    let packet := loopbackFrame wholePacket
    let round : List TimedLabel := [.pass 1000000, .arrive 0 packet, .reply .tau, .reply .tau,
      .reply (.next 1 packet ""), .reply (.handled env), .reply .tau]
    let start := TimedCall.start socket args 0 fun _ => []
    let labels := [.reply (.clock 0), .reply .tau] ++ round ++ round ++ round
    ¬HoldsAlong (timedStep handler) TimedCall.RoundInTime start labels ∧
      (run (timedStep handler) start labels).map (fun s =>
        (s.receiver.pc, s.rounds, s.now, s.deadline)) =
          some (.lockCallback, [3000000, 2000000, 1000000], 3000000, 1000000) := by
  intro handler socket args env packet round start labels
  refine ⟨?_, by decide +kernel⟩
  -- at the end another round is about to begin, and the last one began after the deadline
  refine not_holdsAlong (fun s : TimedCall SmallPcpp.Reassembler =>
    decide (s.receiver.pc = .lockCallback) && decide (0 ≤ s.receiver.args.timeoutMs) &&
      decide (s.deadline ≤ s.now) && s.rounds.head?.any (s.deadline ≤ ·) &&
        s.socket.pcapDevices.all fun dev => (s.queues dev.pcapHandle).isEmpty) ?_
    (by decide +kernel)
  intro s hs hround
  simp only [Bool.and_eq_true, decide_eq_true_eq, Option.any_eq_true, List.all_eq_true,
    List.isEmpty_iff] at hs
  obtain ⟨⟨⟨⟨hpc, htimeout⟩, hnow⟩, began, hbegan, hlate⟩, hempty⟩ := hs
  rcases hround hpc htimeout hnow with hearly | ⟨dev, hdev, packet, hpacket, -⟩
  · exact absurd (hearly began hbegan) (not_lt.mpr hlate)
  · rw [hempty dev hdev] at hpacket
    cases hpacket

end Udpcap
