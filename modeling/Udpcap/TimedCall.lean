import Mathlib.Data.UInt
import Udpcap.Foundation.Transition
import Udpcap.Receive

/-!
# A call and the clock

One call of `receiveDatagram` while time passes and packets arrive.  The steps of the
call take no time; between them any time may pass.

## Main definitions

* `TimedCall`, `timedStep` — the call with the clock and the buffers, and one step.
* `TimedCall.answersSo` — what the clock, Npcap and Windows promise of their answers.
* `TimedCall.deadline` — the time at which the timeout has elapsed.

## Main results

* `timedStep_cases` — what a step is.
* `TimedCall.InTime.step` — **the clock of a call does not run backwards**, and the call
  keeps the deadline that it has computed.
-/

namespace Udpcap

open Foundation

variable {R : Type}

/-! ### The state -/

/-- A call in progress, the clock, and the buffers of the devices. -/
structure TimedCall (R : Type) where
  socket : UdpcapSocket R
  receiver : Receiver
  /-- The steady clock, in nanoseconds. -/
  now : Int
  /-- The time of the first step. -/
  started : Int
  /-- The time at which the latest wait began. -/
  waitBegan : Int
  /-- The times at which the polling rounds began, the latest first. -/
  rounds : List Int
  /-- The packets that the latest round has taken. -/
  roundPackets : List (Handle × Bytes)
  /-- How many answers the call has got. -/
  answers : ℕ
  /-- The packets in the buffer of each device with the times of their arrival, the oldest
  first. -/
  queues : Handle → List (Int × Bytes)

/-- A call that starts at a given time. -/
def TimedCall.start (socket : UdpcapSocket R) (args : ReceiveArgs) (now : Int64)
    (queues : Handle → List (Int × Bytes)) : TimedCall R :=
  ⟨socket, .create args, now.toInt, now.toInt, now.toInt, [], [], 0, queues⟩

inductive TimedLabel
  /-- Time passes. -/
  | pass (nanoseconds : ℕ)
  /-- A packet arrives at a device. -/
  | arrive (h : Handle) (pktData : Bytes)
  /-- The call gets an answer. -/
  | reply (reply : Reply)

namespace TimedCall

/-- The time at which the timeout has elapsed. -/
def deadline (s : TimedCall R) : Int := s.started + s.receiver.args.timeoutMs * 1000000

/-- What the clock, Npcap and Windows promise of their answers: the clock shows the time;
packets come from the head of the buffer, and are denied only when it is empty; a wait does
not time out before its time, and an infinite one not at all. -/
def answersSo (s : TimedCall R) (reply : Reply) : Bool :=
  match reply with
  | .clock now => now = s.now
  | .next errorcode pktData _ =>
    match s.receiver.pc with
    | .poll _ pcapDev =>
      match s.queues pcapDev.pcapHandle with
      | [] => errorcode ≠ 1
      | head :: _ => errorcode ≠ 0 ∧ (errorcode = 1 → head.2 = pktData)
    | _ => true
  | .wait waitResult _ =>
    match s.receiver.pc with
    | .wait ms =>
      waitResult = waitTimeout → ms ≠ infinite ∧ s.waitBegan + ms.toNat * 1000000 ≤ s.now
    | _ => true
  | _ => true

/-- The state once the call has got an answer, with the account of it. -/
def proceed (s : TimedCall R) (reply : Reply) (socket : UdpcapSocket R) (receiver : Receiver) :
    TimedCall R where
  socket := socket
  receiver := receiver
  now := s.now
  started := if s.receiver.pc = .start then s.now else s.started
  waitBegan := if s.receiver.pc = .timeCheck then s.now else s.waitBegan
  rounds := if s.receiver.pc = .lockCallback then s.now :: s.rounds else s.rounds
  roundPackets :=
    if s.receiver.pc = .lockCallback then []
    else s.roundPackets ++ (s.receiver.pc.takes reply).toList
  answers := s.answers + 1
  queues := match s.receiver.pc.takes reply with
    | none => s.queues
    | some (h, _) => Function.update s.queues h (s.queues h).tail

end TimedCall

/-- One step of a call and its surroundings. -/
def timedStep (handler : Handler R) (s : TimedCall R) : TimedLabel → Option (TimedCall R)
  | .pass nanoseconds =>
    -- the clock is a signed 64-bit integer
    if s.now + nanoseconds ≤ timePointMax then some { s with now := s.now + nanoseconds } else none
  | .arrive h pktData =>
    some { s with queues := Function.update s.queues h (s.queues h ++ [(s.now, pktData)]) }
  | .reply reply =>
    if s.answersSo reply then
      (receiveStep handler s.socket s.receiver reply).map fun o => s.proceed reply o.1 o.2
    else none

section Steps

variable {handler : Handler R} {s t : TimedCall R} {l : TimedLabel}

/-- **What a step is.** -/
theorem timedStep_cases (h : timedStep handler s l = some t) :
    (∃ n : ℕ, l = .pass n ∧ s.now + n ≤ timePointMax ∧ t = { s with now := s.now + n }) ∨
      (∃ h pktData, l = .arrive h pktData ∧ t = { s with
        queues := Function.update s.queues h (s.queues h ++ [(s.now, pktData)]) }) ∨
      ∃ reply socket rx, l = .reply reply ∧ s.answersSo reply = true ∧
        receiveStep handler s.socket s.receiver reply = some (socket, rx) ∧
        t = s.proceed reply socket rx := by
  cases l with
  | pass n =>
    unfold timedStep at h
    simp only at h
    split at h
    next hle =>
      cases h
      exact Or.inl ⟨n, rfl, hle, rfl⟩
    next => cases h
  | arrive h' pktData =>
    cases h
    exact Or.inr (Or.inl ⟨h', pktData, rfl, rfl⟩)
  | reply reply =>
    unfold timedStep at h
    simp only at h
    split at h
    next hso =>
      obtain ⟨⟨socket, rx⟩, hstep, ht⟩ := Option.map_eq_some_iff.mp h
      exact Or.inr (Or.inr ⟨reply, socket, rx, rfl, hso, hstep, ht.symm⟩)
    next => cases h

theorem timedStep_args (h : timedStep handler s l = some t) :
    t.receiver.args = s.receiver.args := by
  rcases timedStep_cases h with ⟨n, -, -, rfl⟩ | ⟨h', pktData, -, rfl⟩ |
    ⟨reply, socket, rx, -, -, hstep, rfl⟩
  · rfl
  · rfl
  · exact (receiveStep_args hstep).1

theorem timedStep_reply {reply : Reply} (hso : s.answersSo reply = true)
    {socket : UdpcapSocket R} {rx : Receiver}
    (hstep : receiveStep handler s.socket s.receiver reply = some (socket, rx)) :
    timedStep handler s (.reply reply) = some (s.proceed reply socket rx) := by
  unfold timedStep
  simp only
  rw [if_pos hso, hstep, Option.map_some]

/-- The clock shows the time. -/
theorem TimedCall.now_of_answersSo {now : Int} (h : s.answersSo (.clock now) = true) :
    now = s.now := by
  exact of_decide_eq_true h

/-- A wait does not time out before its time. -/
theorem TimedCall.wait_of_answersSo {ms : UInt32} (hpc : s.receiver.pc = .wait ms)
    {lastError : String} (h : s.answersSo (.wait waitTimeout lastError) = true) :
    ms ≠ infinite ∧ s.waitBegan + ms.toNat * 1000000 ≤ s.now := by
  unfold answersSo at h
  simp only at h
  rw [hpc] at h
  exact of_decide_eq_true h trivial

/-! ### Rounds and buffers -/

namespace TimedCall

theorem rounds_proceed (reply : Reply) (socket : UdpcapSocket R) (rx : Receiver)
    (hpc : s.receiver.pc ≠ .lockCallback) : (s.proceed reply socket rx).rounds = s.rounds :=
  if_neg hpc

variable {reply : Reply} {socket : UdpcapSocket R} {rx : Receiver}

/-- A step that takes no packet leaves the buffers as they are. -/
theorem queues_proceed_none (htakes : s.receiver.pc.takes reply = none) :
    (s.proceed reply socket rx).queues = s.queues := by
  unfold proceed
  simp only
  rw [htakes]

theorem queues_proceed_some {h : Handle} {pktData : Bytes}
    (htakes : s.receiver.pc.takes reply = some (h, pktData)) :
    (s.proceed reply socket rx).queues =
      Function.update s.queues h (s.queues h).tail := by
  unfold proceed
  simp only
  rw [htakes]

/-- A packet comes from the head of the buffer. -/
theorem head_of_answersSo {k : ℕ} {pcapDev : PcapDev} {pktData : Bytes} {geterr : String}
    (hpc : s.receiver.pc = .poll k pcapDev) (h : s.answersSo (.next 1 pktData geterr) = true) :
    ∃ head later, s.queues pcapDev.pcapHandle = head :: later ∧ head.2 = pktData := by
  unfold answersSo at h
  simp only at h
  rw [hpc] at h
  cases hqueue : s.queues pcapDev.pcapHandle with
  | nil =>
    simp only [hqueue] at h
    cases h
  | cons head later =>
    simp only [hqueue] at h
    exact ⟨head, later, rfl, (of_decide_eq_true h).2 trivial⟩

/-- A packet is denied only when the buffer is empty. -/
theorem empty_of_answersSo {k : ℕ} {pcapDev : PcapDev} {pktData : Bytes} {geterr : String}
    (hpc : s.receiver.pc = .poll k pcapDev) (h : s.answersSo (.next 0 pktData geterr) = true) :
    s.queues pcapDev.pcapHandle = [] := by
  unfold answersSo at h
  simp only at h
  rw [hpc] at h
  cases hqueue : s.queues pcapDev.pcapHandle with
  | nil => rfl
  | cons head later =>
    simp only [hqueue] at h
    exact absurd rfl (of_decide_eq_true h).1

end TimedCall

/-! ### Time -/

namespace TimedCall

/-- The clock has not run backwards, and the deadline of the call is the one that it has
computed when it started. -/
structure InTime (s : TimedCall R) : Prop where
  started_ge : -2 ^ 63 ≤ s.started
  started_le : s.started ≤ s.now
  waitBegan_le : s.waitBegan ≤ s.now
  rounds_le : ∀ began ∈ s.rounds, began ≤ s.now
  now_le : s.now ≤ timePointMax
  waitUntil_eq : s.receiver.pc ≠ .start → 0 ≤ s.receiver.args.timeoutMs →
    s.receiver.waitUntil = Receiver.deadline s.started s.receiver.args.timeoutMs

theorem inTime_start (socket : UdpcapSocket R) (args : ReceiveArgs) (now : Int64)
    (queues : Handle → List (Int × Bytes)) : (start socket args now queues).InTime where
  started_ge := now.le_toInt
  started_le := le_rfl
  waitBegan_le := le_rfl
  rounds_le := fun _ hbegan => absurd hbegan List.not_mem_nil
  now_le := Int.le_sub_one_of_lt now.toInt_lt
  waitUntil_eq := fun hpc => absurd rfl hpc

/-- **The clock does not run backwards**, and the deadline stays. -/
theorem InTime.step (hs : s.InTime) (h : timedStep handler s l = some t) : t.InTime := by
  rcases timedStep_cases h with ⟨n, -, hle, rfl⟩ | ⟨h', pktData, -, rfl⟩ |
    ⟨reply, socket, rx, -, hso, hstep, rfl⟩
  · have hn : s.now ≤ s.now + n := Int.le_add_of_nonneg_right (Int.natCast_nonneg n)
    refine ⟨hs.started_ge, hs.started_le.trans hn, hs.waitBegan_le.trans hn, ?_, hle,
      hs.waitUntil_eq⟩
    intro began hbegan
    exact (hs.rounds_le began hbegan).trans hn
  · exact ⟨hs.started_ge, hs.started_le, hs.waitBegan_le, hs.rounds_le, hs.now_le, hs.waitUntil_eq⟩
  · obtain ⟨hargs, hwait⟩ := receiveStep_args hstep
    unfold proceed
    refine ⟨?_, ?_, ?_, ?_, hs.now_le, ?_⟩
    · simp only
      split
      · exact hs.started_ge.trans hs.started_le
      · exact hs.started_ge
    · simp only
      split
      · exact le_rfl
      · exact hs.started_le
    · simp only
      split
      · exact le_rfl
      · exact hs.waitBegan_le
    · simp only
      split
      · intro began hbegan
        rcases List.mem_cons.mp hbegan with rfl | hbegan
        · exact le_rfl
        · exact hs.rounds_le began hbegan
      · exact hs.rounds_le
    · intro hpc hpos
      simp only at hpc hpos ⊢
      rw [hargs] at hpos ⊢
      by_cases hstart : s.receiver.pc = .start
      · rw [if_pos hstart]
        rcases receiveStep_start hstep hstart with ⟨-, now, rfl, heq⟩ | ⟨hneg, -⟩
        · rw [heq, now_of_answersSo hso]
        · omega
      · rw [if_neg hstart, hwait hstart]
        exact hs.waitUntil_eq hstart hpos

end TimedCall

end Steps

end Udpcap
