import Mathlib.Data.UInt
import Udpcap.SmallPcpp
import Udpcap.TimedCall
import Udpcap.WaitHandles

/-!
# Timeouts

The deadline of `receiveDatagram` passes through signed 64-bit nanoseconds, whole
milliseconds and an unsigned 32-bit integer.

## Main definitions

* `Punctual` — a check of the clock at a given time cannot lead to an early timeout.
* `TimedCall.NotEarly` — a call that reports a timeout has lasted that long.

## Main results

* `Punctual.wait` — after such a check a wait ends at the deadline or later.
* `no_early_timeout` — **a call whose checks are punctual reports no timeout early**; after
  a check that is not punctual it may.
-/

namespace Udpcap

open Foundation

/-! ### Signed 64-bit integers -/

theorem int64_lt (n : Int) : int64 n < 2 ^ 63 := by
  have h := Int.bmod_lt (x := n) (m := 2 ^ 64) (by decide)
  unfold int64
  omega

theorem int64_of_range {n : Int} (hge : -2 ^ 63 ≤ n) (hlt : n < 2 ^ 63) : int64 n = n := by
  unfold int64
  exact Int.bmod_eq_of_le (by omega) (by omega)

/-- An overflow makes a number smaller. -/
theorem int64_le {n : Int} (hge : -2 ^ 63 ≤ n) : int64 n ≤ n := by
  have hlt := int64_lt n
  by_cases h : n < 2 ^ 63
  · exact (int64_of_range hge h).le
  · omega

theorem Receiver.deadline_eq (now timeoutMs : Int) :
    deadline now timeoutMs = int64 (now + timeoutMs * 1000000) := by
  unfold deadline int64
  rw [Int.add_bmod_bmod]

theorem Receiver.toNat_remainingTimeToWaitMs (rx : Receiver) (hpos : 0 ≤ rx.args.timeoutMs)
    (now : Int) : ((rx.remainingTimeToWaitMs now).toNat : Int) =
      (int64 (rx.waitUntil - now)).tdiv 1000000 % 2 ^ 32 := by
  unfold remainingTimeToWaitMs
  rw [if_neg (not_lt.mpr hpos), UInt32.toNat_ofNat']
  omega

/-! ### Punctual checks -/

/-- A check of the clock at the time `now` cannot lead to a timeout before `deadline`: the
deadline has passed, or it can be represented and is less than 2^32 whole milliseconds away,
or the wait is taken for an infinite one. -/
def Punctual (deadline now : Int) : Prop :=
  deadline ≤ now ∨
    (deadline < 2 ^ 63 ∧ 1000000 ∣ deadline - now ∧ deadline - now < 2 ^ 32 * 1000000) ∨
    (now < int64 deadline ∧
      (int64 (int64 deadline - now)).tdiv 1000000 % 2 ^ 32 = infinite.toNat)

section Checks

variable {deadline now : Int} {ms : ℕ}

/-- **After a punctual check a wait ends at the deadline or later**, if it ends by itself. -/
theorem Punctual.wait (h : Punctual deadline now) (hge : -2 ^ 63 ≤ now)
    (hms : (ms : Int) = (int64 (int64 deadline - now)).tdiv 1000000 % 2 ^ 32)
    (hfinite : ms ≠ infinite.toNat) : deadline ≤ now + ms * 1000000 := by
  rcases h with hpassed | ⟨hlt, hdvd, hnear⟩ | ⟨-, hinfinite⟩
  · omega
  · by_cases hpassed : deadline ≤ now
    · omega
    · -- nothing overflows, nothing is cut off, and the result fits into 32 bits
      have hdeadline : int64 deadline = deadline := int64_of_range (by omega) hlt
      have hleft : int64 (deadline - now) = deadline - now :=
        int64_of_range (by omega) (by omega)
      rw [hdeadline, hleft, Int.tdiv_eq_ediv_of_nonneg (by omega)] at hms
      omega
  · omega

/-- Where a punctual check finds the deadline of the code passed, the timeout has elapsed. -/
theorem Punctual.passed (h : Punctual deadline now) (hge : -2 ^ 63 ≤ now)
    (hpassed : int64 deadline ≤ now) : deadline ≤ now := by
  rcases h with hpassed' | ⟨hlt, -, -⟩ | ⟨hwait, -⟩
  · exact hpassed'
  · by_cases hle : deadline ≤ now
    · exact hle
    · rw [int64_of_range (by omega) hlt] at hpassed
      exact hpassed
  · omega

/-- **After a check that is not punctual a wait may end early**, and the clock can still
show when. -/
theorem wait_of_not_punctual (h : ¬Punctual deadline now) (hge : -2 ^ 63 ≤ now)
    (hwait : now < int64 deadline)
    (hms : (ms : Int) = (int64 (int64 deadline - now)).tdiv 1000000 % 2 ^ 32) :
    ms ≠ infinite.toNat ∧ now + ms * 1000000 < 2 ^ 63 ∧ now + ms * 1000000 < deadline := by
  unfold Punctual at h
  rw [not_or, not_or] at h
  obtain ⟨hpassed, hnear, hinfinite⟩ := h
  have hlt := int64_lt deadline
  have hle := int64_le (n := deadline) (by omega)
  -- the time to wait is cut to whole milliseconds and to 32 bits, and never rounded up
  have hms' : ms * 1000000 ≤ int64 deadline - now := by
    by_cases hrange : int64 deadline - now < 2 ^ 63
    · rw [int64_of_range (by omega) hrange, Int.tdiv_eq_ediv_of_nonneg (by omega)] at hms
      omega
    · have hsmall : (ms : Int) < 2 ^ 32 := by
        rw [hms]
        exact Int.emod_lt_of_pos _ (by decide)
      omega
  refine ⟨?_, by omega, ?_⟩
  · intro heq
    exact hinfinite ⟨hwait, by rw [← hms, heq]⟩
  · by_cases hfar : deadline < 2 ^ 63
    · -- without an overflow, a wait up to the deadline would make the check punctual
      have hdeadline : int64 deadline = deadline := int64_of_range (by omega) hfar
      rw [hdeadline] at hms hms' hwait
      by_cases heq : now + ms * 1000000 = deadline
      · refine absurd ⟨hfar, ⟨ms, by omega⟩, ?_⟩ hnear
        have hsmall : (ms : Int) < 2 ^ 32 := by
          rw [hms]
          exact Int.emod_lt_of_pos _ (by decide)
        omega
      · omega
    · omega

end Checks

/-! ### No early timeout -/

variable {R : Type} {handler : Handler R}

namespace TimedCall

variable {s t : TimedCall R} {l : TimedLabel}

/-- A call that has reported a timeout has lasted that long. -/
def NotEarly (s : TimedCall R) : Prop :=
  ∀ n, s.receiver.pc = .returned n → s.receiver.error.errorCode = .timeout →
    0 ≤ s.receiver.args.timeoutMs → s.deadline ≤ s.now

/-- The check of the clock that a step consists of is punctual. -/
def ChecksPunctually (s : TimedCall R) (_ : TimedLabel) : Prop :=
  s.receiver.pc = .timeCheck → 0 ≤ s.receiver.args.timeoutMs → Punctual s.deadline s.now

/-- The invariant: a wait ends at the deadline or later, and so does a call that reports a
timeout. -/
structure Patient (s : TimedCall R) : Prop where
  inTime : s.InTime
  waits : ∀ ms, s.receiver.pc = .wait ms → ms ≠ infinite → 0 ≤ s.receiver.args.timeoutMs →
    s.deadline ≤ s.waitBegan + ms.toNat * 1000000
  reports : s.receiver.pc.result ≠ none → s.receiver.error.errorCode = .timeout →
    0 ≤ s.receiver.args.timeoutMs → s.deadline ≤ s.now

theorem Patient.notEarly (hs : s.Patient) : s.NotEarly := by
  intro n hpc hcode hpos
  refine hs.reports ?_ hcode hpos
  rw [hpc]
  exact nofun

theorem patient_start (socket : UdpcapSocket R) (args : ReceiveArgs) (now : Int64)
    (queues : Handle → List (Int × Bytes)) : (start socket args now queues).Patient :=
  ⟨inTime_start socket args now queues, nofun, fun hresult => absurd rfl hresult⟩

/-- Once the call has started, its deadline is what it is. -/
theorem InTime.waitUntil_int64 (hs : s.InTime) (hpc : s.receiver.pc ≠ .start)
    (hpos : 0 ≤ s.receiver.args.timeoutMs) : s.receiver.waitUntil = int64 s.deadline := by
  rw [hs.waitUntil_eq hpc hpos, Receiver.deadline_eq]
  rfl

theorem deadline_proceed (reply : Reply) (socket : UdpcapSocket R) {rx : Receiver}
    (hargs : rx.args = s.receiver.args) (hpc : s.receiver.pc ≠ .start) :
    (s.proceed reply socket rx).deadline = s.deadline := by
  unfold deadline proceed
  simp only
  rw [if_neg hpc, hargs]

/-- **A step whose check of the clock is punctual keeps the invariant.** -/
theorem Patient.step (hs : s.Patient) (hl : s.ChecksPunctually l)
    (h : timedStep handler s l = some t) : t.Patient := by
  refine ⟨hs.inTime.step h, ?_, ?_⟩
  · rcases timedStep_cases h with ⟨n, -, -, rfl⟩ | ⟨h', pktData, -, rfl⟩ |
      ⟨reply, socket, rx, -, hso, hstep, rfl⟩
    · exact hs.waits
    · exact hs.waits
    · -- a wait begins with the check of the clock, which is punctual
      intro ms hpc hfinite hpos
      have hargs := (receiveStep_args hstep).1
      change rx.pc = .wait ms at hpc
      change 0 ≤ rx.args.timeoutMs at hpos
      rw [hargs] at hpos
      obtain ⟨hcheck, now, rfl, -, heq⟩ := receiveStep_wait hstep hpc
      have hstart : s.receiver.pc ≠ .start := by
        rw [hcheck]
        exact nofun
      have hms := s.receiver.toNat_remainingTimeToWaitMs hpos now
      rw [now_of_answersSo hso, hs.inTime.waitUntil_int64 hstart hpos] at hms
      rw [now_of_answersSo hso] at heq
      rw [deadline_proceed _ _ hargs hstart]
      have hbegan : (s.proceed (.clock now) socket rx).waitBegan = s.now := if_pos hcheck
      rw [hbegan, heq]
      refine (hl hcheck hpos).wait (hs.inTime.started_ge.trans hs.inTime.started_le) hms ?_
      intro hinfinite
      rw [← heq] at hinfinite
      exact hfinite (UInt32.toNat_inj.mp hinfinite)
  · rcases timedStep_cases h with ⟨n, -, -, rfl⟩ | ⟨h', pktData, -, rfl⟩ |
      ⟨reply, socket, rx, -, hso, hstep, rfl⟩
    · -- time passes
      intro hresult hcode hpos
      have hdeadline := hs.reports hresult hcode hpos
      show s.deadline ≤ s.now + n
      omega
    · exact hs.reports
    · intro hresult hcode hpos
      have hargs := (receiveStep_args hstep).1
      change 0 ≤ rx.args.timeoutMs at hpos
      rw [hargs] at hpos
      have hge : -2 ^ 63 ≤ s.now := hs.inTime.started_ge.trans hs.inTime.started_le
      -- the timeout was there before, or it comes from the check of the clock, or from a wait
      rcases receiveStep_timeout hstep hresult hcode with ⟨hresult', hcode'⟩ |
        ⟨now, hpc, rfl, hpassed⟩ | ⟨ms, lastError, hpc, rfl⟩
      · have hstart : s.receiver.pc ≠ .start := by
          intro hpc
          rw [hpc] at hresult'
          exact hresult' rfl
        rw [deadline_proceed _ _ hargs hstart]
        exact hs.reports hresult' hcode' hpos
      · have hstart : s.receiver.pc ≠ .start := by
          rw [hpc]
          exact nofun
        rw [deadline_proceed _ _ hargs hstart]
        rw [hs.inTime.waitUntil_int64 hstart hpos, now_of_answersSo hso] at hpassed
        exact (hl hpc hpos).passed hge hpassed
      · have hstart : s.receiver.pc ≠ .start := by
          rw [hpc]
          exact nofun
        rw [deadline_proceed _ _ hargs hstart]
        obtain ⟨hfinite, helapsed⟩ := wait_of_answersSo hpc hso
        exact (hs.waits ms hpc hfinite hpos).trans helapsed

/-- A call that is about to return a timeout does so. -/
theorem early_of_leave (handler : Handler R) (hpc : s.receiver.pc = .leave 0)
    (hcode : s.receiver.error.errorCode = .timeout) (hpos : 0 ≤ s.receiver.args.timeoutMs)
    (hearly : s.now < s.deadline) :
    ∃ t, timedStep handler s (.reply .tau) = some t ∧ ¬t.NotEarly := by
  have hstart : s.receiver.pc ≠ .start := by
    rw [hpc]
    exact nofun
  have hstep : receiveStep handler s.socket s.receiver .tau =
      some (s.socket, { s.receiver with pc := .returned 0 }) := by
    unfold receiveStep
    rw [hpc]
  have hdeadline : (s.proceed .tau s.socket { s.receiver with pc := .returned 0 }).deadline =
      s.deadline := deadline_proceed _ _ rfl hstart
  refine ⟨_, timedStep_reply rfl hstep, ?_⟩
  intro hnot
  have hle := hnot 0 rfl hcode hpos
  rw [hdeadline] at hle
  exact absurd hle (not_le.mpr hearly)

/-- The call reads the clock. -/
theorem timedStep_clock (handler : Handler R) (hcheck : s.receiver.pc = .timeCheck) :
    timedStep handler s (.reply (.clock s.now)) =
      some (s.proceed (.clock s.now) s.socket (s.receiver.afterTimeCheck s.now)) := by
  have hso : s.answersSo (.clock s.now) = true := decide_eq_true rfl
  refine timedStep_reply hso ?_
  unfold receiveStep
  rw [hcheck]

/-- A wait times out as soon as it may. -/
theorem timedStep_waitTimeout (handler : Handler R) (hwaitable : s.socket.Waitable) {ms : UInt32}
    (hpc : s.receiver.pc = .wait ms) (hfinite : ms ≠ infinite)
    (helapsed : s.waitBegan + ms.toNat * 1000000 ≤ s.now) :
    timedStep handler s (.reply (.wait waitTimeout "")) = some (s.proceed (.wait waitTimeout "")
      s.socket { s.receiver with
        error := s.receiver.error.assignCode .timeout
        pc := .leave 0 }) := by
  have hso : s.answersSo (.wait waitTimeout "") = true := by
    unfold answersSo
    simp only
    rw [hpc]
    exact decide_eq_true fun _ => ⟨hfinite, helapsed⟩
  refine timedStep_reply hso ?_
  have hobject : ¬waitTimeout ≤ waitObject0 + Receiver.numHandles s.socket - 1 :=
    UInt32.not_le.mpr (UInt32.lt_trans hwaitable.object_lt (by decide))
  have habandoned : ¬waitTimeout ≤ waitAbandoned0 + Receiver.numHandles s.socket - 1 :=
    UInt32.not_le.mpr hwaitable.abandoned_lt
  unfold receiveStep Receiver.afterWait
  rw [hpc]
  simp only
  rw [if_neg fun h => hobject h.2, if_neg fun h => habandoned h.2, if_pos trivial]

/-- **After a check that is not punctual the call may report a timeout early.** -/
theorem InTime.early (hs : s.InTime) (handler : Handler R) (hwaitable : s.socket.Waitable)
    (hcheck : s.receiver.pc = .timeCheck) (hpos : 0 ≤ s.receiver.args.timeoutMs)
    (hnot : ¬Punctual s.deadline s.now) :
    ∃ later t, run (timedStep handler) s later = some t ∧ ¬t.NotEarly := by
  have hstart : s.receiver.pc ≠ .start := by
    rw [hcheck]
    exact nofun
  have hge : -2 ^ 63 ≤ s.now := hs.started_ge.trans hs.started_le
  have hwait := hs.waitUntil_int64 hstart hpos
  have hclock := timedStep_clock handler hcheck
  by_cases hpassed : s.receiver.waitUntil ≤ s.now
  · -- the code takes the deadline for passed
    have hafter : s.receiver.afterTimeCheck s.now =
        { s.receiver with error := s.receiver.error.assignCode .timeout, pc := .leave 0 } :=
      if_pos hpassed
    rw [hafter] at hclock
    obtain ⟨u, hu, hpc, hcode, hargs, hnow, hdeadline⟩ : ∃ u,
        timedStep handler s (.reply (.clock s.now)) = some u ∧ u.receiver.pc = .leave 0 ∧
          u.receiver.error.errorCode = .timeout ∧ u.receiver.args = s.receiver.args ∧
          u.now = s.now ∧ u.deadline = s.deadline :=
      ⟨_, hclock, rfl, rfl, rfl, rfl, deadline_proceed _ _ rfl hstart⟩
    have hearly : u.now < u.deadline := by
      rw [hnow, hdeadline]
      exact not_le.mp fun hle => hnot (Or.inl hle)
    obtain ⟨t, ht, hlast⟩ := early_of_leave handler hpc hcode (hargs ▸ hpos) hearly
    refine ⟨[.reply (.clock s.now), .reply .tau], t, ?_, hlast⟩
    rw [run_cons, hu, Option.bind_some, run_cons, ht]
    rfl
  · -- the wait ends before the deadline
    generalize hms : s.receiver.remainingTimeToWaitMs s.now = ms
    have hafter : s.receiver.afterTimeCheck s.now = { s.receiver with pc := .wait ms } := by
      rw [← hms]
      exact if_neg hpassed
    have hleft := s.receiver.toNat_remainingTimeToWaitMs hpos s.now
    rw [hms, hwait] at hleft
    obtain ⟨hfinite, hrange, hearly⟩ := wait_of_not_punctual hnot hge
      (not_le.mp (hwait ▸ hpassed)) hleft
    rw [hafter] at hclock
    obtain ⟨u, hu, hpc, hsocket, hargs, hbegan, hnow, hdeadline⟩ : ∃ u,
        timedStep handler s (.reply (.clock s.now)) = some u ∧ u.receiver.pc = .wait ms ∧
          u.socket = s.socket ∧ u.receiver.args = s.receiver.args ∧ u.waitBegan = s.now ∧
          u.now = s.now ∧ u.deadline = s.deadline :=
      ⟨_, hclock, rfl, rfl, rfl, if_pos hcheck, rfl, deadline_proceed _ _ rfl hstart⟩
    -- the clock can show the end of the wait
    have hpass : timedStep handler u (.pass (ms.toNat * 1000000)) =
        some { u with now := u.now + (ms.toNat * 1000000 : ℕ) } := by
      unfold timedStep
      simp only
      rw [if_pos]
      rw [hnow]
      unfold timePointMax
      omega
    generalize hv : ({ u with now := u.now + (ms.toNat * 1000000 : ℕ) } : TimedCall R) = v at hpass
    have hvpc : v.receiver.pc = .wait ms := by rw [← hv, hpc]
    have hvsocket : v.socket.Waitable := by
      rw [← hv, hsocket]
      exact hwaitable
    have hvnow : v.now = s.now + ms.toNat * 1000000 := by
      rw [← hv]
      show u.now + ((ms.toNat * 1000000 : ℕ) : Int) = _
      rw [hnow, Nat.cast_mul]
      rfl
    have hvbegan : v.waitBegan = s.now := by rw [← hv, hbegan]
    have hvargs : v.receiver.args = s.receiver.args := by rw [← hv, hargs]
    have hvdeadline : v.deadline = s.deadline := by
      rw [← hdeadline, ← hv]
      rfl
    -- the wait times out, and the call returns
    have hfinite' : ms ≠ infinite := fun heq => hfinite (congrArg UInt32.toNat heq)
    have htimeout := timedStep_waitTimeout handler hvsocket hvpc hfinite' (by rw [hvbegan, hvnow])
    have hvstart : v.receiver.pc ≠ .start := by
      rw [hvpc]
      exact nofun
    obtain ⟨x, hx, hxpc, hxcode, hxargs, hxnow, hxdeadline⟩ : ∃ x,
        timedStep handler v (.reply (.wait waitTimeout "")) = some x ∧ x.receiver.pc = .leave 0 ∧
          x.receiver.error.errorCode = .timeout ∧ x.receiver.args = s.receiver.args ∧
          x.now = v.now ∧ x.deadline = s.deadline :=
      ⟨_, htimeout, rfl, rfl, hvargs, rfl, Eq.trans (deadline_proceed _ _ rfl hvstart) hvdeadline⟩
    obtain ⟨t, ht, hlast⟩ := early_of_leave handler hxpc hxcode (hxargs ▸ hpos)
      (by rw [hxnow, hvnow, hxdeadline]; exact hearly)
    refine ⟨[.reply (.clock s.now), .pass (ms.toNat * 1000000), .reply (.wait waitTimeout ""),
      .reply .tau], t, ?_, hlast⟩
    rw [run_cons, hu, Option.bind_some, run_cons, hpass, Option.bind_some, run_cons, hx,
      Option.bind_some, run_cons, ht]
    rfl

end TimedCall

/-- **A call whose checks of the clock are punctual reports no timeout early**, and after any
check that is not, a call that can wait for its devices may do so. -/
theorem no_early_timeout (handler : Handler R) (socket : UdpcapSocket R) (args : ReceiveArgs)
    (now : Int64) (queues : Handle → List (Int × Bytes)) (labels : List TimedLabel) :
    let start := TimedCall.start socket args now queues
    (StepsMeet (timedStep handler) TimedCall.ChecksPunctually start labels →
      HoldsAlong (timedStep handler) TimedCall.NotEarly start labels) ∧
    ∀ s, run (timedStep handler) start labels = some s → s.receiver.pc = .timeCheck →
      0 ≤ args.timeoutMs → ¬Punctual s.deadline s.now → s.socket.Waitable →
        ∃ later t, run (timedStep handler) s later = some t ∧ ¬t.NotEarly := by
  intro start
  constructor
  · exact holdsAlong_of_stepsMeet (fun s hs => hs.notEarly) (fun s l t hs hl hst => hs.step hl hst)
      (TimedCall.patient_start socket args now queues)
  · intro s hs hcheck hpos hnot hwaitable
    have hkept : ∀ (s : TimedCall R) l t, s.InTime ∧ s.receiver.args = args →
        timedStep handler s l = some t → t.InTime ∧ t.receiver.args = args := by
      rintro s l t ⟨hin, hargs⟩ hst
      exact ⟨hin.step hst, (timedStep_args hst).trans hargs⟩
    have hstart : start.InTime ∧ start.receiver.args = args :=
      ⟨TimedCall.inTime_start socket args now queues, rfl⟩
    obtain ⟨hin, hargs⟩ := (holdsAlong_of_invariant (fun _ h => h) hkept hstart).last hs
    exact hin.early handler hwaitable hcheck (hargs ▸ hpos) hnot

/-- A call with a timeout of 100 ms that checks the clock after 0.3 ms waits for 99 ms, and
reports a timeout after 99.3 ms. -/
theorem early_timeout :
    let handler := packetHandlerRawPtr SmallPcpp.pcpp SmallPcpp.api
    let socket : UdpcapSocket SmallPcpp.Reassembler := { UdpcapSocket.create true with
      boundState := true
      boundAddress := .any
      boundPort := 14000
      pcapDevices := [⟨0, true, NpcapHelpers.npfLoopback⟩]
      pcapWin32Handles := [0] }
    let args : ReceiveArgs := ⟨[0], 1, by decide, 100, none, none, .ofCode .ok⟩
    let labels : List TimedLabel := [.reply (.clock 0), .reply .tau, .reply .tau, .reply .tau,
      .reply (.next 0 [] ""), .reply .tau, .pass 300000, .reply (.clock 300000), .pass 99000000,
      .reply (.wait waitTimeout ""), .reply .tau]
    (run (timedStep handler) (TimedCall.start socket args 0 fun _ => []) labels).map (fun s =>
      (s.receiver.pc, s.receiver.error.errorCode, s.now, s.deadline)) =
        some (.returned 0, .timeout, 99300000, 100000000) := by
  decide +kernel

end Udpcap
