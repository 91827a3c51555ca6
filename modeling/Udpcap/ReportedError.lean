import Udpcap.CloseProtocol
import Udpcap.HandlerArguments

/-!
# The reported error

Two calls of `receiveDatagram` that differ in the `Error` object that is passed in, and
what is left of it when they return.  The socket may change between any two steps.

## Main definitions

* `CallLabel`, `callStep` — a step of a call, with the socket that it finds.
* `ownMessage` — the message of the error that has ended a call.
* `ReportsOwn` — two errors that depend on the call alone.
* `ErrorEffect`, `StepAffects` — what a step assigns.
* `Receiver.Alike` — two calls that differ in the error only.

## Main results

* `receiveStep_affects` — **what a step does to the error.**
* `Alike.step` — **the calls take the same steps, and return the same code.**
* `message_iff` — when the message that a call leaves is its own.
* `reported_error_iff` — **the reported error depends on the call alone exactly if pcap has
  reported an error, or both objects were passed in without a message and no wait was
  abandoned.**
* `calls_are_runs` — a call that runs beside `close` is such a call.
-/

namespace Udpcap

open Foundation

variable {R : Type}

/-! ### Calls -/

/-- The socket as a step finds it, and the answer of the outside world. -/
abbrev CallLabel (R : Type) := UdpcapSocket R × Reply

/-- One step of a call. -/
def callStep (handler : Handler R) (rx : Receiver) (l : CallLabel R) : Option Receiver :=
  (receiveStep handler l.1 rx l.2).map Prod.snd

theorem callStep_eq_some {handler : Handler R} {rx rx' : Receiver} {l : CallLabel R} :
    callStep handler rx l = some rx' ↔ ∃ s', receiveStep handler l.1 rx l.2 = some (s', rx') := by
  unfold callStep
  simp [Option.map_eq_some_iff]

/-! ### Messages -/

/-- The message of an error that `pcap_next_ex` reports. -/
def Reply.pcapMessage : Reply → Option String
  | .next errorcode _ geterr =>
    if errorcode = 1 ∨ errorcode = 0 then none
    else if errorcode = pcapErrorNotActivated then some "Internal error: PCAP handle not activated"
    else if errorcode = pcapError then some geterr
    else some ("Internal error: Unknown error code " ++ toString errorcode)
  | _ => none

/-- `WaitForMultipleObjects` reports an abandoned mutex, and not a signalled event. -/
def Reply.abandons (s : UdpcapSocket R) : Reply → Bool
  | .wait waitResult _ =>
    let n := Receiver.numHandles s
    ¬(waitObject0 ≤ waitResult ∧ waitResult ≤ waitObject0 + n - 1) ∧
      waitAbandoned0 ≤ waitResult ∧ waitResult ≤ waitAbandoned0 + n - 1
  | _ => false

/-- The message of the error that has ended a call: an error of pcap has one of its own, the
other codes have none. -/
def ownMessage (labels : List (CallLabel R)) : String :=
  (labels.findSome? fun l => l.2.pcapMessage).getD ""

/-- Two errors with the code and the message of the call that has left them, and of nothing
before it. -/
structure ReportsOwn (labels : List (CallLabel R)) (error₁ error₂ : Error) : Prop where
  errorCode : error₁.errorCode = error₂.errorCode
  message : error₁.message = error₂.message
  own : error₁.message = ownMessage labels

/-! ### Assignments -/

/-- What a step does to the error. -/
inductive ErrorEffect
  /-- Nothing is assigned. -/
  | keep
  /-- A bare code is assigned. -/
  | code (errorCode : ErrorCode)
  /-- An error is assigned. -/
  | full (error : Error)
  deriving DecidableEq

namespace ErrorEffect

/-- The error after the step. -/
def apply : ErrorEffect → Error → Error
  | .keep, error => error
  | .code errorCode, error => error.assignCode errorCode
  | .full error, _ => error

/-- The message that is assigned. -/
def message : ErrorEffect → Option String
  | .full error => some error.message
  | _ => none

theorem message_apply (effect : ErrorEffect) (error : Error) :
    (effect.apply error).message = effect.message.getD error.message := by
  cases effect with
  | keep => rfl
  | code errorCode => rfl
  | full error' => rfl

/-- What is assigned has the same code, whatever was there before. -/
theorem errorCode_apply {effect : ErrorEffect} (h : effect ≠ .keep) (error₁ error₂ : Error) :
    (effect.apply error₁).errorCode = (effect.apply error₂).errorCode := by
  cases effect with
  | keep => exact absurd rfl h
  | code errorCode => rfl
  | full error => rfl

end ErrorEffect

/-- The message that a step assigns, if it does. -/
def Reply.message (s : UdpcapSocket R) (reply : Reply) : Option String :=
  match reply with
  | .wait _ lastError =>
    if reply.abandons s then
      some ("Internal error \"WAIT_ABANDONED\" while waiting for data: " ++ lastError)
    else none
  | _ => reply.pcapMessage

theorem Reply.message_of_pcapMessage {reply : Reply} {m : String} (h : reply.pcapMessage = some m)
    (s : UdpcapSocket R) : reply.message s = some m := by
  cases reply with
  | next errorcode pktData geterr => exact h
  | tau | clock | handled | wait => cases h

/-- Where pcap reports no error, only an abandoned wait comes with a message. -/
theorem Reply.message_of_none {reply : Reply} (h : reply.pcapMessage = none)
    (s : UdpcapSocket R) :
    (reply.abandons s = false ∧ reply.message s = none) ∨
      (reply.abandons s = true ∧ ∃ m, m ≠ "" ∧ reply.message s = some m) := by
  cases reply with
  | wait waitResult lastError =>
    cases habandons : (Reply.wait waitResult lastError).abandons s with
    | false => exact Or.inl ⟨rfl, if_neg (by simp [habandons])⟩
    | true => exact Or.inr ⟨rfl, _, by simp, if_pos habandons⟩
  | tau | clock | next | handled => exact Or.inl ⟨rfl, h⟩

/-! ### What a step does to the error -/

namespace Receiver

/-- The same call, given another error object, with other contents by now. -/
def withError (rx : Receiver) (given error : Error) : Receiver :=
  { rx with
    args := { rx.args with error := given }
    error := error }

/-- A part of the code does not look at the error; if it ends the call, it assigns one. -/
structure Affects (f : Receiver → Receiver) (rx : Receiver) (effect : ErrorEffect) : Prop where
  withError : ∀ given error,
    f (rx.withError given error) = (f rx).withError given (effect.apply error)
  assigns : (f rx).pc.result ≠ none → effect ≠ .keep

section Parts

variable (rx : Receiver) (s : UdpcapSocket R)

theorem affects_pc (pc : Pc) (h : pc.result = none) :
    Affects (fun rx => { rx with pc := pc }) rx .keep :=
  ⟨fun _ _ => rfl, fun hresult => absurd h hresult⟩

theorem affects_toDevice (k : ℕ) : Affects (fun rx => rx.toDevice s k) rx .keep :=
  ⟨fun _ _ => rfl, fun hresult => absurd (rx.result_toDevice s k) hresult⟩

theorem affects_afterStart (waitUntil : Int) : ∃ effect : ErrorEffect, effect.message = none ∧
    Affects (fun rx => rx.afterStart s waitUntil) rx effect := by
  unfold afterStart
  cases s.isValid with
  | false => exact ⟨.code .npcapNotInitialized, rfl, fun _ _ => rfl, nofun⟩
  | true => exact ⟨.keep, rfl, fun _ _ => rfl, fun hresult => absurd rfl hresult⟩

theorem affects_afterChecks : ∃ effect : ErrorEffect, effect.message = none ∧
    Affects (fun rx => rx.afterChecks s) rx effect := by
  unfold afterChecks
  cases s.pcapDevicesClosed with
  | true => exact ⟨.code .socketClosed, rfl, fun _ _ => rfl, nofun⟩
  | false =>
    cases s.boundState with
    | false => exact ⟨.code .notBound, rfl, fun _ _ => rfl, nofun⟩
    | true => exact ⟨.keep, rfl, rx.affects_toDevice s 0⟩

/-- Only an error of pcap comes with a message. -/
theorem affects_afterNext (k : ℕ) (pcapDev : PcapDev) (errorcode : Int) (pktData : Bytes)
    (geterr : String) : ∃ effect : ErrorEffect,
      effect.message = (Reply.next errorcode pktData geterr).pcapMessage ∧
        Affects (fun rx => rx.afterNext s k pcapDev errorcode pktData geterr) rx effect := by
  unfold afterNext Reply.pcapMessage
  by_cases hone : errorcode = 1
  · simp only [hone, if_true, true_or]
    exact ⟨.keep, rfl, fun _ _ => rfl, fun hresult => absurd rfl hresult⟩
  · by_cases hzero : errorcode = 0
    · simp only [hzero, if_true, or_true]
      exact ⟨.keep, rfl, rx.affects_toDevice s (k + 1)⟩
    · simp only [hone, hzero, if_false, or_false]
      by_cases hactivated : errorcode = pcapErrorNotActivated
      · simp only [hactivated, if_true]
        exact ⟨.full _, rfl, fun _ _ => rfl, nofun⟩
      · by_cases herror : errorcode = pcapError
        · simp only [herror, if_true]
          exact ⟨.full _, rfl, fun _ _ => rfl, nofun⟩
        · simp only [hactivated, herror, if_false]
          exact ⟨.full _, rfl, fun _ _ => rfl, nofun⟩

theorem affects_afterHandler (k : ℕ) (callbackArgs : CallbackArgsRawPtr) :
    ∃ effect : ErrorEffect, effect.message = none ∧
      Affects (fun rx => rx.afterHandler s k callbackArgs) rx effect := by
  unfold afterHandler
  cases callbackArgs.success with
  | true => exact ⟨.code .ok, rfl, fun _ _ => rfl, nofun⟩
  | false =>
    refine ⟨.keep, rfl, fun _ _ => rfl, ?_⟩
    intro hresult
    exact absurd (result_toDevice _ s (k + 1)) hresult

theorem affects_afterRound : Affects afterRound rx .keep := by
  refine ⟨fun _ _ => rfl, ?_⟩
  intro hresult
  unfold afterRound at hresult
  simp only at hresult
  split at hresult
  · exact absurd rfl hresult
  · exact absurd rfl hresult

theorem affects_afterTimeCheck (now : Int) : ∃ effect : ErrorEffect, effect.message = none ∧
    Affects (fun rx => rx.afterTimeCheck now) rx effect := by
  unfold afterTimeCheck
  by_cases htime : rx.waitUntil ≤ now
  · refine ⟨.code .timeout, rfl, ?_, nofun⟩
    intro given error
    show (if rx.waitUntil ≤ now then _ else _) =
      withError (if rx.waitUntil ≤ now then _ else _) given _
    rw [if_pos htime, if_pos htime]
    rfl
  · refine ⟨.keep, rfl, ?_, ?_⟩
    · intro given error
      show (if rx.waitUntil ≤ now then _ else _) =
        withError (if rx.waitUntil ≤ now then _ else _) given _
      rw [if_neg htime, if_neg htime]
      rfl
    · intro hresult
      rw [if_neg htime] at hresult
      exact absurd rfl hresult

/-- Only a wait that is abandoned comes with a message. -/
theorem affects_afterWait (waitResult : UInt32) (lastError : String) :
    ∃ effect : ErrorEffect, effect.message = (Reply.wait waitResult lastError).message s ∧
      Affects (fun rx => rx.afterWait s waitResult lastError) rx effect := by
  unfold afterWait Reply.message
  simp only
  by_cases hobject : waitObject0 ≤ waitResult ∧ waitResult ≤ waitObject0 + numHandles s - 1
  · have hnot : (Reply.wait waitResult lastError).abandons s = false :=
      decide_eq_false fun h => h.1 hobject
    simp only [if_pos hobject, hnot]
    exact ⟨.keep, rfl, rx.affects_pc .lockCallback rfl⟩
  · by_cases habandoned : waitAbandoned0 ≤ waitResult ∧
        waitResult ≤ waitAbandoned0 + numHandles s - 1
    · have hyes : (Reply.wait waitResult lastError).abandons s = true :=
        decide_eq_true ⟨hobject, habandoned⟩
      simp only [if_neg hobject, if_pos habandoned, hyes]
      exact ⟨.full _, rfl, fun _ _ => rfl, nofun⟩
    · have hnot : (Reply.wait waitResult lastError).abandons s = false :=
        decide_eq_false fun h => habandoned h.2
      simp only [if_neg hobject, if_neg habandoned, hnot]
      by_cases htimeout : waitResult = waitTimeout
      · simp only [if_pos htimeout]
        exact ⟨.code .timeout, rfl, fun _ _ => rfl, nofun⟩
      · simp only [if_neg htimeout]
        exact ⟨.keep, rfl, rx.affects_pc .lockCallback rfl⟩

end Parts

end Receiver

section Steps

variable {handler : Handler R} {s s' : UdpcapSocket R} {rx rx' : Receiver} {reply : Reply}

/-- A step does not look at the error, and what it does to it is known from the answer. -/
structure StepAffects (handler : Handler R) (s : UdpcapSocket R) (rx : Receiver) (reply : Reply)
    (s' : UdpcapSocket R) (rx' : Receiver) (effect : ErrorEffect) : Prop where
  message : effect.message = reply.message s
  withError : ∀ given error, receiveStep handler s (rx.withError given error) reply =
    some (s', rx'.withError given (effect.apply error))
  /-- A step that ends the call assigns an error. -/
  assigns : rx'.pc.result ≠ none → rx.pc.result ≠ none ∨ effect ≠ .keep

theorem Receiver.Affects.step {f : Receiver → Receiver} {effect : ErrorEffect}
    (h : rx.Affects f effect) (hstep : ∀ given error,
      receiveStep handler s (rx.withError given error) reply =
        some (s', f (rx.withError given error)))
    (hmessage : effect.message = reply.message s) :
    ∃ effect, StepAffects handler s rx reply s' (f rx) effect := by
  refine ⟨effect, hmessage, ?_, fun hresult => Or.inr (h.assigns hresult)⟩
  intro given error
  rw [hstep given error, h.withError given error]

/-- **What a step does to the error.** -/
theorem receiveStep_affects (h : receiveStep handler s rx reply = some (s', rx')) :
    ∃ effect, StepAffects handler s rx reply s' rx' effect := by
  -- the position decides which part of the code runs
  have hpart : ∀ {f : Receiver → Receiver} {effect : ErrorEffect}, rx.Affects f effect →
      (∀ given error, receiveStep handler s (rx.withError given error) reply =
        some (s', f (rx.withError given error))) → effect.message = reply.message s →
      ∃ effect, StepAffects handler s rx reply s' (f rx) effect := fun haffects hstep hmessage =>
    haffects.step hstep hmessage
  have hpc' : ∀ given error, (rx.withError given error).pc = rx.pc := fun _ _ => rfl
  unfold receiveStep at h hpart
  simp only [hpc'] at hpart
  split at h
  case h_1 now hpc =>
    rw [hpc] at hpart
    split at h
    next hpos =>
      cases h
      obtain ⟨effect, hmessage, haffects⟩ := rx.affects_afterStart s
        (Receiver.deadline now rx.args.timeoutMs)
      exact hpart haffects (fun _ _ => if_pos hpos) hmessage
    next => cases h
  case h_2 hpc =>
    rw [hpc] at hpart
    split at h
    next hneg =>
      cases h
      obtain ⟨effect, hmessage, haffects⟩ := rx.affects_afterStart s timePointMax
      exact hpart haffects (fun _ _ => if_pos hneg) hmessage
    next => cases h
  case h_3 hpc =>
    rw [hpc] at hpart
    cases h
    exact hpart (rx.affects_pc .lockCallback rfl) (fun _ _ => rfl) rfl
  case h_4 hpc =>
    rw [hpc] at hpart
    cases h
    have haffects := { rx with receivedAnyData := false }.affects_pc .checks rfl
    exact hpart (f := fun rx => { rx with receivedAnyData := false, pc := .checks })
      ⟨fun _ _ => rfl, haffects.assigns⟩ (fun _ _ => rfl) rfl
  case h_5 hpc =>
    rw [hpc] at hpart
    cases h
    obtain ⟨effect, hmessage, haffects⟩ := rx.affects_afterChecks s
    exact hpart haffects (fun _ _ => rfl) hmessage
  case h_6 k pcapDev errorcode pktData geterr hpc =>
    rw [hpc] at hpart
    cases h
    obtain ⟨effect, hmessage, haffects⟩ := rx.affects_afterNext s k pcapDev errorcode pktData geterr
    exact hpart haffects (fun _ _ => rfl) hmessage
  case h_7 k pcapDev pktData env hpc =>
    rw [hpc] at hpart
    have hargs : ∀ given error, (rx.withError given error).callbackArgs s = rx.callbackArgs s :=
      fun _ _ => rfl
    simp only [hargs] at hpart
    split at h
    next hhandler =>
      cases h
      rw [hhandler] at hpart
      exact hpart (rx.affects_pc .crashed rfl) (fun _ _ => rfl) rfl
    next reassemblers callbackArgs hhandler =>
      cases h
      rw [hhandler] at hpart
      obtain ⟨effect, hmessage, haffects⟩ := rx.affects_afterHandler s k callbackArgs
      exact hpart haffects (fun _ _ => rfl) hmessage
  case h_8 hpc =>
    rw [hpc] at hpart
    cases h
    exact hpart rx.affects_afterRound (fun _ _ => rfl) rfl
  case h_9 now hpc =>
    rw [hpc] at hpart
    cases h
    obtain ⟨effect, hmessage, haffects⟩ := rx.affects_afterTimeCheck now
    exact hpart haffects (fun _ _ => rfl) hmessage
  case h_10 ms waitResult lastError hpc =>
    rw [hpc] at hpart
    cases h
    obtain ⟨effect, hmessage, haffects⟩ := rx.affects_afterWait s waitResult lastError
    exact hpart haffects (fun _ _ => rfl) hmessage
  case h_11 n hpc | h_12 n hpc =>
    -- the error is assigned before the locks are released
    cases h
    refine ⟨.keep, rfl, ?_, ?_⟩
    · intro given error
      unfold receiveStep
      rw [hpc' given error, hpc]
      rfl
    · rw [hpc]
      exact fun _ => Or.inl (Option.some_ne_none n)
  case h_13 => cases h

theorem StepAffects.error_eq {effect : ErrorEffect}
    (haffects : StepAffects handler s rx reply s' rx' effect)
    (h : receiveStep handler s rx reply = some (s', rx')) :
    rx'.error = effect.apply rx.error := by
  have hsame := haffects.withError rx.args.error rx.error
  have heq : (s', rx') = (s', rx'.withError rx.args.error (effect.apply rx.error)) :=
    Option.some.inj (h.symm.trans hsame)
  exact congrArg (fun o => o.2.error) heq

theorem receiveStep_message (h : receiveStep handler s rx reply = some (s', rx')) :
    rx'.error.message = (reply.message s).getD rx.error.message := by
  obtain ⟨effect, haffects⟩ := receiveStep_affects h
  rw [haffects.error_eq h, effect.message_apply, haffects.message]

/-- An error of pcap ends the call. -/
theorem receiveStep_failed (h : receiveStep handler s rx reply = some (s', rx')) {m : String}
    (hpcap : reply.pcapMessage = some m) : rx'.pc.result = some 0 := by
  unfold receiveStep at h
  split at h
  case h_6 k pcapDev errorcode pktData geterr hpc =>
    cases h
    unfold Reply.pcapMessage at hpcap
    simp only at hpcap
    split at hpcap
    next => cases hpcap
    next hcode =>
      obtain ⟨hone, hzero⟩ := not_or.mp hcode
      unfold Receiver.afterNext
      rw [if_neg hone, if_neg hzero]
      split
      · rfl
      · split
        · rfl
        · rfl
  case h_13 => cases h
  all_goals cases hpcap

/-- On its way out, a call does not touch the error. -/
theorem receiveStep_leaving (h : receiveStep handler s rx reply = some (s', rx')) {n : ℕ}
    (hresult : rx.pc.result = some n) : rx'.pc.result = some n ∧ rx'.error = rx.error := by
  cases receiveStep_case h with
  | leaveRound m hpc | leave m hpc =>
    rw [hpc] at hresult
    exact ⟨hresult, rfl⟩
  | invalid _ _ hpc | valid _ _ hpc | lockLists hpc | lockCallback hpc | refuse _ hpc | first hpc
  | take _ _ _ _ hpc | skip _ _ _ _ hpc | pollError _ _ _ _ _ _ hpc | crash _ _ _ _ hpc
  | handle _ _ _ _ _ _ hpc | again hpc | noData hpc | timeout _ hpc | wait _ hpc | wake _ _ _ _ hpc
  | waitTimeout _ _ hpc =>
    rw [hpc] at hresult
    cases hresult

end Steps

/-! ### What a run does to the message -/

section Runs

variable {handler : Handler R} {rx rx' : Receiver} {l : CallLabel R} {labels : List (CallLabel R)}

theorem error_of_leaving (hrun : run (callStep handler) rx labels = some rx') {n : ℕ}
    (hresult : rx.pc.result = some n) : rx'.error = rx.error := by
  induction labels generalizing rx with
  | nil =>
    cases hrun
    rfl
  | cons l labels ih =>
    obtain ⟨rx₁, hstep, hrun'⟩ := run_cons_eq_some.mp hrun
    obtain ⟨s', hreceive⟩ := callStep_eq_some.mp hstep
    obtain ⟨hresult', herror⟩ := receiveStep_leaving hreceive hresult
    rw [ih hrun' hresult', herror]

theorem ownMessage_cons_none (h : l.2.pcapMessage = none) :
    ownMessage (l :: labels) = ownMessage labels := by
  unfold ownMessage
  rw [List.findSome?_cons, h]

theorem ownMessage_cons_some {m : String} (h : l.2.pcapMessage = some m) :
    ownMessage (l :: labels) = m := by
  unfold ownMessage
  rw [List.findSome?_cons, h]
  rfl

/-- **When the message that a call leaves is its own.** -/
theorem message_iff (hrun : run (callStep handler) rx labels = some rx') :
    rx'.error.message = ownMessage labels ↔
      (∃ l ∈ labels, l.2.pcapMessage.isSome = true) ∨
        (rx.error.message = "" ∧ ∀ l ∈ labels, l.2.abandons l.1 = false) := by
  induction labels generalizing rx with
  | nil =>
    cases hrun
    simp [ownMessage]
  | cons l labels ih =>
    obtain ⟨rx₁, hstep, hrun'⟩ := run_cons_eq_some.mp hrun
    obtain ⟨s', hreceive⟩ := callStep_eq_some.mp hstep
    have hmessage := receiveStep_message hreceive
    cases hpcap : l.2.pcapMessage with
    | some m =>
      -- the call ends here, so nothing is assigned any more
      rw [Reply.message_of_pcapMessage hpcap, Option.getD_some] at hmessage
      rw [ownMessage_cons_some hpcap,
        error_of_leaving hrun' (receiveStep_failed hreceive hpcap)]
      simp [hmessage, hpcap]
    | none =>
      rw [ownMessage_cons_none hpcap, ih hrun']
      rcases Reply.message_of_none hpcap l.1 with ⟨habandons, hnone⟩ | ⟨habandons, m, hm, hsome⟩
      · rw [hnone, Option.getD_none] at hmessage
        simp [hmessage, hpcap, habandons]
      · rw [hsome, Option.getD_some] at hmessage
        simp [hmessage, hm, hpcap, habandons]

end Runs

/-! ### Two calls side by side -/

namespace Receiver

/-- Two calls that differ in the error only, and not in its code when they return. -/
def Alike (rx rx' : Receiver) : Prop :=
  ∃ given error, rx' = rx.withError given error ∧
    (rx.pc.result ≠ none → rx.error.errorCode = error.errorCode)

theorem alike_create (args : ReceiveArgs) (error₁ error₂ : Error) :
    (create { args with error := error₁ }).Alike (create { args with error := error₂ }) :=
  ⟨error₂, error₂, rfl, fun h => absurd rfl h⟩

variable {handler : Handler R} {rx₁ rx₂ rx₁' : Receiver} {l : CallLabel R}

/-- **The calls take the same steps, and return the same code.** -/
theorem Alike.step (h : rx₁.Alike rx₂) (hstep : callStep handler rx₁ l = some rx₁') :
    ∃ rx₂', callStep handler rx₂ l = some rx₂' ∧ rx₁'.Alike rx₂' := by
  obtain ⟨given, error, rfl, hcode⟩ := h
  obtain ⟨s', hreceive⟩ := callStep_eq_some.mp hstep
  obtain ⟨effect, haffects⟩ := receiveStep_affects hreceive
  refine ⟨rx₁'.withError given (effect.apply error),
    callStep_eq_some.mpr ⟨s', haffects.withError given error⟩, given, _, rfl, ?_⟩
  intro hresult
  rw [haffects.error_eq hreceive]
  by_cases hkeep : effect = .keep
  · -- only a call that is leaving ends a step without an assignment
    subst hkeep
    exact hcode ((haffects.assigns hresult).resolve_right (not_not.mpr rfl))
  · exact ErrorEffect.errorCode_apply hkeep rx₁.error error

end Receiver

/-- **The error that a call reports depends on the call alone exactly if pcap has reported
an error, or both objects were passed in without a message and no wait was abandoned.** -/
theorem reported_error_iff (handler : Handler R) (args : ReceiveArgs) (error₁ error₂ : Error)
    (labels : List (CallLabel R)) {rx₁ : Receiver} {n : ℕ}
    (hrun : run (callStep handler) (.create { args with error := error₁ }) labels = some rx₁)
    (hreturned : rx₁.pc = .returned n) :
    ∃ rx₂, run (callStep handler) (.create { args with error := error₂ }) labels = some rx₂ ∧
      rx₂.pc = .returned n ∧
      (ReportsOwn labels rx₁.error rx₂.error ↔
        (∃ l ∈ labels, l.2.pcapMessage.isSome = true) ∨
          (error₁.message = "" ∧ error₂.message = "" ∧
            ∀ l ∈ labels, l.2.abandons l.1 = false)) := by
  obtain ⟨rx₂, hrun₂, halike⟩ := run_of_lockstep (fun _ _ _ _ h hstep => h.step hstep)
    (Receiver.alike_create args error₁ error₂) hrun
  obtain ⟨given, error, heq, hcode⟩ := halike
  have hpc : rx₂.pc = .returned n := by
    rw [heq]
    exact hreturned
  have herror : rx₁.error.errorCode = rx₂.error.errorCode := by
    rw [heq]
    refine hcode ?_
    rw [hreturned]
    exact nofun
  have hown₁ := message_iff hrun
  have hown₂ := message_iff hrun₂
  refine ⟨rx₂, hrun₂, hpc, ?_⟩
  constructor
  · intro h
    rcases hown₁.mp h.own with hpcap | ⟨hempty₁, habandons⟩
    · exact Or.inl hpcap
    · rcases hown₂.mp (h.message ▸ h.own) with hpcap | ⟨hempty₂, -⟩
      · exact Or.inl hpcap
      · exact Or.inr ⟨hempty₁, hempty₂, habandons⟩
  · intro h
    have hmessage₁ : rx₁.error.message = ownMessage labels :=
      hown₁.mpr (h.imp id fun h => ⟨h.1, h.2.2⟩)
    have hmessage₂ : rx₂.error.message = ownMessage labels :=
      hown₂.mpr (h.imp id fun h => ⟨h.2.1, h.2.2⟩)
    exact ⟨herror, hmessage₁.trans hmessage₂.symm, hmessage₁⟩

/-- A call with a timeout of 0 finds nothing on the device. -/
def nothingToReceive : List (CallLabel SmallPcpp.Reassembler) :=
  [.clock 0, .tau, .tau, .tau, .next 0 [] "", .tau, .clock 0, .tau].map fun reply =>
    (boundToLoopback, reply)

/-- Given two errors without a message, the call leaves the same error. -/
theorem reported_error_of_no_message :
    let handler := packetHandlerRawPtr SmallPcpp.pcpp SmallPcpp.api
    let args : ReceiveArgs := ⟨[0], 1, by decide, 0, none, none, .ofCode .ok⟩
    let call := fun error => run (callStep handler) (.create { args with error := error })
      nothingToReceive
    ∃ rx₁ rx₂, call (.ofCode .ok) = some rx₁ ∧ call (.ofCode .socketClosed) = some rx₂ ∧
      rx₁.error = .ofCode .timeout ∧ ReportsOwn nothingToReceive rx₁.error rx₂.error := by
  intro handler args call
  have hend : (call (.ofCode .ok)).map (fun rx => (rx.pc, rx.error)) =
      some (.returned 0, .ofCode .timeout) := by decide +kernel
  obtain ⟨rx₁, hrun₁, heq⟩ := Option.map_eq_some_iff.mp hend
  obtain ⟨hpc, herror⟩ := Prod.mk.inj heq
  obtain ⟨rx₂, hrun₂, -, hreports⟩ := reported_error_iff handler args (.ofCode .ok)
    (.ofCode .socketClosed) nothingToReceive hrun₁ hpc
  have hnone : ∀ l ∈ nothingToReceive, l.2.abandons l.1 = false := by decide
  exact ⟨rx₁, rx₂, hrun₁, hrun₂, herror, hreports.mpr (Or.inr ⟨rfl, rfl, hnone⟩)⟩

/-- Given the error of an earlier call, the call leaves its message with the new code. -/
theorem stale_message :
    let handler := packetHandlerRawPtr SmallPcpp.pcpp SmallPcpp.api
    let args : ReceiveArgs := ⟨[0], 1, by decide, 0, none, none, .ofCode .ok⟩
    let report := fun error => (run (callStep handler) (.create { args with error := error })
      nothingToReceive).map fun rx => (rx.pc, rx.error.errorCode, rx.error.toText)
    report (.ofCode .ok) = some (.returned 0, .timeout, "Timeout") ∧
      report ⟨.genericError, "The device was removed"⟩ =
        some (.returned 0, .timeout, "Timeout (The device was removed)") := by
  decide +kernel

/-! ### Calls beside `close` -/

namespace Concurrent

/-- The calls of the receiving thread, as runs on a socket that changes between the steps. -/
structure CallsAreRuns (handler : Handler R) (s : Concurrent R) : Prop where
  receiver : ∀ rx ∈ s.receiver, ∃ args labels,
    run (callStep handler) (.create args) labels = some rx
  finished : ∀ c ∈ s.finished, c.receiver.pc = .returned c.result ∧ ∃ args labels,
    run (callStep handler) (.create args) labels = some c.receiver

variable {preferWriters : Bool} {handler : Handler R} {s t : Concurrent R}

theorem closerStep_receiver (h : s.closerStep = some t) :
    t.receiver = s.receiver ∧ t.finished = s.finished := by
  unfold closerStep at h
  split at h
  case h_1 => cases h
  case h_2 | h_3 | h_8 =>
    obtain ⟨locks, -, rfl⟩ := Option.map_eq_some_iff.mp h
    exact ⟨rfl, rfl⟩
  case h_5 =>
    split at h
    · cases h
      exact ⟨rfl, rfl⟩
    · cases h
      exact ⟨rfl, rfl⟩
  all_goals
    cases h
    exact ⟨rfl, rfl⟩

theorem CallsAreRuns.step (hs : s.CallsAreRuns handler) {l : ConcurrentLabel}
    (h : concurrentStep preferWriters handler s l = some t) : t.CallsAreRuns handler := by
  rcases concurrentStep_cases h with ⟨args, -, rfl⟩ | ⟨reply, rx, rx', heffect⟩ | ⟨-, rfl⟩ |
    hcloser
  · refine ⟨?_, hs.finished⟩
    intro rx hrx
    cases hrx
    exact ⟨args, [], rfl⟩
  · -- the run of the call is one step longer
    obtain ⟨args, labels, hrun⟩ := hs.receiver rx heffect.receiver_eq
    have hstep : callStep handler rx (s.socket, reply) = some rx' :=
      callStep_eq_some.mpr ⟨_, heffect.step⟩
    have hlast : run (callStep handler) (.create args) (labels ++ [(s.socket, reply)]) =
        some rx' := by
      rw [run_append, hrun, Option.bind_some, run_cons, hstep]
      rfl
    rcases heffect.proceeds with ⟨hreceiver, -, hfinished⟩ | ⟨hreceiver, n, hpc, hfinished⟩
    · refine ⟨?_, ?_⟩
      · intro rx₁ hrx₁
        rw [hreceiver] at hrx₁
        cases hrx₁
        exact ⟨args, _, hlast⟩
      · rw [hfinished]
        exact hs.finished
    · refine ⟨?_, ?_⟩
      · rw [hreceiver]
        exact fun rx₁ hrx₁ => absurd hrx₁ (Option.not_mem_none rx₁)
      · intro c hc
        rw [hfinished] at hc
        rcases List.mem_append.mp hc with hc | hc
        · exact hs.finished c hc
        · cases List.mem_singleton.mp hc
          exact ⟨hpc, args, _, hlast⟩
  · exact ⟨hs.receiver, hs.finished⟩
  · obtain ⟨hreceiver, hfinished⟩ := closerStep_receiver hcloser
    exact ⟨hreceiver ▸ hs.receiver, hfinished ▸ hs.finished⟩

/-- **The calls that run beside `close` are runs** on a socket that changes between the
steps. -/
theorem calls_are_runs (preferWriters : Bool) (handler : Handler R) (socket : UdpcapSocket R)
    (labels : List ConcurrentLabel) :
    HoldsAlong (concurrentStep preferWriters handler) (CallsAreRuns handler) (start socket)
      labels := by
  have hstart : (start socket).CallsAreRuns handler :=
    ⟨fun rx hrx => absurd hrx (Option.not_mem_none rx),
      fun c hc => absurd hc (List.not_mem_nil (a := c))⟩
  exact holdsAlong_of_invariant (fun _ hs => hs) (fun _ _ _ hs hst => hs.step hst) hstart

end Concurrent

end Udpcap
