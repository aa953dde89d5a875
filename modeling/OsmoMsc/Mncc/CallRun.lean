/-
Module: OsmoMsc.Mncc.CallRun
Purpose: What an `mncc_call` instance sends over a whole run.  A call should send one terminal
  message and nothing after it, and a terminated instance should neither forward messages nor change
  its state.  A cleanup function sends a second release, and a send error ends the instance under
  callers that carry on, so the property holds for the runs that `CallOk` admits.
Trusted boundary: none
Main exports: OneTerminal, callRun_oneTerminal
-/
import OsmoMsc.Library.Run
import OsmoMsc.Mncc.Call

namespace OsmoMsc.Mncc

open Library Rtp List

variable {c : MnccCall}

/-! ### The property -/

def CallAct.isSent : CallAct → Bool
  | .sent _ _ => true
  | _ => false

/-- A terminal message was sent. -/
def CallAct.isTerminal : CallAct → Bool
  | .sent _ msg => msg.terminal
  | _ => false

/-- A message was forwarded, or the state changed. -/
def CallAct.isLife : CallAct → Bool
  | .forwarded _ | .stateChg _ => true
  | _ => false

/-- At most one terminal message is sent, no message comes after it, and nothing is forwarded and no
state is changed after the termination. -/
structure OneTerminal (acts : List CallAct) : Prop where
  atMostOne : (acts.filter CallAct.isTerminal).length ≤ 1
  lastSent : ∀ before act after, acts = before ++ act :: after → act.isTerminal →
    ∀ later ∈ after, later.isSent = false
  deadAfter : ∀ before after, acts = before ++ .terminated :: after →
    ∀ later ∈ after, later.isLife = false

/-- The same, said of each act when it is written. -/
def Allowed (before : List CallAct) (act : CallAct) : Prop :=
  (act.isSent → ∀ earlier ∈ before, earlier.isTerminal = false) ∧
    (act.isLife → .terminated ∉ before)

theorem CallAct.isSent_of_isTerminal {act : CallAct} (terminal : act.isTerminal) : act.isSent := by
  cases act <;> simp_all [CallAct.isTerminal, CallAct.isSent]

variable {acts : List CallAct} {msg : MnccOut}

theorem filter_isTerminal_length_le (guarded : Guarded Allowed acts) :
    (acts.filter CallAct.isTerminal).length ≤ 1 := by
  induction acts using List.reverseRecOn with
  | nil => simp
  | append_singleton acts act ih =>
      obtain ⟨guarded, last⟩ := guarded_snoc.mp guarded
      cases terminal : act.isTerminal with
      | false => simpa [filter_append, terminal] using ih guarded
      | true =>
          have none : acts.filter CallAct.isTerminal = [] := by
            rw [filter_eq_nil_iff]
            intro earlier member
            simpa using last.1 (CallAct.isSent_of_isTerminal terminal) earlier member
          simp [filter_append, none, terminal]

theorem oneTerminal_of_guarded (guarded : Guarded Allowed acts) : OneTerminal acts := by
  refine ⟨filter_isTerminal_length_le guarded, ?_, ?_⟩
  · intro before act after split terminal later member
    obtain ⟨between, rest, rfl⟩ := append_of_mem member
    have allowed := guarded (before ++ act :: between) later rest (by simp [split])
    by_contra sent
    have quiet := allowed.1 (by simpa using sent) act (by simp)
    simp [quiet] at terminal
  · intro before after split later member
    obtain ⟨between, rest, rfl⟩ := append_of_mem member
    have allowed := guarded (before ++ .terminated :: between) later rest (by simp [split])
    by_contra life
    exact allowed.2 (by simpa using life) (by simp)

/-! ### The invariant -/

/-- No terminal message was sent yet, and the instance is not terminated. -/
structure Live (c : MnccCall) : Prop where
  guarded : Guarded Allowed c.acts
  running : c.fi.terminating = false
  quiet : ∀ act ∈ c.acts, act.isTerminal = false
  unfinished : .terminated ∉ c.acts

structure Ended (c : MnccCall) : Prop where
  guarded : Guarded Allowed c.acts
  ended : c.fi.terminating = true

/-- The invariant: an instance is alive and has sent no terminal message, or it is terminated. -/
def CallInv (c : MnccCall) : Prop := Live c ∨ Ended c

section

variable {act : CallAct} {c' : MnccCall}

theorem CallInv.ofLive (live : Live c) : CallInv c := .inl live

theorem CallInv.ofEnded (ended : Ended c) : CallInv c := .inr ended

theorem CallInv.guarded : CallInv c → Guarded Allowed c.acts
  | .inl live => live.guarded
  | .inr ended => ended.guarded

/-- Acts on the stream, and the end of the instance, are allowed at any time. -/
theorem guarded_emit (guarded : Guarded Allowed c.acts) (allowed : Allowed c.acts act) :
    Guarded Allowed (c.emit act).acts :=
  guarded_snoc.mpr ⟨guarded, allowed⟩

theorem guarded_send (guarded : Guarded Allowed c.acts)
    (quiet : ∀ act ∈ c.acts, act.isTerminal = false) (msg : MnccOut) (recv : Recv) :
    Guarded Allowed (c.send msg recv).acts := by
  unfold MnccCall.send
  split
  · exact guarded_emit guarded ⟨fun _ => quiet, by simp [CallAct.isLife]⟩
  · exact guarded

theorem allowed_of_silent {before : List CallAct} (notSent : act.isSent = false)
    (notLife : act.isLife = false) : Allowed before act := by
  simp [Allowed, notSent, notLife]

/-- A change of fields that are neither the log nor the FSM. -/
theorem Live.congr (live : Live c) (acts : c'.acts = c.acts) (fi : c'.fi = c.fi) : Live c' :=
  ⟨acts ▸ live.guarded, fi ▸ live.running, acts ▸ live.quiet, acts ▸ live.unfinished⟩

theorem CallInv.congr (inv : CallInv c) (acts : c'.acts = c.acts) (fi : c'.fi = c.fi) :
    CallInv c' := by
  cases inv with
  | inl live => exact .inl (live.congr acts fi)
  | inr ended => exact .inr ⟨acts ▸ ended.guarded, fi ▸ ended.ended⟩

/-- A live instance may do anything that is not terminal. -/
theorem Live.emit (live : Live c) (notTerminal : act.isTerminal = false)
    (notEnd : act ≠ .terminated) : Live (c.emit act) where
  guarded := guarded_emit live.guarded ⟨fun _ => live.quiet, fun _ => live.unfinished⟩
  running := live.running
  quiet := by
    intro a member
    rcases mem_concat.mp member with old | rfl
    · exact live.quiet a old
    · exact notTerminal
  unfinished := by
    intro member
    rcases mem_append.mp member with old | new
    · exact live.unfinished old
    · exact notEnd (mem_singleton.mp new).symm

theorem Live.send (live : Live c) (notTerminal : msg.terminal = false) (recv : Recv) :
    Live (c.send msg recv) := by
  unfold MnccCall.send
  split
  · exact live.emit notTerminal (by simp)
  · exact live

theorem Live.stateChg (live : Live c) (new : CallState) : Live (c.stateChg new) := by
  unfold MnccCall.stateChg
  split
  · exact live
  · rename_i fi changed
    have running := Inst.stateChg_terminating changed
    have live' : Live { c with fi := fi } :=
      ⟨live.guarded, running, live.quiet, live.unfinished⟩
    exact live'.emit rfl (by simp)

end

/-! ### Termination -/

theorem terminating_send (c : MnccCall) (msg : MnccOut) (recv : Recv) :
    (c.send msg recv).fi = c.fi := by
  unfold MnccCall.send
  split <;> rfl

variable {recv : Recv}

/-- The cleanup function is allowed to send its `MNCC_REL_IND` as long as nothing terminal was sent,
and otherwise only if it sends nothing. -/
theorem guarded_cleanup (guarded : Guarded Allowed c.acts)
    (fits : (∀ act ∈ c.acts, act.isTerminal = false) ∨ c.fi.state = .waitReleaseAck ∨
      recv.delivered = false) : Guarded Allowed (c.cleanup recv).acts := by
  have sent : Guarded Allowed (c.send .relInd recv).acts ∨ c.fi.state = .waitReleaseAck := by
    rcases fits with quiet | waiting | gone
    · exact .inl (guarded_send guarded quiet .relInd recv)
    · exact .inr waiting
    · left
      simpa [MnccCall.send, gone] using guarded
  have released (c : MnccCall) (guarded : Guarded Allowed c.acts) :
      Guarded Allowed (if c.rtps then { c with rtps := false }.emit .rtpRelease else c).acts := by
    split
    · exact guarded_emit (c := { c with rtps := false }) guarded (allowed_of_silent rfl rfl)
    · exact guarded
  unfold MnccCall.cleanup
  apply released
  rcases sent with sent | waiting
  · split <;> first | exact guarded | exact sent
  · simp only [waiting]
    exact guarded

theorem cleanup_fi (c : MnccCall) (recv : Recv) : (c.cleanup recv).fi = c.fi := by
  have released (c : MnccCall) :
      (if c.rtps then { c with rtps := false }.emit .rtpRelease else c).fi = c.fi := by
    split <;> rfl
  unfold MnccCall.cleanup
  rw [released]
  split <;> simp [terminating_send]

theorem CallInv.term_of (guarded : Guarded Allowed c.acts)
    (fits : (∀ act ∈ c.acts, act.isTerminal = false) ∨ c.fi.state = .waitReleaseAck ∨
      recv.delivered = false) : Ended (c.term recv) := by
  unfold MnccCall.term
  cases termed : c.fi.term with
  | none => exact ⟨guarded, by simpa [Inst.term] using termed⟩
  | some fi =>
      obtain ⟨-, rfl⟩ := Inst.term_eq_some.mp termed
      refine ⟨guarded_emit (guarded_cleanup guarded fits) (allowed_of_silent rfl rfl), ?_⟩
      simp [MnccCall.emit, cleanup_fi]

theorem Live.term (live : Live c) (recv : Recv) : Ended (c.term recv) :=
  CallInv.term_of live.guarded (.inl live.quiet)

theorem Ended.term (ended : Ended c) (recv : Recv) : c.term recv = c := by
  simp [MnccCall.term, Inst.term, ended.ended]

theorem CallInv.term (inv : CallInv c) (recv : Recv) : Ended (c.term recv) := by
  cases inv with
  | inl live => exact live.term recv
  | inr ended => exact (ended.term recv).symm ▸ ended

/-! ### The handlers -/

theorem Live.tx (live : Live c) (notTerminal : msg.terminal = false) (recv cleanup : Recv) :
    CallInv (mnccCallTx c msg recv cleanup) := by
  unfold mnccCallTx
  split
  · exact .inr ((live.send notTerminal recv).term cleanup)
  · exact .inl (live.send notTerminal recv)

/-- Handling a message does not end the instance: what an answer is made of is there, it can be sent,
and the stream takes its new address. -/
def RxSurvives (c : MnccCall) (rx : RxInput) : Prop :=
  match rx.msg with
  | .rtpCreate =>
      c.rtps = true → rx.rtp.localAddr.isNonzero = true → rx.rtp.codecsKnown = true →
        rx.rtp.toSockaddr = true ∧ rx.rtp.codec.isSome = true ∧ rx.reply.fails = false
  | .rtpConnect addr => c.rtps = true → addr.isSome = true ∧ rx.rtp.commit = true
  | .setupRsp => c.fi.state = .outgoingWaitComplete → rx.reply.fails = false
  | _ => True

instance RxSurvives.decidable (c : MnccCall) (rx : RxInput) : Decidable (RxSurvives c rx) := by
  unfold RxSurvives
  split <;> infer_instance

/-- A message is handled without a release after the release, and without a forward after the end.

`MNCC_DISC_REQ` and `MNCC_REL_REQ` are answered with a terminal message, and the cleanup function
sends another unless the instance is in WAIT_RELEASE_ACK.  The RTP messages and `MNCC_SETUP_RSP` are
forwarded even if handling them has terminated the instance. -/
def RxOk (c : MnccCall) (rx : RxInput) : Prop :=
  c.fi.accepts callFsm .rxMnccMsg = true →
    if rx.msg = .discReq ∨ rx.msg = .relReq then
      c.fi.state = .waitReleaseAck ∨ rx.reply.delivered = false ∨ rx.cleanup.delivered = false
    else c.messageCb = false ∨ c.fi.state = .waitReleaseAck ∨ RxSurvives c rx

instance RxOk.decidable (c : MnccCall) (rx : RxInput) : Decidable (RxOk c rx) := by
  unfold RxOk
  infer_instance

section

variable (live : Live c)
include live

theorem releaseMsg_ended {answer : MnccOut} {rx : RxInput}
    (fits : c.fi.state = .waitReleaseAck ∨ rx.reply.delivered = false ∨
      rx.cleanup.delivered = false) : Ended (mnccCallRxReleaseMsg c answer rx) := by
  -- the answer itself is allowed, since nothing terminal was sent before it
  have answered := guarded_send live.guarded live.quiet answer rx.reply
  have ended : Ended ((c.send answer rx.reply).term rx.cleanup) := by
    refine CallInv.term_of answered ?_
    rcases fits with waiting | gone | gone
    · exact .inr (.inl (by simpa [terminating_send] using waiting))
    · left
      simpa [MnccCall.send, gone] using live.quiet
    · exact .inr (.inr gone)
  unfold mnccCallRxReleaseMsg mnccCallTx
  split
  · exact (ended.term rx.cleanup).symm ▸ ended
  · exact ended

theorem Live.rxRtpCreate (rx : RxInput) : CallInv (mnccCallRxRtpCreate c rx) := by
  have live' : Live { c with receivedRtpCreate := true } := live.congr rfl rfl
  simp only [mnccCallRxRtpCreate, mnccCallTxRtpCreate]
  split
  · exact .inl live'
  · split
    · exact .inr (live'.term rx.cleanup)
    · split
      · exact .inr (live'.term rx.cleanup)
      · exact live'.tx rfl rx.reply rx.cleanup

theorem Live.rxRtpConnect (addr : Option SockAddr) (rx : RxInput) :
    CallInv (mnccCallRxRtpConnect c addr rx) := by
  unfold mnccCallRxRtpConnect
  split
  · exact .inl live
  · cases addr with
    | none => exact .inr (live.term rx.cleanup)
    | some addr =>
        have moved : Live (c.emit (.rtpSetRemote addr)) := live.emit rfl (by simp)
        simp only
        split
        · exact .inl moved
        · exact .inr (moved.term rx.cleanup)

theorem Live.rxCommonMsg (rx : RxInput) : CallInv (mnccCallRxCommonMsg c rx) := by
  unfold mnccCallRxCommonMsg
  split
  · exact live.rxRtpCreate rx
  · exact live.rxRtpConnect _ rx
  · exact .inl live

/-- The messages that `mncc_call_rx_common_msg()` acts on are not those that change the state. -/
theorem Live.progress (state : CallState) (rx : RxInput) :
    CallInv (mnccCallProgress state (mnccCallRxCommonMsg c rx) rx) := by
  have common := live.rxCommonMsg rx
  unfold mnccCallProgress
  split <;> rename_i msg
  · simpa [mnccCallRxCommonMsg, msg] using CallInv.ofLive (live.stateChg .outgoingWaitComplete)
  · simpa [mnccCallRxCommonMsg, msg] using (live.stateChg .talking).tx rfl rx.reply rx.cleanup
  · simpa [mnccCallRxCommonMsg, msg] using CallInv.ofLive (live.stateChg .talking)
  · exact common

omit live in
theorem messageCb_handle (c : MnccCall) (rx : RxInput) :
    (mnccCallHandle c rx).messageCb = c.messageCb := by
  have send (c : MnccCall) (msg : MnccOut) (recv : Recv) :
      (c.send msg recv).messageCb = c.messageCb := by
    unfold MnccCall.send
    split <;> rfl
  have term (c : MnccCall) (recv : Recv) : (c.term recv).messageCb = c.messageCb := by
    unfold MnccCall.term MnccCall.cleanup
    grind [MnccCall.emit]
  have tx (c : MnccCall) (msg : MnccOut) (recv cleanup : Recv) :
      (mnccCallTx c msg recv cleanup).messageCb = c.messageCb := by
    unfold mnccCallTx
    split <;> simp [send, term]
  have stateChg (c : MnccCall) (new : CallState) : (c.stateChg new).messageCb = c.messageCb := by
    unfold MnccCall.stateChg
    split <;> rfl
  have common : (mnccCallRxCommonMsg c rx).messageCb = c.messageCb := by
    unfold mnccCallRxCommonMsg mnccCallRxRtpCreate mnccCallRxRtpConnect mnccCallTxRtpCreate
    grind [MnccCall.emit]
  unfold mnccCallHandle mnccCallProgress
  grind

omit live in
theorem running_handle (running : c.fi.terminating = false) {rx : RxInput}
    (fits : c.fi.state = .waitReleaseAck ∨ RxSurvives c rx) :
    (mnccCallHandle c rx).fi.terminating = false := by
  have stateChg (new : CallState) : (c.stateChg new).fi.terminating = false := by
    unfold MnccCall.stateChg
    split
    · exact running
    · rename_i changed
      exact Inst.stateChg_terminating changed
  have common : (mnccCallRxCommonMsg c rx).fi.terminating = false ∨ c.fi.state = .waitReleaseAck := by
    unfold mnccCallRxCommonMsg mnccCallRxRtpCreate mnccCallRxRtpConnect mnccCallTxRtpCreate mnccCallTx
    unfold RxSurvives at fits
    grind [terminating_send, MnccCall.emit]
  unfold mnccCallHandle mnccCallProgress mnccCallTx
  unfold RxSurvives at fits
  grind [terminating_send, mnccCallRxCommonMsg]

theorem Live.handle (rx : RxInput) : CallInv (mnccCallHandle c rx) := by
  unfold mnccCallHandle
  split
  · exact .inl live
  · exact live.progress c.fi.state rx

end

/-- Forwarding is allowed if the instance is still alive, or if there is no callback. -/
theorem CallInv.forward (inv : CallInv c) (msg : MnccIn)
    (fits : c.messageCb = false ∨ c.fi.terminating = false) : CallInv (mnccCallForward c msg) := by
  unfold mnccCallForward
  split
  · rename_i callback
    have running : c.fi.terminating = false := by simpa [callback] using fits
    rcases inv with live | ended
    · exact .inl (live.emit rfl (by simp))
    · simp [ended.ended] at running
  · exact inv

theorem CallInv.rx (inv : CallInv c) {rx : RxInput} (fits : RxOk c rx) :
    CallInv (mnccCallRx c rx) := by
  unfold mnccCallRx
  split
  · rename_i accepted
    have fits := fits accepted
    rcases inv with live | ended
    · unfold mnccCallFsmRx
      split <;> rename_i msg
      · exact .inr (releaseMsg_ended live (by simpa [msg] using fits))
      · exact .inr (releaseMsg_ended live (by simpa [msg] using fits))
      · rename_i notDisc
        rw [if_neg (not_or.mpr ⟨notDisc, msg⟩)] at fits
        refine (live.handle rx).forward _ ?_
        rw [messageCb_handle]
        exact fits.imp id (running_handle live.running)
    · simp [ended.ended] at accepted
  · exact inv

theorem Live.outgoingStart (live : Live c) (req : GsmMncc) (callref : Nat) (recv cleanup : Recv) :
    CallInv (mnccCallOutgoingStart c req callref recv cleanup) := by
  unfold mnccCallOutgoingStart
  split
  · have named : Live { c with outgoingReq := req, callref := callref } := live.congr rfl rfl
    have started := named.stateChg .outgoingWaitProceeding
    refine Live.tx ?_ rfl recv cleanup
    exact started.congr rfl rfl
  · exact .inl live

theorem Live.incomingStart (live : Live c) (callref : Nat) (req : GsmMncc) (bearerCap : Option Nat)
    (recv cleanup : Recv) :
    CallInv (mnccCallIncomingStart c callref req bearerCap recv cleanup) := by
  unfold mnccCallIncomingStart
  split
  · have named : Live (mnccCallRxSetupReq c callref req) := live.congr rfl rfl
    have started := named.stateChg .incomingWaitComplete
    unfold mnccCallIncomingTxCallConfInd
    simp only
    split
    · exact started.tx rfl recv cleanup
    · exact .inl started
  · exact .inl live

/-- Nothing is started on a terminated instance. -/
theorem Ended.refuses (ended : Ended c) (event : CallEvent) : c.fi.accepts callFsm event = false :=
  Inst.accepts_of_terminating ended.ended event

theorem CallInv.stateChg (inv : CallInv c) (new : CallState) : CallInv (c.stateChg new) := by
  rcases inv with live | ended
  · exact .inl (live.stateChg new)
  · right
    simpa [MnccCall.stateChg, Inst.stateChg, ended.ended] using ended

theorem CallInv.detach (inv : CallInv c) : CallInv (mnccCallDetachRtpStream c) := by
  unfold mnccCallDetachRtpStream
  split
  · have detached : CallInv { c with rtps := false } := inv.congr rfl rfl
    rcases detached with live | ended
    · exact .inl (live.emit rfl (by simp))
    · exact .inr ⟨guarded_emit ended.guarded (allowed_of_silent rfl rfl), ended.ended⟩
  · exact inv

/-! ### Runs -/

/-- A step keeps to the rules: messages are handled as in `RxOk`, and neither
`mncc_call_incoming_tx_setup_cnf()` nor `mncc_call_release()` is called on a terminated instance. -/
def CallOk (c : MnccCall) : CallInput → Prop
  | .rx rx => RxOk c rx
  | .txSetupCnf _ _ _ => c.fi.terminating = false
  | .release recv nested _ =>
      c.fi.terminating = false ∧ StepsMeet mnccCallRx RxOk (c.send .discInd recv) nested
  | _ => True

instance CallOk.decidable (c : MnccCall) (input : CallInput) : Decidable (CallOk c input) := by
  unfold CallOk
  split <;> infer_instance

theorem CallInv.release (inv : CallInv c) {nested : List RxInput} (cleanup : Recv)
    (running : c.fi.terminating = false)
    (fits : StepsMeet mnccCallRx RxOk (c.send .discInd recv) nested) :
    CallInv (mnccCallRelease c recv nested cleanup) := by
  rcases inv with live | ended
  · have sent : CallInv (c.send .discInd recv) := .inl (live.send rfl recv)
    have answered := foldl_invariant (fun c _ (inv : CallInv c) fits => inv.rx fits) nested _ sent fits
    unfold mnccCallRelease
    apply CallInv.stateChg
    split
    · exact .inr (answered.term cleanup)
    · exact answered
  · simp [ended.ended] at running

theorem CallInv.step (inv : CallInv c) {input : CallInput} (fits : CallOk c input) :
    CallInv (callStep c input) := by
  cases input with
  | outgoingStart req callref recv cleanup =>
      rcases inv with live | ended
      · exact live.outgoingStart req callref recv cleanup
      · simpa [callStep, mnccCallOutgoingStart, ended.refuses] using CallInv.ofEnded ended
  | incomingStart callref req bearerCap recv cleanup =>
      rcases inv with live | ended
      · exact live.incomingStart callref req bearerCap recv cleanup
      · simpa [callStep, mnccCallIncomingStart, ended.refuses] using CallInv.ofEnded ended
  | rx rx => exact inv.rx fits
  | txSetupCnf connected recv cleanup =>
      rcases inv with live | ended
      · simp only [callStep, mnccCallIncomingTxSetupCnf]
        split
        · exact live.tx rfl recv cleanup
        · exact .inl live
      · simp [CallOk, ended.ended] at fits
  | release recv nested cleanup => exact inv.release cleanup fits.1 fits.2
  | setRtpStream => exact inv.congr rfl rfl
  | detachRtpStream => exact inv.detach
  | rtpsGone | reparent _ => exact inv.congr rfl rfl
  | term cleanup => exact .inr (inv.term cleanup)

theorem live_alloc {imsi msisdn : List Char} {messageCb : Bool} :
    Live (mnccCallAlloc imsi msisdn messageCb) :=
  ⟨guarded_nil, rfl, by simp [mnccCallAlloc], by simp [mnccCallAlloc]⟩

/-- Every run whose steps keep to the rules sends at most one terminal message and nothing after it,
and a terminated instance neither forwards a message nor changes its state. -/
theorem callRun_oneTerminal (imsi msisdn : List Char) (messageCb : Bool) (inputs : List CallInput)
    (fits : StepsMeet callStep CallOk (mnccCallAlloc imsi msisdn messageCb) inputs) :
    OneTerminal (inputs.foldl callStep (mnccCallAlloc imsi msisdn messageCb)).acts := by
  have start : CallInv (mnccCallAlloc imsi msisdn messageCb) :=
    .inl live_alloc
  exact oneTerminal_of_guarded
    (foldl_invariant (fun c _ (inv : CallInv c) fits => inv.step fits) inputs _ start fits).guarded

/-- An outgoing call that gets through, is released from this side and acknowledged. -/
def releasedCall : List CallInput :=
  [.setRtpStream, .outgoingStart { called := some ['7'] } 1 .taken .taken,
    .rx { msg := .callProcReq }, .rx { msg := .rtpConnect (some ⟨1, 2⟩) }, .rx { msg := .setupRsp },
    .release .taken [] .taken, .rx { msg := .relReq }]

theorem callRun_oneTerminal_released :
    StepsMeet callStep CallOk (mnccCallAlloc [] [] true) releasedCall ∧
    .sent 1 .relCnf ∈ (releasedCall.foldl callStep (mnccCallAlloc [] [] true)).acts ∧
    OneTerminal (releasedCall.foldl callStep (mnccCallAlloc [] [] true)).acts := by
  have fits : StepsMeet callStep CallOk (mnccCallAlloc [] [] true) releasedCall := by decide
  exact ⟨fits, by decide, callRun_oneTerminal [] [] true releasedCall fits⟩

/-- The other side hangs up: `MNCC_DISC_REQ` is answered with `MNCC_REL_IND`, and the cleanup function
sends a second one. -/
def hangUp : List CallInput :=
  [.outgoingStart { called := some ['7'] } 1 .taken .taken, .rx { msg := .discReq }]

theorem hangUp_twoTerminals :
    (hangUp.foldl callStep (mnccCallAlloc [] [] true)).acts.filter CallAct.isTerminal =
        [.sent 1 .relInd, .sent 1 .relInd] ∧
      ¬ OneTerminal (hangUp.foldl callStep (mnccCallAlloc [] [] true)).acts := by
  have twice : (hangUp.foldl callStep (mnccCallAlloc [] [] true)).acts.filter CallAct.isTerminal =
      [.sent 1 .relInd, .sent 1 .relInd] := by decide
  refine ⟨twice, fun one => ?_⟩
  have := one.atMostOne
  simp [twice] at this

end OsmoMsc.Mncc
