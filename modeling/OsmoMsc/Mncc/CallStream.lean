/-
Module: OsmoMsc.Mncc.CallStream
Purpose: What an `mncc_call` instance does to its RTP stream.  An instance that is not terminated touches
  the stream only on MNCC_RTP_CONNECT, and then forwards the message; one that holds no stream leaves it
  alone even when it terminates.
Trusted boundary: none
Main exports: CallAct.onStream, Touches, StreamActs, mnccCallRx_touches, mnccCallOutgoingStart_runs
-/
import OsmoMsc.Mncc.CallRun

namespace OsmoMsc.Mncc

open Library Rtp List

/-- The acts that change the stream, or tell the owner of the call about it. -/
def CallAct.onStream : CallAct → Bool
  | .rtpSetRemote _ | .rtpRelease | .terminated | .forwarded (.rtpConnect _) => true
  | _ => false

/-- These are the acts of the instance on the stream on the way to `c'`, and it does not terminate. -/
structure Runs (c c' : MnccCall) (stream : List CallAct) : Prop where
  acts : ∃ extra, c'.acts = c.acts ++ extra ∧ extra.filter CallAct.onStream = stream
  terminating : c'.fi.terminating = c.fi.terminating
  rtps : c'.rtps = c.rtps
  messageCb : c'.messageCb = c.messageCb

/-- The instance has terminated on the way to `c'`. -/
def Dies (c c' : MnccCall) : Prop := ∃ extra, c'.acts = c.acts ++ extra ∧ .terminated ∈ extra

/-- The instance terminates, or it goes on with these acts on the stream. -/
def Touches (c c' : MnccCall) (stream : List CallAct) : Prop := Dies c c' ∨ Runs c c' stream

variable {c : MnccCall} {recv cleanup : Recv}

section

variable {c' c'' : MnccCall} {stream stream' : List CallAct}

/-- A change of other fields. -/
theorem Runs.of_same (acts : c'.acts = c.acts) (fi : c'.fi = c.fi) (rtps : c'.rtps = c.rtps)
    (messageCb : c'.messageCb = c.messageCb) : Runs c c' [] :=
  ⟨⟨[], by simp [acts], rfl⟩, by rw [fi], rtps, messageCb⟩

theorem Runs.refl (c : MnccCall) : Runs c c [] :=
  .of_same rfl rfl rfl rfl

theorem Runs.trans (first : Runs c c' stream) (second : Runs c' c'' stream') :
    Runs c c'' (stream ++ stream') := by
  obtain ⟨extra, acts, filtered⟩ := first.acts
  obtain ⟨extra', acts', filtered'⟩ := second.acts
  refine ⟨⟨extra ++ extra', by rw [acts', acts, append_assoc], ?_⟩,
    second.terminating.trans first.terminating, second.rtps.trans first.rtps,
    second.messageCb.trans first.messageCb⟩
  rw [filter_append, filtered, filtered']

theorem Touches.grows (touches : Touches c c' stream) : c.acts <+: c'.acts := by
  rcases touches with ⟨extra, acts, -⟩ | ⟨⟨extra, acts, -⟩, -⟩
  · exact ⟨extra, acts.symm⟩
  · exact ⟨extra, acts.symm⟩

theorem Dies.extend (dies : Dies c c') (grown : c'.acts <+: c''.acts) : Dies c c'' := by
  obtain ⟨extra, acts, member⟩ := dies
  obtain ⟨more, acts'⟩ := grown
  exact ⟨extra ++ more, by rw [← acts', acts, append_assoc], mem_append_left _ member⟩

/-- What comes after a part that does not terminate the instance. -/
theorem Runs.thenTouches (first : Runs c c' stream) (second : Touches c' c'' stream') :
    Touches c c'' (stream ++ stream') := by
  refine second.imp (fun dies => ?_) first.trans
  obtain ⟨extra, acts, -⟩ := first.acts
  obtain ⟨extra', acts', member⟩ := dies
  exact ⟨extra ++ extra', by rw [acts', acts, append_assoc], mem_append_right _ member⟩

/-- A part that may terminate the instance, and one that comes after it in any case. -/
theorem Touches.trans (first : Touches c c' stream) (second : Touches c' c'' stream') :
    Touches c c'' (stream ++ stream') := by
  rcases first with dies | runs
  · exact .inl (dies.extend second.grows)
  · exact runs.thenTouches second

/-! ### The operations -/

theorem runs_emit (c : MnccCall) (act : CallAct) :
    Runs c (c.emit act) ([act].filter CallAct.onStream) :=
  ⟨⟨[act], rfl, rfl⟩, rfl, rfl, rfl⟩

theorem runs_send (c : MnccCall) (msg : MnccOut) (recv : Recv) : Runs c (c.send msg recv) [] := by
  unfold MnccCall.send
  split
  · exact runs_emit c _
  · exact .refl c

theorem runs_stateChg (c : MnccCall) (new : CallState) : Runs c (c.stateChg new) [] := by
  unfold MnccCall.stateChg
  split
  · exact .refl c
  · rename_i fi changed
    obtain ⟨-, -, rfl⟩ := Inst.stateChg_eq_some.mp changed
    exact ⟨⟨[.stateChg new], rfl, rfl⟩, rfl, rfl, rfl⟩

/-- The cleanup function releases the stream if there is one. -/
theorem cleanup_acts (c : MnccCall) (recv : Recv) :
    ∃ extra, (c.cleanup recv).acts = c.acts ++ extra ∧
      extra.filter CallAct.onStream = if c.rtps then [.rtpRelease] else [] := by
  have sent := runs_send c .relInd recv
  have released {c' : MnccCall} (rtps : c'.rtps = c.rtps)
      (acts : ∃ extra, c'.acts = c.acts ++ extra ∧ extra.filter CallAct.onStream = []) :
      ∃ extra, (if c'.rtps then { c' with rtps := false }.emit .rtpRelease else c').acts =
          c.acts ++ extra ∧
        extra.filter CallAct.onStream = if c.rtps then [.rtpRelease] else [] := by
    obtain ⟨extra, acts, filtered⟩ := acts
    cases held : c.rtps with
    | true =>
        refine ⟨extra ++ [.rtpRelease], ?_, ?_⟩
        · simp [rtps, held, MnccCall.emit, acts]
        · simp [filter_append, filtered, CallAct.onStream]
    | false => exact ⟨extra, by simp [rtps, held, acts], by simp [filtered]⟩
  unfold MnccCall.cleanup
  cases c.fi.state with
  | notStarted | waitReleaseAck => exact released rfl ⟨[], by simp, rfl⟩
  | _ => exact released sent.rtps sent.acts

/-- A terminating instance releases the stream if it holds one. -/
theorem term_acts {recv : Recv} (bare : c.rtps = false) :
    ∃ extra, (c.term recv).acts = c.acts ++ extra ∧
      (extra.filter CallAct.onStream = [] ∨ extra.filter CallAct.onStream = [.terminated]) := by
  unfold MnccCall.term
  split
  · exact ⟨[], by simp, .inl rfl⟩
  · rename_i fi _
    obtain ⟨extra, acts, filtered⟩ := cleanup_acts { c with fi := fi } recv
    refine ⟨extra ++ [.terminated], by simp [MnccCall.emit, acts], .inr ?_⟩
    simp [filter_append, filtered, bare, CallAct.onStream]

theorem touches_term (c : MnccCall) (recv : Recv) : Touches c (c.term recv) [] := by
  unfold MnccCall.term
  split
  · exact .inr (.refl c)
  · rename_i fi _
    obtain ⟨extra, acts, -⟩ := cleanup_acts { c with fi := fi } recv
    exact .inl ⟨extra ++ [.terminated], by simp [MnccCall.emit, acts], by simp⟩

theorem touches_tx (c : MnccCall) (msg : MnccOut) (recv cleanup : Recv) :
    Touches c (mnccCallTx c msg recv cleanup) [] := by
  have sent := runs_send c msg recv
  unfold mnccCallTx
  split
  · exact sent.thenTouches (touches_term _ cleanup)
  · exact .inr sent

/-! ### Messages -/

/-- What MNCC_RTP_CONNECT does to an associated stream. -/
def connectActs (c : MnccCall) (rx : RxInput) : List CallAct :=
  match rx.msg with
  | .rtpConnect (some addr) => if c.rtps then [.rtpSetRemote addr] else []
  | _ => []

theorem touches_rxRtpCreate (c : MnccCall) (rx : RxInput) :
    Touches c (mnccCallRxRtpCreate c rx) [] := by
  have noted : Runs c { c with receivedRtpCreate := true } [] := .of_same rfl rfl rfl rfl
  simp only [mnccCallRxRtpCreate, mnccCallTxRtpCreate]
  split
  · exact .inr noted
  · split
    · exact noted.thenTouches (touches_term _ _)
    · split
      · exact noted.thenTouches (touches_term _ _)
      · exact noted.thenTouches (touches_tx _ _ _ _)

theorem touches_rxRtpConnect (c : MnccCall) (addr : Option SockAddr) (rx : RxInput) :
    Touches c (mnccCallRxRtpConnect c addr rx)
      (match addr with
        | some addr => if c.rtps then [.rtpSetRemote addr] else []
        | none => []) := by
  unfold mnccCallRxRtpConnect
  cases held : c.rtps with
  | false =>
      cases addr <;> exact .inr (.refl c)
  | true =>
      cases addr with
      | none => exact touches_term c _
      | some addr =>
          have moved := runs_emit c (.rtpSetRemote addr)
          simp only [Bool.not_true, Bool.false_eq_true, if_false, if_true]
          split
          · exact .inr moved
          · exact moved.thenTouches (touches_term _ _)

theorem touches_rxCommonMsg (c : MnccCall) (rx : RxInput) :
    Touches c (mnccCallRxCommonMsg c rx) (connectActs c rx) := by
  unfold mnccCallRxCommonMsg connectActs
  cases rx.msg with
  | rtpCreate => exact touches_rxRtpCreate c rx
  | rtpConnect addr =>
      have := touches_rxRtpConnect c addr rx
      cases addr <;> exact this
  | _ => exact .inr (.refl c)

theorem touches_progress {state : CallState} {rx : RxInput} :
    Touches c (mnccCallProgress state c rx) [] := by
  unfold mnccCallProgress
  split
  · exact .inr (runs_stateChg c _)
  · exact (runs_stateChg c .talking).thenTouches (touches_tx _ _ _ _)
  · exact .inr (runs_stateChg c _)
  · exact .inr (.refl c)

theorem touches_handle (c : MnccCall) (rx : RxInput) :
    ∃ stream, (stream = [] ∨ stream = connectActs c rx) ∧
      Touches c (mnccCallHandle c rx) stream := by
  unfold mnccCallHandle
  split
  · exact ⟨[], .inl rfl, .inr (.refl c)⟩
  · refine ⟨connectActs c rx, .inr rfl, ?_⟩
    simpa using (touches_rxCommonMsg c rx).trans touches_progress

theorem touches_releaseMsg {answer : MnccOut} {rx : RxInput} :
    Touches c (mnccCallRxReleaseMsg c answer rx) [] :=
  (touches_tx c answer rx.reply rx.cleanup).trans (touches_term _ _)

/-- What one message can do to the stream, if the instance runs on. -/
inductive StreamActs : List CallAct → Prop
  | none : StreamActs []
  | noted (addr : Option SockAddr) : StreamActs [.forwarded (.rtpConnect addr)]
  | moved (addr : SockAddr) :
      StreamActs [.rtpSetRemote addr, .forwarded (.rtpConnect (some addr))]

theorem touches_forward (callback : c.messageCb = true) (rx : RxInput) :
    ∃ stream, Touches c (mnccCallForward (mnccCallHandle c rx) rx.msg) stream ∧
      StreamActs stream := by
  obtain ⟨stream, shape, dies | runs⟩ := touches_handle c rx
  · refine ⟨[], .inl (dies.extend ?_), .none⟩
    unfold mnccCallForward
    split
    · exact prefix_append _ _
    · exact prefix_rfl
  · have sent := runs.trans (runs_emit _ (.forwarded rx.msg))
    refine ⟨stream ++ [.forwarded rx.msg].filter CallAct.onStream, .inr ?_, ?_⟩
    · simpa only [mnccCallForward, runs.messageCb, callback, if_true] using sent
    · rcases shape with rfl | rfl
      · cases rx.msg with
        | rtpConnect addr => exact .noted addr
        | _ => exact .none
      · unfold connectActs
        cases rx.msg with
        | rtpConnect addr =>
            cases addr with
            | none => exact .noted Option.none
            | some addr =>
                cases c.rtps with
                | true => exact .moved addr
                | false => exact .noted (some addr)
        | _ => exact .none

/-- A message terminates the instance, or leaves the stream alone, or sets its address and is
forwarded. -/
theorem mnccCallRx_touches (callback : c.messageCb = true) (rx : RxInput) :
    ∃ stream, Touches c (mnccCallRx c rx) stream ∧ StreamActs stream := by
  unfold mnccCallRx
  split
  · unfold mnccCallFsmRx
    split
    · exact ⟨[], touches_releaseMsg, .none⟩
    · exact ⟨[], touches_releaseMsg, .none⟩
    · exact touches_forward callback rx
  · exact ⟨[], .inr (.refl c), .none⟩

theorem terminating_term (c : MnccCall) (recv : Recv) : (c.term recv).fi.terminating = true := by
  unfold MnccCall.term
  cases termed : c.fi.term with
  | none => simpa [Inst.term] using termed
  | some fi =>
      obtain ⟨-, rfl⟩ := Inst.term_eq_some.mp termed
      simp [MnccCall.emit, cleanup_fi]

theorem runs_txSetupInd (alive : (mnccCallTxSetupInd c recv cleanup).fi.terminating = false) :
    Runs c (mnccCallTxSetupInd c recv cleanup) [] := by
  have named : Runs c { c with localMsisdn := some (c.outgoingReq.calling.getD c.msisdn) } [] :=
    .of_same rfl rfl rfl rfl
  simp only [mnccCallTxSetupInd, mnccCallTx] at alive ⊢
  split
  · rename_i fails
    simp [fails, terminating_term] at alive
  · exact named.trans (runs_send _ _ recv)

/-- An outgoing call that starts without a failure leaves the stream alone. -/
theorem mnccCallOutgoingStart_runs {req : GsmMncc} {callref : Nat}
    (alive : (mnccCallOutgoingStart c req callref recv cleanup).fi.terminating = false) :
    Runs c (mnccCallOutgoingStart c req callref recv cleanup) [] := by
  unfold mnccCallOutgoingStart at alive ⊢
  split
  · rename_i accepted
    have noted : Runs c { c with outgoingReq := req, callref := callref } [] :=
      .of_same rfl rfl rfl rfl
    have changed := noted.trans (runs_stateChg _ .outgoingWaitProceeding)
    simp only [accepted, if_true] at alive
    exact changed.trans (runs_txSetupInd alive)
  · exact .refl c

end

end OsmoMsc.Mncc
