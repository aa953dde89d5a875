/-
Module: OsmoMsc.Msc.HandoverRtp
Purpose: What a handover that does not succeed leaves of the call's RTP stream to the RAN.  The stream
  should still be there and send where it sent before.  The rollback takes care of that where it is
  called and the stream was switched; the expiry of the timer does not call it, and the MNCC call to a
  remote MSC releases the stream when it goes before the switch.
Trusted boundary: none
Main exports: PeerKept, HoAct.careful, Held, giveUp_rolledBack, startForwarding_eq,
  switchToNewCell_cases, forwardingEnded_mem
-/
import OsmoMsc.Mncc.CallStream
import OsmoMsc.Msc.HandoverCells

namespace OsmoMsc.Msc

open Library Mncc Rtp Relation

variable {w : HoConn} {ho : MscHo} {rtps : RtpStream}

/-! ### The property -/

/-- A handover that was not taken over has not released the stream, and the stream sends where it sent
when the handover started, unless the MGW has lost it. -/
def PeerKept (acts : List HoAct) : Prop :=
  ∀ n, (∀ remote, .takenOver n remote ∉ acts) →
    .rtpReleased n ∉ acts ∧
      ∀ cil before after, .started n cil before ∈ acts → .ended n after ∈ acts →
        after = before ∨ after = none

/-- What is asked of a run, act by act.  A handover starts with an address and codecs to go back to.
The timer expires only before the stream was touched.  A handover that fails with the stream in the
hands of the call to the new cell has switched it.  That call does not end by itself. -/
def HoAct.careful : HoAct → Bool
  | .started _ _ (some peer) => peer.remote.isNonzero && !peer.codecs.isEmpty
  | .failing _ timer forwarding switched =>
      if timer then !forwarding && !switched else !forwarding || switched
  | .forwardingEnded _ => false
  | _ => true

/-! ### The stream in the hands of calls -/

theorem callAct_of_not_onStream {act : CallAct} (other : act.onStream = false) (newCell : Bool)
    (w : HoConn) : w.callAct newCell act = w := by
  cases act with
  | forwarded msg => cases msg <;> simp_all [CallAct.onStream, HoConn.callAct]
  | _ => simp_all [CallAct.onStream, HoConn.callAct]

/-- Only the acts on the stream count. -/
theorem foldl_callAct_filter (newCell : Bool) (acts : List CallAct) (w : HoConn) :
    (acts.filter CallAct.onStream).foldl (HoConn.callAct newCell) w =
      acts.foldl (HoConn.callAct newCell) w := by
  induction acts generalizing w with
  | nil => rfl
  | cons act acts ih =>
      cases stream : act.onStream with
      | true => simpa [stream] using ih (w.callAct newCell act)
      | false => simpa [stream, callAct_of_not_onStream stream] using ih w

theorem callActs_eq_filter {c c' : MnccCall} {extra : List CallAct}
    (acts : c'.acts = c.acts ++ extra) (newCell : Bool) (w : HoConn) :
    w.callActs newCell c c' =
      (extra.filter CallAct.onStream).foldl (HoConn.callAct newCell) w := by
  unfold HoConn.callActs
  rw [acts, added_append, foldl_callAct_filter]

/-- A call that gives the stream away clears its address. -/
theorem callActs_detach (newCell : Bool) (w : HoConn) (c : MnccCall) :
    w.callActs newCell c (mnccCallDetachRtpStream c) =
      if c.rtps then w.onRtp fun rtps => (rtpStreamSetRemoteAddr rtps {}).commit else w := by
  unfold mnccCallDetachRtpStream HoConn.callActs
  cases c.rtps <;> simp [MnccCall.emit, HoConn.callAct]

/-- The end of a call that does not hold the stream changes nothing. -/
theorem callActs_term {c : MnccCall} (bare : c.rtps = false) (newCell : Bool) (w : HoConn)
    (recv : Recv) : w.callActs newCell c (c.term recv) = w := by
  obtain ⟨extra, acts, filtered | filtered⟩ := term_acts bare
  · rw [callActs_eq_filter acts, filtered]
    rfl
  · rw [callActs_eq_filter acts, filtered]
    rfl

/-! ### The invariant -/

/-- There is an address and a codec to go back to. -/
def Restores (before : Option RtpPeer) : Prop :=
  ∀ peer, before = some peer → peer.remote.isNonzero = true ∧ peer.codecs ≠ []

/-- How the stream relates to the peer it had when the handover started. -/
structure PeerHeld (peer : RtpPeer) (rtps : RtpStream) (ho : MscHo) : Prop where
  unswitched : ho.rtpSwitchedToNewCell = false → rtps.peer = peer
  switched : ho.rtpSwitchedToNewCell = true → ho.oldCell = peer ∧ Restorable peer.codecs rtps
  forwarded : ho.newForwarding.isSome → ho.oldCell = peer ∧ rtps.codecs = peer.codecs

/-- The handover can still be rolled back. -/
structure Held (before : Option RtpPeer) (rtpToRan : Option RtpStream) (ho : MscHo) : Prop where
  early : ho.fi.state ≠ .waitComplete →
    ho.rtpSwitchedToNewCell = false ∧ ho.newForwarding = none
  forwarding : ∀ forwarding, ho.newForwarding = some forwarding →
    ho.newType = some .remoteMsc ∧
      ∃ c, forwarding = .call c ∧ c.fi.terminating = false ∧ c.messageCb = true
  gone : rtpToRan = none → ho.forwardingHolds = false
  peer : ∀ rtps, rtpToRan = some rtps → ∃ peer, before = some peer ∧ PeerHeld peer rtps ho

section

variable {before : Option RtpPeer} {rtpToRan : Option RtpStream} {c : MnccCall}
  (held : Held before rtpToRan ho)
include held

/-- A change that keeps the parts of the handover that matter here. -/
theorem Held.harmless {f : MscHo → MscHo} (harmless : Harmless f) :
    Held before rtpToRan (f ho) := by
  have same := harmless.stream ho
  simp only [MscHo.stream, Prod.mk.injEq] at same
  obtain ⟨switched, newType, forwarding, oldCell⟩ := same
  constructor
  · intro notFinal
    rw [switched, forwarding]
    exact held.early fun final => notFinal (harmless.state ho final)
  · rw [forwarding, newType]
    exact held.forwarding
  · intro none
    simpa [MscHo.forwardingHolds, forwarding] using held.gone none
  · intro rtps stream
    obtain ⟨peer, eq, peerHeld⟩ := held.peer rtps stream
    refine ⟨peer, eq, ?_, ?_, ?_⟩
    · rw [switched]
      exact peerHeld.unswitched
    · rw [switched, oldCell]
      exact peerHeld.switched
    · rw [forwarding, oldCell]
      exact peerHeld.forwarded

omit held in
/-- Before the target has acknowledged, the stream is as it was. -/
theorem Held.of_early (switched : ho.rtpSwitchedToNewCell = false)
    (forwarding : ho.newForwarding = none)
    (same : ∀ rtps, rtpToRan = some rtps → before = some rtps.peer) : Held before rtpToRan ho := by
  constructor
  · exact fun _ => ⟨switched, forwarding⟩
  · simp [forwarding]
  · simp [MscHo.forwardingHolds, forwarding]
  · intro rtps stream
    exact ⟨rtps.peer, same rtps stream, fun _ => rfl, by simp [switched], by simp [forwarding]⟩

theorem Held.unchanged (switched : ho.rtpSwitchedToNewCell = false) :
    ∀ rtps, rtpToRan = some rtps → before = some rtps.peer := by
  intro rtps stream
  obtain ⟨peer, eq, peerHeld⟩ := held.peer rtps stream
  rw [eq, peerHeld.unswitched switched]

/-- The call to the new cell goes on. -/
theorem Held.runs {c' : MnccCall} {stream : List CallAct}
    (forwarding : ho.newForwarding = some (.call c)) (runs : Runs c c' stream) :
    Held before rtpToRan { ho with newForwarding := some (.call c') } := by
  obtain ⟨remote, c₀, same, running, callback⟩ := held.forwarding _ forwarding
  obtain rfl : c = c₀ := Forwarding.call.inj same
  constructor
  · intro notFinal
    simp [(held.early notFinal).2] at forwarding
  · intro _ isCall
    exact ⟨remote, c', (Option.some.inj isCall).symm, runs.terminating.trans running,
      runs.messageCb.trans callback⟩
  · intro gone
    have := held.gone gone
    simp only [MscHo.forwardingHolds, forwarding] at this ⊢
    exact runs.rtps.trans this
  · intro rtps present
    obtain ⟨peer, eq, unswitched, switched, forwarded⟩ := held.peer rtps present
    exact ⟨peer, eq, unswitched, switched, fun _ => forwarded (by simp [forwarding])⟩

/-- The MGW has lost the stream, and the call to the new cell is told. -/
theorem Held.lost (forwarding : ho.newForwarding = some (.call c)) :
    Held before none { ho with newForwarding := some (.call { c with rtps := false }) } := by
  obtain ⟨remote, c₀, same, running, callback⟩ := held.forwarding _ forwarding
  obtain rfl : c = c₀ := Forwarding.call.inj same
  constructor
  · intro notFinal
    simp [(held.early notFinal).2] at forwarding
  · intro _ isCall
    exact ⟨remote, _, (Option.some.inj isCall).symm, running, callback⟩
  · exact fun _ => rfl
  · simp

/-- The call to the new cell takes the stream there, and leaves its codecs. -/
theorem Held.connected {rtpToRan' : Option RtpStream} (forwarding : ho.newForwarding.isSome)
    (codecs : rtpToRan'.map RtpStream.codecs = rtpToRan.map RtpStream.codecs) :
    Held before rtpToRan' { ho with rtpSwitchedToNewCell := true } := by
  constructor
  · intro notFinal
    simp [(held.early notFinal).2] at forwarding
  · exact held.forwarding
  · rintro rfl
    exact held.gone (Option.map_eq_none_iff.mp codecs.symm)
  · rintro rtps' rfl
    obtain ⟨rtps, present, same⟩ := Option.map_eq_some_iff.mp codecs.symm
    obtain ⟨peer, eq, peerHeld⟩ := held.peer rtps present
    obtain ⟨old, codecs⟩ := peerHeld.forwarded forwarding
    have kept : rtps'.codecs = peer.codecs := same.symm.trans codecs
    exact ⟨peer, eq, by simp, fun _ => ⟨old, .inl kept⟩, fun _ => ⟨old, kept⟩⟩

end

theorem state_of_waiting (ongoing : w.ho = some ho) (waiting : w.accepts .rxRequestAck = true) :
    ho.fi.terminating = false ∧ ho.fi.state = .waitRequestAck := by
  simp only [HoConn.accepts, ongoing, Inst.accepts, Bool.and_eq_true, Bool.not_eq_true'] at waiting
  refine ⟨waiting.1, ?_⟩
  cases state : ho.fi.state <;> simp_all [hoFsm]

variable {before : Option RtpPeer} {env : HoEnv}

/-- The stream is switched to a cell of a local BSS. -/
theorem Held.switched {rtps' : RtpStream} (held : Held before (some rtps) ho)
    (final : ho.fi.state = .waitComplete) (unswitched : ho.rtpSwitchedToNewCell = false)
    (forwarding : ho.newForwarding = none) (restorable : Restorable rtps.codecs rtps') :
    Held before (some rtps') { ho with rtpSwitchedToNewCell := true, oldCell := rtps.peer } := by
  constructor
  · exact fun notFinal => (notFinal final).elim
  · simp [forwarding]
  · simp
  · intro _ now
    obtain rfl := Option.some.inj now
    exact ⟨rtps.peer, held.unchanged unswitched rtps rfl, by simp, fun _ => ⟨rfl, restorable⟩,
      by simp [forwarding]⟩

/-! ### Rolling back -/

variable {acts : List CallAct} {oldCell : RtpPeer}

theorem switchBack_peer (stream : w.rtpToRan = some rtps)
    (restorable : Restorable oldCell.codecs rtps) (codecs : oldCell.codecs ≠ []) :
    (w.switchBack oldCell).peer = some oldCell := by
  have restorable' : Restorable oldCell.codecs (rtpStreamSetRemoteAddr rtps oldCell.remote) := by
    simpa [Restorable] using restorable
  simp [HoConn.switchBack, HoConn.peer, HoConn.onRtp, HoConn.onHo, stream, RtpStream.peer,
    restorable'.codecs_setCodecs codecs]

/-- After the rollback the stream has its old peer again, or is gone, and the call to the new cell does
not hold it. -/
structure RolledBack (before : Option RtpPeer) (w : HoConn) : Prop where
  ho : ∃ ho, w.ho = some ho ∧ ho.forwardingHolds = false
  peer : w.peer = before ∨ w.peer = none

theorem rolledBack_switchBack (ho : MscHo) (ongoing : w.ho = some ho)
    (bare : ho.forwardingHolds = false) (stream : w.rtpToRan = some rtps)
    (restorable : Restorable oldCell.codecs rtps) (codecs : oldCell.codecs ≠ []) :
    RolledBack (some oldCell) (w.switchBack oldCell) := by
  refine ⟨⟨{ ho with rtpSwitchedToNewCell := false, readyToSwitchRtp := false }, ?_, bare⟩,
    .inl (switchBack_peer stream restorable codecs)⟩
  simp [HoConn.switchBack, HoConn.onHo, HoConn.onRtp, ongoing]

theorem rollback_rolledBack (ongoing : w.ho = some ho) (held : Held before w.rtpToRan ho)
    (restores : Restores before)
    (ready : ho.forwardingHolds = true → ho.rtpSwitchedToNewCell = true) :
    RolledBack before (mscHoRtpRollbackToOldCell w) := by
  unfold mscHoRtpRollbackToOldCell
  cases stream : w.rtpToRan with
  | none =>
      simp only [ongoing]
      exact ⟨⟨ho, ongoing, held.gone stream⟩, .inr (by simp [HoConn.peer, stream])⟩
  | some rtps =>
      obtain ⟨peer, rfl, peerHeld⟩ := held.peer rtps stream
      simp only [ongoing]
      cases switched : ho.rtpSwitchedToNewCell with
      | false =>
          have bare : ho.forwardingHolds = false := by
            by_contra holds
            simp [ready (by simpa using holds)] at switched
          have same : w.peer = some peer := by
            simp [HoConn.peer, stream, peerHeld.unswitched switched]
          exact ⟨⟨ho, ongoing, bare⟩, .inl same⟩
      | true =>
          obtain ⟨old, restorable⟩ := peerHeld.switched switched
          obtain ⟨nonzero, codecs⟩ := restores peer rfl
          subst old
          simp only [nonzero, Bool.not_true, Bool.or_self, Bool.false_eq_true, if_false]
          cases forwarding : ho.newForwarding with
          | none =>
              have bare : ho.forwardingHolds = false := by simp [MscHo.forwardingHolds, forwarding]
              exact rolledBack_switchBack ho ongoing bare stream restorable codecs
          | some forwarding' =>
              obtain ⟨-, c, rfl, -⟩ := held.forwarding forwarding' forwarding
              have detached : (mnccCallDetachRtpStream c).rtps = false := by
                unfold mnccCallDetachRtpStream
                cases given : c.rtps <;> simp [MnccCall.emit, given]
              -- the address is cleared on the way, which the switch back makes good
              have cleared : ∃ rtps', ((w.onHo fun ho => { ho with
                    newForwarding := some (.call (mnccCallDetachRtpStream c)) }).callActs true c
                    (mnccCallDetachRtpStream c)).rtpToRan = some rtps' ∧
                  rtps'.codecs = rtps.codecs := by
                rw [callActs_detach]
                cases c.rtps with
                | true => exact ⟨_, by simp [HoConn.onRtp, HoConn.onHo, stream]; rfl, by simp⟩
                | false => exact ⟨rtps, by simp [HoConn.onHo, stream], rfl⟩
              obtain ⟨rtps', stream', codecs'⟩ := cleared
              refine rolledBack_switchBack
                { ho with newForwarding := some (.call (mnccCallDetachRtpStream c)) } ?_ ?_ stream'
                (by simpa [Restorable, codecs'] using restorable) codecs
              · rw [callActs_detach]
                cases c.rtps <;> simp [HoConn.onRtp, HoConn.onHo, ongoing]
              · simp [MscHo.forwardingHolds, detached]

/-- The handover is given up in a state from which the rollback works. -/
theorem giveUp_rolledBack (ongoing : w.ho = some ho) (held : Held before w.rtpToRan ho)
    (restores : Restores before) (careful : ∀ act ∈ (w.giveUp false).acts, act.careful = true) :
    RolledBack before (mscHoRtpRollbackToOldCell (w.giveUp false)) := by
  simp only [HoConn.giveUp, ongoing] at careful ⊢
  refine rollback_rolledBack ongoing held restores fun holds => ?_
  have := careful _ List.mem_concat_self
  simpa [HoAct.careful, holds] using this

theorem rollback_acts {w : HoConn} : (mscHoRtpRollbackToOldCell w).acts = w.acts := by
  unfold mscHoRtpRollbackToOldCell
  split
  · split
    · rfl
    · split
      · rfl
      · rename_i c _
        simp only [callActs_detach]
        cases c.rtps <;> rfl
      · rfl
  · rfl

/-! ### Moving the stream -/

/-- The call to a remote MSC gets the stream, if it starts without a failure. -/
theorem startForwarding_eq {ack : RequestAck} {bearerCap : Option Nat}
    (started : (mscHoStartInterMscCallForwarding w ack bearerCap env).2 = true)
    (careful : ∀ act ∈ (mscHoStartInterMscCallForwarding w ack bearerCap env).1.acts,
      act.careful = true) :
    ∃ rtps c', w.rtpToRan = some rtps ∧ c'.fi.terminating = false ∧ c'.messageCb = true ∧
      (mscHoStartInterMscCallForwarding w ack bearerCap env).1 = w.onHo fun ho =>
        { ho with oldCell := rtps.peer, newForwarding := some (.call c') } := by
  unfold mscHoStartInterMscCallForwarding at started careful ⊢
  split
  · simp_all
  · simp_all
  · simp_all
  · rename_i digits rtps number stream
    simp only [number, stream] at careful ⊢
    generalize call : mnccCallSetRtpStream (mnccCallAlloc w.imsi w.msisdn true) = c at careful ⊢
    have fresh : c.messageCb = true := by
      rw [← call]
      rfl
    generalize outgoing : mnccCallOutgoingStart c _ env.callref env.setupInd env.relInd = c'
      at careful ⊢
    have running : c'.fi.terminating = false := by
      by_contra ended
      have ended : c'.fi.terminating = true := by simpa using ended
      obtain ⟨extra, acts, -⟩ := (Aside.of_steady ((Steady.refl _).callActs true c c')).acts
      have := careful (.forwardingEnded w.started) (by
        rw [acts]
        simp [ended, HoConn.emit, HoConn.onHo])
      simp [HoAct.careful] at this
    have runs : Runs c c' [] := by
      subst outgoing
      exact mnccCallOutgoingStart_runs running
    obtain ⟨extra, acts, filtered⟩ := runs.acts
    refine ⟨rtps, c', rfl, running, runs.messageCb.trans fresh, ?_⟩
    simp [running, callActs_eq_filter acts, filtered]

theorem onHo_onHo (w : HoConn) (f g : MscHo → MscHo) :
    (w.onHo f).onHo g = w.onHo fun ho => g (f ho) := by
  simp [HoConn.onHo, Function.comp_def]

/-- The call of an earlier handover clears the address of the stream, and no more. -/
theorem detachCcForwarding_stream (stream : w.rtpToRan = some rtps) :
    w.detachCcForwarding.ho = w.ho ∧
      ∃ rtps', w.detachCcForwarding.rtpToRan = some rtps' ∧ rtps'.codecs = rtps.codecs := by
  unfold HoConn.detachCcForwarding
  split
  · exact ⟨rfl, rtps, stream, rfl⟩
  · rename_i c _
    simp only [callActs_detach]
    split
    · exact ⟨rfl, (rtpStreamSetRemoteAddr rtps {}).commit, by simp [HoConn.onRtp, stream], by simp⟩
    · exact ⟨rfl, rtps, stream, rfl⟩

theorem switch_acts (w : HoConn) : (mscHoRtpSwitchToNewCell w).acts = w.acts := by
  unfold mscHoRtpSwitchToNewCell
  split
  · split
    · rfl
    · simp only [HoConn.detachCcForwarding]
      split
      · rfl
      · exact callActs_acts
  · rfl

/-- What the switch to a cell of a local BSS does, if it does anything. -/
theorem switchToNewCell_cases (w : HoConn) :
    mscHoRtpSwitchToNewCell w = w ∨
      ∃ ho rtps rtps', w.ho = some ho ∧ w.rtpToRan = some rtps ∧ ho.rtpSwitchedToNewCell = false ∧
        (mscHoRtpSwitchToNewCell w).ho =
          some { ho with rtpSwitchedToNewCell := true, oldCell := rtps.peer } ∧
        (mscHoRtpSwitchToNewCell w).rtpToRan = some rtps' ∧ Restorable rtps.codecs rtps' := by
  unfold mscHoRtpSwitchToNewCell
  split
  · rename_i ho rtps ongoing stream
    split
    · exact .inl rfl
    · rename_i switches
      simp only [Bool.or_eq_true, not_or, Bool.not_eq_true] at switches
      let w' := w.onHo fun ho => { ho with rtpSwitchedToNewCell := true, oldCell := rtps.peer }
      obtain ⟨sameHo, rtps₁, stream₁, codecs₁⟩ := detachCcForwarding_stream (w := w') stream
      let moved := rtpStreamSetRemoteAddr rtps₁ ho.newRanRemoteRtp
      have codecs : moved.codecs = rtps.codecs := by simp [moved, codecs₁]
      refine .inr ⟨ho, rtps, _, ongoing, stream, switches.2, ?_, congrArg (Option.map _) stream₁, ?_⟩
      · change w'.detachCcForwarding.ho = _
        rw [sameHo]
        simp [w', HoConn.onHo, ongoing]
      · split
        · rename_i codec _
          have := codecs ▸ restorable_setOneCodec moved codec
          simpa [Restorable] using this
        · exact .inl (by simp [codecs₁])
  · exact .inl rfl

/-- Without the end of the call to the new cell, its acts are those of any call. -/
theorem foldl_forwardingAct (alive : .terminated ∉ acts) (w : HoConn) :
    acts.foldl (forwardingAct env) w = acts.foldl (HoConn.callAct true) w := by
  induction acts generalizing w with
  | nil => rfl
  | cons act acts ih =>
      simp only [List.mem_cons, not_or] at alive
      simp [forwardingAct, Ne.symm alive.1, ih alive.2]

/-- The end of the call to the new cell is logged. -/
theorem forwardingEnded_mem (ended : .terminated ∈ acts) (w : HoConn) :
    .forwardingEnded w.started ∈ (acts.foldl (forwardingAct env) w).acts := by
  induction acts generalizing w with
  | nil => simp at ended
  | cons act acts ih =>
      rcases List.mem_cons.mp ended with rfl | later
      · refine (Aside.forwardingActs env _ acts).grows.subset ?_
        simp only [forwardingAct, if_true]
        split
        · exact ((Aside.refl _).fail _ _).grows.subset (by simp [HoConn.emit])
        · simp [HoConn.emit]
      · rw [← (Aside.forwardingAct env w act).started]
        exact ih later _

end OsmoMsc.Msc
