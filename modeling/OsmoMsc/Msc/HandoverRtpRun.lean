/-
Module: OsmoMsc.Msc.HandoverRtpRun
Purpose: A handover that is not taken over leaves the call's RTP stream to the RAN as it was, over every
  careful run; and two runs that are not careful.
Trusted boundary: none
Main exports: hoRun_peerKept
-/
import OsmoMsc.Msc.HandoverRtp

namespace OsmoMsc.Msc

open Library Mncc Rtp Relation List

/-! ### What is kept over a run -/

/-- The number of the handover, for an act that the property looks at. -/
def HoAct.peerNumber : HoAct → Option Nat
  | .started n _ _ | .rtpReleased n | .ended n _ => some n
  | _ => none

/-- Ended handovers have kept the peer. -/
structure PeerLog (w : HoConn) : Prop where
  bound : ∀ act ∈ w.acts, ∀ n, act.peerNumber = some n → n ≤ w.started
  kept : PeerKept w.acts

/-- And the current one can be rolled back. -/
structure PeerInv (w : HoConn) : Prop extends PeerLog w where
  held : w.crashed = false → ∀ ho, w.ho = some ho →
    ∃ before, (∀ cil rtp, .started w.started cil rtp ∈ w.acts → rtp = before) ∧ Restores before ∧
      Held before w.rtpToRan ho

/-- Further acts, if they are about handovers that were taken over. -/
theorem PeerKept.extend {acts extra : List HoAct} (kept : PeerKept acts)
    (excused : ∀ act ∈ extra, ∀ n, act.peerNumber = some n → ∃ remote, .takenOver n remote ∈ acts) :
    PeerKept (acts ++ extra) := by
  intro n notTaken
  have notTaken (remote : Bool) : .takenOver n remote ∉ acts := fun member =>
    notTaken remote (mem_append_left _ member)
  have old {act : HoAct} (member : act ∈ acts ++ extra) (number : act.peerNumber = some n) :
      act ∈ acts := by
    rcases mem_append.mp member with earlier | later
    · exact earlier
    · obtain ⟨remote, taken⟩ := excused act later n number
      exact (notTaken remote taken).elim
  obtain ⟨notReleased, peers⟩ := kept n notTaken
  exact ⟨fun member => notReleased (old member rfl), fun cil before after started ended =>
    peers cil before after (old started rfl) (old ended rfl)⟩

/-- An end that is as it should be. -/
theorem PeerKept.ended {acts : List HoAct} {n : Nat} {after : Option RtpPeer} (kept : PeerKept acts)
    (fits : ∀ cil before, .started n cil before ∈ acts → after = before ∨ after = none) :
    PeerKept (acts ++ [.ended n after]) := by
  intro m notTaken
  obtain ⟨notReleased, peers⟩ :=
    kept m fun remote member => notTaken remote (mem_append_left _ member)
  refine ⟨by simpa using notReleased, fun cil before after' started ended => ?_⟩
  have earlierStart : .started m cil before ∈ acts := by simpa using started
  rcases mem_append.mp ended with earlier | now
  · exact peers cil before after' earlierStart earlier
  · obtain ⟨rfl, rfl⟩ := HoAct.ended.inj (mem_singleton.mp now)
    exact fits cil before earlierStart

section

variable {w : HoConn} (log : PeerLog w)
include log

/-- Further acts, about the current handover at most and then only if it was taken over. -/
theorem PeerLog.extend {w' : HoConn} (extra : List HoAct) (acts : w'.acts = w.acts ++ extra)
    (started : w'.started = w.started)
    (excused : ∀ act ∈ extra, ∀ n, act.peerNumber = some n →
      n = w.started ∧ ∃ remote, .takenOver n remote ∈ w.acts) : PeerLog w' := by
  refine ⟨fun act member n number => ?_, ?_⟩
  · rw [acts] at member
    rcases mem_append.mp member with earlier | later
    · exact started ▸ log.bound act earlier n number
    · exact Nat.le_of_eq ((excused act later n number).1.trans started.symm)
  · rw [acts]
    exact log.kept.extend fun act member n number => (excused act member n number).2

/-- Acts that the property does not look at. -/
theorem PeerLog.append {w' : HoConn} (extra : List HoAct) (acts : w'.acts = w.acts ++ extra)
    (started : w'.started = w.started) (other : ∀ act ∈ extra, act.peerNumber = none) :
    PeerLog w' :=
  log.extend extra acts started fun act member n number => by simp [other act member] at number

/-- After a crash, or without a handover, only the acts count. -/
theorem PeerLog.ended (ended : w.crashed = true ∨ w.ho = none) : PeerInv w := by
  refine ⟨log, fun running ho ongoing => ?_⟩
  rcases ended with crashed | gone
  · simp [crashed] at running
  · simp [gone] at ongoing

theorem PeerLog.crash : PeerInv w.crash :=
  PeerLog.ended ⟨log.bound, log.kept⟩ (.inl rfl)

/-- The end of the FSM, with the stream rolled back or never touched. -/
theorem PeerLog.term {ho : MscHo} (env : HoEnv) (ongoing : w.ho = some ho)
    (bare : ho.forwardingHolds = false)
    (fits : ∀ cil before, .started w.started cil before ∈ w.acts → w.peer = before ∨ w.peer = none) :
    PeerInv (hoTerm w env) := by
  have same : hoTerm w env =
      { w with ho := none, mscT := none }.emit (.ended w.started w.peer) := by
    simp only [hoTerm, ongoing]
    split
    · rename_i c forwarding
      rw [callActs_term (by simpa [MscHo.forwardingHolds, forwarding] using bare)]
    · rfl
  rw [same]
  refine PeerLog.ended ⟨?_, log.kept.ended fits⟩ (.inr rfl)
  intro act member n number
  rcases mem_concat.mp member with earlier | rfl
  · exact log.bound act earlier n number
  · exact Nat.le_of_eq (Option.some.inj number).symm

end

namespace PeerInv

section

variable {w w' : HoConn} {env : HoEnv} (inv : PeerInv w)
include inv

/-- Acts that the property does not look at, and a handover that can still be rolled back. -/
theorem extend (extra : List HoAct) (acts : w'.acts = w.acts ++ extra)
    (started : w'.started = w.started) (other : ∀ act ∈ extra, act.peerNumber = none)
    (held : w'.crashed = false → ∀ ho', w'.ho = some ho' →
      w.crashed = false ∧ ∃ ho, w.ho = some ho ∧ ∀ before, Restores before →
        Held before w.rtpToRan ho → Held before w'.rtpToRan ho') : PeerInv w' := by
  refine ⟨inv.toPeerLog.append extra acts started other, fun running ho' ongoing' => ?_⟩
  obtain ⟨running', ho, ongoing, transfer⟩ := held running ho' ongoing'
  obtain ⟨before, unique, restores, isHeld⟩ := inv.held running' ho ongoing
  refine ⟨before, fun cil rtp member => ?_, restores, transfer before restores isHeld⟩
  rw [acts, started] at member
  rcases mem_append.mp member with earlier | later
  · exact unique cil rtp earlier
  · simpa [HoAct.peerNumber] using other _ later

/-- A change to fields that do not matter. -/
theorem of_same (acts : w'.acts = w.acts) (started : w'.started = w.started)
    (crashed : w'.crashed = w.crashed) (ho : w'.ho = w.ho) (rtpToRan : w'.rtpToRan = w.rtpToRan) :
    PeerInv w' := by
  refine inv.extend [] (by simp [acts]) started (by simp) fun running ho' ongoing' => ?_
  rw [crashed] at running
  rw [ho] at ongoing'
  exact ⟨running, ho', ongoing', fun _ _ held => rtpToRan ▸ held⟩

theorem emit {act : HoAct} (other : act.peerNumber = none) : PeerInv (w.emit act) :=
  inv.extend [act] rfl rfl (by simpa using other) fun running ho' ongoing' =>
    ⟨running, ho', ongoing', fun _ _ held => held⟩

theorem change {f : MscHo → MscHo}
    (held : ∀ ho before, w.crashed = false → w.ho = some ho → Restores before →
      Held before w.rtpToRan ho → Held before w.rtpToRan (f ho)) : PeerInv (w.onHo f) := by
  refine inv.extend [] (by simp [HoConn.onHo]) rfl (by simp) fun running ho' ongoing' => ?_
  obtain ⟨ho, ongoing, rfl⟩ := Option.map_eq_some_iff.mp ongoing'
  exact ⟨running, ho, ongoing, fun before restores => held ho before running ongoing restores⟩

theorem begin (cil : List Nat) (careful : ∀ act ∈ (w.begin cil).acts, act.careful = true) :
    PeerInv (w.begin cil) := by
  have log : (w.begin cil).acts = w.acts ++ [.started (w.started + 1) cil w.peer] := rfl
  have unseen {act : HoAct} (member : act ∈ w.acts) : act.peerNumber ≠ some (w.started + 1) := by
    intro number
    have := inv.bound act member _ number
    omega
  refine ⟨⟨?_, ?_⟩, ?_⟩
  · intro act member n number
    rw [log] at member
    rcases mem_concat.mp member with earlier | rfl
    · exact Nat.le_succ_of_le (inv.bound act earlier n number)
    · exact Nat.le_of_eq (Option.some.inj number).symm
  · intro n notTaken
    rw [log] at notTaken ⊢
    obtain ⟨notReleased, peers⟩ :=
      inv.kept n fun remote member => notTaken remote (mem_append_left _ member)
    refine ⟨by simpa using notReleased, fun cil' before after started ended => ?_⟩
    have ended : .ended n after ∈ w.acts := by simpa using ended
    rcases mem_append.mp started with earlier | new
    · exact peers cil' before after earlier ended
    · obtain ⟨rfl, -, -⟩ := HoAct.started.inj (mem_singleton.mp new)
      exact (unseen ended rfl).elim
  · intro _ ho ongoing
    refine ⟨w.peer, fun cil' rtp member => ?_, ?_, ?_⟩
    · rw [log] at member
      rcases mem_append.mp member with earlier | new
      · exact (unseen earlier rfl).elim
      · exact (HoAct.started.inj (mem_singleton.mp new)).2.2
    · intro peer eq
      have := careful (.started (w.started + 1) cil w.peer) (by simp [log])
      simpa [HoAct.careful, eq] using this
    · rw [← Option.some.inj ongoing]
      refine Held.harmless (.of_early rfl rfl fun rtps stream => ?_) hoStateChg_harmless
      have stream : w.rtpToRan = some rtps := stream
      simp [HoConn.peer, stream]

theorem scan (scan : HoScan env w w') : PeerInv w' := by
  cases scan with
  | visit ho cid cells ongoing searching left =>
      refine emit (w := w.onHo _) ?_ rfl
      refine inv.change fun ho' before _ ongoing' _ held => ?_
      obtain rfl : ho = ho' := Option.some.inj (ongoing.symm.trans ongoing')
      obtain ⟨switched, forwarding⟩ := held.early searching
      exact .of_early switched forwarding (held.unchanged switched)
  | change f harmless => exact inv.change fun _ _ _ _ _ held => held.harmless harmless

theorem scans (scans : ReflTransGen (HoScan env) w w') : PeerInv w' := by
  induction scans with
  | refl => exact inv
  | tail _ scan ih => exact ih.scan scan

theorem giveUp (timer : Bool) : PeerInv (w.giveUp timer) := by
  unfold HoConn.giveUp
  split
  · exact inv
  · exact inv.emit rfl

/-- Giving up: the rollback brings the peer back before the FSM ends. -/
theorem fail (cause : HoCause) (env : HoEnv)
    (careful : ∀ act ∈ (mscHoFailed w cause env).acts, act.careful = true) :
    PeerInv (mscHoFailed w cause env) := by
  obtain ⟨mid, rolled, steady, crash | ⟨told, reject, eq⟩⟩ := mscHoFailed_cases
  all_goals
    have midActs : mid.acts = (w.giveUp false).acts := rolled ▸ rollback_acts
    have midLog : PeerLog mid := by
      refine (inv.giveUp false).toPeerLog.append [] (by simp [midActs]) ?_ (by simp)
      rw [steady.started, ((Steady.refl w).giveUp false).started]
  · rw [crash]
    exact midLog.crash
  · obtain ⟨toldLog, toldActs, toldStarts, toldHo, toldPeer, toldCrashed, toldStarted⟩ : PeerLog told ∧
        mid.acts <+: told.acts ∧
        (∀ n cil rtp, .started n cil rtp ∈ told.acts → .started n cil rtp ∈ mid.acts) ∧
        told.ho = mid.ho ∧ told.peer = mid.peer ∧ told.crashed = mid.crashed ∧
        told.started = mid.started := by
      rcases reject with ⟨rfl, -⟩ | rfl
      · exact ⟨midLog, prefix_rfl, fun _ _ _ => id, rfl, rfl, rfl, rfl⟩
      · exact ⟨midLog.append [_] rfl rfl (by simp [HoAct.peerNumber]), prefix_append _ _,
          by simp [HoConn.emit], rfl, rfl, rfl, rfl⟩
    rw [eq] at careful ⊢
    split
    · exact toldLog.ended (.inl ‹_›)
    · rename_i running
      rw [if_neg running] at careful
      cases ongoing : told.ho with
      | none =>
          rw [hoTerm_idle env ongoing]
          exact toldLog.crash
      | some ho' =>
          have running' : w.crashed = false := steady.running (by simpa [toldCrashed] using running)
          have present : w.ho.isSome := by
            rw [← steady.isSome, ← toldHo, ongoing]
            rfl
          obtain ⟨ho, current⟩ := Option.isSome_iff_exists.mp present
          obtain ⟨before, unique, restores, held⟩ := inv.held running' ho current
          have grown : (w.giveUp false).acts <+: (hoTerm told env).acts :=
            (midActs ▸ toldActs).trans ((Aside.refl told).hoTerm env).grows
          have rolledBack := giveUp_rolledBack current held restores fun act member =>
            careful act (grown.subset member)
          rw [← rolled] at rolledBack
          obtain ⟨ho'', current', bare⟩ := rolledBack.ho
          refine toldLog.term env (toldHo.trans current') bare fun cil rtp member => ?_
          have earlier : .started w.started cil rtp ∈ w.acts := by
            have inMid := toldStarts _ _ _ member
            rw [toldStarted, steady.started, midActs] at inMid
            simpa [HoConn.giveUp, current, HoConn.emit] using inMid
          rw [toldPeer, unique cil rtp earlier]
          exact rolledBack.peer

/-- The expiry of the timer, with the stream untouched. -/
theorem timeout (env : HoEnv) (running : w.crashed = false) (ongoing : w.ho.isSome)
    (careful : ∀ act ∈ (hoTerm (w.giveUp true) env).acts, act.careful = true) :
    PeerInv (hoTerm (w.giveUp true) env) := by
  obtain ⟨ho, current⟩ := Option.isSome_iff_exists.mp ongoing
  obtain ⟨before, unique, restores, held⟩ := inv.held running ho current
  have given : w.giveUp true =
      w.emit (.failing w.started true ho.forwardingHolds ho.rtpSwitchedToNewCell) := by
    simp [HoConn.giveUp, current]
  have expired := careful (.failing w.started true ho.forwardingHolds ho.rtpSwitchedToNewCell)
    (((Aside.refl _).hoTerm env).grows.subset (by simp [given, HoConn.emit]))
  simp only [HoAct.careful, if_true, Bool.and_eq_true, Bool.not_eq_true'] at expired
  refine (inv.giveUp true).toPeerLog.term env (by rw [given]; exact current) expired.1
    fun cil rtp member => ?_
  rw [given] at member ⊢
  have earlier : .started w.started cil rtp ∈ w.acts := by simpa [HoConn.emit] using member
  rw [unique cil rtp earlier]
  change w.peer = before ∨ w.peer = none
  cases stream : w.rtpToRan with
  | none => exact .inr (by simp [HoConn.peer, stream])
  | some rtps => exact .inl (by simp [HoConn.peer, stream, held.unchanged expired.2 rtps stream])

/-- A takeover excuses what the end of the FSM does. -/
theorem success (env : HoEnv) : PeerInv (mscHoSuccess w env) := by
  obtain ⟨mid, steady, acts, ⟨eq, crashed⟩ | ⟨remote, -, eq⟩⟩ := mscHoSuccess_cases
  all_goals
    have log : PeerLog mid :=
      inv.toPeerLog.append [] (by simp [acts]) steady.started (by simp)
    rw [eq]
  · exact log.ended (.inl crashed)
  · have taken : PeerLog (mid.emit (.takenOver mid.started remote)) :=
      log.append [_] rfl rfl (by simp [HoAct.peerNumber])
    cases ongoing : mid.ho with
    | none =>
        rw [hoTerm_idle (w := mid.emit _) env ongoing]
        exact taken.crash
    | some ho =>
        obtain ⟨gone, started, -, minor, rtp, allMinor, log⟩ :=
          hoTerm_ended (w := mid.emit (.takenOver mid.started remote)) env (by
            simp [HoConn.emit, ongoing])
        refine PeerLog.ended (taken.extend (minor ++ [.ended mid.started rtp]) ?_ started ?_)
          (.inr gone)
        · rw [log, append_assoc]
          rfl
        · intro act member n number
          have now : n = mid.started := by
            rcases mem_concat.mp member with inMinor | rfl
            · have := allMinor act inMinor
              cases act <;> simp_all [HoAct.isMinor, HoAct.peerNumber, HoConn.emit]
            · exact (Option.some.inj number).symm
          exact ⟨now, remote, by simp [now, HoConn.emit]⟩

theorem expire : PeerInv w.expire := by
  cases crashed : w.crashed with
  | true =>
      have steady := Steady.expire w
      have acts : w.expire.acts = w.acts := by
        unfold HoConn.expire
        split
        · split <;> rfl
        · rfl
      exact (inv.toPeerLog.append [] (by simp [acts]) steady.started (by simp)).ended
        (.inl (steady.crashed crashed))
  | false =>
      -- the call to the new cell has not ended
      have same : w.expire = w := by
        unfold HoConn.expire
        split
        · rename_i c forwarding
          obtain ⟨ho, ongoing, isCall⟩ := Option.bind_eq_some_iff.mp forwarding
          obtain ⟨before, -, -, held⟩ := inv.held crashed ho ongoing
          obtain ⟨-, c', eq, running, -⟩ := held.forwarding _ isCall
          rw [Forwarding.call.inj eq, running]
          rfl
        · rfl
      rw [same]
      exact inv

theorem refuse (cause : HoCause) (env : HoEnv) :
    PeerInv (mscHoDownRequiredReject w (.refused cause) env) := by
  rcases reject_cases with crash | ⟨same, -⟩ | told
  · rw [crash]
    exact inv.toPeerLog.crash
  · rw [same]
    exact inv
  · rw [told]
    exact inv.emit rfl

theorem callLegTerm : PeerInv w.callLegTerm := by
  have steady := (Steady.refl w).callLegTerm
  refine inv.extend [] (by simp [callLegTerm_acts]) steady.started (by simp) ?_
  intro running ho' ongoing'
  have present : w.ho.isSome := by rw [← steady.isSome, ongoing']; rfl
  obtain ⟨ho, ongoing⟩ := Option.isSome_iff_exists.mp present
  refine ⟨steady.running running, ho, ongoing, fun before _ held => ?_⟩
  cases forwarding : ho.newForwarding with
  | none =>
      simp only [HoConn.callLegTerm, ongoing, Option.bind_some, forwarding] at ongoing' ⊢
      obtain rfl : ho = ho' := Option.some.inj ongoing'
      exact ⟨held.early, held.forwarding, fun _ => by simp [MscHo.forwardingHolds, forwarding],
        by simp⟩
  | some forwarding' =>
      obtain ⟨-, c, rfl, -⟩ := held.forwarding _ forwarding
      simp only [HoConn.callLegTerm, ongoing, Option.bind_some, forwarding, HoConn.onHo,
        Option.map_some] at ongoing' ⊢
      rw [← Option.some.inj ongoing']
      exact held.lost forwarding

/-- The peer is noted before the stream goes to the call to the new cell. -/
theorem backup (rtps : RtpStream) (waiting : w.accepts .rxRequestAck = true) :
    PeerInv (w.onHo fun ho => { ho with oldCell := rtps.peer }) := by
  refine inv.change fun ho before _ ongoing _ held => ?_
  obtain ⟨switched, forwarding⟩ := held.early (by simp [(state_of_waiting ongoing waiting).2])
  exact .of_early switched forwarding (held.unchanged switched)

theorem forward {ack : RequestAck} {bearerCap : Option Nat}
    (waiting : w.accepts .rxRequestAck = true) (remote : w.ho.bind MscHo.newType = some .remoteMsc)
    (started : (mscHoStartInterMscCallForwarding w ack bearerCap env).2 = true)
    (careful : ∀ act ∈ (mscHoStartInterMscCallForwarding w ack bearerCap env).1.acts,
      act.careful = true) :
    PeerInv ((mscHoStartInterMscCallForwarding w ack bearerCap env).1.stateChg .waitComplete) := by
  obtain ⟨rtps, c', stream, running, callback, eq⟩ := startForwarding_eq started careful
  rw [eq, stateChg_eq_onHo, onHo_onHo]
  refine inv.change fun ho before _ ongoing _ held => ?_
  obtain ⟨alive, state⟩ := state_of_waiting ongoing waiting
  obtain ⟨switched, forwarding⟩ := held.early (by simp [state])
  have remote : ho.newType = some .remoteMsc := by simpa [ongoing] using remote
  constructor
  · intro notFinal
    refine (notFinal ?_).elim
    simp [hoStateChg, Inst.stateChg, alive, state, hoFsm]
  · intro _ isCall
    exact ⟨remote, c', (Option.some.inj isCall).symm, running, callback⟩
  · simp [stream]
  · intro rtps' stream'
    obtain rfl : rtps = rtps' := Option.some.inj (stream.symm.trans stream')
    exact ⟨rtps.peer, held.unchanged switched rtps stream, fun _ => rfl,
      by simp [hoStateChg, switched], fun _ => ⟨rfl, rfl⟩⟩

theorem switch (waiting : w.accepts .rxDetect = true)
    (toLocal : w.ho.bind MscHo.newType = some .localRanPeer) :
    PeerInv (mscHoRtpSwitchToNewCell w) := by
  rcases switchToNewCell_cases w with same | ⟨ho, rtps, rtps', ongoing, stream, unswitched, newHo,
      newStream, restorable⟩
  · rw [same]
    exact inv
  · have steady := Steady.switch w
    refine inv.extend [] (by simp [switch_acts]) steady.started (by simp) ?_
    intro running ho' ongoing'
    refine ⟨steady.running running, ho, ongoing, fun before _ held => ?_⟩
    have final : ho.fi.state = .waitComplete := by
      simp only [HoConn.accepts, ongoing, Inst.accepts, Bool.and_eq_true] at waiting
      cases state : ho.fi.state <;> simp_all [hoFsm]
    have forwarding : ho.newForwarding = none := by
      cases forwarding : ho.newForwarding with
      | none => rfl
      | some forwarding' =>
          have := (held.forwarding _ forwarding).1
          simp [ongoing, this] at toLocal
    rw [newHo] at ongoing'
    rw [newStream, ← Option.some.inj ongoing']
    exact (stream ▸ held).switched final unswitched forwarding restorable

/-- The call to the new cell takes the stream there. -/
theorem connect {f : RtpStream → RtpStream} (codecs : ∀ rtps, (f rtps).codecs = rtps.codecs)
    (forwarding : ∀ ho, w.ho = some ho → ho.newForwarding.isSome) :
    PeerInv ((w.onRtp f).onHo fun ho => { ho with rtpSwitchedToNewCell := true }) := by
  refine inv.extend [] (by simp [HoConn.onHo, HoConn.onRtp]) rfl (by simp) ?_
  intro running ho' ongoing'
  obtain ⟨ho, ongoing, rfl⟩ := Option.map_eq_some_iff.mp ongoing'
  refine ⟨running, ho, ongoing, fun before _ held => held.connected (forwarding ho ongoing) ?_⟩
  simp [HoConn.onHo, HoConn.onRtp, Function.comp_def, codecs]

/-- The acts of the call to the new cell on the stream, while the call runs. -/
theorem streamActs {acts : List CallAct} (shape : StreamActs acts)
    (forwarding : ∀ ho, w.ho = some ho → ho.newForwarding.isSome) :
    PeerInv (acts.foldl (HoConn.callAct true) w) := by
  cases shape with
  | none => exact inv
  | noted addr =>
      have := inv.connect (f := id) (fun _ => rfl) forwarding
      simpa [HoConn.callAct, HoConn.onRtp] using this
  | moved addr =>
      exact inv.connect (f := fun rtps => (rtpStreamSetRemoteAddr rtps addr).commit)
        (fun rtps => by simp) forwarding

/-- A message of MNCC for the call to the new cell, which does not end it. -/
theorem mncc (rx : RxInput) (env : HoEnv) (running : w.crashed = false)
    (careful : ∀ act ∈ (hoMnccRx w rx env).acts, act.careful = true) :
    PeerInv (hoMnccRx w rx env) := by
  unfold hoMnccRx at careful ⊢
  split
  · rename_i c forwarding
    obtain ⟨ho, ongoing, isCall⟩ := Option.bind_eq_some_iff.mp forwarding
    obtain ⟨before, -, -, held⟩ := inv.held running ho ongoing
    obtain ⟨-, c₀, same, -, callback⟩ := held.forwarding _ isCall
    obtain rfl : c = c₀ := Forwarding.call.inj same
    simp only [forwarding] at careful ⊢
    obtain ⟨stream, touches, shape⟩ := mnccCallRx_touches callback (w.rxView rx)
    generalize mnccCallRx c (w.rxView rx) = c' at careful touches ⊢
    rcases touches with ⟨extra, acts, ended⟩ | runs
    · have := careful (.forwardingEnded w.started) (by
        rw [acts, added_append]
        exact forwardingEnded_mem ended _)
      simp [HoAct.careful] at this
    · obtain ⟨extra, acts, filtered⟩ := runs.acts
      have alive' : .terminated ∉ extra := by
        intro ended
        have : .terminated ∈ stream := filtered ▸ mem_filter.mpr ⟨ended, rfl⟩
        cases shape <;> simp at this
      have replaced : PeerInv (w.onHo fun ho => { ho with newForwarding := some (.call c') }) := by
        refine inv.change fun ho' before _ ongoing' _ held => ?_
        obtain rfl : ho = ho' := Option.some.inj (ongoing.symm.trans ongoing')
        exact held.runs isCall runs
      rw [acts, added_append, foldl_forwardingAct alive', ← foldl_callAct_filter, filtered]
      refine replaced.streamActs shape fun ho' ongoing' => ?_
      obtain ⟨_, -, rfl⟩ := Option.map_eq_some_iff.mp ongoing'
      rfl
  · exact inv

/-- A careful move keeps the invariant. -/
theorem move {timer twice : Bool} (move : HoMove env timer twice w w')
    (careful : ∀ act ∈ w'.acts, act.careful = true) : PeerInv w' := by
  cases move with
  | scan moves => exact inv.scan moves
  | expire => exact inv.expire
  | refuse cause => exact inv.refuse cause env
  | start cil idle => exact inv.begin cil careful
  | setMscT _ | mscIGone => exact inv.of_same rfl rfl rfl rfl rfl
  | request _ _ _ _ | command | succeeded => exact inv.emit rfl
  | retry w' ho cause ongoing searching scanned =>
      have trying : PeerInv (w.tryingNext (ho.cil.drop ho.nextCilIdx) env) :=
        (inv.emit rfl).change fun _ _ _ _ _ held => held.harmless hoStateChg_harmless
      exact (trying.scans scanned).fail cause env careful
  | fail cause => exact inv.fail cause env careful
  | success => exact inv.success env
  | backup rtps waiting stream => exact inv.backup rtps waiting
  | forward ack bearerCap running waiting remote started =>
      exact inv.forward waiting remote started careful
  | switch waiting toLocal => exact inv.switch waiting toLocal
  | timeout expired running ongoing => exact inv.timeout env running ongoing careful
  | callLegTerm => exact inv.callLegTerm
  | mncc rx running => exact inv.mncc rx env running careful

end

end PeerInv

theorem HoConn.Fresh.peerInv {w : HoConn} (fresh : w.Fresh) : PeerInv w :=
  PeerLog.ended ⟨by simp [fresh.acts], by simp [PeerKept, fresh.acts]⟩ (.inr fresh.ho)

/-- In a careful run a handover that is not taken over leaves the stream as it was. -/
theorem hoRun_peerKept (w : HoConn) (inputs : List HoInput) (fresh : w.Fresh)
    (careful : ∀ act ∈ (inputs.foldl hoStep w).acts, act.careful = true) :
    PeerKept (inputs.foldl hoStep w).acts := by
  let Inv (w : HoConn) : Prop := (∀ act ∈ w.acts, act.careful = true) → PeerInv w
  have kept (w : HoConn) (input : HoInput) (inv : Inv w) : Inv (hoStep w input) :=
    (hoStep_reach w input).invariant inv fun w w' inv move careful =>
      (inv fun act member => careful act (move.grows.subset member)).move move careful
  exact (foldl_invariant_always kept inputs w (fun _ => fresh.peerInv) careful).kept

/-- A handover to a local BSS fails after the stream was switched there. -/
theorem hoRun_peerKept_afterDetect :
    let acts := ([.handoverRequired [7] (allCells .localRanPeer),
      .target .handoverRequestAck ackLocal none {}, .target .handoverDetect {} none {},
      .target .handoverFailure {} none {}].foldl hoStep talking).acts
    PeerKept acts ∧ .failing 1 false false true ∈ acts ∧ .ended 1 talking.peer ∈ acts :=
  ⟨hoRun_peerKept talking _ (by decide) (by decide), by decide, by decide⟩

/-- The acknowledge of a remote MSC. -/
def ackRemote : RequestAck where
  handoverNumber := .number ['4', '9']

/-- The timer expires after the stream was switched: it stays with the new cell.  And a remote MSC that
fails before the call to it is connected takes the stream with it. -/
theorem stream_not_rolled_back :
    let expired := ([.handoverRequired [7] (allCells .localRanPeer),
      .target .handoverRequestAck ackLocal none {}, .target .handoverDetect {} none {},
      .timeout {}].foldl hoStep talking).acts
    let released := ([.handoverRequired [7] (allCells .remoteMsc),
      .target .handoverRequestAck ackRemote none {}, .target .handoverFailure {} none {}].foldl
        hoStep talking).acts
    let newPeer : RtpPeer :=
      { remote := ackLocal.remoteRtp, codecs := ackLocal.codec.toList.reduceOption }
    (.ended 1 (some newPeer) ∈ expired ∧ ¬ PeerKept expired) ∧
      .rtpReleased 1 ∈ released ∧ ¬ PeerKept released := by
  refine ⟨⟨by decide, fun kept => ?_⟩, by decide, fun kept => (kept 1 (by decide)).1 (by decide)⟩
  have peers := (kept 1 (by decide)).2 [7] talking.peer
    (some { remote := ackLocal.remoteRtp, codecs := ackLocal.codec.toList.reduceOption })
    (by decide) (by decide)
  revert peers
  decide

end OsmoMsc.Msc
