/-
Module: OsmoMsc.Msc.HandoverStep
Purpose: What one event can do to a handover.  The entry functions of the FSM call each other and
  end the FSM on the way, so each event is cut here, once, into small moves: looking up a cell,
  setting up an MSC-T, a message, the switch of the stream, giving up, taking over.
Trusted boundary: none
Main exports: HoScan, HoMove, HoReach, hoStep_reach
-/
import Mathlib.Logic.Relation
import OsmoMsc.Msc.Handover

namespace OsmoMsc.Msc

open Library Mncc Rtp Relation

/-- The list of cells and how far it has been gone through. -/
def MscHo.cells (ho : MscHo) : List Nat × Nat := (ho.cil, ho.nextCilIdx)

/-- What decides about the stream. -/
def MscHo.stream (ho : MscHo) : Bool × Option Neighbor × Option Forwarding × RtpPeer :=
  (ho.rtpSwitchedToNewCell, ho.newType, ho.newForwarding, ho.oldCell)

variable {w w' : HoConn} {cells : List Nat} {cid : Nat}

/-- A change to the handover that leaves the list of cells, the call to the new cell and the backup of
the stream alone, and that does not go back from WAIT_COMPLETE. -/
structure Harmless (f : MscHo → MscHo) : Prop where
  cells : ∀ ho, (f ho).cells = ho.cells
  stream : ∀ ho, (f ho).stream = ho.stream
  state : ∀ ho, ho.fi.state = .waitComplete → (f ho).fi.state = .waitComplete

/-- The change of state as a change to the handover. -/
def hoStateChg (new : HoSt) (ho : MscHo) : MscHo :=
  { ho with fi := (ho.fi.stateChg hoFsm new (some 3)).getD ho.fi }

variable {new : HoSt}

theorem hoStateChg_harmless : Harmless (hoStateChg new) where
  cells _ := rfl
  stream _ := rfl
  state ho final := by
    cases changed : ho.fi.stateChg hoFsm new (some 3) with
    | none => simp [hoStateChg, changed, final]
    | some fi =>
        obtain ⟨-, permitted, -⟩ := Inst.stateChg_eq_some.mp changed
        simp [final, hoFsm] at permitted

theorem stateChg_eq_onHo (w : HoConn) (new : HoSt) : w.stateChg new = w.onHo (hoStateChg new) := rfl

/-- One move of the search for a target cell. -/
inductive HoScan (env : HoEnv) : HoConn → HoConn → Prop
  | visit (w : HoConn) (ho : MscHo) (cid : Nat) (cells : List Nat) (ongoing : w.ho = some ho)
      (searching : ho.fi.state ≠ .waitComplete) (left : ho.cil.drop ho.nextCilIdx = cid :: cells) :
      HoScan env w (w.visit cid (env.resolve cid))
  | change (w : HoConn) (f : MscHo → MscHo) (harmless : Harmless f) : HoScan env w (w.onHo f)

theorem HoScan.isSome {env : HoEnv} (scan : HoScan env w w') : w'.ho.isSome = w.ho.isSome := by
  cases scan with
  | visit | change => simp [HoConn.visit, HoConn.onHo, HoConn.emit]

/-- The last thing that happened is that this cell was found to have a target. -/
def JustFound (w : HoConn) (cid : Nat) : Prop :=
  ∃ before target, w.acts = before ++ [.visited w.started cid (some target)]

/-- The MSC-I has a way to its BSS. -/
def MscIRole.connected : MscIRole → Bool
  | .localBss ranConn => ranConn
  | .remoteMsc => true

/-- The event makes the code give up a handover twice: the first cell with a target belongs to a local
BSS to which no connection can be made, and the MSC-T, when it is cleared, reports a HANDOVER FAILURE. -/
def HoConn.failsTwice (w : HoConn) : HoInput → Bool
  | .handoverRequired cil env =>
      w.ho.isNone && w.mscT.isNone && w.mscI.any MscIRole.connected &&
        cil.findSome? env.resolve == some .localRanPeer && !env.ranConn && env.encodesFailure
  | _ => false

/-- One move of the code; `timer` says whether the event is the expiry of the timer, and `twice` whether
it may give up a handover that it has given up already. -/
inductive HoMove (env : HoEnv) (timer twice : Bool) : HoConn → HoConn → Prop
  | scan {w w' : HoConn} (moves : HoScan env w w') : HoMove env timer twice w w'
  | expire (w : HoConn) : HoMove env timer twice w w.expire
  | refuse (w : HoConn) (cause : HoCause) :
      HoMove env timer twice w (mscHoDownRequiredReject w (.refused cause) env)
  | start (w : HoConn) (cil : List Nat) (idle : w.ho = none) : HoMove env timer twice w (w.begin cil)
  | setMscT (w : HoConn) (role : Option MscTRole) : HoMove env timer twice w { w with mscT := role }
  | mscIGone (w : HoConn) : HoMove env timer twice w { w with mscI := none }
  | request (w : HoConn) (cid : Nat) (running : w.crashed = false) (ongoing : w.ho.isSome)
      (found : JustFound w cid) :
      HoMove env timer twice w (w.emit (.handoverRequest w.started cid))
  | command (w : HoConn) : HoMove env timer twice w (w.emit (.handoverCommand w.started))
  | succeeded (w : HoConn) : HoMove env timer twice w (w.emit (.handoverSucceeded w.started))
  | retry (w w' : HoConn) (ho : MscHo) (cause : HoCause) (ongoing : w.ho = some ho)
      (searching : ho.fi.state ≠ .waitComplete)
      (scanned : ReflTransGen (HoScan env)
        (w.tryingNext (ho.cil.drop ho.nextCilIdx) env) w') :
      HoMove env timer twice w (mscHoFailed w' cause env)
  | fail (w : HoConn) (cause : HoCause) (once : twice = false → w.ho.isSome) :
      HoMove env timer twice w (mscHoFailed w cause env)
  | success (w : HoConn) (ongoing : w.ho.isSome) : HoMove env timer twice w (mscHoSuccess w env)
  | backup (w : HoConn) (rtps : RtpStream) (waiting : w.accepts .rxRequestAck)
      (stream : w.rtpToRan = some rtps) :
      HoMove env timer twice w (w.onHo fun ho => { ho with oldCell := rtps.peer })
  | forward (w : HoConn) (ack : RequestAck) (bearerCap : Option Nat) (running : w.crashed = false)
      (waiting : w.accepts .rxRequestAck) (remote : w.ho.bind MscHo.newType = some .remoteMsc)
      (started : (mscHoStartInterMscCallForwarding w ack bearerCap env).2 = true) :
      HoMove env timer twice w
        ((mscHoStartInterMscCallForwarding w ack bearerCap env).1.stateChg .waitComplete)
  | switch (w : HoConn) (waiting : w.accepts .rxDetect)
      (toLocal : w.ho.bind MscHo.newType = some .localRanPeer) :
      HoMove env timer twice w (mscHoRtpSwitchToNewCell w)
  | timeout (w : HoConn) (expired : timer = true) (running : w.crashed = false)
      (ongoing : w.ho.isSome) :
      HoMove env timer twice w (hoTerm (w.giveUp true) env)
  | callLegTerm (w : HoConn) : HoMove env timer twice w w.callLegTerm
  | mncc (w : HoConn) (rx : RxInput) (running : w.crashed = false) :
      HoMove env timer twice w (hoMnccRx w rx env)

/-- Any number of moves. -/
abbrev HoReach (env : HoEnv) (timer twice : Bool) : HoConn → HoConn → Prop :=
  ReflTransGen (HoMove env timer twice)

variable {ack : RequestAck} {bearerCap : Option Nat}

section

variable {env : HoEnv} {timer twice : Bool}

theorem HoMove.reach (move : HoMove env timer twice w w') : HoReach env timer twice w w' :=
  .single move

theorem reach_change {f : MscHo → MscHo} (harmless : Harmless f) : HoReach env timer twice w (w.onHo f) :=
  (HoMove.scan (.change w f harmless)).reach

theorem reach_stateChg (w : HoConn) (new : HoSt) : HoReach env timer twice w (w.stateChg new) :=
  reach_change hoStateChg_harmless

/-! ### Looking for a target cell -/

theorem isSome_of_accepts {event : HoEvent} (accepts : w.accepts event) : w.ho.isSome := by
  unfold HoConn.accepts at accepts
  split at accepts
  · simp at accepts
  · simp [*]

theorem hoRxFailure_reach : HoReach env timer twice w (hoRxFailure w env) := by
  unfold hoRxFailure
  split
  · exact (HoMove.fail w _ fun _ => isSome_of_accepts ‹_›).reach
  · exact .refl

theorem mscTRoleClear_reach (w : HoConn) : HoReach env timer twice w (mscTRoleClear w env) := by
  unfold mscTRoleClear
  split
  · refine .trans ?_ (HoMove.setMscT _ none).reach
    split
    · exact hoRxFailure_reach
    · exact .refl
  · exact (HoMove.setMscT w none).reach

/-- A search that is under way, with these cells left. -/
structure Searching (w : HoConn) (cells : List Nat) : Prop where
  running : w.crashed = false
  ongoing : ∃ ho, w.ho = some ho ∧ ho.fi.state ≠ .waitComplete ∧ ho.cil.drop ho.nextCilIdx = cells

theorem Searching.isSome (searching : Searching w cells) : w.ho.isSome := by
  obtain ⟨ho, ongoing, -⟩ := searching.ongoing
  simp [ongoing]

theorem Searching.congr (searching : Searching w cells) (same : w'.ho = w.ho)
    (running : w'.crashed = w.crashed) : Searching w' cells :=
  ⟨running.trans searching.running, same ▸ searching.ongoing⟩

theorem hoStateChg_searching {ho : MscHo} (searching : ho.fi.state ≠ .waitComplete)
    (notFinal : new ≠ .waitComplete) : (hoStateChg new ho).fi.state ≠ .waitComplete := by
  cases changed : ho.fi.stateChg hoFsm new (some 3) with
  | none => simpa [hoStateChg, changed] using searching
  | some fi =>
      obtain ⟨-, -, rfl⟩ := Inst.stateChg_eq_some.mp changed
      simpa [hoStateChg, changed] using notFinal

theorem Searching.stateChg (searching : Searching w cells) (notFinal : new ≠ .waitComplete) :
    Searching (w.stateChg new) cells := by
  obtain ⟨ho, ongoing, state, left⟩ := searching.ongoing
  refine ⟨searching.running, hoStateChg new ho, ?_, hoStateChg_searching state notFinal, left⟩
  simp [stateChg_eq_onHo, HoConn.onHo, ongoing]

theorem Searching.visit (searching : Searching w (cid :: cells)) (env : HoEnv) :
    HoScan env w (w.visit cid (env.resolve cid)) ∧
      Searching (w.visit cid (env.resolve cid)) cells := by
  obtain ⟨ho, ongoing, state, left⟩ := searching.ongoing
  let ho' := { ho with nextCilIdx := ho.nextCilIdx + 1, newType := env.resolve cid }
  refine ⟨.visit w ho cid cells ongoing state left, searching.running, ho', ?_, state, ?_⟩
  · simp [HoConn.visit, HoConn.onHo, HoConn.emit, ongoing, ho']
  · change ho.cil.drop (ho.nextCilIdx + 1) = cells
    rw [← List.tail_drop, left, List.tail_cons]

theorem justFound_visit (w : HoConn) {target : Neighbor} (resolves : env.resolve cid = some target) :
    JustFound (w.visit cid (env.resolve cid)) cid :=
  ⟨w.acts, target, by simp [HoConn.visit, HoConn.emit, HoConn.onHo, resolves]⟩

/-- With an MSC-T in place, going on to the next cell always ends in giving up. -/
theorem mscHoFsmRequiredOnenter_fails {env : HoEnv} (searching : Searching w cells)
    (role : w.mscT.isSome) :
    ∃ w' cause, ReflTransGen (HoScan env) w w' ∧
      mscHoFsmRequiredOnenter env cells w = mscHoFailed w' cause env := by
  induction cells generalizing w with
  | nil => exact ⟨w, _, .refl, rfl⟩
  | cons cid cells ih =>
      obtain ⟨visited, searching'⟩ := searching.visit env
      simp only [mscHoFsmRequiredOnenter]
      cases resolves : env.resolve cid with
      | none =>
          rw [resolves] at visited searching'
          obtain ⟨w', cause, scanned, eq⟩ := ih searching' role
          exact ⟨w', cause, .head visited scanned, eq⟩
      | some target =>
          rw [resolves] at visited
          obtain ⟨t, present⟩ := Option.isSome_iff_exists.mp role
          refine ⟨(w.visit cid (some target)).stateChg .waitRequestAck, .equipmentFailure, ?_, ?_⟩
          · exact .tail (.single visited) (.change _ _ hoStateChg_harmless)
          · have role' : ((w.visit cid (some target)).stateChg .waitRequestAck).mscT = some t :=
              present
            simp only [mscHoFsmWaitRequestAckOnenter, role']

/-- `msc_ho_try_next_cell()` with an MSC-T in place is one move. -/
theorem tryNext_move (searching : Searching w cells) (role : w.mscT.isSome) :
    HoMove env timer twice w (mscHoFsmRequiredOnenter env cells (w.tryingNext cells env)) := by
  obtain ⟨ho, ongoing, state, left⟩ := searching.ongoing
  have searching' : Searching (w.tryingNext cells env) cells :=
    Searching.stateChg (w := w.emit _) (searching.congr rfl rfl) (by simp)
  obtain ⟨w', cause, scanned, eq⟩ := mscHoFsmRequiredOnenter_fails searching' role
  rw [eq]
  exact .retry w w' ho cause ongoing state (left ▸ scanned)

theorem requested_reach (searching : Searching w cells) (found : JustFound w cid) :
    HoReach env timer twice w (w.requested cid env) := by
  unfold HoConn.requested
  split
  · exact (HoMove.request w cid searching.running searching.isSome found).reach
  · exact .refl

theorem mscTRolePrepareHandoverRequest_reach (searching : Searching w cells)
    (found : JustFound w cid) : HoReach env timer twice w (mscTRolePrepareHandoverRequest w cid env) := by
  have requested : HoReach env timer twice w (w.requested cid env) := requested_reach searching found
  unfold mscTRolePrepareHandoverRequest
  split
  · rename_i t _
    let role := MscTRole.localBss (t.stateChg .waitHoRequestAck)
    refine .trans (requested.tail (.setMscT _ (some role))) ?_
    split
    · exact .refl
    · exact mscTRoleClear_reach _
  · exact requested

theorem mscHoSendHandoverRequest_reach (searching : Searching w cells) (role : w.mscT.isSome)
    (found : JustFound w cid) :
    HoReach env timer twice w (mscHoSendHandoverRequest w cid env fun w =>
      mscHoFsmRequiredOnenter env cells (w.tryingNext cells env)) := by
  unfold mscHoSendHandoverRequest
  split
  · exact (HoMove.fail w _ fun _ => searching.isSome).reach
  · split
    · exact (tryNext_move searching role).reach
    · exact mscTRolePrepareHandoverRequest_reach searching found

/-- The MSC-T for a local BSS can be set up, or does not report that it cannot. -/
theorem mscHoFsmWaitRequestAckOnenter_reach (target : Neighbor) (searching : Searching w cells)
    (found : JustFound w cid)
    (once : twice = false → w.mscI.any MscIRole.connected → target = .localRanPeer →
      env.ranConn = false → env.encodesFailure = false) :
    HoReach env timer twice w (mscHoFsmWaitRequestAckOnenter w cid target env fun w =>
      mscHoFsmRequiredOnenter env cells (w.tryingNext cells env)) := by
  have fails (cause : HoCause) : HoReach env timer twice w (mscHoFailed w cause env) :=
    (HoMove.fail w cause fun _ => searching.isSome).reach
  unfold mscHoFsmWaitRequestAckOnenter
  split
  · exact fails _
  · exact fails _
  · exact fails _
  · rename_i role connected _ hasRole
    have asks : w.mscI.any MscIRole.connected := by
      rw [hasRole]
      cases role with
      | localBss ranConn => cases ranConn <;> simp_all [MscIRole.connected]
      | remoteMsc => rfl
    have harmless : Harmless fun ho : MscHo =>
        { ho with subsequentHo := ho.subsequentHo || role == .remoteMsc } :=
      ⟨fun _ => rfl, fun _ => rfl, fun _ final => final⟩
    have searching' : Searching (w.onHo fun ho =>
        { ho with subsequentHo := ho.subsequentHo || role == .remoteMsc }) cells := by
      obtain ⟨ho, ongoing, state, left⟩ := searching.ongoing
      let ho' := { ho with subsequentHo := ho.subsequentHo || role == MscIRole.remoteMsc }
      exact ⟨searching.running, ho', by simp [HoConn.onHo, ongoing, ho'], state, left⟩
    refine .trans (reach_change harmless) ?_
    cases target with
    | localRanPeer =>
        simp only [mscTRoleAlloc]
        refine .head (.setMscT _ (some (.localBss { ranConn := .up }))) ?_
        cases noConn : env.ranConn with
        | true => exact mscHoSendHandoverRequest_reach (searching'.congr rfl rfl) rfl found
        | false =>
            refine .trans (mscTRoleClear_reach _) ?_
            simp only [Bool.false_eq_true, if_false]
            split
            · exact .refl
            · refine (HoMove.fail _ _ fun notTwice => ?_).reach
              -- the MSC-T that is cleared says nothing
              simpa [mscTRoleClear, once notTwice asks rfl noConn] using searching'.isSome
    | remoteMsc =>
        simp only [mscTRoleAlloc]
        cases env.eLink with
        | true =>
            refine .head (.setMscT _ (some .remoteMsc)) ?_
            exact mscHoSendHandoverRequest_reach (searching'.congr rfl rfl) rfl found
        | false =>
            simp only [Bool.false_eq_true, if_false]
            split
            · exact .refl
            · exact (HoMove.fail _ _ fun _ => searching'.isSome).reach

theorem mscHoFsmRequiredOnenter_reach (searching : Searching w cells)
    (once : twice = false → w.mscI.any MscIRole.connected →
      cells.findSome? env.resolve = some .localRanPeer → env.ranConn = false →
      env.encodesFailure = false) :
    HoReach env timer twice w (mscHoFsmRequiredOnenter env cells w) := by
  induction cells generalizing w with
  | nil => exact (HoMove.fail w _ fun _ => searching.isSome).reach
  | cons cid cells ih =>
      obtain ⟨visited, searching'⟩ := searching.visit env
      simp only [mscHoFsmRequiredOnenter]
      refine .head (.scan visited) ?_
      cases resolves : env.resolve cid with
      | none =>
          rw [resolves] at searching'
          exact ih searching' fun notTwice asks toLocal =>
            once notTwice asks (by simpa [resolves] using toLocal)
      | some target =>
          have found := justFound_visit w resolves
          rw [resolves] at searching' found
          refine .trans (reach_stateChg _ .waitRequestAck) ?_
          refine mscHoFsmWaitRequestAckOnenter_reach target (searching'.stateChg (by simp)) found ?_
          exact fun notTwice asks same => once notTwice asks (by simp [resolves, same])

section

variable (running : w.crashed = false)
include running

theorem mscHoStart_reach {cil : List Nat} :
    HoReach env timer (w.failsTwice (.handoverRequired cil env)) w (mscHoStart w cil env) := by
  unfold mscHoStart
  split
  · exact (HoMove.refuse w _).reach
  · split
    · exact (HoMove.refuse w _).reach
    · split
      · exact (HoMove.refuse w _).reach
      · rename_i idle _ noRole
        refine .head (.start w cil (by simpa using idle)) (mscHoFsmRequiredOnenter_reach ?_ ?_)
        · exact ⟨running, hoStateChg .required { cil := cil }, rfl,
            hoStateChg_searching (by simp) (by simp), rfl⟩
        · intro once asks toLocal noConn
          have asks : w.mscI.any MscIRole.connected := asks
          have idle : w.ho = none := by simpa using idle
          have noRole : w.mscT = none := by simpa using noRole
          simpa [HoConn.failsTwice, idle, noRole, asks, toLocal, noConn] using once

/-! ### Messages of the target -/

theorem searching_of_accepts (waiting : w.accepts .rxRequestAck) :
    ∃ ho, w.ho = some ho ∧ ho.fi.state = .waitRequestAck ∧
      Searching w (ho.cil.drop ho.nextCilIdx) := by
  unfold HoConn.accepts at waiting
  cases ongoing : w.ho with
  | none => simp [ongoing] at waiting
  | some ho =>
      have state : ho.fi.state = .waitRequestAck := by
        simp only [ongoing, Inst.accepts, hoFsm, Bool.and_eq_true] at waiting
        cases held : ho.fi.state <;> simp_all
      exact ⟨ho, rfl, state, running, ho, ongoing, by simp [state], rfl⟩

theorem mscHoTryNextCell_move (waiting : w.accepts .rxRequestAck) (role : w.mscT.isSome) :
    HoMove env timer twice w (mscHoTryNextCell w env) := by
  obtain ⟨ho, ongoing, -, searching⟩ := searching_of_accepts running waiting
  simpa only [mscHoTryNextCell, ongoing] using tryNext_move searching role

theorem mscHoStartInterMscCallForwarding_failed (waiting : w.accepts .rxRequestAck)
    (role : w.mscT.isSome)
    (failed : (mscHoStartInterMscCallForwarding w ack bearerCap env).2 = false) :
    HoReach env timer twice w (mscHoStartInterMscCallForwarding w ack bearerCap env).1 := by
  unfold mscHoStartInterMscCallForwarding at failed ⊢
  split
  · exact (mscHoTryNextCell_move running waiting role).reach
  · exact (HoMove.fail w _ fun _ => isSome_of_accepts waiting).reach
  · rename_i rtps _ stream
    refine .head (.backup w rtps waiting stream) (mscHoTryNextCell_move
      (w := w.onHo fun ho => { ho with oldCell := rtps.peer }) running ?_ role).reach
    obtain ⟨ho, ongoing, -⟩ := searching_of_accepts running waiting
    simpa [HoConn.accepts, HoConn.onHo, ongoing] using waiting
  · simp_all

end

theorem callActs_isSome {newCell : Bool} {c c' : MnccCall} :
    (w.callActs newCell c c').ho.isSome = w.ho.isSome := by
  refine List.foldlRecOn (motive := fun (w' : HoConn) => w'.ho.isSome = w.ho.isSome) _ _ rfl
    fun w' same act _ => ?_
  unfold HoConn.callAct
  split
  · exact same
  · rw [← same]
    cases newCell <;> simp only [HoConn.callLegTerm, HoConn.emit] <;> split <;>
      simp [HoConn.crash, HoConn.onHo]
  · simpa [HoConn.onHo] using same
  · exact same

theorem mscHoStartInterMscCallForwarding_isSome
    (started : (mscHoStartInterMscCallForwarding w ack bearerCap env).2 = true) :
    (mscHoStartInterMscCallForwarding w ack bearerCap env).1.ho.isSome = w.ho.isSome := by
  unfold mscHoStartInterMscCallForwarding at started ⊢
  split
  · simp_all
  · simp_all
  · simp_all
  · rw [callActs_isSome]
    split <;> simp [HoConn.onHo, HoConn.emit]

theorem mscHoSendHandoverCommand_reach (ongoing : w.ho.isSome) :
    HoReach env timer twice (w.stateChg .waitComplete) (mscHoSendHandoverCommand w ack env) := by
  simp only [mscHoSendHandoverCommand]
  split
  · refine .head (.command _) (reach_change ?_)
    exact ⟨fun _ => rfl, fun _ => rfl, fun _ final => final⟩
  · refine (HoMove.fail _ _ fun _ => ?_).reach
    simpa [HoConn.stateChg, HoConn.onHo] using ongoing

theorem mscHoRxRequestAck_reach (running : w.crashed = false) (waiting : w.accepts .rxRequestAck) :
    HoReach env timer twice w (mscHoRxRequestAck w ack bearerCap env) := by
  have ongoing := isSome_of_accepts waiting
  unfold mscHoRxRequestAck
  split
  · exact (HoMove.fail w _ fun _ => ongoing).reach
  · rename_i present
    have role : w.mscT.isSome := by simpa [Option.isSome_iff_ne_none] using present
    split
    · exact (mscHoTryNextCell_move running waiting role).reach
    · split
      · rename_i remote
        cases result : mscHoStartInterMscCallForwarding w ack bearerCap env with
        | mk w' started =>
            cases started with
            | false =>
                have failed : HoReach env timer twice w _ :=
                  mscHoStartInterMscCallForwarding_failed running waiting role (by rw [result])
                simpa only [result] using failed
            | true =>
                have started : (mscHoStartInterMscCallForwarding w ack bearerCap env).2 = true := by
                  rw [result]
                have forward : HoMove env timer twice w _ :=
                  .forward w ack bearerCap running waiting remote started
                have same := mscHoStartInterMscCallForwarding_isSome started
                rw [result] at forward same
                exact .head forward (mscHoSendHandoverCommand_reach (same.trans ongoing))
      · exact .trans (reach_stateChg w .waitComplete) (mscHoSendHandoverCommand_reach ongoing)

theorem mscHoRtpSwitchToNewCell_isSome : (mscHoRtpSwitchToNewCell w).ho.isSome = w.ho.isSome := by
  unfold mscHoRtpSwitchToNewCell
  split
  · split
    · rfl
    · simp only [HoConn.onRtp, HoConn.detachCcForwarding]
      split
      · simp [HoConn.onHo]
      · simp [callActs_isSome, HoConn.onHo]
  · rfl

theorem mscHoSendHandoverSucceeded_reach (ongoing : w.ho.isSome) :
    HoReach env timer twice w (mscHoSendHandoverSucceeded w env) := by
  unfold mscHoSendHandoverSucceeded
  split
  · exact (HoMove.succeeded w).reach
  · exact (HoMove.fail w _ fun _ => ongoing).reach

theorem hoRxDetect_reach (waiting : w.accepts .rxDetect) :
    HoReach env timer twice w (hoRxDetect w env) := by
  have harmless : Harmless fun ho : MscHo => { ho with readyToSwitchRtp := true } :=
    ⟨fun _ => rfl, fun _ => rfl, fun _ final => final⟩
  have ongoing : (w.onHo fun ho => { ho with readyToSwitchRtp := true }).ho.isSome := by
    simpa [HoConn.onHo] using isSome_of_accepts waiting
  simp only [hoRxDetect]
  refine .trans (reach_change harmless) ?_
  split
  · rename_i toLocal
    refine .head (.switch _ ?_ toLocal) (mscHoSendHandoverSucceeded_reach ?_)
    · cases ongoing : w.ho <;> simp_all [HoConn.accepts, HoConn.onHo]
    · rwa [mscHoRtpSwitchToNewCell_isSome]
  · exact mscHoSendHandoverSucceeded_reach ongoing

theorem HoConn.mscARanDecFromMscT_reach (msg : TargetMsg) (ack : RequestAck)
    (bearerCap : Option Nat) (running : w.crashed = false) :
    HoReach env timer twice w (HoConn.mscARanDecFromMscT w msg ack bearerCap env) := by
  unfold HoConn.mscARanDecFromMscT
  split
  · split
    · exact mscHoRxRequestAck_reach running ‹_›
    · exact .refl
  · split
    · exact hoRxDetect_reach ‹_›
    · exact .refl
  · split
    · exact (HoMove.success w (isSome_of_accepts ‹_›)).reach
    · exact .refl
  · exact hoRxFailure_reach
  all_goals exact .refl

theorem mscTLocalUpL2_reach (t : MscT) (msg : TargetMsg) (ack : RequestAck) (bearerCap : Option Nat)
    (running : w.crashed = false) :
    HoReach env timer twice w (mscTLocalUpL2 w t msg ack bearerCap env) := by
  unfold mscTLocalUpL2
  split
  · split
    · exact mscTRoleClear_reach w
    · exact .refl
  · refine .trans (HoConn.mscARanDecFromMscT_reach .handoverRequestAck ack bearerCap running) ?_
    simp only
    split
    · exact (HoMove.setMscT _ _).reach
    · exact .refl
  · exact .head (.setMscT w _) (HoConn.mscARanDecFromMscT_reach _ ack bearerCap running)
  · exact HoConn.mscARanDecFromMscT_reach _ ack bearerCap running

theorem hoTargetMsg_reach {msg : TargetMsg} (running : w.crashed = false) :
    HoReach env timer twice w (hoTargetMsg w msg ack bearerCap env) := by
  unfold hoTargetMsg
  split
  · exact .refl
  · exact HoConn.mscARanDecFromMscT_reach msg ack bearerCap running
  · split
    · exact mscTLocalUpL2_reach _ msg ack bearerCap running
    · exact .refl

end

/-! ### Events -/

/-- The event is the expiry of the timer. -/
def HoInput.isTimeout : HoInput → Bool
  | .timeout _ => true
  | _ => false

theorem hoEvent_reach {input : HoInput} (running : w.crashed = false) :
    HoReach input.env input.isTimeout (w.failsTwice input) w (hoEvent w input) := by
  cases input with
  | handoverRequired cil env => exact mscHoStart_reach running
  | target msg ack bearerCap env => exact hoTargetMsg_reach running
  | targetConnReleased env =>
      simp only [hoEvent]
      split
      · split
        · exact mscTRoleClear_reach w
        · exact .refl
      · exact .refl
  | targetClosed =>
      simp only [hoEvent]
      split
      · exact (HoMove.setMscT w none).reach
      · exact .refl
  | sourceFailure env => exact hoRxFailure_reach
  | mncc rx env => exact (HoMove.mncc w rx running).reach
  | timeout env =>
      simp only [hoEvent]
      split
      · exact (HoMove.timeout w rfl running ‹_›).reach
      · exact .refl
  | mscIGone =>
      simp only [hoEvent]
      split
      · exact (HoMove.mscIGone w).reach
      · exact .refl
  | callLegTerm =>
      simp only [hoEvent]
      split
      · exact (HoMove.callLegTerm w).reach
      · exact .refl

theorem crashed_expire : w.expire.crashed = w.crashed := by
  unfold HoConn.expire
  split
  · split <;> rfl
  · rfl

theorem failsTwice_expire {input : HoInput} : w.expire.failsTwice input = w.failsTwice input := by
  unfold HoConn.expire
  split
  · split <;> cases input <;> simp [HoConn.failsTwice, HoConn.onHo]
  · rfl

/-- Every event is a sequence of moves. -/
theorem hoStep_reach (w : HoConn) (input : HoInput) :
    HoReach input.env input.isTimeout (w.failsTwice input) w (hoStep w input) := by
  unfold hoStep
  split
  · exact .refl
  · rename_i running
    rw [← failsTwice_expire]
    exact .head (.expire w) (hoEvent_reach (crashed_expire.trans (by simpa using running)))

/-- A property that every move keeps is kept by any number of moves. -/
theorem HoReach.invariant {env : HoEnv} {timer twice : Bool} {Inv : HoConn → Prop}
    (reach : HoReach env timer twice w w') (holds : Inv w)
    (kept : ∀ w w', Inv w → HoMove env timer twice w w' → Inv w') : Inv w' := by
  induction reach with
  | refl => exact holds
  | tail _ move ih => exact kept _ _ ih move

end OsmoMsc.Msc
