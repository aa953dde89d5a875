/-
Module: OsmoMsc.Msc.AssignmentRun
Purpose: When a result of an assignment reaches the transaction that asked for it.  Only the
  commands of `msc_a_tx_assignment_cmd()` start the timer that lets a result through, and a result
  goes to the transaction the connection's state points at.  The outcome is right exactly when these
  two agree with what was asked for.
Trusted boundary: none
Main exports: Awaits, Serves, ResultActed, pointsAt, ResultIsRouted, asgRun_resultActed_iff,
  asgRun_timer_iff
-/
import OsmoMsc.Library.Run
import OsmoMsc.Msc.Assignment

namespace OsmoMsc.Msc

open Library List

/-! ### What a result should do -/

/-- The command an act answers. -/
def AsgAct.command? : AsgAct → Option Command
  | .callProceeds callId | .callAborted callId => some ⟨.call, callId⟩
  | .groupCallResult callId _ => some ⟨.groupCall, callId⟩
  | .silentCallFreed callId => some ⟨.silentCall, callId⟩
  | .assignmentCommand _ | .connReleased => none

/-- The transaction hangs on this connection. -/
def transOnConn (s : Asg) (callId : Nat) : Bool :=
  s.transList.any fun trans => trans.callId = callId && trans.mscA = some s.self

/-- A live transaction waits for this result.  Nothing is to be done when the assignment of a silent
call completes. -/
def Awaits (s : Asg) (result : AsgResult) (command : Command) : Prop :=
  command ∈ s.outstanding ∧ transIsLive s.transList command.trans = true ∧
    (result = .failure ∨ command.requester ≠ .silentCall)

/-- The act is what the result means for the transaction that asked: a call proceeds or is aborted,
the group call FSM gets its event, a silent call is freed.  The release of the connection aborts the
calls on it. -/
def Serves (s : Asg) (result : AsgResult) (command : Command) (act : AsgAct) : Prop :=
  match command.requester, result with
  | .call, .complete => act = .callProceeds command.trans ∨ act = .callAborted command.trans
  | .call, .failure =>
      act = .callAborted command.trans ∨
        act = .connReleased ∧ transOnConn s command.trans = true
  | .groupCall, .complete => act = .groupCallResult command.trans true
  | .groupCall, .failure => act = .groupCallResult command.trans false
  | .silentCall, .complete => False
  | .silentCall, .failure =>
      act = .silentCallFreed command.trans ∨
        act = .connReleased ∧ transOnConn s command.trans = true

/-- A result that arrives in `s` and leads to `s'` was acted on for the transactions that asked for
it and for no others, and changed nothing if nothing was asked for. -/
structure ResultActed (s : Asg) (result : AsgResult) (s' : Asg) : Prop where
  served : s.inRelease = false → ∀ command, Awaits s result command →
    ∃ act ∈ added s.log s'.log, Serves s result command act
  onlyRequesters : s.inRelease = false → ∀ act ∈ added s.log s'.log, ∀ command,
    act.command? = some command → command ∈ s.outstanding
  idle : s.outstanding = [] → s' = s

/-! ### When it does -/

/-- The subscriber's group or broadcast call. -/
def groupCallOf (s : Asg) : Option Command :=
  ((transFindByType s.transList s.vsub .gcc).or (transFindByType s.transList s.vsub .bcc)).map
    fun trans => ⟨.groupCall, trans.callId⟩

/-- The active call, given that there is an RTP stream towards the RAN. -/
def activeCallOf (s : Asg) : Option Command :=
  if s.rtpToRan then s.activeTrans.map fun callId => ⟨.call, callId⟩ else none

/-- The subscriber's silent call. -/
def silentCallOf (s : Asg) : Option Command :=
  (transFindByType s.transList s.vsub .silentCall).map fun trans => ⟨.silentCall, trans.callId⟩

/-- The transaction the connection's state points at.  For a COMPLETE a group call comes first, then
the active call; for a FAILURE the RTP stream decides. -/
def pointsAt (s : Asg) : AsgResult → Option Command
  | .complete => (groupCallOf s).or (activeCallOf s)
  | .failure => if s.rtpToRan then activeCallOf s else (groupCallOf s).or (silentCallOf s)

/-- A command of `msc_a_tx_assignment_cmd()` has not been answered. -/
def CallAsked (s : Asg) : Prop := ∃ command ∈ s.outstanding, command.requester = .call

/-- The connection is to be released: a FAILURE with no RTP stream and nothing to point at. -/
def Releases (s : Asg) (result : AsgResult) : Prop :=
  result = .failure ∧ s.rtpToRan = false ∧ pointsAt s result = none

/-- The state leads a result to the transaction that asked for it: whoever waits does so while a
command of `msc_a_tx_assignment_cmd()` is unanswered, and is what the state points at (or a call or
silent call on a connection that is to be released); and while such a command is unanswered the state
points at nothing that has not asked. -/
structure ResultIsRouted (s : Asg) (result : AsgResult) : Prop where
  reached : ∀ command, Awaits s result command → CallAsked s ∧
    (pointsAt s result = some command ∨
      Releases s result ∧ command.requester ≠ .groupCall ∧ transOnConn s command.trans = true)
  requested : CallAsked s → ∀ command, pointsAt s result = some command → command ∈ s.outstanding

/-! ### The timer stands for an unanswered call assignment -/

/-- The invariant: outside release the timer runs exactly while a command of
`msc_a_tx_assignment_cmd()` is unanswered. -/
structure AsgInv (s : Asg) : Prop where
  asked : s.assignmentRequestPending = true → CallAsked s
  runs : s.inRelease = false → CallAsked s → s.assignmentRequestPending = true
  stopped : s.inRelease = true → s.assignmentRequestPending = false

/-- What the invariant is about, and the log. -/
def Asg.conn (s : Asg) : Bool × Bool × List Command × List AsgAct :=
  (s.inRelease, s.assignmentRequestPending, s.outstanding, s.log)

section Frames

variable (env : AsgEnv) (s : Asg)

/-- The call leg and the calls it frees or starts are all that its termination touches. -/
theorem mscACallLegTerm_conn : (mscACallLegTerm env s).conn = s.conn := by
  unfold mscACallLegTerm
  split
  · dsimp only
    split <;> split <;> rfl
  · rfl
  · rfl

theorem callLegRelease_conn : (callLegRelease env s).conn = s.conn := by
  unfold callLegRelease
  split
  · exact mscACallLegTerm_conn env s
  · rfl

/-- An abort stops the timer and reports the call it frees. -/
theorem mscAAbortAssignment_conn (ccTrans : Option Nat) :
    (mscAAbortAssignment env s ccTrans).conn =
      { s.stopTimer with log := s.log ++ (ccTrans.map AsgAct.callAborted).toList }.conn := by
  cases ccTrans with
  | none =>
      refine (callLegRelease_conn env s.stopTimer).trans ?_
      simp [Asg.conn, Asg.stopTimer, Asg.inRelease]
  | some callId => exact callLegRelease_conn env _

theorem mscAReleasing_conn :
    (mscAReleasing env s).conn = { s.stopTimer with state := .releasing }.conn :=
  callLegRelease_conn env { s.stopTimer with state := .releasing }

end Frames

variable {command : Command}

section Invariant

variable {s s' : Asg} (env : AsgEnv)

theorem AsgInv.congr (inv : AsgInv s) (same : s'.conn = s.conn) : AsgInv s' := by
  simp only [Asg.conn, Prod.mk.injEq] at same
  obtain ⟨release, pending, outstanding, -⟩ := same
  have asked_iff : CallAsked s' ↔ CallAsked s := by simp [CallAsked, outstanding]
  exact ⟨fun runs => asked_iff.mpr (inv.asked (pending ▸ runs)),
    fun outside asked => pending ▸ inv.runs (release ▸ outside) (asked_iff.mp asked),
    fun inside => pending ▸ inv.stopped (release ▸ inside)⟩

/-- The timer does not run in release. -/
theorem AsgInv.outside (inv : AsgInv s) (runs : s.assignmentRequestPending = true) :
    s.inRelease = false :=
  Bool.eq_false_iff.mpr (fun inside => by simp [inv.stopped inside] at runs)

/-- No timer and no unanswered command of a call. -/
theorem asgInv_of_quiet (pending : s.assignmentRequestPending = false) (quiet : ¬ CallAsked s) :
    AsgInv s :=
  ⟨fun runs => absurd runs (by simp [pending]), fun _ asked => absurd asked quiet,
    fun _ => pending⟩

/-- In release only the timer matters. -/
theorem asgInv_of_release (inside : s.inRelease = true)
    (pending : s.assignmentRequestPending = false) : AsgInv s :=
  ⟨fun runs => absurd runs (by simp [pending]), fun outside => absurd inside (by simp [outside]),
    fun _ => pending⟩

theorem AsgInv.callLegRelease (inv : AsgInv s) : AsgInv (callLegRelease env s) :=
  inv.congr (callLegRelease_conn env s)

theorem asgInv_releasing : AsgInv (mscAReleasing env s) := by
  refine AsgInv.congr ?_ (mscAReleasing_conn env s)
  exact asgInv_of_release (by simp [Asg.inRelease]) rfl

section

variable (inv : AsgInv s)
include inv

/-- A command that is not a call's leaves the timer and the calls' commands as they were. -/
theorem AsgInv.send (other : command.requester ≠ .call) : AsgInv (s.send command) := by
  have asked_iff : CallAsked (s.send command) ↔ CallAsked s := by
    simp [CallAsked, Asg.send, Asg.emit, other]
  exact ⟨fun runs => asked_iff.mpr (inv.asked runs),
    fun outside asked => inv.runs outside (asked_iff.mp asked), inv.stopped⟩

theorem AsgInv.txAssignmentCmd : AsgInv (mscATxAssignmentCmd env s) := by
  unfold mscATxAssignmentCmd
  split
  · exact inv
  · rename_i outside
    split
    · exact inv
    · rename_i idle
      -- the timer does not run, so no earlier command of a call is unanswered
      have quiet : ¬ CallAsked s := fun asked =>
        idle (inv.runs (by simpa using outside) asked)
      split
      · exact AsgInv.callLegRelease env (inv.congr rfl)
      · rename_i ccTrans _
        dsimp only
        split
        · exact asgInv_of_quiet rfl quiet
        · split
          · refine AsgInv.congr ?_ (mscAAbortAssignment_conn env _ (some ccTrans.callId))
            exact asgInv_of_quiet rfl quiet
          · refine ⟨fun _ => ⟨⟨.call, ccTrans.callId⟩, ?_, rfl⟩, fun _ _ => rfl, ?_⟩
            · simp [Asg.send, Asg.emit]
            · intro inside
              exact absurd inside outside

theorem AsgInv.rtpToRanAvailable : AsgInv (mscARtpToRanAvailable env s) := by
  unfold mscARtpToRanAvailable
  split
  · exact inv.txAssignmentCmd env
  · exact inv

theorem AsgInv.tryCallAssignment (callId : Nat) : AsgInv (mscATryCallAssignment env s callId) := by
  unfold mscATryCallAssignment
  split
  · exact inv
  · split
    · exact inv.congr rfl
    · have started : AsgInv { s with activeTrans := some callId } := inv.congr rfl
      split
      · exact started.rtpToRanAvailable env
      · exact inv.congr rfl

theorem AsgInv.gccAssign (callId : Nat) : AsgInv (gccAssign env s callId) := by
  unfold Msc.gccAssign
  split
  · exact inv
  · split
    · exact inv.send (by simp)
    · exact inv

theorem AsgInv.pagingCbSilent (callId : Nat) : AsgInv (pagingCbSilent env s callId) := by
  unfold Msc.pagingCbSilent
  split
  · exact inv
  · dsimp only
    -- `MSC_A_EV_TRANSACTION_ACCEPTED` never moves a connection into or out of release
    have accepted : AsgInv { s with
        transList := s.transList.map fun trans =>
          if trans.callId = callId then { trans with mscA := some s.self } else trans
        state := if s.state = .authenticated then .communicating else s.state } :=
      inv.congr (by cases state : s.state <;> simp [Asg.conn, Asg.inRelease, state])
    split
    · exact accepted.send (by simp)
    · exact accepted.congr rfl

end

end Invariant

/-! ### What a result does -/

section Results

variable (env : AsgEnv) (s : Asg)

/-- The acts of a result that is let through: one act for what the state points at, or else the
release of the connection, or nothing. -/
def ActsFor (result : AsgResult) (acts : List AsgAct) : Prop :=
  match pointsAt s result with
  | some command => ∃ act, acts = [act] ∧ act.command? = some command ∧ Serves s result command act
  | none => acts = if result = .failure ∧ s.rtpToRan = false then [.connReleased] else []

/-- The state after a result that is let through: the timer is stopped, and the log has grown by the
given acts. -/
structure Answered (s' : Asg) (acts : List AsgAct) : Prop where
  log : s'.log = s.log ++ acts
  pending : s'.assignmentRequestPending = false
  outstanding : s'.outstanding = s.outstanding

/-- An abort on behalf of the active call. -/
theorem mscAAbortAssignment_answered (ccTrans : Option Nat) :
    Answered s (mscAAbortAssignment env s.stopTimer ccTrans)
      (ccTrans.map AsgAct.callAborted).toList := by
  have aborted := mscAAbortAssignment_conn env s.stopTimer ccTrans
  simp only [Asg.conn, Prod.mk.injEq] at aborted
  exact ⟨aborted.2.2.2, aborted.2.1, aborted.2.2.1⟩

theorem assignmentCompleteForCall_answered (callId : Nat) :
    ∃ act, Answered s (assignmentCompleteForCall env s.stopTimer callId) [act] ∧
      (act = .callProceeds callId ∨ act = .callAborted callId) := by
  simp only [assignmentCompleteForCall]
  split_ifs
  · exact ⟨_, mscAAbortAssignment_answered env s (some callId), .inr rfl⟩
  · exact ⟨_, ⟨rfl, rfl, rfl⟩, .inl rfl⟩

theorem complete_answered (outside : s.inRelease = false)
    (pending : s.assignmentRequestPending = true) :
    ∃ acts, Answered s (mscAUpCallAssignmentComplete env s) acts ∧ ActsFor s .complete acts := by
  simp only [mscAUpCallAssignmentComplete, ActsFor, pointsAt, groupCallOf, activeCallOf, outside,
    pending, Bool.not_true, Bool.or_self, Bool.false_eq_true, if_false, Asg.stopTimer_transList,
    Asg.stopTimer_vsub, Asg.stopTimer_rtpToRan, Asg.stopTimer_activeTrans]
  rcases transFindByType s.transList s.vsub .gcc with _ | gccTrans
  · rcases transFindByType s.transList s.vsub .bcc with _ | bccTrans
    · by_cases rtp : s.rtpToRan = true
      · rcases active : s.activeTrans with _ | callId
        · exact ⟨[], ⟨by simp [rtp, Asg.stopTimer], by simp [rtp, Asg.stopTimer],
            by simp [rtp, Asg.stopTimer]⟩, by simp⟩
        · obtain ⟨act, answered, outcome⟩ := assignmentCompleteForCall_answered env s callId
          simp only [rtp, Bool.not_true, Bool.false_eq_true, if_false, if_true]
          refine ⟨[act], answered, act, rfl, ?_, outcome⟩
          rcases outcome with rfl | rfl <;> rfl
      · simp only [rtp, Bool.not_false, if_true]
        exact ⟨[], ⟨by simp [Asg.stopTimer], rfl, rfl⟩, by simp⟩
    · exact ⟨[.groupCallResult bccTrans.callId true], ⟨rfl, rfl, rfl⟩, _, rfl, rfl, rfl⟩
  · exact ⟨[.groupCallResult gccTrans.callId true], ⟨rfl, rfl, rfl⟩, _, rfl, rfl, rfl⟩

theorem mscAReleaseCn_answered (outside : s.inRelease = false) :
    Answered s (mscAReleaseCn env s.stopTimer) [.connReleased] := by
  have released := mscAReleasing_conn env (s.stopTimer.emit .connReleased)
  simp only [Asg.conn, Prod.mk.injEq] at released
  simp only [mscAReleaseCn, Asg.stopTimer_inRelease, outside, Bool.false_eq_true, if_false]
  exact ⟨released.2.2.2, released.2.1, released.2.2.1⟩

theorem failure_answered (outside : s.inRelease = false) :
    ∃ acts, Answered s (assignmentFailed env s) acts ∧ ActsFor s .failure acts := by
  simp only [assignmentFailed, ActsFor, pointsAt, groupCallOf, activeCallOf, silentCallOf,
    Asg.stopTimer_transList, Asg.stopTimer_vsub, Asg.stopTimer_rtpToRan, Asg.stopTimer_activeTrans]
  by_cases rtp : s.rtpToRan = true
  · simp only [rtp, if_true]
    rcases s.activeTrans with _ | callId
    · exact ⟨_, mscAAbortAssignment_answered env s none, by simp⟩
    · exact ⟨_, mscAAbortAssignment_answered env s (some callId), _, rfl, rfl, .inl rfl⟩
  · simp only [rtp]
    rcases transFindByType s.transList s.vsub .gcc with _ | gccTrans
    · rcases transFindByType s.transList s.vsub .bcc with _ | bccTrans
      · rcases transFindByType s.transList s.vsub .silentCall with _ | silent
        · exact ⟨_, mscAReleaseCn_answered env s outside, by simp⟩
        · exact ⟨[.silentCallFreed silent.callId], ⟨rfl, rfl, rfl⟩, _, rfl, rfl, .inl rfl⟩
      · exact ⟨[.groupCallResult bccTrans.callId false], ⟨rfl, rfl, rfl⟩, _, rfl, rfl, rfl⟩
    · exact ⟨[.groupCallResult gccTrans.callId false], ⟨rfl, rfl, rfl⟩, _, rfl, rfl, rfl⟩

variable {s}

/-- A result is ignored while the timer does not run. -/
theorem asgResult_ignored (result : AsgResult) (idle : s.assignmentRequestPending = false) :
    asgResult env s result = s.answered := by
  cases result <;>
    simp [asgResult, mscAUpCallAssignmentComplete, mscAUpCallAssignmentFailure, Asg.answered, idle]

/-- A result is let through while the timer runs. -/
theorem asgResult_answered (result : AsgResult) (outside : s.inRelease = false)
    (pending : s.assignmentRequestPending = true) :
    ∃ acts, Answered s.answered (asgResult env s result) acts ∧ ActsFor s result acts := by
  cases result with
  | complete => exact complete_answered env s.answered outside pending
  | failure =>
      have through : asgResult env s .failure = assignmentFailed env s.answered :=
        if_neg (by simp [Asg.answered, pending])
      rw [through]
      exact failure_answered env s.answered outside

/-- Whatever serves a command answers that very command, or releases the connection it is on. -/
theorem Serves.cases {result : AsgResult} {act : AsgAct} (serves : Serves s result command act) :
    act.command? = some command ∨
      act = .connReleased ∧ command.requester ≠ .groupCall ∧
        transOnConn s command.trans = true := by
  obtain ⟨requester, callId⟩ := command
  cases requester <;> cases result <;> simp only [Serves] at serves
  · rcases serves with rfl | rfl <;> exact .inl rfl
  · rcases serves with rfl | ⟨rfl, onConn⟩
    · exact .inl rfl
    · exact .inr ⟨rfl, by simp, onConn⟩
  · exact .inl (serves ▸ rfl)
  · exact .inl (serves ▸ rfl)
  · rcases serves with rfl | ⟨rfl, onConn⟩
    · exact .inl rfl
    · exact .inr ⟨rfl, by simp, onConn⟩

/-- The release of the connection serves the calls and silent calls on it. -/
theorem serves_connReleased (other : command.requester ≠ .groupCall)
    (onConn : transOnConn s command.trans = true) : Serves s .failure command .connReleased := by
  obtain ⟨requester, callId⟩ := command
  cases requester with
  | call | silentCall => exact .inr ⟨rfl, onConn⟩
  | groupCall => exact absurd rfl other

/-- The acts of a result that is let through are right exactly when the state points the right
way. -/
theorem acted_iff_routed {result : AsgResult} {s' : Asg} {acts : List AsgAct}
    (outside : s.inRelease = false) (asked : CallAsked s)
    (answered : Answered s.answered s' acts) (actsFor : ActsFor s result acts) :
    ResultActed s result s' ↔ ResultIsRouted s result := by
  have acts_eq : added s.log s'.log = acts := by simp [answered.log, Asg.answered]
  constructor
  · rintro ⟨served, onlyRequesters, -⟩
    rw [acts_eq] at served onlyRequesters
    refine ⟨fun command awaits => ⟨asked, ?_⟩, fun _ command points => ?_⟩
    · obtain ⟨act, member, serves⟩ := served outside command awaits
      unfold ActsFor at actsFor
      split at actsFor
      · rename_i pointed points
        obtain ⟨only, rfl, answers, -⟩ := actsFor
        obtain rfl := mem_singleton.mp member
        rcases serves.cases with same | ⟨rfl, -, -⟩
        · exact .inl (points.trans (answers.symm.trans same))
        · cases answers
      · rename_i points
        subst actsFor
        split_ifs at member with releases
        · obtain rfl := mem_singleton.mp member
          rcases serves.cases with same | ⟨-, other, onConn⟩
          · cases same
          · exact .inr ⟨⟨releases.1, releases.2, points⟩, other, onConn⟩
        · cases member
    · unfold ActsFor at actsFor
      rw [points] at actsFor
      obtain ⟨act, rfl, answers, -⟩ := actsFor
      exact onlyRequesters outside act (mem_singleton_self act) command answers
  · rintro ⟨reached, requested⟩
    refine ⟨fun _ command awaits => ?_, fun _ act member command answers => ?_, fun nothing => ?_⟩
    · rw [acts_eq]
      unfold ActsFor at actsFor
      rcases (reached command awaits).2 with points | ⟨⟨rfl, noRtp, points⟩, other, onConn⟩
      · rw [points] at actsFor
        obtain ⟨act, rfl, -, serves⟩ := actsFor
        exact ⟨act, mem_singleton_self act, serves⟩
      · rw [points] at actsFor
        refine ⟨.connReleased, ?_, serves_connReleased other onConn⟩
        simp [actsFor, noRtp]
    · rw [acts_eq] at member
      unfold ActsFor at actsFor
      split at actsFor
      · rename_i pointed points
        obtain ⟨only, rfl, pointedAt, -⟩ := actsFor
        obtain rfl := mem_singleton.mp member
        rw [pointedAt] at answers
        cases answers
        exact requested asked command points
      · subst actsFor
        split_ifs at member
        · obtain rfl := mem_singleton.mp member
          cases answers
        · cases member
    · obtain ⟨command, member, -⟩ := asked
      simp [nothing] at member

/-- In a state that the invariant holds of, a result does what it should exactly when the connection
is in release or the state points at the transaction that asked. -/
theorem AsgInv.resultActed_iff (inv : AsgInv s) (result : AsgResult) :
    ResultActed s result (asgResult env s result) ↔
      s.inRelease = true ∨ ResultIsRouted s result := by
  have ignored_idle : s.outstanding = [] → s.answered = s := by
    intro nothing
    rw [Asg.answered, ← nothing]
  cases inside : s.inRelease with
  | true =>
      rw [asgResult_ignored env result (inv.stopped inside)]
      refine ⟨fun _ => .inl rfl, fun _ => ⟨?_, ?_, ignored_idle⟩⟩
      · simp [inside]
      · simp [inside]
  | false =>
      by_cases asked : CallAsked s
      · obtain ⟨acts, answered, actsFor⟩ :=
          asgResult_answered env result inside (inv.runs inside asked)
        simpa using acted_iff_routed inside asked answered actsFor
      · rw [asgResult_ignored env result (Bool.eq_false_iff.mpr (mt inv.asked asked))]
        have nothing_new : added s.log s.answered.log = [] := by simp [Asg.answered]
        constructor
        · rintro ⟨served, -, -⟩
          refine .inr ⟨fun command awaits => ?_, fun asked' => absurd asked' asked⟩
          obtain ⟨act, member, -⟩ := served inside command awaits
          rw [nothing_new] at member
          cases member
        · rintro (impossible | ⟨reached, -⟩)
          · cases impossible
          · refine ⟨fun _ command awaits => absurd (reached command awaits).1 asked, ?_,
              ignored_idle⟩
            rw [nothing_new]
            simp

end Results

/-! ### Runs -/

theorem AsgInv.result (env : AsgEnv) {s : Asg} (inv : AsgInv s) (result : AsgResult) :
    AsgInv (asgResult env s result) := by
  have nobody : ∀ {t : Asg}, t.outstanding = [] → ¬ CallAsked t := by
    rintro t none_left ⟨command, member, -⟩
    simp [none_left] at member
  cases runs : s.assignmentRequestPending with
  | true =>
      obtain ⟨acts, answered, -⟩ := asgResult_answered env result (inv.outside runs) runs
      exact asgInv_of_quiet answered.pending (nobody answered.outstanding)
  | false =>
      rw [asgResult_ignored env result runs]
      exact asgInv_of_quiet runs (nobody rfl)

/-- One input keeps the invariant. -/
theorem asgStep_inv (s : Asg) (input : AsgEnv × AsgInput) (inv : AsgInv s) :
    AsgInv (asgStep s input) := by
  obtain ⟨env, input⟩ := input
  cases input with
  | stateChanged state =>
      simp only [asgStep]
      split
      · exact inv
      · rename_i moves
        simp only [Bool.or_eq_true, decide_eq_true_eq, not_or, Bool.not_eq_true] at moves
        refine inv.congr ?_
        simp only [Asg.conn, moves.1.1]
        simp [Asg.inRelease, moves.1.2, moves.2]
  | releasing =>
      simp only [asgStep]
      split
      · exact inv
      · exact asgInv_releasing env
  | released =>
      simp only [asgStep]
      split
      · rename_i inside
        exact asgInv_of_release (by simp [Asg.inRelease]) (inv.stopped inside)
      · exact inv
  | tryCallAssignment callId => exact inv.tryCallAssignment env callId
  | ensureCallLeg callId =>
      simp only [asgStep, mscAEnsureCallLeg]
      split_ifs <;> exact inv.congr rfl
  | rtpToRanAvailable => exact inv.rtpToRanAvailable env
  | reassign => exact inv.txAssignmentCmd env
  | callLegTerm => exact inv.callLegRelease env
  | reEstablished =>
      simp only [asgStep]
      split
      · exact inv
      · refine AsgInv.tryCallAssignment env ?_ _
        exact inv.congr rfl
  | gccAssign callId => exact inv.gccAssign env callId
  | pagingCbSilent callId => exact inv.pagingCbSilent env callId
  | result result => exact inv.result env result
  | timeout =>
      simp only [asgStep]
      split
      · rename_i runs
        obtain ⟨acts, answered, -⟩ := failure_answered env
          s.stopTimer.answered (inv.outside runs)
        refine asgInv_of_quiet answered.pending ?_
        rintro ⟨command, member, -⟩
        rw [answered.outstanding] at member
        cases member
      · exact inv
  | _ => exact inv.congr rfl

theorem asgRun_inv (self : Nat) (vsub : Option Nat) (inputs : List (AsgEnv × AsgInput)) :
    AsgInv (inputs.foldl asgStep { self := self, vsub := vsub }) :=
  foldl_invariant_always asgStep_inv inputs _
    (asgInv_of_quiet rfl (by simp [CallAsked]))

/-- In every run, every result of an assignment is acted on for the transactions that asked for it
and for no others, and changes nothing if none asked, exactly when the connection is in release or
the state it arrives in points at the transaction that asked. -/
theorem asgRun_resultActed_iff (self : Nat) (vsub : Option Nat)
    (inputs : List (AsgEnv × AsgInput)) (env : AsgEnv) (result : AsgResult) :
    let s := inputs.foldl asgStep { self := self, vsub := vsub }
    ResultActed s result (asgStep s (env, .result result)) ↔
      s.inRelease = true ∨ ResultIsRouted s result :=
  (asgRun_inv self vsub inputs).resultActed_iff env result

/-- A mobile originated call up to its ASSIGNMENT COMMAND. -/
def callAssigned : Asg :=
  List.foldl asgStep {} <| [.transAlloc .cc (some 0) (some 0) .speech, .stateChanged .communicating,
    .tryCallAssignment 1, .rtpToRanAvailable].map ({}, ·)

example : (asgStep callAssigned ({}, .result .complete)).log =
    [.assignmentCommand ⟨.call, 1⟩, .callProceeds 1] := by decide

/-- The calling subscriber of a group call, up to the ASSIGNMENT COMMAND. -/
def groupCallAssigned : Asg :=
  List.foldl asgStep {} <| [.transAlloc .gcc (some 0) (some 0) .speech,
    .stateChanged .communicating, .gccAssign 1].map ({}, ·)

/-- A silent call, up to the ASSIGNMENT COMMAND. -/
def silentCallAssigned : Asg :=
  List.foldl asgStep {} <| [.transAlloc .silentCall (some 0) none .speech,
    .pagingCbSilent 1].map ({}, ·)

/-- The group call never hears of the ASSIGNMENT COMPLETE, and the silent call is not freed by the
ASSIGNMENT FAILURE: no timer runs, so both results are ignored. -/
theorem group_and_silent_results_are_ignored :
    ¬ ResultActed groupCallAssigned .complete
        (asgStep groupCallAssigned ({}, .result .complete)) ∧
      ¬ ResultActed silentCallAssigned .failure
        (asgStep silentCallAssigned ({}, .result .failure)) := by
  constructor
  · intro acted
    obtain ⟨act, member, -⟩ :=
      acted.served rfl ⟨.groupCall, 1⟩ ⟨by decide, by decide, .inr (by decide)⟩
    have nothing : added groupCallAssigned.log
        (asgStep groupCallAssigned ({}, .result .complete)).log = [] := by decide
    rw [nothing] at member
    cases member
  · intro acted
    obtain ⟨act, member, -⟩ := acted.served rfl ⟨.silentCall, 1⟩ ⟨by decide, by decide, .inl rfl⟩
    have nothing : added silentCallAssigned.log
        (asgStep silentCallAssigned ({}, .result .failure)).log = [] := by decide
    rw [nothing] at member
    cases member

end OsmoMsc.Msc
