/-
Module: OsmoMsc.Msc.HandoverRun
Purpose: What the MSC-I hears of a handover, over whole runs.  A handover should end either in a
  takeover or in one HANDOVER REQUIRED REJECT.  The expiry of the FSM's timer ends it without a word.
Trusted boundary: none
Main exports: Steady, HoEnded, mscHoFailed_cases, mscHoSuccess_cases, Settled, hoRun_settled
-/
import OsmoMsc.Msc.HandoverStep

namespace OsmoMsc.Msc

open Library Mncc Rtp Relation List

/-! ### Moves that do not matter -/

variable {w w' : HoConn} {env : HoEnv}

theorem reject_cases {reject : HoAct} :
    mscHoDownRequiredReject w reject env = w.crash ∨
      mscHoDownRequiredReject w reject env = w ∧ env.encodesReject = false ∨
        mscHoDownRequiredReject w reject env = w.emit reject := by
  unfold mscHoDownRequiredReject
  split
  · exact .inl rfl
  · split
    · exact .inr (.inr rfl)
    · exact .inr (.inl ⟨rfl, by simp_all⟩)

/-- Acts that say nothing about cells, nor about the end of a handover; a stream is released for the
handover with this number only. -/
def HoAct.isMinor (n : Nat) : HoAct → Bool
  | .handoverCommand _ | .handoverSucceeded _ | .refused _ => true
  | .failing _ _ _ _ | .forwardingEnded _ => true
  | .rtpReleased m => m = n
  | _ => false

/-- Nothing but minor acts has happened, and the handover stands where it stood. -/
structure Steady (w w' : HoConn) : Prop where
  started : w'.started = w.started
  crashed : w.crashed = true → w'.crashed = true
  cells : w'.ho.map MscHo.cells = w.ho.map MscHo.cells
  acts : ∃ minor, w'.acts = w.acts ++ minor ∧ ∀ act ∈ minor, act.isMinor w.started = true

variable {act : HoAct}

namespace Steady

theorem of_same (same : (w'.started, w'.crashed, w'.ho, w'.acts) = (w.started, w.crashed, w.ho, w.acts)) :
    Steady w w' := by
  simp only [Prod.mk.injEq] at same
  obtain ⟨started, crashed, ho, acts⟩ := same
  exact ⟨started, fun dead => crashed.trans dead, congrArg _ ho, [], by simp [acts], by simp⟩

theorem refl (w : HoConn) : Steady w w := of_same rfl

theorem trans {w'' : HoConn} (first : Steady w w') (second : Steady w' w'') : Steady w w'' := by
  obtain ⟨minor, acts, allMinor⟩ := first.acts
  obtain ⟨minor', acts', allMinor'⟩ := second.acts
  refine ⟨second.started.trans first.started, fun dead => second.crashed (first.crashed dead),
    second.cells.trans first.cells, minor ++ minor', by rw [acts', acts, append_assoc], ?_⟩
  intro act member
  rcases mem_append.mp member with earlier | later
  · exact allMinor act earlier
  · exact first.started ▸ allMinor' act later

theorem emit (steady : Steady w w') (minor : act.isMinor w'.started = true) :
    Steady w (w'.emit act) :=
  steady.trans ⟨rfl, id, rfl, [act], rfl, by simpa using minor⟩

theorem onHo {f : MscHo → MscHo} (steady : Steady w w') (same : ∀ ho, (f ho).cells = ho.cells) :
    Steady w (w'.onHo f) := by
  refine steady.trans ⟨rfl, id, ?_, [], by simp [HoConn.onHo], by simp⟩
  cases ongoing : w'.ho <;> simp [HoConn.onHo, ongoing, same]

theorem onRtp {f : RtpStream → RtpStream} (steady : Steady w w') : Steady w (w'.onRtp f) :=
  steady.trans (.of_same rfl)

theorem crash (steady : Steady w w') : Steady w w'.crash :=
  steady.trans ⟨rfl, fun _ => rfl, rfl, [], by simp [HoConn.crash], by simp⟩

theorem running (steady : Steady w w') (running : w'.crashed = false) : w.crashed = false := by
  by_contra crashed
  simp [steady.crashed (by simpa using crashed)] at running

theorem isSome (steady : Steady w w') : w'.ho.isSome = w.ho.isSome := by
  have := congrArg Option.isSome steady.cells
  simpa using this

theorem callLegTerm (steady : Steady w w') : Steady w w'.callLegTerm := by
  refine steady.trans ?_
  simp only [HoConn.callLegTerm]
  split
  · exact .of_same rfl
  · exact .crash (.of_same rfl)
  · exact .onHo (.of_same rfl) fun _ => rfl

theorem callAct (steady : Steady w w') (newCell : Bool) (act : CallAct) :
    Steady w (w'.callAct newCell act) := by
  unfold HoConn.callAct
  split
  · exact steady.onRtp
  · split
    · exact (steady.emit (by simp [HoAct.isMinor])).callLegTerm
    · exact steady.callLegTerm
  · exact steady.onHo fun _ => rfl
  · exact steady

theorem callActs (steady : Steady w w') (newCell : Bool) (c c' : MnccCall) :
    Steady w (w'.callActs newCell c c') := by
  unfold HoConn.callActs
  induction added c.acts c'.acts generalizing w' with
  | nil => exact steady
  | cons act acts ih => exact ih (steady.callAct newCell act)

theorem switchBack (steady : Steady w w') (oldCell : RtpPeer) :
    Steady w (w'.switchBack oldCell) := by
  have forwarding : Steady w
      { w' with ccForwarding := w'.ccForwarding.map mnccCallSetRtpStream } :=
    steady.trans (.of_same rfl)
  exact .onRtp (.onHo forwarding fun _ => rfl)

theorem rollback (steady : Steady w w') : Steady w (mscHoRtpRollbackToOldCell w') := by
  unfold mscHoRtpRollbackToOldCell
  split
  · split
    · exact steady
    · split
      · exact steady.switchBack _
      · refine .switchBack (.callActs ?_ _ _ _) _
        exact .onHo steady fun _ => rfl
      · exact steady.crash
  · exact steady

theorem giveUp (steady : Steady w w') (timer : Bool) : Steady w (w'.giveUp timer) := by
  unfold HoConn.giveUp
  split
  · exact steady
  · exact steady.emit rfl

theorem refuse (w : HoConn) (cause : HoCause) (env : HoEnv) :
    Steady w (mscHoDownRequiredReject w (.refused cause) env) := by
  rcases reject_cases with crash | ⟨same, -⟩ | told
  · rw [crash]
    exact (refl w).crash
  · rw [same]
    exact refl w
  · rw [told]
    exact (refl w).emit rfl

theorem expire (w : HoConn) : Steady w w.expire := by
  unfold HoConn.expire
  split
  · split
    · exact (refl w).onHo fun _ => rfl
    · exact refl w
  · exact refl w

theorem detachCcForwarding (steady : Steady w w') : Steady w w'.detachCcForwarding := by
  unfold HoConn.detachCcForwarding
  split
  · exact steady
  · refine .callActs ?_ _ _ _
    exact steady.trans (.of_same rfl)

theorem switch (w : HoConn) : Steady w (mscHoRtpSwitchToNewCell w) := by
  unfold mscHoRtpSwitchToNewCell
  split
  · split
    · exact refl w
    · exact .onRtp (.detachCcForwarding (.onHo (refl w) fun _ => rfl))
  · exact refl w

theorem release (w : HoConn) (env : HoEnv) : Steady w (hoReleaseCcForwarding w env) := by
  unfold hoReleaseCcForwarding
  split
  · exact refl w
  · exact ((refl w).callActs _ _ _).trans (.of_same rfl)

theorem forward {ack : RequestAck} {bearerCap : Option Nat}
    (started : (mscHoStartInterMscCallForwarding w ack bearerCap env).2 = true) :
    Steady w (mscHoStartInterMscCallForwarding w ack bearerCap env).1 := by
  unfold mscHoStartInterMscCallForwarding at started ⊢
  split
  · simp_all
  · simp_all
  · simp_all
  · refine Steady.callActs ?_ _ _ _
    split
    · exact .emit (.onHo (refl w) fun _ => rfl) rfl
    · exact .onHo (refl w) fun _ => rfl

end Steady

/-- After the end of the FSM the handover is gone, and the log says so. -/
structure HoEnded (w w' : HoConn) : Prop where
  ho : w'.ho = none
  started : w'.started = w.started
  crashed : w.crashed = true → w'.crashed = true
  acts : ∃ minor rtp, (∀ act ∈ minor, act.isMinor w.started = true) ∧
    w'.acts = w.acts ++ minor ++ [.ended w.started rtp]

theorem hoTerm_ended (env : HoEnv) (ongoing : w.ho.isSome) : HoEnded w (hoTerm w env) := by
  obtain ⟨ho, eq⟩ := Option.isSome_iff_exists.mp ongoing
  have ends {mid : HoConn} (steady : Steady w mid) (rtp : Option RtpPeer) :
      HoEnded w ({ mid with ho := none, mscT := none }.emit (.ended mid.started rtp)) := by
    obtain ⟨minor, acts, allMinor⟩ := steady.acts
    exact ⟨rfl, steady.started, steady.crashed, minor, rtp, allMinor, by
      simp [HoConn.emit, acts, steady.started]⟩
  simp only [hoTerm, eq]
  split
  · exact ends ((Steady.refl w).callActs _ _ _) _
  · exact ends (.refl w) _

theorem hoTerm_idle (env : HoEnv) (idle : w.ho = none) : hoTerm w env = w.crash := by
  simp [hoTerm, idle]

/-- Giving up rolls the stream back, sends the reject if it can, and ends the FSM, unless it crashes. -/
theorem mscHoFailed_cases {cause : HoCause} :
    ∃ mid, mid = mscHoRtpRollbackToOldCell (w.giveUp false) ∧ Steady w mid ∧
      (mscHoFailed w cause env = mid.crash ∨
        ∃ told, (told = mid ∧ env.encodesReject = false ∨
            told = mid.emit (.requiredReject mid.started cause)) ∧
          mscHoFailed w cause env = if told.crashed then told else hoTerm told env) := by
  refine ⟨_, rfl, ((Steady.refl w).giveUp false).rollback, ?_⟩
  simp only [mscHoFailed]
  generalize mscHoRtpRollbackToOldCell (w.giveUp false) = mid
  rcases reject_cases with crash | told | told
  · exact .inl (by rw [crash]; rfl)
  · exact .inr ⟨_, .inl told, rfl⟩
  · exact .inr ⟨_, .inr told, rfl⟩

theorem callLegTerm_acts (w : HoConn) : w.callLegTerm.acts = w.acts := by
  simp only [HoConn.callLegTerm]
  split <;> rfl

/-- The call of an earlier handover leaves no entry in the log. -/
theorem callActs_acts {c c' : MnccCall} : (w.callActs false c c').acts = w.acts := by
  refine List.foldlRecOn (motive := fun (w' : HoConn) => w'.acts = w.acts) _ _ rfl fun w' same act _ => ?_
  unfold HoConn.callAct
  split
  · exact same
  · rw [callLegTerm_acts]
    exact same
  · exact same
  · exact same

theorem release_acts (w : HoConn) (env : HoEnv) : (hoReleaseCcForwarding w env).acts = w.acts := by
  unfold hoReleaseCcForwarding
  split
  · rfl
  · exact callActs_acts

/-- Success hands the connection over and ends the FSM, unless it crashes. -/
theorem mscHoSuccess_cases :
    ∃ mid, Steady w mid ∧ mid.acts = w.acts ∧
      (mscHoSuccess w env = mid ∧ mid.crashed = true ∨
        ∃ remote, mid.crashed = false ∧
          mscHoSuccess w env = hoTerm (mid.emit (.takenOver mid.started remote)) env) := by
  have released := Steady.release w env
  have acts := release_acts w env
  unfold mscHoSuccess
  generalize hoReleaseCcForwarding w env = mid at released acts
  simp only
  split
  · exact ⟨mid, released, acts, .inl ⟨rfl, ‹_›⟩⟩
  · rename_i running
    have running : mid.crashed = false := by simpa using running
    split
    · exact ⟨{ mid with mscI := some (.localBss true) },
        released.trans (.of_same rfl), acts, .inr ⟨false, running, rfl⟩⟩
    · rename_i c _ _
      let taken : HoConn := { mid with
        ccForwarding := some { c with messageCb := false }
        mscI := some .remoteMsc }
      have steady : Steady w taken := released.trans (.of_same rfl)
      exact ⟨taken.onHo fun ho => { ho with newForwarding := none }, steady.onHo fun _ => rfl,
        acts, .inr ⟨true, running, rfl⟩⟩
    · exact ⟨mid.crash, released.crash, acts, .inl ⟨rfl, rfl⟩⟩

/-! ### The end of a handover -/

/-- The act is one of the two ends that a handover may have. -/
def HoAct.isOutcome (n : Nat) : HoAct → Bool
  | .takenOver m _ | .requiredReject m _ => m = n
  | _ => false

/-- A handover has exactly one end: the takeover, or one HANDOVER REQUIRED REJECT. -/
def Settled (n : Nat) (acts : List HoAct) : Prop :=
  ∃ outcome, acts.filter (HoAct.isOutcome n) = [outcome]

instance (n : Nat) (acts : List HoAct) : Decidable (Settled n acts) :=
  decidable_of_iff ((acts.filter (HoAct.isOutcome n)).length = 1) length_eq_one_iff

/-- The act belongs to the end of the handover. -/
def HoAct.closes (n : Nat) (act : HoAct) : Bool :=
  act.isOutcome n ||
    match act with
    | .ended m _ => m = n
    | _ => false

theorem HoAct.closes_of_isMinor {m : Nat} (minor : act.isMinor m = true) (n : Nat) :
    act.closes n = false := by
  cases act <;> simp_all [HoAct.isMinor, HoAct.closes, HoAct.isOutcome]

theorem isOutcome_of_closes {n : Nat} (closes : act.closes n = false) :
    act.isOutcome n = false := by
  simp only [HoAct.closes, Bool.or_eq_false_iff] at closes
  exact closes.1

theorem filter_isOutcome_eq_nil {acts : List HoAct} {n : Nat}
    (none : ∀ act ∈ acts, act.isOutcome n = false) : acts.filter (HoAct.isOutcome n) = [] :=
  filter_eq_nil_iff.mpr fun act member => by simp [none act member]

/-- Handovers that are over are settled, and the others have not begun to end; but where the program
has crashed, the one that is on may have been rejected. -/
structure Tally (w : HoConn) : Prop where
  numbered : w.ho.isSome → 1 ≤ w.started
  untouched : ∀ n, n = 0 ∨ w.started < n ∨ (n = w.started ∧ w.ho.isSome ∧ w.crashed = false) →
    ∀ act ∈ w.acts, act.closes n = false
  notEnded : w.ho.isSome → ∀ rtp, .ended w.started rtp ∉ w.acts
  settled : ∀ n, 1 ≤ n → n < w.started ∨ (n = w.started ∧ w.ho = none) → Settled n w.acts

namespace Tally

section

variable (tally : Tally w)
include tally

/-- The acts that are added do not end anything. -/
theorem extend (extra : List HoAct) (started : w'.started = w.started)
    (ho : w'.ho.isSome = w.ho.isSome) (crashed : w.crashed = true → w'.crashed = true)
    (acts : w'.acts = w.acts ++ extra) (harmless : ∀ act ∈ extra, ∀ n, act.closes n = false) :
    Tally w' := by
  constructor
  · intro ongoing
    rw [started]
    exact tally.numbered (ho ▸ ongoing)
  · intro n isOpen act member
    have wasOpen : n = 0 ∨ w.started < n ∨ (n = w.started ∧ w.ho.isSome ∧ w.crashed = false) := by
      rw [started, ho] at isOpen
      refine isOpen.imp id (.imp id fun ⟨now, ongoing, running⟩ => ⟨now, ongoing, ?_⟩)
      by_contra dead
      simp [crashed (by simpa using dead)] at running
    rw [acts] at member
    rcases mem_append.mp member with earlier | later
    · exact tally.untouched n wasOpen act earlier
    · exact harmless act later n
  · intro ongoing rtp member
    rw [acts, started] at member
    rcases mem_append.mp member with earlier | later
    · exact tally.notEnded (ho ▸ ongoing) rtp earlier
    · simpa [HoAct.closes] using harmless _ later w.started
  · intro n positive ended
    have idle : w'.ho = none ↔ w.ho = none := by
      rw [← Option.not_isSome_iff_eq_none, ho, Option.not_isSome_iff_eq_none]
    rw [started, idle] at ended
    obtain ⟨outcome, filtered⟩ := tally.settled n positive ended
    refine ⟨outcome, ?_⟩
    have noneAdded : extra.filter (HoAct.isOutcome n) = [] :=
      filter_isOutcome_eq_nil fun act member => isOutcome_of_closes (harmless act member n)
    rw [acts, filter_append, filtered, noneAdded, append_nil]

theorem steady (steady : Steady w w') : Tally w' := by
  obtain ⟨minor, acts, allMinor⟩ := steady.acts
  exact tally.extend minor steady.started steady.isSome steady.crashed acts fun act member =>
    HoAct.closes_of_isMinor (allMinor act member)

/-- An act that says something about cells. -/
theorem emit (harmless : ∀ n, act.closes n = false) : Tally (w.emit act) :=
  tally.extend [act] rfl rfl id rfl (by simpa using harmless)

/-- The program has crashed, and yet the handover that is on is rejected. -/
theorem rejected (crashed : w.crashed = true) (ongoing : w.ho.isSome) (cause : HoCause) :
    Tally (w.emit (.requiredReject w.started cause)) := by
  have positive := tally.numbered ongoing
  have log : (w.emit (.requiredReject w.started cause)).acts =
      w.acts ++ [.requiredReject w.started cause] := rfl
  constructor
  · exact tally.numbered
  · intro n isOpen act member
    have notNow : n = 0 ∨ w.started < n := by
      rcases isOpen with zero | above | ⟨-, -, running⟩
      · exact .inl zero
      · exact .inr above
      · exact absurd (crashed.symm.trans running) (by simp)
    rw [log] at member
    rcases mem_append.mp member with earlier | new
    · exact tally.untouched n (notNow.imp id .inl) act earlier
    · have other : w.started ≠ n := by omega
      simp [mem_singleton.mp new, HoAct.closes, HoAct.isOutcome, other]
  · intro _ rtp member
    exact tally.notEnded ongoing rtp (by simpa [HoConn.emit] using member)
  · intro n atLeast ended
    have earlier : n < w.started := by
      rcases ended with below | ⟨-, gone⟩
      · exact below
      · have gone : w.ho = none := gone
        simp [gone] at ongoing
    obtain ⟨outcome, filtered⟩ := tally.settled n atLeast (.inl earlier)
    exact ⟨outcome, by simp [log, filter_append, filtered, HoAct.isOutcome, earlier.ne']⟩

/-- An outcome, and then the end of the FSM. -/
theorem settle {mid : HoConn} {outcome : HoAct} (steady : Steady w mid) (ongoing : w.ho.isSome)
    (running : mid.crashed = false) (env : HoEnv)
    (closes : ∀ n, outcome.closes n = decide (n = mid.started))
    (counts : outcome.isOutcome mid.started = true) : Tally (hoTerm (mid.emit outcome) env) := by
  have midTally := tally.steady steady
  have present : mid.ho.isSome := steady.isSome ▸ ongoing
  have positive := midTally.numbered present
  obtain ⟨gone, started, -, minor, rtp, allMinor, log⟩ :=
    hoTerm_ended (w := mid.emit outcome) env present
  have closesMinor (n : Nat) : ∀ act ∈ minor, act.closes n = false := fun act member =>
    HoAct.closes_of_isMinor (allMinor act member) n
  have log : (hoTerm (mid.emit outcome) env).acts =
      mid.acts ++ outcome :: (minor ++ [.ended mid.started rtp]) := by
    rw [log]
    simp [HoConn.emit]
  have started : (hoTerm (mid.emit outcome) env).started = mid.started := started
  refine ⟨by simp [gone], ?_, by simp [gone], ?_⟩
  · intro n isOpen act member
    have notNow : n ≠ mid.started ∧ (n = 0 ∨ mid.started < n) := by
      simp only [gone, started, Option.isSome_none, Bool.false_eq_true, false_and, and_false,
        or_false] at isOpen
      omega
    rw [log] at member
    simp only [mem_append, mem_cons, not_mem_nil, or_false] at member
    rcases member with earlier | rfl | inMinor | rfl
    · exact midTally.untouched n (by tauto) act earlier
    · simp [closes, notNow.1]
    · exact closesMinor n act inMinor
    · simp [HoAct.closes, HoAct.isOutcome, Ne.symm notNow.1]
  · intro n atLeast ended
    have noneAdded :
        (minor ++ [HoAct.ended mid.started rtp]).filter (HoAct.isOutcome n) = [] := by
      refine filter_isOutcome_eq_nil fun act member => ?_
      rcases mem_append.mp member with inMinor | last
      · exact isOutcome_of_closes (closesMinor n act inMinor)
      · simp [mem_singleton.mp last, HoAct.isOutcome]
    rw [log]
    by_cases now : n = mid.started
    · subst now
      have before : mid.acts.filter (HoAct.isOutcome mid.started) = [] :=
        filter_isOutcome_eq_nil fun act member =>
          isOutcome_of_closes (midTally.untouched _ (.inr (.inr ⟨rfl, present, running⟩)) act member)
      exact ⟨outcome, by
        rw [filter_append, before, filter_cons_of_pos counts, noneAdded, nil_append]⟩
    · have earlier : n < mid.started := by
        simp only [gone, started, and_true] at ended
        omega
      have other : outcome.isOutcome n = false :=
        isOutcome_of_closes (by simp [closes, now])
      obtain ⟨settled, filtered⟩ := midTally.settled n atLeast (.inl earlier)
      exact ⟨settled, by
        rw [filter_append, filtered, filter_cons_of_neg (by simp [other]),
          noneAdded, append_nil]⟩

theorem fail (encodes : env.encodesReject = true) (ongoing : w.ho.isSome) (cause : HoCause) :
    Tally (mscHoFailed w cause env) := by
  obtain ⟨mid, -, steady, crash | ⟨told, reject, eq⟩⟩ := mscHoFailed_cases
  · rw [crash]
    exact tally.steady steady.crash
  · rcases reject with ⟨-, fails⟩ | rfl
    · simp [encodes] at fails
    · rw [eq]
      split
      · rename_i crashed
        exact (tally.steady steady).rejected crashed (steady.isSome ▸ ongoing) cause
      · rename_i running
        have running : mid.crashed = false := Bool.eq_false_of_not_eq_true running
        refine tally.settle steady ongoing running env (fun n => ?_) (by simp [HoAct.isOutcome])
        simp [HoAct.closes, HoAct.isOutcome, eq_comm]

theorem success (ongoing : w.ho.isSome) (env : HoEnv) : Tally (mscHoSuccess w env) := by
  obtain ⟨mid, steady, -, ⟨eq, -⟩ | ⟨remote, running, eq⟩⟩ := mscHoSuccess_cases
  · exact eq ▸ tally.steady steady
  · rw [eq]
    refine tally.settle steady ongoing running env (fun n => ?_) (by simp [HoAct.isOutcome])
    simp [HoAct.closes, HoAct.isOutcome, eq_comm]

theorem begin (idle : w.ho = none) (cil : List Nat) : Tally (w.begin cil) := by
  have log : (w.begin cil).acts = w.acts ++ [.started (w.started + 1) cil w.peer] := rfl
  constructor
  · exact fun _ => Nat.le_add_left 1 w.started
  · intro n isOpen act member
    rw [log] at member
    rcases mem_append.mp member with earlier | new
    · refine tally.untouched n ?_ act earlier
      rcases isOpen with zero | above | ⟨now, -⟩
      · exact .inl zero
      · exact .inr (.inl (Nat.lt_of_succ_lt above))
      · exact .inr (.inl (now ▸ Nat.lt_succ_self _))
    · simp [mem_singleton.mp new, HoAct.closes, HoAct.isOutcome]
  · intro _ rtp member
    have started : (w.begin cil).started = w.started + 1 := rfl
    have earlier : .ended (w.started + 1) rtp ∈ w.acts := by simpa [log, started] using member
    simpa [HoAct.closes] using tally.untouched _ (.inr (.inl (Nat.lt_succ_self _))) _ earlier
  · intro n positive ended
    have earlier : n < w.started ∨ (n = w.started ∧ w.ho = none) := by
      rcases ended with below | ⟨-, gone⟩
      · rcases Nat.lt_succ_iff_lt_or_eq.mp below with less | same
        · exact .inl less
        · exact .inr ⟨same, idle⟩
      · simp [HoConn.begin, HoConn.stateChg, HoConn.onHo, HoConn.emit] at gone
    obtain ⟨outcome, filtered⟩ := tally.settled n positive earlier
    exact ⟨outcome, by simp [log, filter_append, filtered, HoAct.isOutcome]⟩

theorem scan (scan : HoScan env w w') : Tally w' := by
  cases scan with
  | visit ho cid cells ongoing searching left =>
      refine emit (w := w.onHo _) ?_ fun n => rfl
      refine tally.extend [] rfl ?_ id ?_ (by simp)
      · simp [HoConn.onHo]
      · simp [HoConn.onHo]
  | change f harmless => exact tally.steady (.onHo (.refl w) harmless.cells)

theorem forwardingAct (encodes : env.encodesReject = true) (act : CallAct) :
    Tally (forwardingAct env w act) := by
  unfold Msc.forwardingAct
  split
  · have noted : Tally (w.emit (.forwardingEnded w.started)) := tally.emit fun _ => rfl
    simp only
    split
    · rename_i accepts
      exact noted.fail encodes (isSome_of_accepts accepts) _
    · exact noted
  · exact tally.steady ((Steady.refl w).callAct _ _)

theorem mncc (encodes : env.encodesReject = true) (rx : RxInput) : Tally (hoMnccRx w rx env) := by
  unfold hoMnccRx
  split
  · rename_i c _
    refine List.foldlRecOn _ _ ?_ fun w tally act _ => tally.forwardingAct encodes act
    exact tally.steady (.onHo (.refl w) fun _ => rfl)
  · exact tally

/-- Every move keeps the tally, but for the expiry of the timer and a second failure. -/
theorem move (encodes : env.encodesReject = true) (move : HoMove env false false w w') :
    Tally w' := by
  cases move with
  | scan moves => exact tally.scan moves
  | expire => exact tally.steady (.expire w)
  | refuse cause => exact tally.steady (.refuse w cause env)
  | start cil idle => exact tally.begin idle cil
  | setMscT _ | mscIGone => exact tally.steady (.of_same rfl)
  | request _ _ _ _ | command | succeeded => exact tally.emit fun _ => rfl
  | retry w' ho cause ongoing searching scanned =>
      have trying : Tally (w.tryingNext (ho.cil.drop ho.nextCilIdx) env) :=
        (tally.emit fun _ => rfl).steady (.onHo (.refl _) fun _ => rfl)
      have scanned : Tally w' ∧ w'.ho.isSome := by
        induction scanned with
        | refl =>
            refine ⟨trying, ?_⟩
            simp [HoConn.tryingNext, HoConn.stateChg, HoConn.onHo, HoConn.emit, ongoing]
        | tail _ scan ih => exact ⟨ih.1.scan scan, scan.isSome ▸ ih.2⟩
      exact scanned.1.fail encodes scanned.2 cause
  | fail cause once => exact tally.fail encodes (once rfl) cause
  | success ongoing => exact tally.success ongoing env
  | backup rtps waiting stream => exact tally.steady (.onHo (.refl w) fun _ => rfl)
  | forward ack bearerCap running waiting remote started =>
      exact tally.steady (.onHo (.forward started) fun _ => rfl)
  | switch waiting toLocal => exact tally.steady (.switch w)
  | timeout expired running ongoing => simp at expired
  | callLegTerm => exact tally.steady (Steady.refl w).callLegTerm
  | mncc rx running => exact tally.mncc encodes rx

end

end Tally

/-- A connection on which no handover has been asked for yet. -/
structure HoConn.Fresh (w : HoConn) : Prop where
  ho : w.ho = none
  mscT : w.mscT = none
  started : w.started = 0
  crashed : w.crashed = false
  acts : w.acts = []

instance (w : HoConn) : Decidable w.Fresh :=
  decidable_of_iff (w.ho = none ∧ w.mscT = none ∧ w.started = 0 ∧ w.crashed = false ∧ w.acts = [])
    ⟨fun ⟨ho, mscT, started, crashed, acts⟩ => ⟨ho, mscT, started, crashed, acts⟩,
      fun ⟨ho, mscT, started, crashed, acts⟩ => ⟨ho, mscT, started, crashed, acts⟩⟩

theorem HoConn.Fresh.tally (fresh : w.Fresh) : Tally w := by
  refine ⟨by simp [fresh.ho], by simp [fresh.acts], by simp [fresh.acts], ?_⟩
  intro n positive ended
  rw [fresh.started] at ended
  omega

/-- The timer does not expire while a handover is on, HANDOVER REQUIRED REJECT can be encoded, and no
handover is given up twice. -/
def HoOk (w : HoConn) (input : HoInput) : Prop :=
  (input.isTimeout = true → w.ho = none) ∧ input.env.encodesReject = true ∧
    w.failsTwice input = false

instance HoOk.decidable (w : HoConn) (input : HoInput) : Decidable (HoOk w input) :=
  inferInstanceAs (Decidable (_ ∧ _ ∧ _))

theorem expire_of_idle (idle : w.ho = none) : w.expire = w := by
  simp [HoConn.expire, idle]

theorem hoStep_tally {input : HoInput} (tally : Tally w) (ok : HoOk w input) :
    Tally (hoStep w input) := by
  obtain ⟨notNow, encodes, once⟩ := ok
  cases timer : input.isTimeout with
  | true =>
      have idle := notNow timer
      cases input <;> simp [HoInput.isTimeout] at timer
      simpa [hoStep, hoEvent, expire_of_idle idle, idle] using tally
  | false =>
      have reach := hoStep_reach w input
      rw [timer, once] at reach
      exact reach.invariant tally fun _ _ tally move => tally.move encodes move

/-- Every handover that has ended was either taken over by a new MSC-I, or rejected exactly once. -/
theorem hoRun_settled (w : HoConn) (inputs : List HoInput) (fresh : w.Fresh)
    (ok : StepsMeet hoStep HoOk w inputs) (n : Nat) (rtp : Option RtpPeer)
    (ended : .ended n rtp ∈ (inputs.foldl hoStep w).acts) :
    Settled n (inputs.foldl hoStep w).acts := by
  have tally := foldl_invariant (fun _ _ tally => hoStep_tally tally) inputs w fresh.tally ok
  have notOpen (isOpen : n = 0 ∨ (inputs.foldl hoStep w).started < n) : False := by
    have touched : (HoAct.ended n rtp).closes n = true := by simp [HoAct.closes]
    have := tally.untouched n (isOpen.imp id .inl) _ ended
    simp [touched] at this
  refine tally.settled n ?_ ?_
  · by_contra zero
    exact notOpen (.inl (by omega))
  · rcases Nat.lt_trichotomy n (inputs.foldl hoStep w).started with below | rfl | above
    · exact .inl below
    · refine .inr ⟨rfl, ?_⟩
      by_contra present
      exact tally.notEnded (Option.isSome_iff_ne_none.mpr present) rtp ended
    · exact (notOpen (.inr above)).elim

/-- A connection with a call from a local BSS. -/
def talking : HoConn where
  mscI := some (.localBss true)
  rtpToRan := some
    { state := .established, remote := { ip := 1, port := 16 }, codecsKnown := true, ci := true,
      codecs := [{ payloadType := 3, subtypeName := ['G', 'S', 'M'] }] }

/-- All cells belong to a local BSS, or all to a remote MSC. -/
def allCells (target : Neighbor) : HoEnv := { resolve := fun _ => some target }

def ackLocal : RequestAck where
  remoteRtp := { ip := 2, port := 18 }
  codec := some (some { payloadType := 112, subtypeName := ['A', 'M', 'R'] })

theorem hoRun_settled_twice :
    let inputs : List HoInput :=
      [.handoverRequired [7] (allCells .localRanPeer), .target .handoverRequestAck ackLocal none {},
       .target .handoverFailure {} none {}, .handoverRequired [7] (allCells .localRanPeer),
       .target .handoverRequestAck ackLocal none {}, .target .handoverComplete {} none {}]
    Settled 1 (inputs.foldl hoStep talking).acts ∧ Settled 2 (inputs.foldl hoStep talking).acts :=
  ⟨hoRun_settled talking _ (by decide) (by decide) 1 talking.peer (by decide),
    hoRun_settled talking _ (by decide) (by decide) 2 talking.peer (by decide)⟩

/-- The timer expires while the target has not answered: the handover is over, and the MSC-I is told
neither that it succeeded nor that it did not. -/
theorem timeout_unanswered :
    let acts := ([.handoverRequired [7] (allCells .localRanPeer), .timeout {}].foldl
      hoStep talking).acts
    .ended 1 talking.peer ∈ acts ∧ acts.filter (HoAct.isOutcome 1) = [] := by
  decide

end OsmoMsc.Msc
