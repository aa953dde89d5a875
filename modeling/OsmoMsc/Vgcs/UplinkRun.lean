/-
Module: OsmoMsc.Vgcs.UplinkRun
Purpose: The uplink of a group call over whole runs.  A BSS holds the uplink from the moment it is
  acknowledged until it releases it or is cleared.  The other BSSs hear of a grant and of a release
  exactly when there are no other BSSs; and at most one BSS holds the uplink in every run in which
  nothing on the calling subscriber's initial channel disturbs a grant.
Trusted boundary: none
Main exports: holdsUplink, OneTalker, UplinkAnnounced, vgcsRun_uplinkAnnounced_iff,
  UndisturbedGrant, vgcsRun_oneTalker, vgcsRun_talker
-/
import OsmoMsc.Library.Run
import OsmoMsc.Vgcs.Call

namespace OsmoMsc.Vgcs

open Library List

/-! ### Who holds the uplink -/

/-- What one act means for a BSS that holds the uplink, or not. -/
def holdStep (bss : Nat) (held : Bool) : VgcsAct → Bool
  | .uplinkRequestAck b => if b = bss then true else held
  | .uplinkReleased b | .cleared b => if b = bss then false else held
  | _ => held

/-- The BSS was granted the uplink and has neither released it nor been cleared since. -/
def holdsUplink (log : List VgcsAct) (bss : Nat) : Bool :=
  log.foldl (holdStep bss) false

@[simp] theorem holdsUplink_append (log acts : List VgcsAct) (bss : Nat) :
    holdsUplink (log ++ acts) bss = acts.foldl (holdStep bss) (holdsUplink log bss) :=
  foldl_append

/-- The act is neither a grant nor a BSS's release of the uplink. -/
def VgcsAct.isQuiet : VgcsAct → Bool
  | .uplinkRequestAck _ | .uplinkReleased _ => false
  | _ => true

variable {bss : Nat} {acts : List VgcsAct}

/-- A BSS that does not let go still holds. -/
theorem foldl_holdStep_of_kept (notReleased : .uplinkReleased bss ∉ acts)
    (notCleared : .cleared bss ∉ acts) : acts.foldl (holdStep bss) true = true := by
  refine foldlRecOn (motive := (· = true)) acts (holdStep bss) rfl fun held kept act member => ?_
  subst kept
  cases act with
  | uplinkReleased b =>
      have : b ≠ bss := fun same => notReleased (same ▸ member)
      simp [holdStep, this]
  | cleared b =>
      have : b ≠ bss := fun same => notCleared (same ▸ member)
      simp [holdStep, this]
  | _ => simp [holdStep]

/-- Quiet acts give the uplink to nobody. -/
theorem foldl_holdStep_of_quiet (quiet : ∀ act ∈ acts, act.isQuiet = true) :
    acts.foldl (holdStep bss) false = false := by
  refine foldlRecOn (motive := (· = false)) acts (holdStep bss) rfl fun held free act member => ?_
  have isQuiet := quiet act member
  subst free
  cases act with
  | uplinkRequestAck b => simp [VgcsAct.isQuiet] at isQuiet
  | _ => simp [holdStep]

theorem held_of_quiet {log acts : List VgcsAct} (quiet : ∀ act ∈ acts, act.isQuiet = true)
    (held : holdsUplink (log ++ acts) bss = true) : holdsUplink log bss = true := by
  by_contra free
  rw [holdsUplink_append, Bool.eq_false_iff.mpr free, foldl_holdStep_of_quiet quiet] at held
  exact Bool.false_ne_true held

/-- Between two acknowledgements the BSS granted first has released the uplink or was cleared. -/
def OneTalker (log : List VgcsAct) : Prop :=
  ∀ before bss between bss' after,
    log = before ++ .uplinkRequestAck bss :: between ++ .uplinkRequestAck bss' :: after →
      .uplinkReleased bss ∈ between ∨ .cleared bss ∈ between

/-- An acknowledgement is allowed when nobody holds the uplink. -/
def AckAllowed (before : List VgcsAct) (act : VgcsAct) : Prop :=
  ∀ bss', act = .uplinkRequestAck bss' → ∀ bss, holdsUplink before bss = false

theorem oneTalker_of_guarded {log : List VgcsAct} (guarded : Guarded AckAllowed log) :
    OneTalker log := by
  intro before bss between bss' after split
  by_contra kept
  rw [not_or] at kept
  have free := guarded _ _ after split bss' rfl bss
  simp [holdStep, foldl_holdStep_of_kept kept.1 kept.2] at free

/-! ### Functions that do not touch the uplink -/

/-- The log grows by quiet acts only. -/
def Quiet (s s' : VgcsCall) : Prop :=
  ∃ acts, s'.log = s.log ++ acts ∧ ∀ act ∈ acts, act.isQuiet = true

/-- The state has a talker only as the uplink's owner. -/
def Talker (s : VgcsCall) : Prop :=
  ∀ bss, holdsUplink s.log bss = true → s.uplinkBusy = true ∧ s.uplinkBss = some bss

/-- The move is quiet and, under a condition, whoever holds the uplink after it owned it before and still
does.  A tame move asks for no condition. -/
structure Move (own : Prop) (s s' : VgcsCall) : Prop where
  quiet : Quiet s s'
  talker : own → Talker s → Talker s'

/-- The BSS that `gcc_assign()` takes for the caller's. -/
def callerBss (s : VgcsCall) : Option Nat :=
  s.mscA.bind fun (peer, _) => (s.bssList.find? fun b => b.peer = peer).map VgcsBss.id

variable {s : VgcsCall} {ranDownOk : Bool} {e : BssEvent} {cell : Option Nat} {act : VgcsAct}

section Moves

variable {s' s'' : VgcsCall} {own : Prop}

theorem Quiet.refl (s : VgcsCall) : Quiet s s := ⟨[], by simp, by simp⟩

theorem Quiet.trans (first : Quiet s s') (second : Quiet s' s'') : Quiet s s'' := by
  obtain ⟨acts, log, quiet⟩ := first
  obtain ⟨acts', log', quiet'⟩ := second
  refine ⟨acts ++ acts', by simp [log', log], ?_⟩
  intro act member
  rcases mem_append.mp member with old | new
  · exact quiet act old
  · exact quiet' act new

/-- Nobody holds the uplink after a quiet move if nobody held it before. -/
theorem Quiet.talker (quiet : Quiet s s') (nobody : ∀ bss, holdsUplink s.log bss = false) : Talker s' := by
  obtain ⟨acts, log, allQuiet⟩ := quiet
  intro bss held
  rw [log] at held
  simpa [nobody bss] using held_of_quiet allQuiet held

theorem Move.trans (first : Move own s s') (second : Move own s' s'') : Move own s s'' :=
  ⟨first.quiet.trans second.quiet, fun holds talker => second.talker holds (first.talker holds talker)⟩

theorem Move.mono {own' : Prop} (move : Move own s s') (weaker : own' → own) : Move own' s s' :=
  ⟨move.quiet, fun holds => move.talker (weaker holds)⟩

/-- A move that changes neither the log nor the owner of the uplink. -/
theorem tame_of_eq (same : (s'.log, s'.uplinkBusy, s'.uplinkBss) = (s.log, s.uplinkBusy, s.uplinkBss)) :
    Move own s s' := by
  simp only [Prod.mk.injEq] at same
  obtain ⟨log, busy, owner⟩ := same
  refine ⟨⟨[], by simp [log], by simp⟩, ?_⟩
  intro _ talker bss held
  rw [log] at held
  rw [busy, owner]
  exact talker bss held

theorem tame_emit (s : VgcsCall) (act : VgcsAct)
    (silent : (act matches .uplinkRequestAck _ | .uplinkReleased _ | .cleared _) = false) :
    Move own s (s.emit act) := by
  have unchanged : ∀ bss held, holdStep bss held act = held := by
    intro bss held
    cases act with
    | uplinkRequestAck | uplinkReleased | cleared => simp at silent
    | _ => rfl
  refine ⟨⟨[act], rfl, ?_⟩, ?_⟩
  · cases act with
    | uplinkRequestAck | uplinkReleased | cleared => simp at silent
    | _ => simp [VgcsAct.isQuiet]
  · intro _ talker bss held
    exact talker bss (by simpa [VgcsCall.emit, unchanged] using held)

theorem tame_emitToTalker
    (silent : (act matches .uplinkRequestAck _ | .uplinkReleased _ | .cleared _) = false) :
    Move own s (s.emitToTalker act) := by
  unfold VgcsCall.emitToTalker
  split
  · exact tame_emit s act silent
  · exact tame_of_eq rfl

/-- A BSS that leaves the call no longer holds the uplink, and the others are not affected. -/
theorem tame_bssDetach (s : VgcsCall) (bss : Nat) : Move own s (bssDetach s bss) := by
  refine ⟨⟨[.cleared bss], rfl, by simp [VgcsAct.isQuiet]⟩, ?_⟩
  intro _ talker b held
  by_cases same : bss = b
  · simp [bssDetach, VgcsCall.emit, holdStep, same] at held
  · have before := talker b (by simpa [bssDetach, VgcsCall.emit, holdStep, same] using held)
    refine ⟨before.1, ?_⟩
    have other : b ≠ bss := fun eq => same eq.symm
    simp [bssDetach, VgcsCall.emit, before.2, other]

theorem tame_foldl_bssDetach (ids : List Nat) (s : VgcsCall) : Move own s (ids.foldl bssDetach s) := by
  induction ids generalizing s with
  | nil => exact tame_of_eq rfl
  | cons id ids ih => exact (tame_bssDetach s id).trans (ih (bssDetach s id))

theorem tame_startInactivityTimer : Move own s s.startInactivityTimer := by
  unfold VgcsCall.startInactivityTimer
  split <;> exact tame_of_eq rfl

theorem tame_startTimerIfFree : Move own s s.startTimerIfFree := by
  unfold VgcsCall.startTimerIfFree
  split
  · exact tame_startInactivityTimer
  · exact tame_of_eq rfl

theorem tame_gccTransFree (s : VgcsCall) : Move own s (gccTransFree s) := by
  refine (tame_foldl_bssDetach (s.bssList.map VgcsBss.id) s).trans ?_
  refine Move.trans ?_ (tame_emit _ .freed rfl)
  exact tame_of_eq rfl

theorem tame_gccTerminateAndDestroy : Move own s (gccTerminateAndDestroy s) :=
  (tame_emitToTalker rfl).trans (tame_gccTransFree _)

theorem tame_setUplinkCell {bss : VgcsBss} : Move own s (setUplinkCell s bss cell) := by
  cases cell with
  | none | some _ => exact tame_of_eq rfl

theorem tame_setTalkerCell : Move own s (setTalkerCell s cell) := by
  unfold setTalkerCell
  split
  · exact tame_setUplinkCell.trans (tame_emit _ .mgwConference rfl)
  · exact tame_of_eq rfl

theorem tame_assignComplete {sendConnect : Bool} : Move own s (assignComplete s sendConnect) := by
  have active : Move own s { s with fi := { s.fi with state := .n2CallActive }, mscA := none } :=
    tame_of_eq rfl
  unfold assignComplete
  refine Move.trans ?_ tame_setTalkerCell
  refine Move.trans ?_ tame_startTimerIfFree
  refine Move.trans ?_ (tame_emitToTalker rfl)
  split
  · exact active.trans (tame_emitToTalker rfl)
  · exact active

/-- Every BSS that holds the uplink is the one the caller would be assigned to. -/
def OwnBss (s : VgcsCall) : Prop :=
  ∀ bss, holdsUplink s.log bss = true → ∀ caller, callerBss s = some caller → caller = bss

/-- The assignment makes the caller's BSS the owner of the uplink. -/
theorem move_gccAssign : Move (OwnBss s) s (gccAssign s ranDownOk).2 := by
  unfold gccAssign
  split
  · exact tame_of_eq rfl
  · rename_i peer _ onChannel
    split
    · exact tame_of_eq rfl
    · rename_i bss found
      split
      · refine ⟨⟨[.assignmentCommand], rfl, by simp [VgcsAct.isQuiet]⟩, ?_⟩
        intro own talker b held
        have heldBefore : holdsUplink s.log b = true := by
          simpa [VgcsCall.emit, holdStep] using held
        have caller : callerBss s = some bss.id := by simp [callerBss, onChannel, found]
        refine ⟨(talker b heldBefore).1, ?_⟩
        rw [own b heldBefore bss.id caller]
      · exact tame_of_eq rfl

theorem move_vgcsGccAction {state : GccState} {e : GccEvent} :
    Move (e = .bssEstablished → OwnBss s) s (vgcsGccAction s ranDownOk state e) := by
  unfold vgcsGccAction
  split
  · refine Move.trans ?_ tame_startTimerIfFree
    exact tame_of_eq rfl
  iterate 2
    · have assigned : Move (GccEvent.bssEstablished = .bssEstablished → OwnBss s) s
          (gccAssign s ranDownOk).2 := move_gccAssign.mono fun own => own rfl
      unfold gccAssignOrDestroy
      dsimp only
      split
      · exact assigned
      · exact assigned.trans tame_gccTerminateAndDestroy
  · exact tame_assignComplete
  · exact tame_assignComplete
  · split
    · exact tame_gccTerminateAndDestroy
    · exact tame_emitToTalker rfl
  · exact tame_gccTerminateAndDestroy

theorem move_vgcsGccDispatch {e : GccEvent} :
    Move (e = .bssEstablished → OwnBss s) s (vgcsGccDispatch s ranDownOk e) := by
  unfold vgcsGccDispatch
  split
  · exact move_vgcsGccAction
  · exact tame_of_eq rfl

theorem tame_vgcsGccDispatch (s : VgcsCall) (ranDownOk : Bool) {e : GccEvent}
    (other : e ≠ .bssEstablished) : Move own s (vgcsGccDispatch s ranDownOk e) :=
  move_vgcsGccDispatch.mono fun _ established => absurd established other

theorem tame_bssClear : Move own s (bssClear s bss) := by
  unfold bssClear
  dsimp only
  split
  · exact (tame_bssDetach s bss).trans (tame_vgcsGccDispatch _ true (by simp))
  · exact tame_bssDetach s bss

/-! ### The BSS processes -/

theorem tame_updateUplinkState {uplinkBusy : Bool} :
    Move own s (updateUplinkState s bss uplinkBusy) := by
  cases uplinkBusy with
  | true => exact tame_emit s (.uplinkSeizedCmd bss) rfl
  | false => exact tame_emit s (.uplinkReleaseCmd bss) rfl

theorem tame_vgcsBssFsmSetup {bss : VgcsBss} : Move own s (vgcsBssFsmSetup s bss e) := by
  cases e with
  | setupAck cellsLeft =>
      have told : Move own s ((updateUplinkState s bss.id s.uplinkBusy).bssStateChg bss.id
          .assignment) :=
        tame_updateUplinkState.trans (tame_of_eq rfl)
      simp only [vgcsBssFsmSetup]
      split
      · exact told
      · exact told.trans tame_bssClear
  | setupRefuse | close => exact tame_bssClear
  | _ => exact tame_of_eq rfl

theorem callerBss_bssStateChg (s : VgcsCall) (bss : Nat) (new : BssState) :
    callerBss (s.bssStateChg bss new) = callerBss s := by
  have sameBss : ∀ b : VgcsBss,
      (if b.id = bss then { b with state := new } else b).peer = b.peer ∧
        (if b.id = bss then { b with state := new } else b).id = b.id := by
    intro b
    split <;> exact ⟨rfl, rfl⟩
  simp only [callerBss, VgcsCall.bssStateChg, find?_map, Option.map_map, Function.comp_def, sameBss]

theorem move_vgcsBssFsmAssignment {bss : VgcsBss} :
    Move (e = .activeOrFail .allAssigned → OwnBss s) s (vgcsBssFsmAssignment s ranDownOk bss e) := by
  unfold vgcsBssFsmAssignment
  split
  iterate 2 exact tame_bssClear
  · refine Move.trans (tame_of_eq rfl : Move _ s (s.bssStateChg bss.id .active)) (move_vgcsGccDispatch.mono
      fun own _ b held caller isCaller => ?_)
    rw [callerBss_bssStateChg] at isCaller
    exact own rfl b held caller isCaller
  · exact tame_of_eq rfl

/-- The events of an active BSS that neither ask for the uplink nor release it. -/
theorem tame_vgcsBssFsmActive {bss : VgcsBss} (noRequest : e ≠ .ulRequest)
    (noRelease : e ≠ .ulRelease) : Move own s (vgcsBssFsmActive s bss e) := by
  cases e with
  | ulRequest => exact absurd rfl noRequest
  | ulRelease => exact absurd rfl noRelease
  | ulRequestCnf originator cell =>
      simp only [vgcsBssFsmActive]
      split
      · exact tame_of_eq rfl
      · refine Move.trans ?_ (tame_emit _ .mgwConference rfl)
        refine Move.trans ?_ tame_setUplinkCell
        refine Move.trans ?_ (tame_emitToTalker rfl)
        split <;> exact tame_of_eq rfl
  | bssDtap terminationRequest =>
      simp only [vgcsBssFsmActive]
      split
      · exact tame_vgcsGccDispatch s true (by simp)
      · exact tame_of_eq rfl
  | close => exact tame_bssClear
  | _ => exact tame_of_eq rfl

theorem move_vgcsBssDispatch (s : VgcsCall) (ranDownOk : Bool) (id : Nat)
    (noRequest : e ≠ .ulRequest) (noRelease : e ≠ .ulRelease) :
    Move (e = .activeOrFail .allAssigned → OwnBss s) s (vgcsBssDispatch s ranDownOk id e) := by
  unfold vgcsBssDispatch
  split
  · exact tame_of_eq rfl
  · rename_i bss _
    split
    · split
      · exact tame_vgcsBssFsmSetup
      · exact move_vgcsBssFsmAssignment
      · exact tame_vgcsBssFsmActive noRequest noRelease
    · exact tame_of_eq rfl

end Moves

/-! ### Grants, releases and the messages they cause -/

section Uplink

variable (s : VgcsCall) (bss : Nat)

/-- The loops over BSSs send one message per round. -/
theorem foldl_updateUplinkState {ι : Type} (rounds : List ι) (target : ι → Nat) (s : VgcsCall) :
    rounds.foldl (fun s i => updateUplinkState s (target i) s.uplinkBusy) s =
      { s with log := s.log ++ rounds.map fun i => uplinkStateCmd (target i) s.uplinkBusy } := by
  induction rounds generalizing s with
  | nil => simp
  | cons i rounds ih =>
      rw [foldl_cons, ih]
      simp [updateUplinkState, VgcsCall.emit]

/-- The other BSSs of the call. -/
def others : List VgcsBss := s.bssList.filter fun other => other.id ≠ bss

theorem grantUplink_eq : grantUplink s bss =
    { s with
      uplinkBss := some bss, uplinkBusy := true, uplinkOriginator := false
      timerInactivity := false
      log := s.log ++ .uplinkRequestAck bss ::
        (others s bss).map fun _ => VgcsAct.uplinkSeizedCmd bss } := by
  simp [grantUplink, foldl_updateUplinkState, VgcsCall.emit, VgcsCall.stopInactivityTimer, others,
    uplinkStateCmd]

theorem freeUplink_log : (freeUplink s bss).log =
    s.log ++ ((others s bss).map fun _ => VgcsAct.uplinkReleaseCmd bss) ++ [.mgwConference] := by
  simp only [freeUplink, foldl_updateUplinkState, VgcsCall.emit, VgcsCall.startInactivityTimer]
  split <;> simp [others, uplinkStateCmd]

theorem gsm44068RcvRr_log (stray : StrayTimer) : (gsm44068RcvRr s stray).log =
    s.log ++ s.bssList.map fun b => VgcsAct.uplinkReleaseCmd b.id := by
  cases stray <;> simp [gsm44068RcvRr, foldl_map, foldl_updateUplinkState, uplinkStateCmd]

/-- The BSS belongs to the call and its channels are active. -/
def activeBss : Bool :=
  (s.bssList.find? fun b => b.id = bss).any fun b => b.state = .active

/-- The case `VGCS_BSS_EV_UL_RELEASE` of `vgcs_bss_fsm_active()`. -/
def ulReleaseOf : VgcsCall :=
  let released := s.emit (.uplinkReleased bss)
  if s.type = .bcc then gccTerminateAndDestroy released
  else if !s.uplinkBusy then released
  else if s.uplinkBss ≠ some bss then released
  else freeUplink released bss

theorem vgcsBssDispatch_uplink (ranDownOk : Bool) :
    (vgcsBssDispatch s ranDownOk bss .ulRequest =
      if activeBss s bss then
        if s.uplinkBusy then s.emit (.uplinkRejectCmd bss) else grantUplink s bss
      else s) ∧
    vgcsBssDispatch s ranDownOk bss .ulRelease = if activeBss s bss then ulReleaseOf s bss else s := by
  unfold vgcsBssDispatch activeBss
  split
  · rename_i absent
    simp [absent]
  · rename_i found isFound
    have same : found.id = bss := by simpa using find?_some isFound
    cases state : found.state <;>
      simp [isFound, state, vgcsBssInEvent, vgcsBssFsmActive, same, ulReleaseOf, VgcsCall.emit]

/-- After the report of a release only the releasing BSS is told that the uplink is free. -/
theorem ulReleaseOf_log : ∃ rest, (ulReleaseOf s bss).log = s.log ++ .uplinkReleased bss :: rest ∧
    (∀ act ∈ rest, act.isQuiet = true) ∧
    (s.type = .gcc → ∀ act ∈ rest, act = .uplinkReleaseCmd bss ∨ act = .mgwConference) := by
  unfold ulReleaseOf
  split
  · rename_i isBcc
    obtain ⟨rest, log, quiet⟩ :=
      (tame_gccTerminateAndDestroy : Move True _ _).quiet
    exact ⟨rest, log.trans (append_cons _ _ _).symm, quiet, by simp [isBcc]⟩
  · split
    · exact ⟨[], rfl, by simp, by simp⟩
    · split
      · exact ⟨[], rfl, by simp, by simp⟩
      · refine ⟨((others s bss).map fun _ => VgcsAct.uplinkReleaseCmd bss) ++ [.mgwConference],
          ?_, ?_, ?_⟩
        · rw [freeUplink_log]
          simp [VgcsCall.emit, others]
        · simp [VgcsAct.isQuiet, or_imp, forall_and]
        · simp [or_imp, forall_and]

end Uplink

/-! ### The other BSSs hear of grants and releases -/

/-- A grant to the BSS is followed by an UPLINK SEIZED COMMAND to every other BSS and not to this one,
and when the BSS gives back an uplink it holds, an UPLINK RELEASE COMMAND goes to every other BSS. -/
structure UplinkAnnounced (s : VgcsCall) (bss : Nat) (s' : VgcsCall) : Prop where
  seized : .uplinkRequestAck bss ∈ added s.log s'.log → ∀ other,
    .uplinkSeizedCmd other ∈ added s.log s'.log ↔
      other ∈ s.bssList.map VgcsBss.id ∧ other ≠ bss
  unblocked : s.type = .gcc → holdsUplink s.log bss = true →
    .uplinkReleased bss ∈ added s.log s'.log →
      ∀ other ∈ s.bssList.map VgcsBss.id, other ≠ bss →
        .uplinkReleaseCmd other ∈ added s.log s'.log

/-- The event makes `vgcs_bss_fsm_active()` grant the uplink to the BSS, or is the release of an
uplink that the BSS holds. -/
def Announces (s : VgcsCall) (bss : Nat) (e : BssEvent) : Prop :=
  s.gone = false ∧ activeBss s bss = true ∧
    (e = .ulRequest ∧ s.uplinkBusy = false ∨
      e = .ulRelease ∧ s.type = .gcc ∧ holdsUplink s.log bss = true)

/-- No BSS but this one belongs to the call. -/
def OnlyBss (s : VgcsCall) (bss : Nat) : Prop := ∀ b ∈ s.bssList, b.id = bss

section Announced

variable {s s' : VgcsCall} {bss : Nat}

theorem uplinkAnnounced_of_quiet (quiet : Quiet s s') (bss : Nat) : UplinkAnnounced s bss s' := by
  obtain ⟨acts, log, allQuiet⟩ := quiet
  have acts_eq : added s.log s'.log = acts := by rw [log, added_append]
  refine ⟨fun acked => ?_, fun _ _ released => ?_⟩
  · have := allQuiet _ (acts_eq ▸ acked)
    simp [VgcsAct.isQuiet] at this
  · have := allQuiet _ (acts_eq ▸ released)
    simp [VgcsAct.isQuiet] at this

theorem grantUplink_announced_iff :
    (∀ b, UplinkAnnounced s b (grantUplink s bss)) ↔ OnlyBss s bss := by
  have acts_eq : added s.log (grantUplink s bss).log = .uplinkRequestAck bss ::
      (others s bss).map fun _ => VgcsAct.uplinkSeizedCmd bss := by
    rw [grantUplink_eq, added_append]
  constructor
  · intro announced b member
    by_contra other
    have told := ((announced bss).seized (by simp [acts_eq]) b.id).mpr
      ⟨mem_map_of_mem member, other⟩
    rw [acts_eq] at told
    rcases mem_cons.mp told with impossible | seized
    · cases impossible
    · obtain ⟨_, _, same⟩ := mem_map.mp seized
      exact other (VgcsAct.uplinkSeizedCmd.inj same).symm
  · intro only b
    refine ⟨fun acked other => ?_, fun _ _ released => ?_⟩
    · have same : b = bss := by simpa [acts_eq] using acked
      have nobody : others s bss = [] := by
        simp only [others, filter_eq_nil_iff]
        intro b' member
        simpa using only b' member
      simp only [acts_eq, nobody, map_nil, mem_singleton, reduceCtorEq, false_iff,
        not_and, not_not, same, mem_map]
      rintro ⟨b', member, rfl⟩
      exact only b' member
    · simp [acts_eq] at released

theorem ulReleaseOf_announced_iff :
    (∀ b, UplinkAnnounced s b (ulReleaseOf s bss)) ↔
      (s.type = .gcc → holdsUplink s.log bss = true → OnlyBss s bss) := by
  obtain ⟨rest, log, quiet, onlySelf⟩ := ulReleaseOf_log s bss
  have acts_eq : added s.log (ulReleaseOf s bss).log = .uplinkReleased bss :: rest := by
    rw [log, added_append]
  constructor
  · intro announced isGcc held b member
    by_contra other
    have told := (announced bss).unblocked isGcc held (by simp [acts_eq]) b.id
      (mem_map_of_mem member) other
    rw [acts_eq, mem_cons] at told
    rcases told with impossible | told
    · cases impossible
    · rcases onlySelf isGcc _ told with same | impossible
      · exact other (VgcsAct.uplinkReleaseCmd.inj same)
      · cases impossible
  · intro only b
    refine ⟨fun acked => ?_, fun isGcc held released other member notSelf => ?_⟩
    · rw [acts_eq, mem_cons] at acked
      rcases acked with impossible | acked
      · cases impossible
      · simpa [VgcsAct.isQuiet] using quiet _ acked
    · rw [acts_eq, mem_cons] at released
      rcases released with same | released
      · obtain rfl := VgcsAct.uplinkReleased.inj same
        obtain ⟨b', isMember, rfl⟩ := mem_map.mp member
        exact absurd (only isGcc held b' isMember) notSelf
      · simpa [VgcsAct.isQuiet] using quiet _ released

end Announced

/-! ### Single steps -/

variable {input : VgcsInput}

section Steps

variable (s : VgcsCall) (ranDownOk : Bool)

theorem vgcsStep_of_live (live : s.gone = false) (bss : Nat) (e : BssEvent) :
    vgcsStep s (ranDownOk, .bss bss e) = vgcsBssDispatch s ranDownOk bss e := by
  simp [vgcsStep, live]

theorem vgcsStep_of_gone (isGone : s.gone = true) (input : VgcsInput) :
    vgcsStep s (ranDownOk, input) = s := by
  simp [vgcsStep, isGone]

theorem quiet_gsm44068RcvRr (stray : StrayTimer) : Quiet s (gsm44068RcvRr s stray) :=
  ⟨_, gsm44068RcvRr_log s stray, by simp [VgcsAct.isQuiet]⟩

/-- While a BSS holds the uplink, the input neither assigns the caller to another BSS nor is an UPLINK
RELEASE on the initial channel. -/
structure Undisturbing (s : VgcsCall) (input : VgcsInput) : Prop where
  assigns : ∀ bss, input = .bss bss (.activeOrFail .allAssigned) → OwnBss s
  frees : ∀ stray, input = .rrUplinkRelease stray → ∀ bss, holdsUplink s.log bss = false

/-- Every input but a request for the uplink and a release of it is a quiet move. -/
theorem move_vgcsStep (noRequest : ∀ bss, input ≠ .bss bss .ulRequest)
    (noRelease : ∀ bss, input ≠ .bss bss .ulRelease) :
    Move (Undisturbing s input) s (vgcsStep s (ranDownOk, input)) := by
  unfold vgcsStep
  dsimp only
  split
  · exact tame_of_eq rfl
  · cases input with
    | bss bss e =>
        exact (move_vgcsBssDispatch s ranDownOk bss
          (fun isRequest => noRequest bss (isRequest ▸ rfl))
          (fun isRelease => noRelease bss (isRelease ▸ rfl))).mono
          fun undisturbing assigns => undisturbing.assigns bss (assigns ▸ rfl)
    | netTerm | userTerm => exact tame_vgcsGccDispatch s ranDownOk (by simp)
    | assignCpl | assignFail =>
        dsimp only
        split
        · exact tame_vgcsGccDispatch s ranDownOk (by simp)
        · exact tame_of_eq rfl
    | rrUplinkRelease stray =>
        have quiet := quiet_gsm44068RcvRr s stray
        exact ⟨quiet, fun undisturbing _ => quiet.talker (undisturbing.frees stray rfl)⟩
    | timeout =>
        dsimp only
        split
        · refine Move.trans ?_ (tame_vgcsGccDispatch _ ranDownOk (by simp))
          exact tame_of_eq rfl
        · exact tame_of_eq rfl
    | cellCleared cell => exact tame_of_eq rfl
    | connClosed =>
        dsimp only
        split
        · exact tame_gccTransFree s
        · exact tame_of_eq rfl

/-- The inputs that make `vgcs_bss_fsm_active()` announce a grant or a release come from the only BSS
of the call. -/
def NobodyToTell (s : VgcsCall) : Bool × VgcsInput → Prop
  | (_, .bss bss e) => Announces s bss e → OnlyBss s bss
  | _ => True

/-- A request is announced rightly exactly when it is not granted or nobody else is there. -/
theorem ulRequest_announced_iff (bss : Nat) (live : s.gone = false) :
    (∀ b, UplinkAnnounced s b (vgcsBssDispatch s ranDownOk bss .ulRequest)) ↔
      (Announces s bss .ulRequest → OnlyBss s bss) := by
  rw [(vgcsBssDispatch_uplink ..).1]
  by_cases isActive : activeBss s bss = true
  · cases busy : s.uplinkBusy with
    | true =>
        simp only [isActive, if_true, Announces, live, busy, Bool.true_eq_false, and_false,
          reduceCtorEq, false_and, or_self, false_imp_iff, iff_true]
        exact uplinkAnnounced_of_quiet (tame_emit s _ rfl : Move True _ _).quiet
    | false =>
        simp [isActive, Announces, live, busy, grantUplink_announced_iff]
  · simp only [isActive, Bool.false_eq_true, if_false, Announces, false_and, and_false,
      false_imp_iff, iff_true]
    exact uplinkAnnounced_of_quiet (.refl s)

theorem ulRelease_announced_iff (bss : Nat) (live : s.gone = false) :
    (∀ b, UplinkAnnounced s b (vgcsBssDispatch s ranDownOk bss .ulRelease)) ↔
      (Announces s bss .ulRelease → OnlyBss s bss) := by
  rw [(vgcsBssDispatch_uplink ..).2]
  by_cases isActive : activeBss s bss = true
  · simp [isActive, Announces, live, ulReleaseOf_announced_iff]
  · simp only [isActive, Bool.false_eq_true, if_false, Announces, false_and, and_false,
      false_imp_iff, iff_true]
    exact uplinkAnnounced_of_quiet (.refl s)

/-- What a step tells the other BSSs is right exactly when there is nothing to tell or nobody else. -/
theorem vgcsStep_uplinkAnnounced_iff (input : Bool × VgcsInput) :
    (∀ bss, UplinkAnnounced s bss (vgcsStep s input)) ↔ NobodyToTell s input := by
  obtain ⟨ranDownOk, input⟩ := input
  have of_quiet (quiet : Quiet s (vgcsStep s (ranDownOk, input)))
      (nothing : NobodyToTell s (ranDownOk, input)) :
      (∀ bss, UplinkAnnounced s bss (vgcsStep s (ranDownOk, input))) ↔
        NobodyToTell s (ranDownOk, input) :=
    ⟨fun _ => nothing, fun _ => uplinkAnnounced_of_quiet quiet⟩
  cases live : s.gone with
  | true =>
      refine of_quiet ?_ ?_
      · rw [vgcsStep_of_gone s ranDownOk live]
        exact .refl s
      · cases input with
        | bss bss e => simp [NobodyToTell, Announces, live]
        | _ => trivial
  | false =>
      cases input with
      | bss bss e =>
          by_cases isRequest : e = .ulRequest
          · subst isRequest
            rw [vgcsStep_of_live s ranDownOk live]
            exact ulRequest_announced_iff s ranDownOk bss live
          · by_cases isRelease : e = .ulRelease
            · subst isRelease
              rw [vgcsStep_of_live s ranDownOk live]
              exact ulRelease_announced_iff s ranDownOk bss live
            · refine of_quiet (move_vgcsStep s ranDownOk ?_ ?_).quiet ?_
              · simpa using isRequest
              · simpa using isRelease
              · simp [NobodyToTell, Announces, isRequest, isRelease]
      | _ => exact of_quiet (move_vgcsStep s ranDownOk (by simp) (by simp)).quiet trivial

end Steps

/-- In every run, what a step tells the other BSSs is right exactly when it grants nothing and gives
nothing back, or there are no other BSSs. -/
theorem vgcsRun_uplinkAnnounced_iff (type : VgcsType) (inactivityTo : Bool) (plan : BssPlan)
    (setup : VgcsSetup) (inputs : List (Bool × VgcsInput)) (input : Bool × VgcsInput) :
    let s := inputs.foldl vgcsStep (vgcsInit type inactivityTo plan setup)
    (∀ bss, UplinkAnnounced s bss (vgcsStep s input)) ↔ NobodyToTell s input :=
  vgcsStep_uplinkAnnounced_iff _ input

/-- A call that the network sets up in two BSSs, up to the moment when both are active. -/
def twoActive : VgcsCall :=
  List.foldl vgcsStep (vgcsInit .gcc false [(10, [1]), (20, [2])] .vty) <|
    [.bss 0 (.setupAck true), .bss 1 (.setupAck true), .bss 0 (.activeOrFail .allAssigned),
      .bss 1 (.activeOrFail .allAssigned)].map (true, ·)

/-- The SEIZED and the RELEASE COMMAND go to the BSS that talks, and the other one hears nothing. -/
theorem other_bss_is_not_told :
    let granted := vgcsStep twoActive (true, .bss 0 .ulRequest)
    let released := vgcsStep granted (true, .bss 0 .ulRelease)
    ¬ UplinkAnnounced twoActive 0 granted ∧ ¬ UplinkAnnounced granted 0 released := by
  refine ⟨fun announced => ?_, fun announced => ?_⟩
  · have told := (announced.seized (by decide) 1).mpr (by decide)
    revert told
    decide
  · have told := announced.unblocked rfl (by decide) (by decide) 1 (by decide) (by decide)
    revert told
    decide

/-! ### One talker -/

/-- The BSS whose grant `uplink_bss` stands for. -/
def holder (s : VgcsCall) : Option Nat := s.uplinkBss.filter (holdsUplink s.log)

/-- No UPLINK RELEASE arrives on the initial channel while a BSS holds the uplink, and no BSS gets
ready, which assigns the caller, while another BSS than the caller's holds it. -/
def UndisturbedGrant (s : VgcsCall) : Bool × VgcsInput → Bool
  | (_, .rrUplinkRelease _) => (holder s).isNone
  | (_, .bss _ (.activeOrFail .allAssigned)) =>
      (callerBss s).all fun caller => (holder s).all fun bss => caller = bss
  | _ => true

/-- Every grant so far was made while nobody held the uplink, and whoever holds it owns it. -/
structure UplinkInv (s : VgcsCall) : Prop where
  guarded : Guarded AckAllowed s.log
  talker : Talker s

section OneTalker

variable {s s' : VgcsCall}

theorem ackAllowed_of_noAck (noAck : ∀ bss, act ≠ .uplinkRequestAck bss) (before : List VgcsAct) :
    AckAllowed before act :=
  fun bss isAck => absurd isAck (noAck bss)

theorem Quiet.guarded (quiet : Quiet s s') (guarded : Guarded AckAllowed s.log) :
    Guarded AckAllowed s'.log := by
  obtain ⟨acts, log, allQuiet⟩ := quiet
  rw [log]
  refine guarded.append fun act member => ackAllowed_of_noAck ?_
  rintro bss rfl
  simpa [VgcsAct.isQuiet] using allQuiet _ member

theorem UplinkInv.move {own : Prop} (inv : UplinkInv s) (move : Move own s s') (holds : own) :
    UplinkInv s' :=
  ⟨move.quiet.guarded inv.guarded, move.talker holds inv.talker⟩

theorem Talker.holder_eq (talker : Talker s) (held : holdsUplink s.log bss = true) :
    holder s = some bss := by
  simp [holder, (talker bss held).2, held]

/-- While the uplink is not busy nobody holds it, so a grant is allowed. -/
theorem UplinkInv.grantUplink (inv : UplinkInv s) (free : s.uplinkBusy = false) (bss : Nat) :
    UplinkInv (grantUplink s bss) := by
  have nobody : ∀ b, holdsUplink s.log b = false := by
    intro b
    refine Bool.eq_false_iff.mpr fun held => ?_
    simp [(inv.talker b held).1] at free
  have seizedQuiet : ∀ act ∈ (others s bss).map fun _ => VgcsAct.uplinkSeizedCmd bss,
      act.isQuiet = true := by
    simp [VgcsAct.isQuiet]
  rw [grantUplink_eq, append_cons]
  refine ⟨?_, ?_⟩
  · have acked : Guarded AckAllowed (s.log ++ [.uplinkRequestAck bss]) :=
      guarded_snoc.mpr ⟨inv.guarded, fun _ _ => nobody⟩
    refine acked.append fun act member => ackAllowed_of_noAck ?_
    rintro b rfl
    simpa [VgcsAct.isQuiet] using seizedQuiet _ member
  · intro b held
    have heldAfterAck := held_of_quiet seizedQuiet held
    have same : bss = b := by simpa [holdStep, nobody b] using heldAfterAck
    exact ⟨rfl, congrArg some same⟩

/-- The report of a release ends the releasing BSS's hold and changes nothing else. -/
theorem UplinkInv.reportRelease (inv : UplinkInv s) (bss : Nat) :
    UplinkInv (s.emit (.uplinkReleased bss)) := by
  refine ⟨guarded_snoc.mpr ⟨inv.guarded, ackAllowed_of_noAck (by simp) s.log⟩, ?_⟩
  intro b held
  by_cases same : bss = b
  · simp [VgcsCall.emit, holdStep, same] at held
  · exact inv.talker b (by simpa [VgcsCall.emit, holdStep, same] using held)

/-- The owner of the uplink gives it back: nobody else can hold it. -/
theorem UplinkInv.freeUplink (inv : UplinkInv s) (owner : s.uplinkBss = some bss)
    (released : holdsUplink s.log bss = false) : UplinkInv (freeUplink s bss) := by
  have nobody : ∀ b, holdsUplink s.log b = false := by
    intro b
    refine Bool.eq_false_iff.mpr fun held => ?_
    have same : bss = b := Option.some.inj (owner.symm.trans (inv.talker b held).2)
    rw [same, held] at released
    exact Bool.false_ne_true released.symm
  have quiet : ∀ act ∈ ((others s bss).map fun _ => VgcsAct.uplinkReleaseCmd bss) ++
      [.mgwConference], act.isQuiet = true := by
    simp [VgcsAct.isQuiet, or_imp, forall_and]
  have log := freeUplink_log s bss
  rw [append_assoc] at log
  have freed : Quiet s (Vgcs.freeUplink s bss) := ⟨_, log, quiet⟩
  exact ⟨freed.guarded inv.guarded, freed.talker nobody⟩

theorem UplinkInv.ulReleaseOf (inv : UplinkInv s) (bss : Nat) : UplinkInv (ulReleaseOf s bss) := by
  have reported := inv.reportRelease bss
  unfold Vgcs.ulReleaseOf
  split
  · exact reported.move tame_gccTerminateAndDestroy trivial
  · split
    · exact reported
    · split
      · exact reported
      · rename_i isOwner
        refine reported.freeUplink (not_not.mp isOwner) ?_
        simp [VgcsCall.emit, holdStep]

theorem UplinkInv.undisturbing (inv : UplinkInv s)
    (undisturbed : UndisturbedGrant s (ranDownOk, input) = true) : Undisturbing s input where
  assigns := by
    rintro bss rfl b held caller isCaller
    simpa [UndisturbedGrant, isCaller, inv.talker.holder_eq held] using undisturbed
  frees := by
    rintro stray rfl b
    refine Bool.eq_false_iff.mpr fun held => ?_
    simp [UndisturbedGrant, inv.talker.holder_eq held] at undisturbed

/-- One input that does not disturb a grant keeps the invariant. -/
theorem vgcsStep_uplinkInv (s : VgcsCall) (input : Bool × VgcsInput) (inv : UplinkInv s)
    (undisturbed : UndisturbedGrant s input = true) : UplinkInv (vgcsStep s input) := by
  obtain ⟨ranDownOk, input⟩ := input
  cases live : s.gone with
  | true => rwa [vgcsStep_of_gone s ranDownOk live]
  | false =>
      by_cases isRequest : ∃ bss, input = .bss bss .ulRequest
      · obtain ⟨bss, rfl⟩ := isRequest
        rw [vgcsStep_of_live s ranDownOk live, (vgcsBssDispatch_uplink ..).1]
        split_ifs with isActive busy
        · exact inv.move (tame_emit s _ rfl) trivial
        · exact inv.grantUplink (Bool.eq_false_iff.mpr busy) bss
        · exact inv
      · by_cases isRelease : ∃ bss, input = .bss bss .ulRelease
        · obtain ⟨bss, rfl⟩ := isRelease
          rw [vgcsStep_of_live s ranDownOk live, (vgcsBssDispatch_uplink ..).2]
          split_ifs with isActive
          · exact inv.ulReleaseOf bss
          · exact inv
        · exact inv.move (move_vgcsStep s ranDownOk (not_exists.mp isRequest) (not_exists.mp isRelease))
            (inv.undisturbing undisturbed)

theorem vgcsInit_uplinkInv (type : VgcsType) (inactivityTo : Bool) (plan : BssPlan)
    (setup : VgcsSetup) : UplinkInv (vgcsInit type inactivityTo plan setup) := by
  have established (s : VgcsCall) (empty : s.log = []) : UplinkInv (gccEstablishBss s plan) := by
    have setupQuiet : ∀ act ∈ (bssInstances plan).map fun b => VgcsAct.setup b.id,
        act.isQuiet = true := by
      simp [VgcsAct.isQuiet]
    have started : UplinkInv { s with
        bssList := bssInstances plan
        log := s.log ++ (bssInstances plan).map fun b => VgcsAct.setup b.id } := by
      have quiet : Quiet s { s with
          bssList := bssInstances plan
          log := s.log ++ (bssInstances plan).map fun b => VgcsAct.setup b.id } := ⟨_, rfl, setupQuiet⟩
      exact ⟨quiet.guarded (empty ▸ guarded_nil), quiet.talker fun _ => by rw [empty]; rfl⟩
    unfold gccEstablishBss
    dsimp only
    split
    · exact started.move tame_gccTerminateAndDestroy trivial
    · exact started
  cases setup with
  | vty | user _ => exact established _ rfl

end OneTalker

/-- In every run in which nothing on the caller's initial channel disturbs a grant, the BSS granted
first has released the uplink or was cleared before the next grant. -/
theorem vgcsRun_oneTalker (type : VgcsType) (inactivityTo : Bool) (plan : BssPlan)
    (setup : VgcsSetup) (inputs : List (Bool × VgcsInput))
    (undisturbed : StepsMeet vgcsStep (fun s input => UndisturbedGrant s input = true)
      (vgcsInit type inactivityTo plan setup) inputs) :
    OneTalker (inputs.foldl vgcsStep (vgcsInit type inactivityTo plan setup)).log :=
  oneTalker_of_guarded
    (foldl_invariant vgcsStep_uplinkInv inputs _
      (vgcsInit_uplinkInv type inactivityTo plan setup) undisturbed).guarded

/-- A subscriber's call in two BSSs: the caller is assigned, gives the uplink back on the group
channel, and both BSSs talk in turn. -/
def talkInTurn : List (Bool × VgcsInput) :=
  [.bss 0 (.setupAck true), .bss 1 (.setupAck true), .bss 0 (.activeOrFail .allAssigned),
    .bss 1 (.activeOrFail .allAssigned), .assignCpl, .bss 0 .ulRelease, .bss 1 .ulRequest,
    .bss 0 .ulRequest, .bss 1 .ulRelease, .bss 0 .ulRequest].map (true, ·)

theorem vgcsRun_oneTalker_inTurn :
    let s := talkInTurn.foldl vgcsStep (vgcsInit .gcc true [(10, [1]), (20, [2])] (.user (10, 1)))
    OneTalker s.log ∧ .uplinkRequestAck 1 ∈ s.log ∧ .uplinkRequestAck 0 ∈ s.log :=
  ⟨vgcsRun_oneTalker .gcc true _ _ talkInTurn (by decide), by decide, by decide⟩

/-- In every such run a BSS that holds the uplink is the call's `uplink_bss`, so at most one does. -/
theorem vgcsRun_talker (type : VgcsType) (inactivityTo : Bool) (plan : BssPlan)
    (setup : VgcsSetup) (inputs : List (Bool × VgcsInput))
    (undisturbed : StepsMeet vgcsStep (fun s input => UndisturbedGrant s input = true)
      (vgcsInit type inactivityTo plan setup) inputs) :
    Talker (inputs.foldl vgcsStep (vgcsInit type inactivityTo plan setup)) :=
  (foldl_invariant vgcsStep_uplinkInv inputs _
    (vgcsInit_uplinkInv type inactivityTo plan setup) undisturbed).talker

theorem vgcsRun_talker_inTurn :
    Talker (talkInTurn.foldl vgcsStep
      (vgcsInit .gcc true [(10, [1]), (20, [2])] (.user (10, 1)))) :=
  vgcsRun_talker .gcc true _ _ talkInTurn (by decide)

/-- All BSSs have accepted the call, and the caller's, BSS 0, is active. -/
def callerAssigned : List VgcsInput :=
  [.bss 0 (.setupAck true), .bss 1 (.setupAck true), .bss 2 (.setupAck true),
    .bss 0 (.activeOrFail .allAssigned)]

/-- A subscriber's call in three BSSs, after the given inputs. -/
def subscriberCall (inputs : List VgcsInput) : VgcsCall :=
  List.foldl vgcsStep (vgcsInit .gcc true [(10, [1]), (20, [2]), (30, [3])] (.user (10, 1)))
    ((callerAssigned ++ inputs).map (true, ·))

/-- BSS 2 gets ready while BSS 1 talks, and the caller is assigned to BSS 0 again. -/
def assignmentWhileTalking : VgcsCall :=
  subscriberCall [.bss 0 .ulRelease, .bss 1 (.activeOrFail .allAssigned), .bss 1 .ulRequest,
    .bss 2 (.activeOrFail .allAssigned), .bss 0 .ulRelease, .bss 2 .ulRequest]

/-- An UPLINK RELEASE on the initial channel, which the process survives, while BSS 0 talks. -/
def releaseWhileTalking : VgcsCall :=
  subscriberCall [.bss 0 .ulRelease, .bss 1 (.activeOrFail .allAssigned), .bss 0 .ulRequest,
    .rrUplinkRelease (.survives false), .bss 1 .ulRequest]

/-- Both ways another BSS is granted the uplink before the first one has released it. -/
theorem two_talkers :
    ¬ OneTalker assignmentWhileTalking.log ∧ ¬ OneTalker releaseWhileTalking.log := by
  constructor
  · intro oneTalker
    have ended := oneTalker (assignmentWhileTalking.log.take 12) 1
      [.uplinkSeizedCmd 1, .uplinkSeizedCmd 1, .assignmentCommand, .uplinkReleased 0,
        .uplinkReleaseCmd 0, .uplinkReleaseCmd 0, .mgwConference] 2
      [.uplinkSeizedCmd 2, .uplinkSeizedCmd 2] (by decide)
    simp at ended
  · intro oneTalker
    have ended := oneTalker (releaseWhileTalking.log.take 12) 0
      [.uplinkSeizedCmd 0, .uplinkSeizedCmd 0, .uplinkReleaseCmd 0, .uplinkReleaseCmd 1,
        .uplinkReleaseCmd 2] 1 [.uplinkSeizedCmd 1, .uplinkSeizedCmd 1] (by decide)
    simp at ended

end OsmoMsc.Vgcs
