/-
Module: OsmoMsc.Vlr.LuFrame
Purpose: What most functions of a location update leave alone: the tuples of the subscriber, the
  authentication child and the Update_HLR_VLR child (which stay as they are or end), and the parts
  of the log about authentication and ciphering.  Asking the HLR and asking for ciphering are just
  outside this frame, and their lemmas say by how much.
Trusted boundary: none
Main exports: LuAct.tupleAct, Lu.tupleActs, Lu.said, luTuples, LuKeeps, LuFrame, luFsmFailure_frame,
  luIface_tupleParent
-/
import OsmoMsc.Vlr.LuFsm
import OsmoMsc.Vlr.ProcTuples

namespace OsmoMsc.Vlr

open Library

/-- What the log says about the tuples. -/
def LuAct.tupleAct : LuAct → Option TupleAct
  | .auth act => act.tupleAct
  | .setCiphMode _ => some .ciphMode
  | _ => none

def Lu.tupleActs (s : Lu) : List TupleAct := s.log.filterMap LuAct.tupleAct

/-- The authentication child reports this result. -/
def LuAct.reports (result : AuthFsmResult) : LuAct → Bool
  | .auth (.parentEvent reported _) => reported = result
  | _ => false

def Lu.said (s : Lu) (result : AuthFsmResult) : Bool := s.log.any (·.reports result)

/-- A location update as the tuples see it. -/
def luTuples : TupleHost Lu LuAct where
  toAuthHost := luHost
  log := Lu.log
  tupleAct := LuAct.tupleAct
  auth := LuAct.auth
  reports := LuAct.reports

theorem luTuples_reads : luTuples.Reads where
  vsub_put _ _ _ := rfl
  child_put _ _ _ := rfl
  log_put _ _ _ := rfl
  noted _ := rfl
  reported _ _ := by simp [luTuples, LuAct.reports]

abbrev LuKeeps : Lu → Lu → Prop := HostKeeps luTuples

abbrev LuAsks : Lu → Lu → Prop := HostAsks luTuples

/-- An instance that stays in its state, or ends there or in DONE. -/
def StaysOrEnds (fi fi' : Inst LuState) : Prop :=
  fi' = fi ∨ fi'.terminating = true ∧ (fi'.state = fi.state ∨ fi'.state = .done)

/-- No Update_HLR_VLR child has been started either, and the procedure is where it was unless it has
ended. -/
structure LuFrame (s s' : Lu) : Prop extends toLuKeeps : HostKeeps luTuples s s' where
  updHlr : s'.updHlrVlrFsm = s.updHlrVlrFsm ∨ s'.updHlrVlrFsm = none
  fi : StaysOrEnds s.fi s'.fi

section Frames

variable {s s' s'' : Lu}

/-- Fields outside the frame may change at will. -/
theorem LuFrame.of_eq (tuples : s'.vsub.tupleState = s.vsub.tupleState)
    (same : (s'.log, s'.auth, s'.updHlrVlrFsm, s'.fi) = (s.log, s.auth, s.updHlrVlrFsm, s.fi)) :
    LuFrame s s' := by
  simp only [Prod.mk.injEq] at same
  exact ⟨HostKeeps.of_eq tuples same.1 same.2.1, Or.inl same.2.2.1, Or.inl same.2.2.2⟩

theorem LuFrame.refl (s : Lu) : LuFrame s s := of_eq rfl rfl

theorem StaysOrEnds.trans {fi fi' fi'' : Inst LuState} (first : StaysOrEnds fi fi')
    (second : StaysOrEnds fi' fi'') : StaysOrEnds fi fi'' := by
  rcases second with rfl | ⟨ended, same | done⟩
  · exact first
  · rcases first with rfl | ⟨-, same' | done'⟩
    · exact Or.inr ⟨ended, Or.inl same⟩
    · exact Or.inr ⟨ended, Or.inl (same.trans same')⟩
    · exact Or.inr ⟨ended, Or.inr (same.trans done')⟩
  · exact Or.inr ⟨ended, Or.inr done⟩

theorem LuFrame.trans (first : LuFrame s s') (second : LuFrame s' s'') : LuFrame s s'' :=
  ⟨first.toLuKeeps.trans second.toLuKeeps,
    second.updHlr.elim (fun same => same ▸ first.updHlr) Or.inr, first.fi.trans second.fi⟩

/-- The same in the order of the calls: what is done last is named first. -/
theorem LuFrame.after (second : LuFrame s' s'') (first : LuFrame s s') : LuFrame s s'' :=
  first.trans second

theorem LuFrame.record {act : LuAct} (silent : act.tupleAct = none) : LuFrame s (s.record act) :=
  ⟨HostKeeps.note rfl rfl silent (Or.inl rfl), Or.inl rfl, Or.inl rfl⟩

end Frames

variable {cfg : VlrCfg} {par : LuPar} {s : Lu}

/-! ### The end of the procedure -/

variable {cause : Option Nat} {timeout : Option Nat} {data : Option Nat} {success : Bool}

theorem luStateChg_keeps {new : LuState} : LuKeeps s (s.stateChg new timeout) := by
  unfold Lu.stateChg
  split
  · exact (LuFrame.refl s).toLuKeeps
  · exact HostKeeps.of_eq rfl rfl rfl

theorem luTerm_frame {report : Option Bool} : LuFrame s (s.term report) := by
  unfold Lu.term
  split
  · exact LuFrame.refl s
  · rename_i fi ends
    obtain ⟨-, rfl⟩ := Inst.term_eq_some.mp ends
    have ended : LuFrame s
        { s with
          fi := { s.fi with terminating := true, timer := none }
          auth := none, updHlrVlrFsm := none, luComplVlrFsm := none } :=
      ⟨⟨rfl, rfl, List.prefix_refl _, Or.inr rfl⟩, Or.inr rfl, Or.inr ⟨rfl, Or.inl rfl⟩⟩
    cases report with
    | none => exact ended
    | some success => exact ended.trans (LuFrame.record rfl)

/-- A procedure that can enter DONE ends there, and only one that has ended cannot. -/
theorem luFsmDone_cases {s : Lu} :
    luFsmDone success s = s ∧ (s.fi.terminating = false → s.fi.state = .done) ∨
      luFsmDone success s = Lu.record (.parentEvent success)
        { s with
          fi := { state := .done, terminating := true }
          auth := none, updHlrVlrFsm := none, luComplVlrFsm := none } := by
  unfold luFsmDone
  split
  · rename_i refused
    refine Or.inl ⟨rfl, fun running => ?_⟩
    by_contra ongoing
    have permitted : vlrLuFsmTable.outState s.fi.state .done = true := by
      cases state : s.fi.state <;> first | rfl | exact absurd state ongoing
    rw [Inst.stateChg_eq_some.mpr ⟨running, permitted, rfl⟩] at refused
    cases refused
  · rename_i fi changed
    obtain ⟨running, -, rfl⟩ := Inst.stateChg_eq_some.mp changed
    have ends : { s.fi with state := LuState.done, timer := none }.term =
        some { state := .done, terminating := true } :=
      Inst.term_eq_some.mpr ⟨running, rfl⟩
    unfold Lu.term
    rw [ends]
    exact Or.inr rfl

theorem luFsmDone_frame : LuFrame s (luFsmDone success s) := by
  rcases luFsmDone_cases with ⟨same, -⟩ | ended
  · rw [same]
    exact LuFrame.refl s
  · rw [ended]
    exact ⟨HostKeeps.note rfl rfl rfl (Or.inr rfl), Or.inr rfl, Or.inr ⟨rfl, Or.inr rfl⟩⟩

theorem luFsmFailure_frame {cause : Nat} : LuFrame s (luFsmFailure cause s) :=
  (LuFrame.record rfl).trans luFsmDone_frame

theorem luFsmDiscardLuComplFsm_frame : LuFrame s (luFsmDiscardLuComplFsm s) := by
  refine LuFrame.of_eq ?_ rfl
  unfold luFsmDiscardLuComplFsm
  split <;> rfl

theorem luFsmDispatchLuCompl_frame {result : Except (Option Nat) Unit} :
    LuFrame s (luFsmDispatchLuCompl par result s) := by
  unfold luFsmDispatchLuCompl
  cases result with
  | ok _ =>
      dsimp only
      split
      · refine LuFrame.trans (luFsmDiscardLuComplFsm_frame.trans ?_) luFsmDone_frame
        split
        · exact LuFrame.record rfl
        · exact LuFrame.refl _
      · exact LuFrame.refl s
  | error cause =>
      dsimp only
      split
      · exact luFsmDiscardLuComplFsm_frame.trans luFsmFailure_frame
      · exact LuFrame.refl s

/-! ### Location_Update_Completion_VLR -/

theorem luComplStateChg_frame {new : LuComplState} : LuFrame s (s.luComplStateChg new timeout) := by
  unfold Lu.luComplStateChg
  split
  · exact LuFrame.refl s
  · split
    · exact LuFrame.refl s
    · exact LuFrame.of_eq rfl rfl

theorem vlrLuComplFsmDone_frame {result : Except Nat Unit} :
    LuFrame s (vlrLuComplFsmDone par result s) := by
  unfold vlrLuComplFsmDone
  split
  · exact LuFrame.refl s
  · split
    · exact LuFrame.refl s
    · exact luFsmDispatchLuCompl_frame.after (LuFrame.of_eq rfl rfl)

theorem vlrLuComplFsmSuccess_frame : LuFrame s (vlrLuComplFsmSuccess par s) := by
  unfold vlrLuComplFsmSuccess
  exact vlrLuComplFsmDone_frame.after (LuFrame.of_eq rfl rfl)

theorem luComplVlrAccept_frame : LuFrame s (luComplVlrAccept cfg par s) := by
  unfold luComplVlrAccept luComplVlrNewTmsi
  split
  · split
    · exact vlrLuComplFsmDone_frame
    · exact (LuFrame.record rfl).after
        (luComplStateChg_frame.after (LuFrame.of_eq rfl rfl))
  · exact vlrLuComplFsmSuccess_frame.after
      ((LuFrame.record rfl).after (LuFrame.of_eq rfl rfl))

theorem luComplVlrWaitSubscrPres_frame : LuFrame s (luComplVlrWaitSubscrPres cfg par s) := by
  have ended : LuFrame s { s with
      luComplVlrFsm := s.luComplVlrFsm.map fun lc => { lc with subPresVlrFsm := none } } :=
    LuFrame.of_eq rfl rfl
  unfold luComplVlrWaitSubscrPres
  split
  · exact ended.trans (luComplStateChg_frame.trans (LuFrame.record rfl))
  · exact ended.trans luComplVlrAccept_frame

theorem luComplVlrWaitImei_frame {ack : Bool} : LuFrame s (luComplVlrWaitImei cfg par ack s) := by
  unfold luComplVlrWaitImei
  split
  · exact vlrLuComplFsmDone_frame
  · split
    · exact vlrLuComplFsmDone_frame
    · exact luComplVlrAccept_frame

theorem luComplVlrWaitTmsi_frame : LuFrame s (luComplVlrWaitTmsi par s) := by
  unfold luComplVlrWaitTmsi
  split
  · exact vlrLuComplFsmDone_frame
  · exact vlrLuComplFsmSuccess_frame.after (LuFrame.of_eq rfl rfl)

theorem luComplVlrDispatch_frame {e : LuComplEvent} :
    LuFrame s (luComplVlrDispatch cfg par e s) := by
  unfold luComplVlrDispatch
  split
  · exact LuFrame.refl s
  · split
    · cases e with
      | start => exact LuFrame.refl s
      | subPresCompl => exact luComplVlrWaitSubscrPres_frame
      | imeiCheckAck => exact luComplVlrWaitImei_frame
      | imeiCheckNack => exact luComplVlrWaitImei_frame
      | newTmsiAck => exact luComplVlrWaitTmsi_frame
    · exact LuFrame.refl s

theorem luComplVlrInit_frame : LuFrame s (luComplVlrInit cfg par s) := by
  have entered : LuFrame s (Lu.luComplStateChg .waitSubPres (some 0)
      { s with vsub := { s.vsub with laAllowed := true, imsiDetachedFlag := false } }) :=
    luComplStateChg_frame.after (LuFrame.of_eq rfl rfl)
  unfold luComplVlrInit
  dsimp only
  split
  · split
    · exact entered
    · rename_i child started
      have kept := subPresVlrFsmStart_tupleState started
      split
      · exact luComplVlrDispatch_frame.after (entered.trans (LuFrame.of_eq kept rfl))
      · exact entered.trans (LuFrame.of_eq kept rfl)
  · exact entered.trans luComplVlrDispatch_frame

theorem vlrLocUpdStartLuComplFsm_frame : LuFrame s (vlrLocUpdStartLuComplFsm cfg par s) := by
  unfold vlrLocUpdStartLuComplFsm
  split
  · exact luComplVlrInit_frame.after (LuFrame.of_eq rfl rfl)
  · exact LuFrame.of_eq rfl rfl

theorem luComplVlrTimeout_frame : LuFrame s (luComplVlrTimeout cfg par s) := by
  unfold luComplVlrTimeout
  split
  · exact LuFrame.refl s
  · rename_i lc _
    split
    · exact LuFrame.refl s
    · split
      · exact luFsmDispatchLuCompl_frame.after (LuFrame.of_eq rfl rfl)
      · have counted : LuFrame s { s with luComplVlrFsm := some { lc with n := lc.n + 1 } } :=
          LuFrame.of_eq rfl rfl
        split
        · exact counted.trans (LuFrame.record rfl)
        · exact counted.trans (LuFrame.record rfl)
        · exact counted.trans (LuFrame.record rfl)
        all_goals exact LuFrame.of_eq rfl rfl

theorem luSubPresEnded_frame : LuFrame s (s.subPresEnded cfg par) := by
  unfold Lu.subPresEnded
  exact luComplVlrDispatch_frame.after (LuFrame.of_eq rfl rfl)

/-! ### Update_HLR_VLR -/

theorem luFsmUpdHlrCompl_keeps : LuKeeps s (luFsmUpdHlrCompl cfg par cause s) := by
  cases cause with
  | none => exact luStateChg_keeps.trans vlrLocUpdStartLuComplFsm_frame.toLuKeeps
  | some cause => exact luFsmFailure_frame.toLuKeeps

theorem luFsmDispatchUpdHlr_keeps : LuKeeps s (luFsmDispatchUpdHlr cfg par cause s) := by
  unfold luFsmDispatchUpdHlr
  split
  · exact luFsmUpdHlrCompl_keeps
  · exact (LuFrame.refl s).toLuKeeps

theorem vlrLocUpdNode4_keeps : LuKeeps s (vlrLocUpdNode4 s) := by
  have moved : LuKeeps s (s.stateChg .waitHlrUpd (some 0)) := luStateChg_keeps
  unfold vlrLocUpdNode4
  dsimp only
  split
  · have asked : LuKeeps s ((s.stateChg .waitHlrUpd (some 0)).record .updateLocation) :=
      moved.trans (LuFrame.record rfl).toLuKeeps
    exact asked.trans (HostKeeps.of_eq rfl rfl rfl)
  · exact moved.trans (HostKeeps.of_eq rfl rfl rfl)

/-- `vlr_loc_upd_post_ciph()` asks the HLR, and does nothing else. -/
theorem vlrLocUpdPostCiph_keeps : LuKeeps s (vlrLocUpdPostCiph cfg par s) := by
  have noted : LuFrame s { s.record .commonId with
      vsub := { s.vsub with
        confByRadioContactInd := true, lac := par.newLac, dormantInd := false,
        cancelLocRx := false } } :=
    LuFrame.trans (LuFrame.record rfl) (LuFrame.of_eq rfl rfl)
  exact noted.toLuKeeps.trans vlrLocUpdNode4_keeps

/-! ### Ciphering -/

theorem luFsmDispatchAuth_failure_keeps :
    LuKeeps s (luFsmDispatchAuth cfg par .failure data s) := by
  unfold luFsmDispatchAuth
  split
  · exact luFsmFailure_frame.toLuKeeps.after (HostKeeps.of_eq rfl rfl rfl)
  · exact (LuFrame.refl s).toLuKeeps

theorem luFsmWaitCiph_keeps {result : CiphResult} : LuKeeps s (luFsmWaitCiph cfg par result s) := by
  have noted : LuFrame s (s.record (.ciphRes result)) := LuFrame.record rfl
  unfold luFsmWaitCiph
  cases result with
  | compl => exact noted.toLuKeeps.trans vlrLocUpdPostCiph_keeps
  | reject => exact (noted.trans luFsmFailure_frame).toLuKeeps

theorem luFsmHlrLuRes_keeps : LuKeeps s (luFsmHlrLuRes cfg par cause s) := by
  have noted : LuFrame s (s.record (.hlrLuRes cause)) := LuFrame.record rfl
  unfold luFsmHlrLuRes
  dsimp only
  split
  · exact noted.toLuKeeps
  · rename_i fi _
    have heard : ∀ child, LuKeeps s { s.record (.hlrLuRes cause) with
        vsub := (updHlrVlrDispatch (cause.elim .updLocAck .updLocNack) fi
          (s.record (.hlrLuRes cause)).vsub).vsub
        updHlrVlrFsm := child } :=
      fun _ => noted.toLuKeeps.trans
        (HostKeeps.of_eq updHlrVlrDispatch_tupleState rfl rfl)
    split
    · exact heard _
    · exact (heard none).trans luFsmDispatchUpdHlr_keeps

theorem vlrLocUpdPostAuth_asks : LuAsks s (vlrLocUpdPostAuth cfg par s) := by
  unfold vlrLocUpdPostAuth
  split
  · exact vlrLocUpdPostCiph_keeps.asks
  · split
    · exact luFsmFailure_frame.asks
    · rename_i ready
      have context : s.vsub.secCtx ≠ .none := by
        simp only [Bool.or_eq_true, decide_eq_true_eq, not_or] at ready
        exact ready.2
      have follows : ∀ s', LuKeeps (s.record (.setCiphMode s.vsub.secCtx)) s' → LuAsks s s' :=
        fun s' keeps => keeps.asked rfl rfl rfl rfl context
      dsimp only
      split
      · exact follows _ luFsmFailure_frame.toLuKeeps
      · exact follows _ luStateChg_keeps

theorem luFsmDispatchAuth_asks {result : AuthFsmResult} :
    LuAsks s (luFsmDispatchAuth cfg par result data s) := by
  have cleared : LuKeeps s { s with updHlrVlrFsm := none } := HostKeeps.of_eq rfl rfl rfl
  have posted : LuAsks s (vlrLocUpdPostAuth cfg par { s with updHlrVlrFsm := none }) := by
    have asks : LuAsks { s with updHlrVlrFsm := none }
        (vlrLocUpdPostAuth cfg par { s with updHlrVlrFsm := none }) := vlrLocUpdPostAuth_asks
    exact ⟨asks.tuples, asks.acts, asks.grows, asks.auth⟩
  have failed : ∀ cause, LuAsks s (luFsmFailure cause { s with updHlrVlrFsm := none }) :=
    fun cause => (cleared.trans luFsmFailure_frame.toLuKeeps).asks
  unfold luFsmDispatchAuth
  split
  · cases result with
    | passed => exact posted
    | failure => exact failed _
    | noAuthInfo =>
        dsimp only [luFsmWaitAuth]
        split
        · exact failed _
        · exact posted
  · exact (LuFrame.refl s).toLuKeeps.asks

/-- A location update is a parent that leaves the tuples to its child. -/
theorem luIface_tupleParent : TupleParent (luIface cfg par) luTuples.acts luTuples.said :=
  luTuples_reads.tupleParent (fun _ _ => rfl) (fun _ _ _ _ => rfl)
    (fun _ _ _ _ => luFsmDispatchAuth_asks)
    fun _ _ _ => luFsmDispatchAuth_failure_keeps

end OsmoMsc.Vlr
