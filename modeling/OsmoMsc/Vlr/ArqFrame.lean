/-
Module: OsmoMsc.Vlr.ArqFrame
Purpose: What each part of an access request leaves alone: the tuples of the subscriber, the log it
  has written so far and, unless the request ends, the authentication child.
Trusted boundary: none
Main exports: Arq.tupleActs, ArqKeeps, ArqAsks, procArqVlrNode2_asks, procArqVlrDispatchAuth_asks
-/
import OsmoMsc.Vlr.AccessReqFsm
import OsmoMsc.Vlr.ProcTuples

namespace OsmoMsc.Vlr

open Library

/-- What the log says about the tuples. -/
def ArqAct.tupleAct : ArqAct → Option TupleAct
  | .auth act => act.tupleAct
  | .setCiphMode _ => some .ciphMode
  | .commonId | .updateLocation | .cmServAcc | .cmServRej _ | .parentEvent _ => none

def Arq.tupleActs (s : Arq) : List TupleAct := s.log.filterMap ArqAct.tupleAct

/-- The authentication child reports this result. -/
def ArqAct.reports (result : AuthFsmResult) : ArqAct → Bool
  | .auth (.parentEvent reported _) => reported = result
  | _ => false

def Arq.said (s : Arq) (result : AuthFsmResult) : Bool := s.log.any (·.reports result)

/-- An access request as the tuples see it. -/
def arqTuples : TupleHost Arq ArqAct where
  toAuthHost := arqHost
  log := Arq.log
  tupleAct := ArqAct.tupleAct
  auth := ArqAct.auth
  reports := ArqAct.reports

theorem arqTuples_reads : arqTuples.Reads where
  vsub_put _ _ _ := rfl
  child_put _ _ _ := rfl
  log_put _ _ _ := rfl
  noted _ := rfl
  reported _ _ := by simp [arqTuples, ArqAct.reports]

abbrev ArqKeeps : Arq → Arq → Prop := HostKeeps arqTuples

abbrev ArqAsks : Arq → Arq → Prop := HostAsks arqTuples

variable {par : ProcArqPar} {s s' s'' : Arq}

theorem arqRecord_keeps {act : ArqAct} (silent : act.tupleAct = none) : ArqKeeps s (s.record act) :=
  HostKeeps.note rfl rfl silent (Or.inl rfl)

theorem arqStateChg_keeps (new : ArqState) (timeout : Option Nat) :
    ArqKeeps s (s.stateChg new timeout) := HostKeeps.of_eq rfl rfl rfl

theorem procArqVlrDispatchResult_keeps : ArqKeeps s (procArqVlrDispatchResult par s) := by
  unfold procArqVlrDispatchResult
  split
  · -- A CM SERVICE ACCEPT may go out first, and a CM SERVICE REJECT in its place or after it.
    have accepted : ∀ accept : Bool, ArqKeeps s (if accept then s.record .cmServAcc else s) := by
      intro accept
      cases accept with
      | true => exact arqRecord_keeps rfl
      | false => exact HostKeeps.refl s
    have rejected : ∀ (success : Bool) (t : Arq) (cause : Nat), ArqKeeps t
        (if success then t else t.record (.cmServRej cause)) := by
      intro success t cause
      cases success with
      | true => exact HostKeeps.refl t
      | false => exact arqRecord_keeps rfl
    exact (arqRecord_keeps rfl).after ((accepted _).trans (rejected _ _ _))
  · exact arqRecord_keeps rfl

theorem procArqFsmDone_keeps (cause : Nat) : ArqKeeps s (procArqFsmDone par cause s) := by
  unfold procArqFsmDone
  dsimp only
  split
  · exact HostKeeps.of_eq rfl rfl rfl
  · exact procArqVlrDispatchResult_keeps.after (HostKeeps.of_eq rfl rfl rfl)

theorem procArqVlrDispatchPresRes_keeps : ArqKeeps s (procArqVlrDispatchPresRes par s) := by
  unfold procArqVlrDispatchPresRes
  split
  · exact procArqFsmDone_keeps 0
  · exact HostKeeps.refl s

theorem procArqVlrNode2PostVlr_keeps : ArqKeeps s (procArqVlrNode2PostVlr par s) := by
  unfold procArqVlrNode2PostVlr
  split
  · exact procArqFsmDone_keeps _
  · have attached : ArqKeeps s { s with vsub := { s.vsub with imsiDetachedFlag := false } } :=
      HostKeeps.of_eq rfl rfl rfl
    dsimp only
    split
    · have waits := attached.trans (arqStateChg_keeps .waitSubPres none)
      split
      · exact waits
      · rename_i child started
        have kept : child.vsub.tupleState = s.vsub.tupleState :=
          (subPresVlrFsmStart_tupleState started).trans rfl
        split
        · exact procArqVlrDispatchPresRes_keeps.after (HostKeeps.of_eq kept rfl rfl)
        · exact HostKeeps.of_eq kept rfl rfl
    · exact (procArqFsmDone_keeps 0).after attached

theorem procArqVlrNode2PostCiph_keeps : ArqKeeps s (procArqVlrNode2PostCiph par s) := by
  have noted : ArqKeeps s { s.record .commonId with
      vsub := { s.vsub with confByRadioContactInd := true } } :=
    HostKeeps.note rfl rfl rfl (Or.inl rfl)
  unfold procArqVlrNode2PostCiph
  dsimp only
  split
  · have waits : ∀ (t : Arq) (child : Option (Inst UpdHlrState)), ArqKeeps s t →
        ArqKeeps s (Arq.stateChg .waitUpdLocChild none { t with ulChildFsm := child }) :=
      fun t child keeps => ⟨keeps.tuples, keeps.acts, keeps.grows, keeps.auth⟩
    refine waits _ _ ?_
    split
    · exact noted.trans (arqRecord_keeps rfl)
    · exact noted
  · exact procArqVlrNode2PostVlr_keeps.after noted

/-- `_proc_arq_vlr_node2()` asks for ciphering with the security context of the record. -/
theorem procArqVlrNode2_asks : ArqAsks s (procArqVlrNode2 par s) := by
  unfold procArqVlrNode2
  split
  · exact procArqVlrNode2PostCiph_keeps.asks
  · split
    · exact (procArqFsmDone_keeps _).asks
    · rename_i context
      have follows : ∀ s', ArqKeeps (s.record (.setCiphMode s.vsub.secCtx)) s' → ArqAsks s s' :=
        fun s' keeps => keeps.asked rfl rfl rfl rfl context
      dsimp only
      split
      · exact follows _ (procArqFsmDone_keeps _)
      · exact follows _ ((arqStateChg_keeps _ _).after (HostKeeps.of_eq rfl rfl rfl))

variable {data : Option Nat}

theorem procArqVlrDispatchAuth_asks {result : AuthFsmResult} :
    ArqAsks s (procArqVlrDispatchAuth par result data s) := by
  unfold procArqVlrDispatchAuth
  split
  · cases result with
    | passed => exact procArqVlrNode2_asks
    | failure => exact (procArqFsmDone_keeps _).asks
    | noAuthInfo =>
        dsimp only [procArqVlrFnWAuth]
        split
        · exact (procArqFsmDone_keeps _).asks
        · exact procArqVlrNode2_asks
  · exact (HostKeeps.refl s).asks

theorem procArqVlrDispatchAuth_failure_keeps :
    ArqKeeps s (procArqVlrDispatchAuth par .failure data s) := by
  unfold procArqVlrDispatchAuth
  split
  · exact procArqFsmDone_keeps _
  · exact HostKeeps.refl s

/-- An access request is a parent that leaves the tuples to its child. -/
theorem arqIface_tupleParent : TupleParent (arqIface par) arqTuples.acts arqTuples.said :=
  arqTuples_reads.tupleParent (fun _ _ => rfl) (fun _ _ _ _ => rfl)
    (fun _ _ _ _ => procArqVlrDispatchAuth_asks)
    fun _ _ _ => procArqVlrDispatchAuth_failure_keeps

theorem arqTerm_keeps {report : Bool} : ArqKeeps s (s.term report) := by
  unfold Arq.term
  split
  · exact HostKeeps.refl s
  · have ended : ∀ fi : Inst ArqState, ArqKeeps s { s with
        fi := fi, auth := none, ulChildFsm := none, subPresVlrFsm := none } :=
      fun _ => ⟨rfl, rfl, List.prefix_refl _, Or.inr rfl⟩
    split
    · exact (ended _).trans (arqRecord_keeps rfl)
    · exact ended _

end OsmoMsc.Vlr
