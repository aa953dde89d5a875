/-
Module: OsmoMsc.Vlr.HlrAnswer
Purpose: Which procedure gets the HLR's answer to an UpdateLocation.  The VLR hands it to the
  machine `vsub->lu_fsm` points to, or to the SGs machine.  A location update that is going on is
  the one the record points to, so at most one is, and its child gets the answer unless a location
  update over SGs is in progress.  The child of an access request is never given the answer.
Trusted boundary: none
Main exports: Proc.waitsForHlr, Proc.hlrAnswered, procsRun_hlrAnswer, hlr_answer_lost,
  procsRun_oneLu
-/
import OsmoMsc.Vlr.SubscrProcs
import OsmoMsc.Vlr.LuRun

namespace OsmoMsc.Vlr

open Library List

/-! ### One location update -/

variable {par : LuPar} {i : Nat} {env : LuEnv}

section LocationUpdate

variable {cfg : VlrCfg} {par : LuPar} {ended : Bool} {s s' : Lu}

/-- Whether it has ended may be judged now, or not at all. -/
theorem luInv_now (inv : LuInv par false s) : LuInv par s.fi.terminating s :=
  ⟨⟨inv.parent.safe, { inv.parent.sound with final := id }⟩, inv.child⟩

theorem luInv_weaken (inv : LuInv par ended s) : LuInv par false s :=
  ⟨⟨inv.parent.safe, { inv.parent.sound with final := fun never => by cases never }⟩, inv.child⟩

/-- A procedure that has not ended can always be ended. -/
theorem luFsmDone_eq (success : Bool) (running : s.fi.terminating = false)
    (ongoing : s.fi.state ≠ .done) :
    luFsmDone success s = Lu.record (.parentEvent success)
      { s with
        fi := { state := .done, terminating := true }
        auth := none, updHlrVlrFsm := none, luComplVlrFsm := none } :=
  luFsmDone_cases.resolve_left fun stays => ongoing (stays.2 running)

theorem luFsmFailure_ends {cause : Nat} (good : LuGood par false s) :
    (luFsmFailure cause s).fi.terminating = true := by
  cases running : s.fi.terminating with
  | true =>
      have finished : LuGood par true s := ⟨good.safe, { good.sound with final := fun _ => running }⟩
      exact (luFsmFailure_good finished).sound.final rfl
  | false =>
      have ongoing : s.fi.state ≠ .done := by
        intro done
        rw [good.sound.done done] at running
        cases running
      unfold luFsmFailure
      rw [luFsmDone_eq]
      · rfl
      · exact running
      · exact ongoing

/-- `vlr_loc_update_cancel()` ends the procedure, wherever it is. -/
theorem luCancel_ends {cause : Nat} (alive : s.aborted = false) (good : LuGood par false s) :
    (luStep cfg par s (env, .cancel cause)).fi.terminating = true := by
  have ready : LuGood par false { s with env := env } := good.of_eq rfl rfl (.inl rfl) id
  have running : ¬ s.aborted = true := by simp [alive]
  unfold luStep vlrLocUpdateCancel
  rw [if_neg running]
  dsimp only
  split
  · rename_i done
    exact good.sound.done done
  · exact luFsmFailure_ends ready

/-- The end of Update_HLR_VLR takes the procedure on, or ends it. -/
theorem luFsmUpdHlrCompl_leaves (cause : Option Nat) (running : s.fi.terminating = false)
    (state : s.fi.state = .waitHlrUpd) (gone : s.updHlrVlrFsm = none) :
    let s' := luFsmUpdHlrCompl cfg par cause s
    s'.updHlrVlrFsm = none ∧ s'.fi.state ≠ .waitHlrUpd ∧
      (cause.isSome = true → s'.fi.terminating = true) := by
  cases cause with
  | some cause =>
      have ends : luFsmFailure cause s = _ :=
        luFsmDone_eq false (s := s.record _) running (by simp [Lu.record, state])
      dsimp only [luFsmUpdHlrCompl]
      rw [ends]
      exact ⟨rfl, by simp [Lu.record], fun _ => rfl⟩
  | none =>
      have frame : LuFrame { s with fi := { s.fi with state := .waitLuCompl, timer := some 0 } }
          (luFsmUpdHlrCompl cfg par none s) := by
        unfold luFsmUpdHlrCompl
        rw [luStateChg_eq running (by rw [state]; rfl)]
        exact vlrLocUpdStartLuComplFsm_frame
      refine ⟨?_, fun still => ?_, by simp⟩
      · rcases frame.updHlr with same | none
        · exact same.trans gone
        · exact none
      · rcases frame.fi with same | ⟨-, same | done⟩
        · rw [same] at still
          cases still
        · rw [still] at same
          cases same
        · rw [still] at done
          cases done

/-- The answer of the HLR reaches the child that waits for it, and through it the procedure. -/
theorem luHlrLuRes_delivered (env : LuEnv) (cause : Option Nat) (alive : s.aborted = false)
    (running : s.fi.terminating = false) (sound : LuSound false s) {fi : Inst UpdHlrState}
    (there : s.updHlrVlrFsm = some fi) :
    let s' := luStep cfg par s (env, .hlrLuRes cause)
    s'.updHlrVlrFsm = none ∧ s'.fi.state ≠ .waitHlrUpd ∧ .hlrLuRes cause ∈ s'.log ∧
      (cause.isSome = true → s'.fi.terminating = true) := by
  obtain ⟨state, waiting, child⟩ := sound.waits fi there
  have accepted : ∀ e, vlrLuFsmTable.inEvent .waitHlrUpd e = true →
      s.fi.accepts vlrLuFsmTable e = true := by
    intro e inEvent
    simp [Inst.accepts, running, state, inEvent]
  have answer : ∀ vsub, (updHlrVlrDispatch (cause.elim .updLocAck .updLocNack) fi vsub).ended =
      some cause := by
    intro vsub
    cases cause <;> simp [updHlrVlrDispatch, Inst.accepts, updHlrVlrTable, waiting, child]
  obtain ⟨t, handled, fi_eq, gone, log⟩ : ∃ t,
      luStep cfg par s (env, .hlrLuRes cause) = luFsmUpdHlrCompl cfg par cause t ∧
        t.fi = s.fi ∧ t.updHlrVlrFsm = none ∧ .hlrLuRes cause ∈ t.log := by
    refine ⟨{ s with
      vsub := (updHlrVlrDispatch (cause.elim .updLocAck .updLocNack) fi s.vsub).vsub
      env := env, updHlrVlrFsm := none, log := s.log ++ [.hlrLuRes cause] }, ?_, rfl, rfl, ?_⟩
    · have awake : ¬ s.aborted = true := by simp [alive]
      unfold luStep
      rw [if_neg awake]
      dsimp only
      unfold luFsmDispatch
      rw [if_pos (accepted _ rfl)]
      dsimp only [luFsmHlrLuRes, Lu.record]
      rw [there]
      dsimp only
      rw [answer]
      dsimp only [luFsmDispatchUpdHlr]
      rw [if_pos (accepted _ rfl)]
    · exact mem_concat_self
  have left := @luFsmUpdHlrCompl_leaves cfg par t cause (fi_eq ▸ running) (fi_eq ▸ state) gone
  rw [handled]
  exact ⟨left.1, left.2.1, luFsmUpdHlrCompl_keeps.grows.subset log, left.2.2⟩

end LocationUpdate

/-! ### The subscriber -/

/-- Every location update is as it should be, and one that is still going on is the one the record
points to. -/
def OwnerInv (s : SubscrProcs) : Prop :=
  ∀ (i : Nat) par lu, s.procs[i]? = some (Proc.lu par lu) →
    LuInv par false lu ∧ (lu.fi.terminating = false → s.luFsm = some i)

section Subscriber

variable {cfg : VlrCfg} {s : SubscrProcs}

theorem settle_owner {before after : Proc}
    (others : ∀ j : Nat, j ≠ i → ∀ par lu, s.procs[j]? = some (Proc.lu par lu) →
      LuInv par false lu ∧ (lu.fi.terminating = false → s.luFsm = some j))
    (own : ∀ par lu, after = Proc.lu par lu →
      LuInv par false lu ∧ (lu.fi.terminating = false → s.luFsm = some i)) :
    OwnerInv (s.settle i before after) := by
  intro j par lu there
  change (s.procs.set i after)[j]? = some (Proc.lu par lu) at there
  rw [getElem?_set] at there
  split at there
  · rename_i same
    subst same
    split at there
    · obtain ⟨sound, owner⟩ := own par lu (Option.some.inj there)
      refine ⟨sound, fun running => ?_⟩
      have ongoing : after.terminating = false := by
        rw [Option.some.inj there]
        exact running
      simp [SubscrProcs.settle, ongoing, owner running]
    · cases there
  · rename_i other
    obtain ⟨sound, owner⟩ := others j (Ne.symm other) par lu there
    refine ⟨sound, fun running => ?_⟩
    have apart : ¬ (s.luFsm = some i ∧ after.terminating = true) := by
      rintro ⟨points, -⟩
      rw [owner running] at points
      exact other (Option.some.inj points).symm
    simp only [SubscrProcs.settle, apart, if_false]
    exact owner running

theorem onLu_owner (i : Nat) (env : LuEnv) (input : LuInput) (inv : OwnerInv s) :
    OwnerInv (s.onLu cfg i env input) := by
  unfold SubscrProcs.onLu
  split
  · rename_i par lu there
    obtain ⟨sound, owner⟩ := inv i par lu there
    refine settle_owner (fun j _ => inv j) ?_
    rintro _ _ ⟨rfl, rfl⟩
    have before := luInv_now sound
    have sound : LuInv par lu.fi.terminating { lu with vsub := s.vsub } :=
      before.of_child (before.parent.of_eq rfl rfl (Or.inl rfl) id) (Or.inl rfl)
    have after : LuInv par lu.fi.terminating
        (luStep cfg par { lu with vsub := s.vsub } (env, input)) :=
      (luStep_takes (env, input)).1 sound
    refine ⟨luInv_weaken after, fun running => ?_⟩
    refine owner (Bool.eq_false_iff.mpr fun finished => ?_)
    rw [after.parent.sound.final finished] at running
    cases running
  · exact inv

theorem onArq_owner {env : ArqEnv} {input : ArqInput} (inv : OwnerInv s) :
    OwnerInv (s.onArq cfg i env input) := by
  unfold SubscrProcs.onArq
  split
  · exact settle_owner (fun j _ => inv j) fun _ _ same => Proc.noConfusion same
  · exact inv

theorem replaceLu_owner (inv : OwnerInv s) : OwnerInv (s.replaceLu cfg) := by
  unfold SubscrProcs.replaceLu
  split
  · exact onLu_owner _ _ _ inv
  · exact inv

/-- An assertion has failed in none of the procedures. -/
theorem SubscrProcs.lu_alive {lu : Lu} (running : s.aborted = false)
    (there : s.procs[i]? = some (Proc.lu par lu)) : lu.aborted = false :=
  Bool.eq_false_iff.mpr fun aborted => Bool.eq_false_iff.mp running
    (any_eq_true.mpr ⟨_, mem_of_getElem? there, aborted⟩)

/-- Before another location update starts, every earlier one has ended. -/
theorem replaceLu_ended (inv : OwnerInv s) (alive : s.aborted = false) {lu : Lu}
    (there : (s.replaceLu cfg).procs[i]? = some (Proc.lu par lu)) : lu.fi.terminating = true := by
  by_contra ongoing
  have owned : OwnerInv (s.replaceLu cfg) := replaceLu_owner inv
  have points := (owned i par lu there).2 (by simpa using ongoing)
  unfold SubscrProcs.replaceLu at points there
  cases old : s.luFsm with
  | none =>
      rw [old] at points
      cases old.symm.trans points
  | some k =>
      rw [old] at points there
      unfold SubscrProcs.onLu at points there
      dsimp only at points there
      split at points
      · rename_i par' lu' its
        have awake : lu'.aborted = false := SubscrProcs.lu_alive alive its
        have ends : (luStep cfg par' { lu' with vsub := s.vsub }
            ({}, .cancel RejectCause.congestion.code)).fi.terminating = true :=
          luCancel_ends awake ((inv k par' lu' its).1.parent.of_eq rfl rfl (Or.inl rfl) id)
        simp [SubscrProcs.settle, Proc.terminating, old, ends] at points
      · rename_i other
        obtain rfl : k = i := Option.some.inj (old.symm.trans points)
        split at there
        · rename_i its
          exact other _ _ its
        · exact other _ _ there

/-- A location update that cannot be associated with the record ends at once. -/
theorem vlrLocUpdate_unassociated {vsub : VlrSubscr} (refused : env.assocOk = false) :
    (vlrLocUpdate cfg par env (some vsub)).fi.terminating = true := by
  have rejected : vlrLocUpdate cfg par env (some vsub) =
      luFsmFailure RejectCause.networkFailure.code
        { env := env, vsub := { vsub with subDataconfByHlrInd := false, lac := par.newLac } } := by
    simp [vlrLocUpdate, luFsmDispatch, luFsmIdle, Inst.accepts, vlrLuFsmTable, refused]
  rw [rejected]
  exact luFsmFailure_ends (luGood_fresh par env _)

/-- A procedure in the list after one was added is that one or was there before. -/
theorem of_getElem?_concat {procs : List Proc} {added p : Proc} {j : Nat}
    (there : (procs ++ [added])[j]? = some p) : j = procs.length ∧ p = added ∨ procs[j]? = some p := by
  rw [getElem?_append] at there
  split at there
  · exact .inr there
  · rename_i beyond
    rw [getElem?_singleton] at there
    split at there
    · exact .inl ⟨by omega, (Option.some.inj there).symm⟩
    · cases there

theorem startLu_owner (inv : OwnerInv s)
    (ended : ∀ (i : Nat) par lu, s.procs[i]? = some (Proc.lu par lu) → lu.fi.terminating = true) :
    OwnerInv (s.startLu cfg par env) := by
  unfold SubscrProcs.startLu
  refine settle_owner (fun j other par' lu there => ?_) ?_
  · have before : s.procs[j]? = some (Proc.lu par' lu) :=
      (of_getElem?_concat there).resolve_left fun last => other last.1
    refine ⟨(inv j par' lu before).1, fun running => ?_⟩
    rw [ended j par' lu before] at running
    cases running
  · rintro _ _ ⟨rfl, rfl⟩
    refine ⟨vlrLocUpdate_inv, fun running => ?_⟩
    have associated : env.assocOk = true := by
      by_contra refused
      rw [vlrLocUpdate_unassociated (by simpa using refused)] at running
      cases running
    simp [associated]

theorem replaceArq_owner (inv : OwnerInv s) : OwnerInv (s.replaceArq cfg) := by
  unfold SubscrProcs.replaceArq
  split
  · exact onArq_owner inv
  · exact inv

/-- An access request is added. -/
theorem OwnerInv.addArq {par : ProcArqPar} {arq : Arq} {t : SubscrProcs} (inv : OwnerInv s)
    (procs : t.procs = s.procs ++ [Proc.arq par arq]) (luFsm : t.luFsm = s.luFsm) : OwnerInv t := by
  intro j par' lu there
  rw [procs] at there
  rw [luFsm]
  exact inv j par' lu ((of_getElem?_concat there).resolve_left fun last => Proc.noConfusion last.2)

theorem accReq_owner {par : ProcArqPar} {env : ArqEnv} {found : Bool} (inv : OwnerInv s) :
    OwnerInv (s.accReq cfg par env found) := by
  unfold SubscrProcs.accReq
  split
  · have replaced : OwnerInv (s.replaceArq cfg) := replaceArq_owner inv
    have started : OwnerInv { s.replaceArq cfg with
        procs := (s.replaceArq cfg).procs ++ [Proc.arq par {}]
        procArqFsm := some (s.replaceArq cfg).procs.length } := replaced.addArq rfl rfl
    exact settle_owner (fun j _ => started j) fun _ _ same => Proc.noConfusion same
  · exact inv.addArq rfl rfl

/-- Whatever happens, a location update that is still going on is the one the record points to. -/
theorem procsStep_owner {input : ProcsInput} (inv : OwnerInv s) :
    OwnerInv (procsStep cfg s input) := by
  unfold procsStep
  split
  · exact inv
  · rename_i running
    have alive : s.aborted = false := by simpa using running
    have silent : OwnerInv { s with watch := { s.watch with request := none } } := inv
    have alive : { s with watch := { s.watch with request := none } }.aborted = false := alive
    generalize { s with watch := { s.watch with request := none } } = s at silent alive ⊢
    cases input with
    | locUpdate par env =>
        exact startLu_owner (replaceLu_owner silent) fun _ _ _ there =>
          replaceLu_ended silent alive there
    | accReq par env found => exact accReq_owner silent
    | lu i env input =>
        dsimp only [SubscrProcs.handle]
        split
        · exact onLu_owner i env input silent
        · exact silent
    | arq i env input =>
        dsimp only [SubscrProcs.handle]
        split
        · exact onArq_owner silent
        · exact silent
    | handleLu env cause =>
        dsimp only [SubscrProcs.handle, SubscrProcs.vlrSubscrHandleLu]
        split
        · exact silent
        · split
          · exact silent
          · exact onLu_owner _ env _ silent
    | sgs _ | written _ => exact silent

theorem procsRun_owner (cfg : VlrCfg) (inputs : List ProcsInput) :
    OwnerInv (procsRun cfg inputs) := by
  have fresh : OwnerInv {} := fun i par lu there => by simp at there
  exact foldl_invariant_always (fun _ input inv => procsStep_owner inv) inputs {} fresh

/-- Whatever happens to a subscriber, at most one of its location updates is going on. -/
theorem procsRun_oneLu (cfg : VlrCfg) (inputs : List ProcsInput) :
    {i : Nat | ∃ par lu, (procsRun cfg inputs).procs[i]? = some (Proc.lu par lu) ∧
      lu.fi.terminating = false}.Subsingleton := by
  rintro i ⟨par, lu, there, running⟩ j ⟨par', lu', there', running'⟩
  have owned := procsRun_owner cfg inputs
  have first := (owned i par lu there).2 running
  have second := (owned j par' lu' there').2 running'
  exact Option.some.inj (first.symm.trans second)

end Subscriber

/-! ### The answer -/

/-- An instance of Update_HLR_VLR that waits for the HLR. -/
def isWaitingForHlr (fi : Inst UpdHlrState) : Bool :=
  decide (fi.state = .waitForData) && !fi.terminating

/-- The procedure has such a child. -/
def Proc.waitsForHlr : Proc → Bool
  | .lu _ s => !s.fi.terminating && s.updHlrVlrFsm.any isWaitingForHlr
  | .arq _ s => !s.fi.terminating && s.ulChildFsm.any isWaitingForHlr

/-- The child has ended, and its parent does not wait for it any more.  A location update knows
which answer it was, and a refusal ends it; an access request takes any answer. -/
def Proc.hlrAnswered (cause : Option Nat) : Proc → Prop
  | .lu _ s =>
      s.updHlrVlrFsm = none ∧ s.fi.state ≠ .waitHlrUpd ∧ .hlrLuRes cause ∈ s.log ∧
        (cause.isSome = true → s.fi.terminating = true)
  | .arq _ s => s.ulChildFsm = none ∧ s.fi.state ≠ .waitUpdLocChild

def Proc.isLu : Proc → Bool
  | .lu _ _ => true
  | .arq _ _ => false

/-- If the procedure has a child that waits for the HLR, the answer is delivered to it, whichever
answer it is. -/
def DeliversHlrAnswer (cfg : VlrCfg) (s : SubscrProcs) (i : Nat) : Prop :=
  ∀ p, s.procs[i]? = some p → p.waitsForHlr = true → ∀ env cause,
    ∃ p', (procsStep cfg s (.handleLu env cause)).procs[i]? = some p' ∧ p'.hlrAnswered cause

/-- A waiting Update_HLR_VLR child of a location update gets the answer of the HLR, in every
reachable state of a running VLR in which the subscriber has no location update over SGs in
progress. -/
theorem procsRun_hlrAnswer (cfg : VlrCfg) (inputs : List ProcsInput)
    (running : (procsRun cfg inputs).aborted = false)
    (noSgs : (procsRun cfg inputs).sgsState ≠ .laUpdPres) (i : Nat)
    (startedByLu : ∀ p, (procsRun cfg inputs).procs[i]? = some p → p.isLu = true) :
    DeliversHlrAnswer cfg (procsRun cfg inputs) i := by
  have inv := procsRun_owner cfg inputs
  generalize procsRun cfg inputs = s at running noSgs startedByLu inv ⊢
  intro p there waits env cause
  cases p with
  | arq par arq => cases startedByLu _ there
  | lu par lu =>
      obtain ⟨ongoing, child⟩ := Bool.and_eq_true_iff.mp waits
      have ongoing : lu.fi.terminating = false := by simpa using ongoing
      obtain ⟨fi, present, -⟩ := (Option.any_eq_true _ _).mp child
      obtain ⟨good, owner⟩ := inv i par lu there
      have sound : LuSound false { lu with vsub := s.vsub } :=
        good.parent.sound.of_eq rfl (Or.inl rfl) id
      have alive : lu.aborted = false := SubscrProcs.lu_alive running there
      have delivered := @luHlrLuRes_delivered cfg par { lu with vsub := s.vsub } env cause alive
        ongoing sound fi present
      refine ⟨.lu par (luStep cfg par { lu with vsub := s.vsub } (env, .hlrLuRes cause)), ?_,
        delivered⟩
      have awake : ¬ s.aborted = true := by simp [running]
      unfold procsStep
      rw [if_neg awake]
      dsimp only [SubscrProcs.handle, SubscrProcs.vlrSubscrHandleLu]
      rw [if_neg noSgs, owner ongoing]
      dsimp only [SubscrProcs.onLu]
      rw [there]
      exact List.getElem?_set_self (List.getElem?_eq_some_iff.mp there).1

/-- Neither authentication nor ciphering. -/
def plainPar : LuPar where
  attempted required := by cases required

/-- A location update that has asked the HLR. -/
def askedRun : List ProcsInput :=
  [.written { imsi := [0, 0, 1] }, .locUpdate plainPar {}]

theorem procsRun_hlrAnswer_asked :
    (((procsRun {} askedRun).procs[0]?).any Proc.waitsForHlr = true) ∧
      DeliversHlrAnswer {} (procsRun {} askedRun) 0 := by
  refine ⟨by decide +kernel, procsRun_hlrAnswer {} askedRun (by decide +kernel)
    (by decide +kernel) 0 fun p there => ?_⟩
  have kind : ((procsRun {} askedRun).procs[0]?).all Proc.isLu = true := by decide +kernel
  rw [there] at kind
  exact kind

/-- A child that still waits has not been given the answer. -/
theorem not_deliversHlrAnswer {cfg : VlrCfg} {s : SubscrProcs}
    (before : (s.procs[i]?).any Proc.waitsForHlr = true)
    (after : ((procsStep cfg s (.handleLu {} none)).procs[i]?).any Proc.waitsForHlr = true) :
    ¬ DeliversHlrAnswer cfg s i := by
  intro delivers
  obtain ⟨p, there, waits⟩ := (Option.any_eq_true _ _).mp before
  obtain ⟨p', there', answered⟩ := delivers p there waits {} none
  rw [there'] at after
  cases p' with
  | lu _ _ | arq _ _ => simp [Proc.waitsForHlr, answered.1] at after

/-- The HLR has refused the second location update, so an access request has to ask it again; and a
location update that has asked the HLR finds one over SGs in its way. -/
theorem hlr_answer_lost :
    ¬ DeliversHlrAnswer {} (procsRun {} (askedRun ++
        [.handleLu {} none, .locUpdate plainPar {}, .handleLu {} (some 17), .accReq {} {} true])) 2 ∧
      ¬ DeliversHlrAnswer {} (procsRun {} (askedRun ++ [.sgs .laUpdPres])) 0 :=
  ⟨not_deliversHlrAnswer (by decide +kernel) (by decide +kernel),
    not_deliversHlrAnswer (by decide +kernel) (by decide +kernel)⟩

end OsmoMsc.Vlr
