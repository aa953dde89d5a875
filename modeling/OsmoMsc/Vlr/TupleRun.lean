/-
Module: OsmoMsc.Vlr.TupleRun
Purpose: How often a vector is used, and with what ciphering is started, over all runs of location
  updates and access requests of one subscriber.  Both are bounded as long as ciphering is started
  by procedures that have authenticated the subscriber or may re-use the last tuple, and while no
  challenge is open.  Neither condition is enforced, and two runs show what happens without it.
Trusted boundary: none
Main exports: procsRun_uses, vector_used_too_often, procsRun_ciphering, ciphering_unverified
-/
import OsmoMsc.Vlr.SubscrProcs
import OsmoMsc.Vlr.LuRun
import OsmoMsc.Vlr.AccessReqRun
import OsmoMsc.Vlr.AuthCheck
import Mathlib.Data.List.Count

namespace OsmoMsc.Vlr

open Library List

/-! ### Invariants of the record and the watch -/

/-- The uses of the present vectors are among those counted in their tuples, which the limit
bounds; the uses of earlier vectors were bounded when they were replaced. -/
structure UseInv (limit : Int) (vsub : VlrSubscr) (w : TupleWatch) : Prop where
  counted : ∀ slot, (w.uses.count (w.deliveries, slot) : Int) ≤ (vsub.authTuples slot).useCount
  limited : ∀ slot, (vsub.authTuples slot).useCount ≤ limit + 1
  bounded : ∀ id, (w.uses.count id : Int) ≤ limit + 1
  delivered : ∀ id ∈ w.uses, id.1 ≤ w.deliveries

/-- The record's security context comes from a response that was verified against the last tuple,
unless a challenge is open. -/
def ContextInv (vsub : VlrSubscr) (w : TupleWatch) : Prop :=
  w.answered = true → vsub.secCtx ≠ .none →
    ∃ slot, vsub.lastTuple = some slot ∧ (slot, vsub.secCtx) ∈ w.verified

/-! ### Uses -/

variable {before after p : Proc} {vsub : VlrSubscr} {grounds : Option Grounds} {new : List TupleAct}
  {par : ProcArqPar}

section Uses

variable {cfg : VlrCfg} {limit : Int} {vsub' : VlrSubscr} {w w' : TupleWatch}

/-- The invariant reads the counts of the tuples and, of the watch, the uses and the number of
deliveries. -/
theorem UseInv.of_eq (inv : UseInv limit vsub w)
    (counts : ∀ slot, (vsub'.authTuples slot).useCount = (vsub.authTuples slot).useCount)
    (uses : w'.uses = w.uses) (deliveries : w'.deliveries = w.deliveries) :
    UseInv limit vsub' w' := by
  refine ⟨fun slot => ?_, fun slot => ?_, fun id => ?_, fun id member => ?_⟩
  · rw [uses, deliveries, counts]
    exact inv.counted slot
  · rw [counts]
    exact inv.limited slot
  · rw [uses]
    exact inv.bounded id
  · rw [deliveries]
    exact inv.delivered id (uses ▸ member)

theorem useTuple_useCount (vsub : VlrSubscr) (slot other : Fin 5) :
    ((vsub.useTuple slot).authTuples other).useCount =
      (vsub.authTuples other).useCount + if other = slot then 1 else 0 := by
  by_cases same : other = slot
  · subst same
    simp [VlrSubscr.useTuple]
  · simp [VlrSubscr.useTuple, same]

/-- A use that is counted in the tuple, whether it is noted or not. -/
theorem UseInv.use {slot : Fin 5} (inv : UseInv limit vsub w)
    (allowed : (vsub.authTuples slot).useCount ≤ limit)
    (counts : vsub'.authTuples = (vsub.useTuple slot).authTuples)
    (uses : w'.uses = w.uses ∨ w'.uses = (w.deliveries, slot) :: w.uses)
    (deliveries : w'.deliveries = w.deliveries) : UseInv limit vsub' w' := by
  have counted : ∀ other, (w'.uses.count (w.deliveries, other) : Int) ≤
      (w.uses.count (w.deliveries, other) : Int) + if other = slot then 1 else 0 := by
    intro other
    rcases uses with same | noted
    · rw [same]
      split <;> omega
    · rw [noted, count_cons]
      by_cases same : other = slot
      · simp [same]
      · have apart : ¬ slot = other := fun eq => same eq.symm
        simp [same, apart]
  refine ⟨fun other => ?_, fun other => ?_, fun id => ?_, fun id member => ?_⟩
  · rw [deliveries, counts, useTuple_useCount]
    have before := inv.counted other
    have after := counted other
    omega
  · rw [counts, useTuple_useCount]
    have before := inv.limited other
    by_cases same : other = slot
    · subst same
      simp only [if_true]
      omega
    · simp only [same, if_false]
      omega
  · -- The vector that is used now is a present one; every other keeps its count.
    rcases uses with same | noted
    · rw [same]
      exact inv.bounded id
    · by_cases present : id = (w.deliveries, slot)
      · have after := counted slot
        have before := inv.counted slot
        rw [present]
        simp only [if_true] at after
        omega
      · rw [noted, count_cons_of_ne (Ne.symm present)]
        exact inv.bounded id
  · rw [deliveries]
    rcases uses with same | noted
    · exact inv.delivered id (same ▸ member)
    · rw [noted] at member
      rcases mem_cons.mp member with rfl | old
      · exact Nat.le_refl _
      · exact inv.delivered id old

/-- Vectors as they are delivered are unused. -/
theorem fillTuples_useCount (vecs : List AuthVector) (i : Nat) (tuples : Fin 5 → AuthTuple)
    (slot : Fin 5) : (fillTuples i vecs tuples slot).useCount = (tuples slot).useCount := by
  induction vecs generalizing i tuples with
  | nil => rfl
  | cons vec vecs ih =>
      rw [fillTuples, ih]
      split
      · rename_i inArray
        by_cases same : slot = ⟨i, inArray⟩
        · subst same
          simp
        · simp [same]
      · rfl

theorem UseInv.update (inv : UseInv limit vsub w) (limited : 0 ≤ limit) (gsup : Gsup)
    (observed : VlrSubscr) (request : CiphRequest) :
    UseInv limit (vlrSubscrUpdateTuples vsub gsup)
      (gsup.tupleActs.foldl (TupleWatch.observe observed request) w) := by
  unfold Gsup.tupleActs
  split
  · rename_i none
    refine inv.of_eq (fun slot => ?_) rfl rfl
    simp [vlrSubscrUpdateTuples, none, fillTuples]
  · rename_i some
    have unused : ∀ slot, ((vlrSubscrUpdateTuples vsub gsup).authTuples slot).useCount = 0 := by
      intro slot
      simp only [vlrSubscrUpdateTuples, some, if_false]
      rw [fillTuples_useCount]
    have fresh : ∀ slot, w.uses.count (w.deliveries + 1, slot) = 0 := by
      intro slot
      refine count_eq_zero.mpr fun member => ?_
      exact absurd (inv.delivered _ member) (by simp)
    refine ⟨fun slot => ?_, fun slot => ?_, inv.bounded, fun id member => ?_⟩
    · change (w.uses.count (w.deliveries + 1, slot) : Int) ≤ _
      rw [fresh, unused]
      exact Int.le_refl _
    · rw [unused]
      omega
    · exact Nat.le_trans (inv.delivered id member) (Nat.le_succ _)

/-- A check keeps the tuples; the record has a security context after it if the response was right
against the last tuple. -/
theorem checkAuthResp_result (vsub : VlrSubscr) (isR99 isUtran : Bool) (res : Option (List UInt8)) :
    let after := (checkAuthResp vsub isR99 isUtran res).2
    after.authTuples = vsub.authTuples ∧
      ((checkAuthResp vsub isR99 isUtran res).1 = true ↔ after.secCtx ≠ .none) ∧
      (after.secCtx ≠ .none → ∃ slot, after.lastTuple = some slot) := by
  rcases checkAuthResp_cases vsub { isR99 := isR99, isUtran := isUtran, res := res } with
    no | ⟨slot, secCtx, last, kind, yes⟩
  · rw [no]
    exact ⟨rfl, by simp, fun context => absurd rfl context⟩
  · have context : secCtx ≠ .none := by rcases kind with ⟨-, rfl⟩ | ⟨-, rfl⟩ <;> nofun
    rw [yes]
    exact ⟨rfl, by simp [context], fun _ => ⟨slot, last⟩⟩

/-- Ciphering is asked for by a procedure that has authenticated the subscriber, or that attempts
ciphering and has not been told that there are no vectors: the re-use of the last tuple has then been
asked for. -/
def CiphRequest.isCounted (request : CiphRequest) : Bool :=
  request.authenticated || (request.attempted && !request.noAuthInfo)

/-- One step of a procedure in the circuit switched domain, with the limit in force. -/
theorem UseInv.step (step : TupleStep cfg vsub vsub' new grounds)
    (strict : cfg.authReuseOldSetsOnError = false) (limited : 0 ≤ cfg.authTupleMaxReuseCount)
    (circuit : cfg.isPs = false) (held : ∀ ground ∈ grounds,
      ground.Hold cfg p.isCipheringToBeAttempted fun result => p.said result = true)
    (careful : .ciphMode ∈ new → p.request.isCounted = true)
    (inv : UseInv cfg.authTupleMaxReuseCount vsub w) :
    UseInv cfg.authTupleMaxReuseCount vsub'
      (new.foldl (TupleWatch.observe vsub' p.request) w) := by
  cases step with
  | quiet => exact inv
  | challenge slot reusable => exact inv.use (reusable strict limited) rfl (Or.inr rfl) rfl
  | update gsup => exact inv.update limited gsup _ _
  | updateChallenge gsup slot reusable =>
      rw [foldl_append]
      exact (inv.update limited gsup _ _).use (reusable strict limited) rfl (Or.inr rfl) rfl
  | checked isR99 isUtran res =>
      refine inv.of_eq (fun slot => ?_) rfl rfl
      rw [(checkAuthResp_result vsub isR99 isUtran res).1]
  | verified isR99 isUtran res ok =>
      have authenticated : p.said .passed = true := held _ rfl
      refine inv.of_eq (fun slot => ?_) ?_ rfl
      · rw [(checkAuthResp_result vsub isR99 isUtran res).1]
      · simp [TupleWatch.observe, Proc.request, authenticated]
  | ciphered ground unchecked uncounted context =>
      have ground_held := held ground rfl
      have counted := careful (mem_singleton.mpr rfl)
      have authenticated : p.said .passed = true := by
        cases ground with
        | authenticated => exact absurd rfl unchecked
        | reused => exact absurd rfl uncounted
        | noAuthInfo =>
            have told : p.said .noAuthInfo = true := ground_held
            simpa [CiphRequest.isCounted, Proc.request, told] using counted
        | notAttempted =>
            have idle : p.isCipheringToBeAttempted = false := ground_held
            simpa [CiphRequest.isCounted, Proc.request, idle] using counted
        | repeated =>
            have packet : cfg.isPs = true := ground_held
            rw [circuit] at packet
            cases packet
      refine inv.of_eq (fun _ => rfl) ?_ rfl
      simp [TupleWatch.observe, Proc.request, authenticated]
  | reused slot last reusable => exact inv.use (reusable strict limited) rfl (Or.inl rfl) rfl
  | reusedCiphered slot last reusable context =>
      refine inv.use (reusable strict limited) rfl ?_ rfl
      have still : (vsub.useTuple slot).lastTuple = some slot := last
      cases authenticated : p.said .passed with
      | true => exact Or.inl (by simp [TupleWatch.observe, Proc.request, authenticated])
      | false => exact Or.inr (by simp [TupleWatch.observe, Proc.request, authenticated, still])

end Uses

/-! ### The security context -/

section Context

variable {cfg : VlrCfg} {vsub' : VlrSubscr} {w : TupleWatch}

/-- The tuple was reset between the two records. -/
def lastReset (vsub vsub' : VlrSubscr) : Bool :=
  vsub.lastTuple.isSome && vsub'.lastTuple.isNone

theorem ContextInv.of_eq (inv : ContextInv vsub w) (last : vsub'.lastTuple = vsub.lastTuple)
    (context : vsub'.secCtx = vsub.secCtx) {w' : TupleWatch} (verified : w'.verified = w.verified)
    (answered : w'.answered = true → w.answered = true) : ContextInv vsub' w' := by
  intro open_ established
  rw [last, context, verified]
  exact inv (answered open_) (context ▸ established)

/-- A response has just been checked. -/
theorem contextInv_checked (isR99 isUtran : Bool) (res : Option (List UInt8))
    (request : CiphRequest) (ok : Bool)
    (verdict : ok = (checkAuthResp vsub isR99 isUtran res).1) :
    ContextInv (checkAuthResp vsub isR99 isUtran res).2
      (w.observe (checkAuthResp vsub isR99 isUtran res).2 request (.checked ok)) := by
  intro _ established
  obtain ⟨-, right, against⟩ := checkAuthResp_result vsub isR99 isUtran res
  have right := right.mpr established
  obtain ⟨slot, last⟩ := against established
  refine ⟨slot, last, ?_⟩
  simp [TupleWatch.observe, verdict, right, last]

/-- One step of a procedure in the circuit switched domain keeps the invariant, and if it asks for
ciphering, the security context has been established. -/
theorem ContextInv.step (step : TupleStep cfg vsub vsub' new grounds) (circuit : cfg.isPs = false)
    (held : ∀ ground ∈ grounds,
      ground.Hold cfg p.isCipheringToBeAttempted fun result => p.said result = true)
    (inv : ContextInv vsub w) :
    ContextInv vsub' (new.foldl (TupleWatch.observe vsub' p.request)
        { w with answered := w.answered && !lastReset vsub vsub' }) ∧
      (.ciphMode ∈ new → vsub'.secCtx ≠ .none) := by
  have weaker : ∀ b : Bool, (w.answered && b) = true → w.answered = true :=
    fun b both => (Bool.and_eq_true_iff.mp both).1
  cases step with
  | quiet => exact ⟨inv.of_eq rfl rfl rfl (weaker _), nofun⟩
  | challenge slot reusable => exact ⟨nofun, by simp⟩
  | update gsup =>
      unfold Gsup.tupleActs
      split
      · refine ⟨fun open_ established => ?_, nofun⟩
        -- The old context may stay behind, but then the tuple it came from is lost in this step.
        obtain ⟨slot, last, -⟩ := inv (weaker _ open_) established
        simp [lastReset, last, vlrSubscrUpdateTuples] at open_
      · exact ⟨nofun, by simp⟩
  | updateChallenge gsup slot reusable =>
      rw [foldl_append]
      refine ⟨nofun, fun member => ?_⟩
      unfold Gsup.tupleActs at member
      split at member <;> simp at member
  | checked isR99 isUtran res =>
      exact ⟨contextInv_checked isR99 isUtran res p.request _ rfl, by simp⟩
  | verified isR99 isUtran res ok =>
      exact ⟨(contextInv_checked isR99 isUtran res p.request true ok.symm).of_eq
        rfl rfl rfl id, fun _ => (checkAuthResp_result vsub isR99 isUtran res).2.1.mp ok⟩
  | ciphered ground unchecked uncounted context =>
      refine ⟨inv.of_eq rfl rfl rfl (weaker _), fun _ => context ?_⟩
      rintro rfl
      have packet : cfg.isPs = true := held .repeated rfl
      rw [circuit] at packet
      cases packet
  | reused slot last reusable => exact ⟨inv.of_eq rfl rfl rfl (weaker _), nofun⟩
  | reusedCiphered slot last reusable context =>
      exact ⟨inv.of_eq rfl rfl rfl (weaker _), fun _ => context⟩

end Context

/-! ### Steps of the subscriber -/

/-- A procedure that found the record as `vsub` has taken one step on the tuples. -/
structure ProcStepped (cfg : VlrCfg) (vsub : VlrSubscr) (before after : Proc) : Prop where
  stepped : Stepped cfg after.isCipheringToBeAttempted vsub after.vsub before.tupleActs
    after.tupleActs fun result => after.said result = true
  child : ChildOk cfg after.auth

/-- A property of the record and the watch that procedures keep, if what the watch shows in the end
meets `ok`, and that nothing else in the VLR touches. -/
structure TupleInv (cfg : VlrCfg) (ok : TupleWatch → Prop)
    (R : VlrSubscr → TupleWatch → Prop) : Prop where
  proc : ∀ vsub w before after, ProcStepped cfg vsub before after → w.request = none →
    ok (w.step vsub before after) → R vsub w → R after.vsub (w.step vsub before after)
  other : ∀ vsub vsub' w, vsub'.tupleState = vsub.tupleState → R vsub w → R vsub' w
  reset : ∀ vsub w, R vsub w → R vsub { w with request := none }
  idle : ∀ w, w.request = none → ok w

/-- Such a property, with every authentication child as it should be. -/
structure SubscrInv (cfg : VlrCfg) (R : VlrSubscr → TupleWatch → Prop) (s : SubscrProcs) :
    Prop where
  children : ∀ p ∈ s.procs, ChildOk cfg p.auth
  holds : R s.vsub s.watch

section Steps

variable {cfg : VlrCfg} {ok : TupleWatch → Prop} {R : VlrSubscr → TupleWatch → Prop}
  {s : SubscrProcs}

/-- A procedure that has nothing to say about the tuples asks for nothing. -/
theorem settle_silent {i : Nat} (same : after.tupleActs = before.tupleActs)
    (silent : s.watch.request = none) : (s.settle i before after).watch.request = none := by
  simp [SubscrProcs.settle, TupleWatch.step, same, silent]

theorem luCancel_keeps (par : LuPar) (lu : Lu) (env : LuEnv) (cause : Nat) :
    LuKeeps lu (luStep cfg par lu (env, .cancel cause)) := by
  have answered : LuFrame lu { lu with env := env } := LuFrame.of_eq rfl rfl
  unfold luStep vlrLocUpdateCancel
  dsimp only
  split
  · exact (LuFrame.refl lu).toLuKeeps
  · split
    · exact answered.toLuKeeps
    · exact (answered.trans luFsmFailure_frame).toLuKeeps

theorem vlrLocUpdate_stepped {par : LuPar} {env : LuEnv} :
    ProcStepped cfg vsub (.lu par {}) (.lu par (vlrLocUpdate cfg par env (some vsub))) := by
  have takes : LuTakes cfg par false _ { vsub := vsub, env := env }
      (luFsmIdle cfg par (some vsub) { env := env }) := luFsmIdle_takes (s := { env := env }) vsub
  obtain ⟨stepped, child⟩ := takes.stepped (ChildOk.empty cfg)
  exact ⟨stepped, child⟩

theorem vlrProcAccReq_stepped {env : ArqEnv} (known : par.mi ≠ .other) :
    ProcStepped cfg vsub (.arq par {}) (.arq par (vlrProcAccReq cfg par env (some vsub))) := by
  have takes : ArqTakes cfg par { vsub := vsub, env := env }
      (procArqVlrAssoc cfg par vsub { env := env }) :=
    procArqVlrAssoc_takes (s := { env := env }) cfg vsub
  have start : vlrProcAccReq cfg par env (some vsub) =
      procArqVlrAssoc cfg par vsub { env := env } := by
    simp only [vlrProcAccReq, known, if_false]
    rfl
  obtain ⟨stepped, child⟩ := takes.stepped (ChildOk.empty cfg)
  rw [start]
  exact ⟨stepped, child⟩

/-- A procedure without an authentication child may be added at any time. -/
theorem SubscrInv.add {t : SubscrProcs} (inv : SubscrInv cfg R s) (procs : t.procs = s.procs ++ [p])
    (idle : p.auth = none) (vsub : t.vsub = s.vsub) (watch : t.watch = s.watch) :
    SubscrInv cfg R t := by
  refine ⟨fun q member => ?_, ?_⟩
  · rw [procs] at member
    rcases mem_concat.mp member with old | rfl
    · exact inv.children q old
    · intro inst there
      rw [idle] at there
      cases there
  · rw [vsub, watch]
    exact inv.holds

/-- An access request that has found nobody has no authentication child. -/
theorem vlrProcAccReq_unknown {env : ArqEnv} : (vlrProcAccReq cfg par env none).auth = none := by
  have ends : ∀ cause, (procArqFsmDone par cause { env := env }).auth = none :=
    fun cause => (procArqFsmDone_keeps (s := { env := env }) cause).auth.elim id id
  unfold vlrProcAccReq
  split
  · exact ends _
  · change (procArqVlrFnInit cfg par none { env := env }).auth = none
    unfold procArqVlrFnInit
    dsimp only
    split
    · rfl
    · exact ends _

variable (rule : TupleInv cfg ok R)

include rule

section

variable (inv : SubscrInv cfg R s) (silent : s.watch.request = none)

include inv silent

theorem settle_inv {i : Nat} (stepped : ProcStepped cfg s.vsub before after)
    (careful : ok (s.settle i before after).watch) : SubscrInv cfg R (s.settle i before after) := by
  refine ⟨fun p member => ?_, rule.proc _ _ _ _ stepped silent careful inv.holds⟩
  rcases mem_or_eq_of_mem_set member with old | rfl
  · exact inv.children p old
  · exact stepped.child

theorem onLu_inv (i : Nat) (env : LuEnv) {input : LuInput} (foreign : input.keepsTuples s.vsub)
    (careful : ok (s.onLu cfg i env input).watch) : SubscrInv cfg R (s.onLu cfg i env input) := by
  unfold SubscrProcs.onLu at careful ⊢
  split at careful
  · rename_i par lu there
    have child : ChildOk cfg lu.auth := inv.children _ (mem_of_getElem? there)
    have stepped : HostStepped cfg par.isCipheringToBeAttempted luTuples { lu with vsub := s.vsub }
        (luStep cfg par { lu with vsub := s.vsub } (env, input)) :=
      (@luStep_takes cfg par false _ (env, input)).2 foreign child
    exact settle_inv rule inv silent ⟨stepped.stepped, stepped.child⟩ careful
  · exact inv

theorem onArq_inv (i : Nat) (env : ArqEnv) {input : ArqInput} (foreign : input.keepsTuples s.vsub)
    (careful : ok (s.onArq cfg i env input).watch) : SubscrInv cfg R (s.onArq cfg i env input) := by
  unfold SubscrProcs.onArq at careful ⊢
  split at careful
  · rename_i par arq there
    have child : ChildOk cfg arq.auth := inv.children _ (mem_of_getElem? there)
    have stepped : HostStepped cfg par.isCipheringToBeAttempted arqTuples
        { arq with vsub := s.vsub } (arqStep cfg par { arq with vsub := s.vsub } (env, input)) :=
      (arqStep_takes cfg (env, input)).2 foreign child
    exact settle_inv rule inv silent ⟨stepped.stepped, stepped.child⟩ careful
  · exact inv

/-- A location update that is replaced goes away quietly. -/
theorem replaceLu_inv :
    SubscrInv cfg R (s.replaceLu cfg) ∧ (s.replaceLu cfg).watch.request = none := by
  unfold SubscrProcs.replaceLu
  split
  · rename_i old _
    have quiet : (s.onLu cfg old {} (.cancel RejectCause.congestion.code)).watch.request = none := by
      unfold SubscrProcs.onLu
      split
      · exact settle_silent (luCancel_keeps _ _ _ _).acts silent
      · exact silent
    exact ⟨onLu_inv rule inv silent old {} trivial (rule.idle _ quiet), quiet⟩
  · exact ⟨inv, silent⟩

/-- So does an access request. -/
theorem replaceArq_inv :
    SubscrInv cfg R (s.replaceArq cfg) ∧ (s.replaceArq cfg).watch.request = none := by
  unfold SubscrProcs.replaceArq
  split
  · rename_i old _
    have quiet : (s.onArq cfg old {} .superseded).watch.request = none := by
      unfold SubscrProcs.onArq
      split
      · rename_i par arq _
        have keeps : ArqKeeps { arq with vsub := s.vsub, env := {} }
            (procArqFsmDone par RejectCause.networkFailure.code
              { arq with vsub := s.vsub, env := {} }) := procArqFsmDone_keeps _
        exact settle_silent keeps.acts silent
      · exact silent
    exact ⟨onArq_inv rule inv silent old {} trivial (rule.idle _ quiet), quiet⟩
  · exact ⟨inv, silent⟩

theorem locUpdate_inv (par : LuPar) (env : LuEnv) (careful : ok (s.locUpdate cfg par env).watch) :
    SubscrInv cfg R (s.locUpdate cfg par env) := by
  obtain ⟨replaced, quiet⟩ := replaceLu_inv rule inv silent
  refine settle_inv rule ?_ ?_ vlrLocUpdate_stepped careful
  · exact replaced.add rfl rfl rfl rfl
  · exact quiet

theorem accReq_inv (par : ProcArqPar) (env : ArqEnv) (found : Bool)
    (careful : ok (s.accReq cfg par env found).watch) :
    SubscrInv cfg R (s.accReq cfg par env found) := by
  unfold SubscrProcs.accReq at careful ⊢
  split
  · rename_i known
    rw [if_pos known] at careful
    obtain ⟨replaced, quiet⟩ := replaceArq_inv rule inv silent
    refine settle_inv rule ?_ ?_ (vlrProcAccReq_stepped known.2) careful
    · exact replaced.add rfl rfl rfl rfl
    · exact quiet
  · exact inv.add rfl vlrProcAccReq_unknown rfl rfl

theorem handle_inv (input : ProcsInput) (careful : ok (s.handle cfg input).watch) :
    SubscrInv cfg R (s.handle cfg input) := by
  cases input with
  | locUpdate par env => exact locUpdate_inv rule inv silent par env careful
  | accReq par env found => exact accReq_inv rule inv silent par env found careful
  | lu i env input =>
      dsimp only [SubscrProcs.handle] at careful ⊢
      split
      · rename_i direct
        rw [if_pos direct] at careful
        refine onLu_inv rule inv silent i env ?_ careful
        cases input with
        | vsubWritten _ => cases direct
        | _ => trivial
      · exact inv
  | arq i env input =>
      dsimp only [SubscrProcs.handle] at careful ⊢
      split
      · rename_i direct
        rw [if_pos direct] at careful
        refine onArq_inv rule inv silent i env ?_ careful
        cases input with
        | vsubWritten _ => cases direct
        | idImsi found =>
            intro known member
            obtain ⟨_, _, rfl⟩ := Option.map_eq_some_iff.mp member
            rfl
        | _ => trivial
      · exact inv
  | handleLu env cause =>
      dsimp only [SubscrProcs.handle, SubscrProcs.vlrSubscrHandleLu] at careful ⊢
      split
      · exact inv
      · rename_i sgs
        rw [if_neg sgs] at careful
        split
        · exact inv
        · rename_i i there
          rw [there] at careful
          exact onLu_inv rule inv silent i env trivial careful
  | sgs state => exact ⟨inv.children, inv.holds⟩
  | written vsub => exact ⟨inv.children, rule.other s.vsub _ _ rfl inv.holds⟩

end

/-- One input of the subscriber. -/
theorem procsStep_inv (input : ProcsInput) (inv : SubscrInv cfg R s)
    (careful : ok (procsStep cfg s input).watch) : SubscrInv cfg R (procsStep cfg s input) := by
  unfold procsStep at careful ⊢
  split
  · exact inv
  · rename_i running
    rw [if_neg running] at careful
    refine handle_inv rule ?_ rfl input careful
    exact ⟨inv.children, rule.reset _ _ inv.holds⟩

/-- A whole run from the creation of the record. -/
theorem procsRun_inv (fresh : R {} {}) (inputs : List ProcsInput)
    (careful : StepsMeet (procsStep cfg) (fun s input => ok (procsStep cfg s input).watch) {}
      inputs) : R (procsRun cfg inputs).vsub (procsRun cfg inputs).watch := by
  have start : SubscrInv cfg R {} := ⟨fun p member => absurd member not_mem_nil, fresh⟩
  exact (foldl_invariant (fun _ input inv met => procsStep_inv rule input inv met) inputs {}
    start careful).holds

end Steps

/-! ### Runs -/

section Runs

variable {cfg : VlrCfg}

theorem observe_tupleState (vsub : VlrSubscr) (request : CiphRequest) :
    TupleWatch.observe vsub.tupleState request = TupleWatch.observe vsub request := by
  funext w act
  cases act <;> rfl

/-- The request that is noted in a step is that of its procedure. -/
theorem foldl_observe_request (vsub : VlrSubscr) (request : CiphRequest) (new : List TupleAct)
    (w : TupleWatch) :
    (new.foldl (TupleWatch.observe vsub request) w).request =
      if .ciphMode ∈ new then some request else w.request := by
  induction new generalizing w with
  | nil => simp
  | cons act new ih =>
      rw [foldl_cons, ih]
      cases act <;> simp [TupleWatch.observe]

/-- The watch after a step, from the entries of the step. -/
theorem ProcStepped.watch (stepped : ProcStepped cfg vsub before after) (w : TupleWatch) :
    ∃ new grounds, TupleStep cfg vsub.tupleState after.vsub.tupleState new grounds ∧
      w.step vsub before after = new.foldl
        (TupleWatch.observe after.vsub.tupleState after.request)
        { w with answered := w.answered && !lastReset vsub.tupleState after.vsub.tupleState } ∧
      ∀ ground ∈ grounds, ground.Hold cfg after.isCipheringToBeAttempted
        fun result => after.said result = true := by
  obtain ⟨new, grounds, step, grown, held⟩ := stepped.stepped
  refine ⟨new, grounds, step, ?_, held⟩
  unfold TupleWatch.step
  rw [grown, drop_left, observe_tupleState]
  rfl

/-- The bound on uses is kept by steps whose requests for ciphering are counted. -/
theorem useInv_rule (strict : cfg.authReuseOldSetsOnError = false)
    (limited : 0 ≤ cfg.authTupleMaxReuseCount) (circuit : cfg.isPs = false) :
    TupleInv cfg (fun w => ∀ request ∈ w.request, request.isCounted = true)
      (UseInv cfg.authTupleMaxReuseCount) where
  proc vsub w before after stepped silent careful inv := by
    obtain ⟨new, grounds, step, watch, held⟩ := stepped.watch w
    rw [watch] at careful ⊢
    have old : UseInv cfg.authTupleMaxReuseCount vsub.tupleState
        { w with answered := w.answered && !lastReset vsub.tupleState after.vsub.tupleState } :=
      inv.of_eq (fun _ => rfl) rfl rfl
    refine (old.step step strict limited circuit held fun asked => careful _ ?_).of_eq
      (fun _ => rfl) rfl rfl
    rw [foldl_observe_request, if_pos asked]
    rfl
  other vsub vsub' w tuples inv := by
    refine inv.of_eq (fun slot => ?_) rfl rfl
    change (vsub'.tupleState.authTuples slot).useCount = _
    rw [tuples]
    rfl
  reset vsub w inv := inv.of_eq (fun _ => rfl) rfl rfl
  idle w silent := by
    rw [silent]
    exact nofun

/-- Ciphering that is asked for at a time when no challenge is open comes with a verified vector. -/
theorem contextInv_rule (circuit : cfg.isPs = false) :
    TupleInv cfg (fun w => w.request.isSome = true → w.answered = true)
      (fun vsub w => ContextInv vsub w ∧ (w.request.isSome = true →
        ∃ slot, vsub.lastTuple = some slot ∧ (slot, vsub.secCtx) ∈ w.verified)) where
  proc vsub w before after stepped silent careful inv := by
    obtain ⟨new, grounds, step, watch, held⟩ := stepped.watch w
    have old : ContextInv vsub.tupleState w := inv.1
    obtain ⟨kept, context⟩ := old.step step circuit held
    rw [watch] at careful ⊢
    refine ⟨kept, fun asked => kept (careful asked) (context ?_)⟩
    rw [foldl_observe_request] at asked
    split at asked
    · assumption
    · simp [silent] at asked
  other vsub vsub' w tuples inv := by
    have last : vsub'.lastTuple = vsub.lastTuple := by
      change vsub'.tupleState.lastTuple = _
      rw [tuples]
      rfl
    have context : vsub'.secCtx = vsub.secCtx := by
      change vsub'.tupleState.secCtx = _
      rw [tuples]
      rfl
    refine ⟨inv.1.of_eq last context rfl id, ?_⟩
    rw [last, context]
    exact inv.2
  reset vsub w inv := ⟨inv.1.of_eq rfl rfl rfl id, nofun⟩
  idle w silent := by
    rw [silent]
    exact nofun

/-- In the circuit switched domain, with re-use on errors turned off and a limit of `n` re-uses,
each vector is used at most `n + 1` times, as long as every request for ciphering is counted. -/
theorem procsRun_uses (cfg : VlrCfg) (circuit : cfg.isPs = false)
    (strict : cfg.authReuseOldSetsOnError = false) (limited : 0 ≤ cfg.authTupleMaxReuseCount)
    (inputs : List ProcsInput)
    (counted : StepsMeet (procsStep cfg) (fun s input =>
      ∀ request ∈ (procsStep cfg s input).watch.request, request.isCounted = true) {} inputs)
    (vector : Nat × Fin 5) :
    ((procsRun cfg inputs).watch.uses.count vector : Int) ≤ cfg.authTupleMaxReuseCount + 1 := by
  have unused : UseInv cfg.authTupleMaxReuseCount {} {} := by
    refine ⟨fun _ => Int.le_refl _, fun _ => ?_, fun _ => ?_, nofun⟩
    · change (0 : Int) ≤ _
      omega
    · change ((0 : Nat) : Int) ≤ _
      omega
  exact (procsRun_inv (useInv_rule strict limited circuit) unused inputs counted).bounded vector

/-- Ciphering is attempted but, like authentication, not required. -/
def attemptedPar : LuPar where
  isCipheringToBeAttempted := true
  attempted _ := rfl

/-- A location update with authentication and ciphering, from the creation of the record to the
answer of the HLR. -/
def attachRun (vectors : List AuthVector) : List ProcsInput :=
  [.written { imsi := [0, 0, 1] },
   .locUpdate attemptedPar {},
   .lu 0 {} (.auth (.hlrSaiAck { authVectors := vectors })),
   .lu 0 {} (.auth (.msAuthResp { res := some [1, 2, 3, 4] })),
   .lu 0 {} (.ciphRes .compl),
   .handleLu {} none]

/-- The vector the mobile station's response fits. -/
def gsmVector : AuthVector := { gsm := true, sres := .ofFn fun i => .ofNat (i + 1) }

/-- A CM SERVICE REQUEST after the attach is granted the one re-use that is allowed. -/
theorem procsRun_uses_reused :
    ((procsRun { authTupleMaxReuseCount := 1 } (attachRun [gsmVector] ++
        [.accReq { isCipheringToBeAttempted := true, keySeq := 0 } {} true])).watch.uses.count
      (1, 0) : Int) ≤ 1 + 1 :=
  procsRun_uses { authTupleMaxReuseCount := 1 } rfl rfl (by decide) _ (by decide +kernel) (1, 0)

/-- No re-use is allowed, and the HLR has no new vectors for the second location update: ciphering
starts with the old one a second time. -/
theorem vector_used_too_often :
    ¬ ((procsRun {} (attachRun [gsmVector] ++
        [.locUpdate attemptedPar {}, .lu 1 {} (.auth (.hlrSaiNack {}))])).watch.uses.count
      (1, 0) : Int) ≤ 0 + 1 := by
  decide +kernel

/-- In the circuit switched domain, whatever the configuration, ciphering is asked for with a vector
against which a response has been verified and with the security context established by that, as
long as no challenge is open when it is asked for. -/
theorem procsRun_ciphering (cfg : VlrCfg) (circuit : cfg.isPs = false) (inputs : List ProcsInput)
    (closed : StepsMeet (procsStep cfg) (fun s input =>
      (procsStep cfg s input).watch.request.isSome = true →
        (procsStep cfg s input).watch.answered = true) {} inputs)
    (asked : (procsRun cfg inputs).watch.request.isSome = true) :
    ∃ slot, (procsRun cfg inputs).vsub.lastTuple = some slot ∧
      (slot, (procsRun cfg inputs).vsub.secCtx) ∈ (procsRun cfg inputs).watch.verified := by
  have unasked : ContextInv {} {} := fun answered => by cases answered
  have fresh : ({} : TupleWatch).request.isSome = true → ∃ slot,
      ({} : VlrSubscr).lastTuple = some slot ∧
        (slot, ({} : VlrSubscr).secCtx) ∈ ({} : TupleWatch).verified := fun asked => by cases asked
  exact (procsRun_inv (contextInv_rule circuit) ⟨unasked, fresh⟩ inputs closed).2 asked

/-- A second vector, with another response. -/
def otherVector : AuthVector := { gsm := true, sres := #v[5, 6, 7, 8] }

/-- The request for ciphering in the attach, and with it the one of an access request that re-uses
the tuple. -/
theorem procsRun_ciphering_reused :
    ∃ slot, (procsRun { authTupleMaxReuseCount := 1 } (attachRun [gsmVector] ++
        [.accReq { isCipheringToBeAttempted := true, keySeq := 0 } {} true])).vsub.lastTuple =
          some slot ∧
      (slot, (procsRun { authTupleMaxReuseCount := 1 } (attachRun [gsmVector] ++
        [.accReq { isCipheringToBeAttempted := true, keySeq := 0 } {} true])).vsub.secCtx) ∈
      (procsRun { authTupleMaxReuseCount := 1 } (attachRun [gsmVector] ++
        [.accReq { isCipheringToBeAttempted := true, keySeq := 0 } {} true])).watch.verified :=
  procsRun_ciphering { authTupleMaxReuseCount := 1 } rfl _ (by decide +kernel) (by decide +kernel)

/-- The second access request leaves a challenge with the second vector unanswered; the third one
names that vector's key sequence number and ciphering starts with it, in the security context of the
first. -/
def unansweredRun : List ProcsInput :=
  attachRun [gsmVector, otherVector] ++
    [.accReq { isCipheringToBeAttempted := true } {} true,
     .arq 1 {} .authTimeout,
     .accReq { isCipheringToBeAttempted := true, keySeq := 1 } {} true]

theorem ciphering_unverified :
    (procsRun { authTupleMaxReuseCount := 1 } unansweredRun).watch.request.isSome = true ∧
      ¬ ∃ slot, (procsRun { authTupleMaxReuseCount := 1 } unansweredRun).vsub.lastTuple =
          some slot ∧
        (slot, (procsRun { authTupleMaxReuseCount := 1 } unansweredRun).vsub.secCtx) ∈
          (procsRun { authTupleMaxReuseCount := 1 } unansweredRun).watch.verified := by
  decide +kernel

end Runs

end OsmoMsc.Vlr
