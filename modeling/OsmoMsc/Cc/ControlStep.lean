/-
Module: OsmoMsc.Cc.ControlStep
Purpose: What the call control layer can do to its transactions.  Its handlers call each other, end
  transactions on the way and call out in between, so each of them is cut here, once, into small
  moves: a change that leaves the account of the call alone, a message, the end of a call.  A
  property of runs has to be checked for these moves only.  Runs may be asked to keep to rules.
Trusted boundary: none
Main exports: CallHistory, Tame, CcRules, CcMove, CcReach, CcInput.Meets, ccRun_reach
-/
import OsmoMsc.Cc.Control
import OsmoMsc.Library.Registry

namespace OsmoMsc.Cc

open Library (mem_concat mem_of_find NestedRun NestedRunMeeting nodup_map_concat lt_succ_of_concat)
open Relation CcNet List

variable {w w' : CcNet} {callId callref : Nat} {t t' : CcTrans} {f g : CcTrans → CcTrans}
  {k : CcNet → CcNet} {msg : MnccMsg}

/-! ### Using transactions -/

variable {id : Option Nat} {act : CcAct}

namespace CcNet

theorem update_live (live : w.crashed = false) (k : CcNet → CcNet) : w.update k = k w := by
  simp [update, live]

@[simp] theorem update_frozen (crashed : w.crashed = true) (k : CcNet → CcNet) : w.update k = w := by
  simp [update, crashed]

@[simp] theorem crash_crashed : w.crash.crashed = true := rfl

section

variable (crashed : w.crashed = true)
include crashed

@[simp] theorem emit_frozen (act : CcAct) : w.emit act = w :=
  update_frozen crashed _

@[simp] theorem withTrans_frozen (k : CcTrans → CcNet) : w.withTrans callId k = w :=
  update_frozen crashed _

@[simp] theorem onTrans_frozen : w.onTrans callId f = w :=
  withTrans_frozen crashed _

@[simp] theorem toMncc_frozen (id : Option Nat) (msg : MnccMsg) : w.toMncc id msg = w :=
  update_frozen crashed _

end

/-- The transaction is there, and the network has not crashed. -/
structure Has (w : CcNet) (callId : Nat) (t : CcTrans) : Prop where
  live : w.crashed = false
  found : w.find callId = some t

/-- What uses a transaction: nothing happens after a crash, and without the transaction there is one. -/
structure Strict (callId : Nat) (k : CcNet → CcNet) : Prop where
  frozen : ∀ w, w.crashed = true → k w = w
  missing : ∀ w, w.crashed = false → w.find callId = none → k w = w.crash

theorem strict_withTrans (k : CcNet → CcTrans → CcNet) : Strict callId fun w => w.withTrans callId (k w) where
  frozen _ crashed := withTrans_frozen crashed _
  missing w live missing := by simp [withTrans, update_live live, missing]

theorem strict_onTrans : Strict callId fun w => w.onTrans callId f :=
  strict_withTrans _

theorem Strict.andThen {k' : CcNet → CcNet} (first : Strict callId k)
    (second : ∀ w, w.crashed = true → k' w = w) : Strict callId fun w => k' (k w) where
  frozen w crashed := by rw [first.frozen w crashed, second w crashed]
  missing w live missing := by rw [first.missing w live missing, second _ crash_crashed]

/-- Only the transaction that is found matters. -/
theorem Strict.elim (strict : Strict callId k) {P : CcNet → Prop} (frozen : P w) (crash : P w.crash)
    (found : ∀ t, w.Has callId t → P (k w)) : P (k w) := by
  cases crashed : w.crashed with
  | true => rwa [strict.frozen w crashed]
  | false =>
      cases is : w.find callId with
      | none => rwa [strict.missing w crashed is]
      | some t => exact found t ⟨crashed, is⟩

theorem emit_live (live : w.crashed = false) (act : CcAct) : w.emit act = { w with acts := w.acts ++ [act] } :=
  update_live live _

theorem toMncc_live (live : w.crashed = false) (id : Option Nat) (msg : MnccMsg) :
    w.toMncc id msg =
      { w with
        acts := w.acts ++ [.toMncc id msg]
        trans := w.trans.map fun t => t.told w.mnccUp msg } := by
  rw [toMncc, update_live live, emit_live live]

theorem update_crashed (same : (k w).crashed = w.crashed) : (w.update k).crashed = w.crashed := by
  unfold update
  split
  · rfl
  · exact same

@[simp] theorem emit_crashed : (w.emit act).crashed = w.crashed := update_crashed rfl

theorem toMncc_crashed : (w.toMncc id msg).crashed = w.crashed := update_crashed emit_crashed

theorem find_mem (found : w.find callId = some t) : t ∈ w.trans ∧ t.callId = callId :=
  mem_of_find found

@[simp] theorem emit_find : (w.emit act).find callId = w.find callId := by
  unfold emit update
  split <;> rfl

theorem told_callId (t : CcTrans) (up : Bool) (msg : MnccMsg) :
    (t.told up msg).callId = t.callId := by
  unfold CcTrans.told
  split <;> rfl

section

variable (here : w.Has callId t)
include here

theorem Has.eq (found : w.find callId = some t') : t = t' :=
  Option.some.inj (here.found.symm.trans found)

theorem withTrans_found (k : CcTrans → CcNet) : w.withTrans callId k = k t := by
  simp [withTrans, update_live here.live, here.found]

theorem onTrans_found :
    w.onTrans callId f =
      { w with trans := w.trans.map fun t => if t.callId = callId then f t else t } :=
  withTrans_found here _

theorem Has.onTrans (same : ∀ s, (f s).callId = s.callId) : (w.onTrans callId f).Has callId (f t) := by
  have is : t.callId = callId := (find_mem here.found).2
  have id_eq (s : CcTrans) : (if s.callId = callId then f s else s).callId = s.callId := by
    split <;> simp [same]
  rw [onTrans_found here]
  refine ⟨here.live, ?_⟩
  rw [find, find?_map]
  simp only [Function.comp_def, id_eq]
  rw [show w.trans.find? (fun s => decide (s.callId = callId)) = some t from here.found]
  simp [is]

theorem Has.toMncc (id : Option Nat) (msg : MnccMsg) :
    (w.toMncc id msg).Has callId (t.told w.mnccUp msg) := by
  refine ⟨toMncc_crashed.trans here.live, ?_⟩
  rw [toMncc_live here.live, find, find?_map]
  simp only [Function.comp_def, told_callId]
  rw [show w.trans.find? (fun s => decide (s.callId = callId)) = some t from here.found]
  rfl

theorem Has.emit (act : CcAct) : (w.emit act).Has callId t :=
  ⟨emit_crashed.trans here.live, emit_find.trans here.found⟩

/-- What is found after a change is what was found before, changed. -/
theorem Has.found_onTrans (same : ∀ s, (f s).callId = s.callId)
    (found : (w.onTrans callId f).find callId = some t') : t' = f t :=
  ((here.onTrans same).eq found).symm

theorem onTrans_id : w.onTrans callId (fun s => s) = w := by
  rw [onTrans_found here]
  simp

end

/-- What uses a transaction and does not crash has found it. -/
theorem Strict.live (strict : Strict callId k) (live : (k w).crashed = false) :
    ∃ t, w.Has callId t := by
  cases crashed : w.crashed with
  | true => rw [strict.frozen w crashed, crashed] at live; cases live
  | false =>
      cases is : w.find callId with
      | none => rw [strict.missing w crashed is] at live; cases live
      | some t => exact ⟨t, crashed, is⟩

theorem has_of_onTrans (live : (w.onTrans callId f).crashed = false) : ∃ t, w.Has callId t :=
  strict_onTrans.live live

theorem onTrans_mnccUp (w : CcNet) (callId : Nat) (f : CcTrans → CcTrans) :
    (w.onTrans callId f).mnccUp = w.mnccUp :=
  strict_onTrans.elim (P := fun w' => w'.mnccUp = w.mnccUp) rfl rfl fun t here => by
    rw [onTrans_found here]

/-- Two changes in a row are one. -/
theorem onTrans_onTrans (same : ∀ s, (f s).callId = s.callId) :
    (w.onTrans callId f).onTrans callId g = w.onTrans callId fun s => g (f s) := by
  cases crashed : w.crashed with
  | true => simp [crashed]
  | false =>
      cases found : w.find callId with
      | none =>
          rw [strict_onTrans.missing w crashed found, strict_onTrans.missing w crashed found,
            onTrans_frozen crash_crashed]
      | some t =>
          have here : w.Has callId t := ⟨crashed, found⟩
          rw [onTrans_found (here.onTrans same), onTrans_found here, onTrans_found here]
          simp only [List.map_map, mk.injEq, and_true]
          refine List.map_congr_left fun s _ => ?_
          by_cases here : s.callId = callId <;> simp [here, same]

end CcNet

theorem CcNet.alloc_live (live : w.crashed = false) (t : CcTrans) :
    w.alloc t =
      { w with
        acts := w.acts ++ [.allocated w.newCallId t.ref (w.trans.all fun other => other.ref ≠ t.ref)]
        trans := w.trans ++ [{ t with callId := w.newCallId }]
        newCallId := w.newCallId + 1 } := by
  rw [alloc, update_live live, emit_live live]

/-! ### The account of a call -/

/-- What is on record of a call. -/
structure CallHistory where
  callId : Nat
  ref : Nat
  callref : Nat
  byMncc : Bool
  rejected : Bool
  sent : List MnccType

def CcTrans.call (t : CcTrans) : CallHistory :=
  ⟨t.callId, t.ref, t.callref, t.byMncc, t.rejected, t.sent⟩

/-- The call has not got anywhere yet. -/
def CcTrans.early (t : CcTrans) : Prop := t.state = .null ∨ t.state = .initiated

/-- A change of the rest that starts a timer only with a call that is under way, does not go back to the
beginning, and keeps a prepared `MNCC_SETUP_IND`. -/
structure Tame (t t' : CcTrans) : Prop where
  idle : t'.early → t.early ∧ (t'.timer = t.timer ∨ t'.timer = none)
  stored : ∀ msg, t'.msg = some msg → msg.type = .setupInd →
    t.msg = some msg ∨ t.early ∧ msg.callref = t.callref

/-- A change of neither the state, the timer nor the message. -/
theorem Tame.of_same (state : t'.state = t.state) (timer : t'.timer = t.timer) (msg : t'.msg = t.msg) :
    Tame t t' where
  idle early := ⟨by simpa [CcTrans.early, state] using early, .inl timer⟩
  stored m is _ := .inl (msg ▸ is)

theorem Tame.of_stopped (t : CcTrans) : Tame t t.stopTimer where
  idle early := ⟨early, .inr rfl⟩
  stored _ is _ := .inl is

/-- A change after which the call is under way. -/
theorem Tame.of_late (late : ¬ t'.early)
    (stored : ∀ msg, t'.msg = some msg → msg.type = .setupInd → t.msg = some msg) : Tame t t' where
  idle early := absurd early late
  stored msg is type := .inl (stored msg is type)

theorem Tame.of_newState {state : CcState} (late : state ≠ .null ∧ state ≠ .initiated)
    (stored : ∀ msg, t'.msg = some msg → msg.type = .setupInd → t.msg = some msg) :
    Tame t (t'.newState state) :=
  .of_late (fun early => early.elim late.1 late.2) stored

/-! ### Rules -/

/-- The call references that MNCC has been told are over, and that no call has taken up since. -/
def endedAfter (ended : List Nat) : CcAct → List Nat
  | .toMncc _ msg => if msg.type.isTerminal then msg.callref :: ended else ended
  | .fromMncc msg _ => if msg.type = .setupReq then ended.filter (· ≠ msg.callref) else ended
  | .allocated _ ref _ => ended.filter (· ≠ ref)
  | _ => ended

def endedRefs (acts : List CcAct) : List Nat := acts.foldl endedAfter []

/-- What a run may be asked to keep to. -/
structure CcRules where
  /-- Messages to MNCC have the call reference of a call that is not over. -/
  own : Prop
  /-- These transactions do not give up their call references. -/
  keep : Nat → Prop

/-- The message has the call reference of its transaction; or, if it is for none, one of a call that is not
over. -/
def Owned (w : CcNet) : Option Nat → MnccMsg → Prop
  | some callId, msg => ∃ t ∈ w.trans, t.callId = callId ∧ t.callref = msg.callref ∧ msg.callref ≠ 0
  | none, msg => msg.callref ≠ 0 ∧ msg.callref ∉ endedRefs w.acts

/-- Transactions have different names, and the next one is not among them. -/
structure CcNet.Numbered (w : CcNet) : Prop where
  ids : (w.trans.map (·.callId)).Nodup
  fresh : ∀ t ∈ w.trans, t.callId < w.newCallId

/-- A transaction as `trans_alloc()` leaves it. -/
structure CcTrans.New (t : CcTrans) : Prop where
  callref : t.callref = t.ref
  rejected : t.rejected = false
  sent : t.sent = []
  state : t.state = .null
  timer : t.timer = none
  msg : t.msg = none

/-! ### Moves -/

/-- One move of the code. -/
inductive CcMove (rules : CcRules) : CcNet → CcNet → Prop
  | crash (w : CcNet) : CcMove rules w w.crash
  | toMs (w : CcNet) (callId : Option Nat) (type : CcMsgType) : CcMove rules w (w.emit (.toMs callId type))
  /-- A change that is not about the account of the call. -/
  | change (w : CcNet) (callId : Nat) (t : CcTrans) (f : CcTrans → CcTrans) (found : w.find callId = some t)
      (keeps : ∀ s, (f s).call = s.call) (tame : Tame t (f t)) : CcMove rules w (w.onTrans callId f)
  /-- A message to MNCC that neither announces a call nor ends one. -/
  | relay (w : CcNet) (callId : Option Nat) (msg : MnccMsg) (goesOn : msg.type.isTerminal = false)
      (notSetup : msg.type ≠ .setupInd) (owned : rules.own → Owned w callId msg) :
      CcMove rules w (w.toMncc callId msg)
  /-- The prepared `MNCC_SETUP_IND`. -/
  | announce (w : CcNet) (callId : Nat) (t : CcTrans) (setup msg : MnccMsg) (found : w.find callId = some t)
      (initiated : t.state = .initiated) (prepared : t.msg = some setup) (isSetup : setup.type = .setupInd)
      (type : msg.type = setup.type) (callref : msg.callref = setup.callref)
      (owned : rules.own → t.callref ≠ 0) :
      CcMove rules w ((w.onTrans callId fun t => { t with msg := none }).toMncc (some callId) msg)
  /-- A message of MNCC. -/
  | hear (w : CcNet) (msg : MnccMsg) : CcMove rules w (w.noted msg)
  /-- A message of MNCC for a call reference that nobody has, and the answer. -/
  | reply (w : CcNet) (msg answer : MnccMsg) (unknown : (w.noted msg).findByCallref msg.callref = none)
      (callref : answer.callref = msg.callref) (ends : answer.type.isTerminal = true)
      (owned : rules.own → msg.callref ≠ 0 ∧
        (msg.type ≠ .setupReq → msg.callref ∉ endedRefs w.acts)) :
      CcMove rules w ((w.noted msg).toMncc none answer)
  /-- A timer ends the call, and the transaction stays until the MS has released it, too. -/
  | expire (w : CcNet) (callId : Nat) (t : CcTrans) (msg : MnccMsg) (found : w.find callId = some t)
      (pending : t.timer ≠ none) (callref : msg.callref = t.callref) (under : t.callref ≠ 0)
      (ends : msg.type.isTerminal = true) (gives : ¬ rules.keep callId) :
      CcMove rules w (((w.onTrans callId CcTrans.stopTimer).toMncc (some callId) msg).onTrans callId
        fun t => { t with mnccInitiated := true, callref := 0 })
  /-- The transaction is freed, and `trans_free()` has to tell MNCC. -/
  | free (w : CcNet) (callId : Nat) (t : CcTrans) (f : CcTrans → CcTrans) (found : w.find callId = some t)
      (keeps : ∀ s, (f s).call = s.call) : CcMove rules w (transFree (w.onTrans callId f) callId)
  /-- MNCC is told that the call is over, and the transaction is freed. -/
  | conclude (w : CcNet) (callId : Nat) (t : CcTrans) (f g : CcTrans → CcTrans) (msg : MnccMsg)
      (found : w.find callId = some t) (keeps : ∀ s, (f s).call = s.call)
      (zeroes : ∀ s, (g s).call = { s.call with callref := 0 })
      (owner : ∃ s ∈ w.trans, s.callId = callId ∧ s.callref = msg.callref)
      (ends : msg.type.isTerminal = true) (owned : rules.own → msg.callref ≠ 0)
      (gives : ¬ rules.keep callId) :
      CcMove rules w (transFree (((w.onTrans callId f).toMncc (some callId) msg).onTrans callId g) callId)
  /-- The transaction is freed without a word, since MNCC has rejected the call or is gone. -/
  | drop (w : CcNet) (callId : Nat) (t : CcTrans) (g : CcTrans → CcTrans) (found : w.find callId = some t)
      (zeroes : ∀ s, (g s).call = { s.call with callref := 0 })
      (reason : w.mnccUp = false ∨
        ∃ s ∈ w.trans, s.callId = callId ∧ (s.callref ≠ 0 → s.callref = s.ref → s.rejected = true))
      (gives : ¬ rules.keep callId) : CcMove rules w (transFree (w.onTrans callId g) callId)
  /-- A new transaction. -/
  | alloc (w : CcNet) (t : CcTrans) (new : t.New) (connected : t.byMncc = true → w.mnccUp = true)
      (owned : rules.own → ∀ s ∈ w.trans, s.callref ≠ t.ref)
      (kept : rules.keep w.newCallId → t.ref ≠ 0) :
      CcMove rules w (w.alloc t)
  | count (w : CcNet) (callref : Nat) : CcMove rules w (w.update fun w => { w with lastCallref := callref })
  | lost (w : CcNet) :
      CcMove rules w ((w.emit (.mnccLost (w.trans.any (·.due)))).update fun w => { w with mnccUp := false })
  | connected (w : CcNet) : CcMove rules w (w.update fun w => { w with mnccUp := true })

/-! ### Names and call references -/

variable {h : CcTrans → CcTrans}

theorem callId_of_call (keeps : ∀ s, (h s).call = s.call) (s : CcTrans) : (h s).callId = s.callId :=
  congrArg CallHistory.callId (keeps s)

theorem callId_of_zeroes (zeroes : ∀ s, (h s).call = { s.call with callref := 0 }) (s : CcTrans) :
    (h s).callId = s.callId :=
  congrArg CallHistory.callId (zeroes s)

theorem ref_of_zeroes (zeroes : ∀ s, (h s).call = { s.call with callref := 0 }) (s : CcTrans) :
    (h s).ref = s.ref :=
  congrArg CallHistory.ref (zeroes s)

/-- The same call, with the same call reference. -/
def CcTrans.SameRef (t s : CcTrans) : Prop := t.callId = s.callId ∧ t.ref = s.ref ∧ t.callref = s.callref

theorem CcTrans.SameRef.of_call {s : CcTrans} (call : t.call = s.call) : t.SameRef s :=
  ⟨congrArg CallHistory.callId call, congrArg CallHistory.ref call, congrArg CallHistory.callref call⟩

/-- Names are neither given nor changed, the transactions that are kept have the call references that
they had, also once they have been freed, and the log grows.  `up` asks that MNCC is as connected as
before. -/
structure SameRefs (kept : Nat → Prop) (up : Prop) (w w' : CcNet) : Prop where
  ids : (w'.trans.map (·.callId)).Sublist (w.trans.map (·.callId))
  next : w'.newCallId = w.newCallId
  known : ∀ t ∈ w'.trans ++ w'.gone, kept t.callId → ∃ s ∈ w.trans ++ w.gone, t.SameRef s
  acts : w.acts <+: w'.acts
  mnccUp : up → w'.mnccUp = w.mnccUp

theorem CcNet.Numbered.of_ids (numbered : w.Numbered)
    (ids : (w'.trans.map (·.callId)).Sublist (w.trans.map (·.callId)))
    (next : w'.newCallId = w.newCallId) : w'.Numbered where
  ids := numbered.ids.sublist ids
  fresh t mem := by
    obtain ⟨s, mem', id⟩ := mem_map.mp (ids.subset (mem_map.mpr ⟨t, mem, rfl⟩))
    rw [next, ← id]
    exact numbered.fresh s mem'

/-- A name stands for one transaction. -/
theorem CcNet.Numbered.unique (numbered : w.Numbered) {s : CcTrans} (mem : s ∈ w.trans)
    (found : w.find callId = some t) (id : s.callId = callId) : s = t :=
  have ⟨mem', id'⟩ := find_mem found
  inj_on_of_nodup_map numbered.ids mem mem' (id.trans id'.symm)

section SameRefs

variable {kept : Nat → Prop} {up : Prop}

theorem SameRefs.of_eq (trans : w'.trans = w.trans) (gone : w'.gone = w.gone)
    (next : w'.newCallId = w.newCallId) (acts : w.acts <+: w'.acts)
    (mnccUp : up → w'.mnccUp = w.mnccUp) : SameRefs kept up w w' where
  ids := by rw [trans]
  next := next
  known t mem _ := ⟨t, by rwa [← trans, ← gone], rfl, rfl, rfl⟩
  acts := acts
  mnccUp := mnccUp

theorem SameRefs.refl (w : CcNet) : SameRefs kept up w w := .of_eq rfl rfl rfl prefix_rfl fun _ => rfl

theorem SameRefs.trans {w'' : CcNet} (first : SameRefs kept up w w')
    (second : SameRefs kept up w' w'') : SameRefs kept up w w'' where
  ids := second.ids.trans first.ids
  next := second.next.trans first.next
  known t mem isKept := by
    obtain ⟨s, mem', id, ref, callref⟩ := second.known t mem isKept
    obtain ⟨s', mem'', id', ref', callref'⟩ := first.known s mem' (id ▸ isKept)
    exact ⟨s', mem'', id.trans id', ref.trans ref', callref.trans callref'⟩
  acts := first.acts.trans second.acts
  mnccUp isUp := (second.mnccUp isUp).trans (first.mnccUp isUp)

theorem SameRefs.of_map (h : CcTrans → CcTrans) (trans : w'.trans = w.trans.map h)
    (gone : w'.gone = w.gone) (next : w'.newCallId = w.newCallId) (acts : w.acts <+: w'.acts)
    (mnccUp : w'.mnccUp = w.mnccUp) (callId_eq : ∀ t, (h t).callId = t.callId)
    (same : ∀ t, kept t.callId → (h t).SameRef t) : SameRefs kept up w w' where
  ids := by
    rw [trans, List.map_map]
    simp only [Function.comp_def, callId_eq]
    exact .refl _
  next := next
  known t mem isKept := by
    rw [trans, gone] at mem
    rcases mem_append.mp mem with changed | freed
    · obtain ⟨s, mem', rfl⟩ := mem_map.mp changed
      exact ⟨s, mem_append_left _ mem', same s (callId_eq s ▸ isKept)⟩
    · exact ⟨t, mem_append_right _ freed, rfl, rfl, rfl⟩
  acts := acts
  mnccUp _ := mnccUp

theorem update_refs (same : w.crashed = false → SameRefs kept up w (k w)) :
    SameRefs kept up w (w.update k) := by
  unfold update
  split
  · exact .refl w
  · rename_i live
    exact same (Bool.eq_false_iff.mpr live)

theorem withTrans_refs {k : CcTrans → CcNet} (same : ∀ t, w.find callId = some t → SameRefs kept up w (k t)) :
    SameRefs kept up w (w.withTrans callId k) := by
  refine (strict_withTrans fun _ => k).elim (.refl w)
    (.of_eq rfl rfl rfl prefix_rfl fun _ => rfl) fun t here => ?_
  rw [withTrans_found here]
  exact same t here.found

theorem onTrans_refs (callId_eq : ∀ t, (f t).callId = t.callId)
    (same : kept callId → ∀ t, (f t).SameRef t) : SameRefs kept up w (w.onTrans callId f) := by
  refine withTrans_refs fun _ _ => .of_map _ rfl rfl rfl prefix_rfl rfl (fun t => ?_) fun t isKept => ?_
  · split <;> simp [callId_eq]
  · split
    · rename_i here
      exact same (here ▸ isKept) t
    · exact ⟨rfl, rfl, rfl⟩

/-- A change that leaves the account of the call alone. -/
theorem onTrans_refs_of_call (keeps : ∀ s, (f s).call = s.call) :
    SameRefs kept up w (w.onTrans callId f) :=
  onTrans_refs (callId_of_call keeps) fun _ s => .of_call (keeps s)

theorem emit_refs : SameRefs kept up w (w.emit act) :=
  update_refs fun _ => .of_eq rfl rfl rfl (prefix_append _ _) fun _ => rfl

theorem told_sameRef {t : CcTrans} {up : Bool} {msg : MnccMsg} : (t.told up msg).SameRef t := by
  unfold CcTrans.told
  split <;> exact ⟨rfl, rfl, rfl⟩

theorem toMncc_refs (w : CcNet) (id : Option Nat) (msg : MnccMsg) :
    SameRefs kept up w (w.toMncc id msg) := by
  refine update_refs fun live => ?_
  rw [emit_live live]
  exact .of_map _ rfl rfl rfl (prefix_append _ _) rfl (fun t => told_callId t _ _)
    fun t _ => told_sameRef

theorem unlink_refs : SameRefs kept up w (w.unlink callId) := by
  refine withTrans_refs fun t found => ⟨filter_sublist.map _, rfl, fun s mem _ => ⟨s, ?_, rfl, rfl, rfl⟩,
    prefix_rfl, fun _ => rfl⟩
  rcases mem_append.mp mem with stays | freed
  · exact mem_append_left _ (mem_of_mem_filter stays)
  · rcases mem_concat.mp freed with before | rfl
    · exact mem_append_right _ before
    · exact mem_append_left _ (find_mem found).1

/-- What is kept, of a network and a transaction that is found there, when the transaction changes without
its account and when messages go to the MS. -/
structure Keeping (callId : Nat) (P : CcNet → CcTrans → Prop) : Prop where
  here : ∀ {w t}, P w t → w.Has callId t
  change : ∀ {w t f}, P w t → (∀ s, (f s).call = s.call) → P (w.onTrans callId f) (f t)
  toMs : ∀ {w t type}, P w t → P (w.emit (.toMs (some callId) type)) t

section Keeping

variable {P : CcNet → CcTrans → Prop} (keeping : Keeping callId P)
include keeping

theorem Keeping.transTx (holds : P w t) (type : CcMsgType) : P (transTxGsm48 w callId type) t := by
  rw [transTxGsm48, withTrans_found (keeping.here holds)]
  split
  · exact keeping.toMs holds
  · exact holds

theorem Keeping.txRelease (holds : P w t) (rel : Option MnccMsg) :
    ∃ t', P (gsm48CcTxRelease w callId rel) t' := by
  rw [gsm48CcTxRelease, withTrans_found (keeping.here holds)]
  split
  · exact ⟨t, holds⟩
  · exact ⟨_, keeping.transTx (keeping.change holds (by intro _; rfl)) .release⟩

/-- Freeing a transaction stops its timer, and then tells MNCC or does not. -/
theorem Keeping.transFree (here : w.Has callId t)
    (silent : (t.callref ≠ 0 → t.mnccInitiated = false) →
      P (w.onTrans callId fun t => { t with timer := none }) { t with timer := none })
    (told : ∀ msg, t.callref ≠ 0 → t.mnccInitiated = true → msg.callref = t.callref →
      msg.type = (if t.state = .releaseReq then .relCnf else .relInd) →
      P ((w.onTrans callId fun t => { t with timer := none }).toMncc (some callId) msg)
        (CcTrans.told { t with timer := none } w.mnccUp msg)) :
    ∃ t', P (gsm48CcTransFree w callId) t' := by
  have stopped := here.onTrans (f := fun t => { t with timer := none }) fun _ => rfl
  rw [gsm48CcTransFree, withTrans_found here]
  generalize w.onTrans callId _ = w' at silent told stopped
  dsimp only
  by_cases zero : t.callref = 0
  · rw [if_pos zero]
    exact ⟨_, keeping.change (silent fun under => absurd zero under) (by intro _; rfl)⟩
  rw [if_neg zero]
  -- MNCC is told, then the MS
  have said : ∃ t', P (if t.mnccInitiated then mnccReleaseInd w' callId t.callref
      ⟨.prnSLu, if t.state = .callReceived then .userNotrespond else .resourceUnavail⟩ else w') t' := by
    split
    · rename_i initiated
      rw [mnccReleaseInd, withTrans_found stopped]
      exact ⟨_, keeping.change (told _ zero initiated rfl rfl) (by intro _; rfl)⟩
    · rename_i not
      exact ⟨_, silent fun _ => by simpa using not⟩
  obtain ⟨t₁, said⟩ := said
  generalize (if t.mnccInitiated then _ else w') = w₁ at said
  have released : ∃ t', P (if t.state = .releaseReq then w₁ else gsm48CcTxRelease w₁ callId (some
      { type := .unset, callref := t.callref, cause := some ⟨.prnSLu, .resourceUnavail⟩ })) t' := by
    split
    · exact ⟨t₁, said⟩
    · exact keeping.txRelease said _
  obtain ⟨t₂, released⟩ := released
  exact ⟨_, keeping.change (keeping.change released (by intro _; rfl)) (by intro _; rfl)⟩

end Keeping

theorem freeAndUnlink_refs : SameRefs kept up w ((gsm48CcTransFree w callId).unlink callId) := by
  have strict : CcNet.Strict callId fun w => gsm48CcTransFree w callId := strict_withTrans _
  have frozen (w : CcNet) (crashed : w.crashed = true) : w.unlink callId = w :=
    withTrans_frozen crashed _
  refine (strict.andThen frozen).elim (.refl w) (.of_eq rfl rfl rfl prefix_rfl fun _ => rfl)
    fun t here => ?_
  have keeping : Keeping callId fun w' t' => w'.Has callId t' ∧ SameRefs kept up w w' := {
    here := And.left
    change := fun ⟨here, same⟩ keeps =>
      ⟨here.onTrans (callId_of_call keeps), same.trans (onTrans_refs_of_call keeps)⟩
    toMs := fun ⟨here, same⟩ => ⟨here.emit _, same.trans emit_refs⟩ }
  have stopped := keeping.change (f := fun t => { t with timer := none }) ⟨here, .refl w⟩ fun _ => rfl
  have told (msg : MnccMsg) := stopped.1.toMncc (some callId) msg
  rw [onTrans_mnccUp] at told
  obtain ⟨t', -, same⟩ := keeping.transFree here (fun _ => stopped)
    fun msg _ _ _ _ => ⟨told msg, stopped.2.trans (toMncc_refs _ _ _)⟩
  exact same.trans unlink_refs

theorem transFree_refs (w : CcNet) (callId : Nat) : SameRefs kept up w (transFree w callId) :=
  withTrans_refs fun _ _ => emit_refs.trans freeAndUnlink_refs

theorem transFree_mnccUp (w : CcNet) (callId : Nat) : (transFree w callId).mnccUp = w.mnccUp :=
  (transFree_refs w callId : SameRefs (fun _ => False) True _ _).mnccUp trivial

theorem CcNet.noted_live (live : w.crashed = false) (msg : MnccMsg) :
    w.noted msg =
      { w with
        acts := w.acts ++ [.fromMncc msg (w.trans.any fun t => t.ref = msg.callref && t.terminals ≠ 0)]
        trans := w.trans.map fun t =>
          { t with rejected := t.rejected || (t.ref = msg.callref && msg.type = .rejReq) } } := by
  rw [noted, update_live live, emit_live live]

theorem CcNet.noted_frozen (crashed : w.crashed = true) (msg : MnccMsg) : w.noted msg = w :=
  update_frozen crashed _

theorem noted_refs (w : CcNet) (msg : MnccMsg) : SameRefs kept up w (w.noted msg) := by
  refine update_refs fun live => ?_
  rw [emit_live live]
  exact .of_map _ rfl rfl rfl (prefix_append _ _) rfl (fun _ => rfl) fun _ _ => ⟨rfl, rfl, rfl⟩

end SameRefs

theorem CcNet.Numbered.alloc (numbered : w.Numbered) (t : CcTrans) : (w.alloc t).Numbered := by
  cases crashed : w.crashed with
  | true =>
      rw [CcNet.alloc, update_frozen crashed]
      exact numbered
  | false =>
      rw [alloc_live crashed]
      exact ⟨nodup_map_concat numbered.ids fun s known => Nat.ne_of_lt (numbered.fresh s known),
        lt_succ_of_concat numbered.fresh⟩

variable {rules : CcRules}

/-- A move either creates a transaction or leaves names alone, and call references that are kept. -/
theorem CcMove.refs (move : CcMove rules w w') :
    SameRefs rules.keep False w w' ∨
      ∃ t, t.New ∧ (rules.keep w.newCallId → t.ref ≠ 0) ∧ w' = w.alloc t := by
  cases move with
  | alloc t new _ _ kept => exact .inr ⟨t, new, kept, rfl⟩
  | crash => exact .inl (.of_eq rfl rfl rfl prefix_rfl fun _ => rfl)
  | toMs callId type => exact .inl emit_refs
  | change callId t f _ keeps => exact .inl (onTrans_refs_of_call keeps)
  | relay callId msg => exact .inl (toMncc_refs _ _ _)
  | announce => exact .inl ((onTrans_refs_of_call (by intro _; rfl)).trans (toMncc_refs _ _ _))
  | hear msg => exact .inl (noted_refs w msg)
  | reply msg => exact .inl ((noted_refs w msg).trans (toMncc_refs _ _ _))
  | expire callId t msg found pending callref under ends gives =>
      exact .inl (((onTrans_refs_of_call (by intro _; rfl)).trans (toMncc_refs _ _ _)).trans
        (onTrans_refs (by intro _; rfl) fun kept => absurd kept gives))
  | free _ _ _ _ keeps => exact .inl ((onTrans_refs_of_call keeps).trans (transFree_refs _ _))
  | conclude _ _ _ _ _ _ keeps zeroes _ _ _ gives =>
      exact .inl ((((onTrans_refs_of_call keeps).trans (toMncc_refs _ _ _)).trans
        (onTrans_refs (callId_of_zeroes zeroes) fun kept => absurd kept gives)).trans (transFree_refs _ _))
  | drop _ _ _ _ zeroes _ gives =>
      exact .inl ((onTrans_refs (callId_of_zeroes zeroes) fun kept => absurd kept gives).trans
        (transFree_refs _ _))
  | count => exact .inl (update_refs fun _ => .of_eq rfl rfl rfl prefix_rfl nofun)
  | lost => exact .inl (emit_refs.trans (update_refs fun _ => .of_eq rfl rfl rfl prefix_rfl nofun))
  | connected => exact .inl (update_refs fun _ => .of_eq rfl rfl rfl prefix_rfl nofun)

theorem CcMove.numbered (move : CcMove rules w w') (numbered : w.Numbered) : w'.Numbered := by
  rcases move.refs with same | ⟨t, -, -, rfl⟩
  · exact numbered.of_ids same.ids same.next
  · exact numbered.alloc t

/-! ### Any number of moves -/

/-- What the code does in any number of moves, once transactions have different names. -/
def CcReach (rules : CcRules) (w w' : CcNet) : Prop := w.Numbered → ReflTransGen (CcMove rules) w w'

theorem CcReach.refl : CcReach rules w w := fun _ => .refl

theorem numbered_of_moves (moves : ReflTransGen (CcMove rules) w w') (numbered : w.Numbered) :
    w'.Numbered := by
  induction moves with
  | refl => exact numbered
  | tail _ move ih => exact move.numbered ih

theorem CcReach.trans {w'' : CcNet} (first : CcReach rules w w') (second : CcReach rules w' w'') :
    CcReach rules w w'' := fun numbered =>
  have moves := first numbered
  moves.trans (second (numbered_of_moves moves numbered))

theorem CcReach.ofNumbered (reach : w.Numbered → CcReach rules w w') : CcReach rules w w' :=
  fun numbered => reach numbered numbered

theorem CcMove.reach (move : CcMove rules w w') : CcReach rules w w' := fun _ => .single move

/-! ### Building blocks -/

theorem reach_strict (strict : CcNet.Strict callId k)
    (reach : ∀ t, w.Has callId t → CcReach rules w (k w)) : CcReach rules w (k w) :=
  strict.elim .refl (CcMove.crash w).reach reach

theorem reach_withTrans {k : CcTrans → CcNet}
    (reach : ∀ t, w.Has callId t → CcReach rules w (k t)) :
    CcReach rules w (w.withTrans callId k) := by
  refine reach_strict (strict_withTrans fun _ => k) fun t here => ?_
  rw [withTrans_found here]
  exact reach t here

theorem reach_onTrans (tame : ∀ t, w.find callId = some t → Tame t (f t))
    (keeps : ∀ s, (f s).call = s.call) : CcReach rules w (w.onTrans callId f) :=
  reach_strict strict_onTrans fun t here =>
    (CcMove.change w callId t f here.found keeps (tame t here.found)).reach

/-- A change of what no rule is about. -/
theorem reach_quiet
    (same : ∀ s, ((f s).state, (f s).timer, (f s).msg, (f s).call) = (s.state, s.timer, s.msg, s.call)) :
    CcReach rules w (w.onTrans callId f) := by
  simp only [Prod.mk.injEq] at same
  exact reach_onTrans (fun t _ => .of_same (same t).1 (same t).2.1 (same t).2.2.1) fun s => (same s).2.2.2

theorem reach_tx (w : CcNet) (callId : Nat) (type : CcMsgType) : CcReach rules w (transTxGsm48 w callId type) := by
  refine reach_withTrans fun t _ => ?_
  split
  · exact (CcMove.toMs w (some callId) type).reach
  · exact .refl

variable {type : CcMsgType}

theorem reach_tell (tame : ∀ t, w.find callId = some t → Tame t (f t))
    (keeps : ∀ s, (f s).call = s.call) : CcReach rules w (w.tell callId f type) :=
  (reach_onTrans tame keeps).trans (reach_tx _ _ _)

theorem reach_note : CcReach rules w (w.noteMncc id) := by
  cases id with
  | none => exact .refl
  | some callId => exact reach_quiet fun _ => rfl

theorem reach_txRelease {rel : Option MnccMsg}
    (stored : ∀ t, w.find callId = some t → ∀ msg, rel = some msg → msg.type = .setupInd → t.msg = some msg) :
    CcReach rules w (gsm48CcTxRelease w callId rel) := by
  refine reach_withTrans fun t _ => ?_
  split
  · exact .refl
  · refine (reach_onTrans (fun t found => ?_) (by intro _; rfl)).trans (reach_tx _ _ _)
    exact .of_newState (by decide) (stored t found)

theorem reach_txDisconnect {disc : MnccMsg} (notSetup : disc.type ≠ .setupInd) :
    CcReach rules w (gsm48CcTxDisconnect w callId disc) :=
  reach_tell (fun _ _ =>
    .of_newState (by decide) fun _ is type => absurd (Option.some.inj is ▸ type) notSetup) (by intro _; rfl)

theorem reach_stopTimer (rules : CcRules) (w : CcNet) (callId : Nat) :
    CcReach rules w (w.onTrans callId CcTrans.stopTimer) :=
  reach_onTrans (fun t _ => .of_stopped t) fun _ => rfl

/-! ### Freeing -/

theorem strict_transFree : CcNet.Strict callId fun w => transFree w callId := strict_withTrans _

theorem strict_changeAndFree : CcNet.Strict callId fun w => transFree (w.onTrans callId f) callId :=
  strict_onTrans.andThen strict_transFree.frozen

theorem reach_changeAndFree (keeps : ∀ s, (f s).call = s.call) :
    CcReach rules w (transFree (w.onTrans callId f) callId) :=
  reach_strict strict_changeAndFree fun t here => (CcMove.free w callId t f here.found keeps).reach

theorem reach_transFree : CcReach rules w (transFree w callId) := by
  refine reach_strict strict_transFree fun t here => ?_
  have freed : CcReach rules w _ := (CcMove.free w callId t (fun s => s) here.found fun _ => rfl).reach
  rwa [onTrans_id here] at freed

/-- A call that is over in a live network. -/
theorem reach_conclude (here : w.Has callId t)
    (zeroes : ∀ s, (g s).call = { s.call with callref := 0 })
    (owner : ∃ s ∈ w.trans, s.callId = callId ∧ s.callref = msg.callref) (ends : msg.type.isTerminal = true)
    (owned : rules.own → msg.callref ≠ 0) (gives : ¬ rules.keep callId) :
    CcReach rules w (transFree ((w.toMncc (some callId) msg).onTrans callId g) callId) := by
  have ended := (CcMove.conclude w callId t (fun s => s) g msg here.found (fun _ => rfl) zeroes owner ends
    owned gives).reach
  rwa [onTrans_id here] at ended

theorem releaseAndFree_eq (here : w.Has callId t) (cause : CcCause) :
    releaseAndFree w callId cause =
      transFree ((w.toMncc (some callId)
        { type := if t.state = .releaseReq then .relCnf else .relInd
          callref := t.callref
          cause := some ⟨.prnSLu, cause⟩ }).onTrans callId
        fun s => { s with mnccInitiated := true, callref := 0 }) callId := by
  rw [releaseAndFree, withTrans_found here, freeWithoutRef, mnccReleaseInd, withTrans_found here,
    mnccRecvTerminal, noteMncc, onTrans_onTrans (by intro _; rfl)]

theorem strict_releaseAndFree (cause : CcCause) : CcNet.Strict callId fun w => releaseAndFree w callId cause :=
  strict_withTrans _

/-- The transaction has a call reference, where messages to MNCC are to have one. -/
def CcRules.Speaks (rules : CcRules) (w : CcNet) (callId : Nat) : Prop :=
  rules.own → ∀ t, w.find callId = some t → t.callref ≠ 0

/-- `mncc_release_ind()` and freeing, after a change. -/
theorem reach_releaseAndFree (w : CcNet) (callId : Nat) (cause : CcCause) (keeps : ∀ s, (f s).call = s.call)
    (owned : rules.Speaks w callId) (gives : ¬ rules.keep callId) :
    CcReach rules w (releaseAndFree (w.onTrans callId f) callId cause) := by
  refine reach_strict (strict_onTrans.andThen (strict_releaseAndFree cause).frozen) fun t here => ?_
  rw [releaseAndFree_eq (here.onTrans (callId_of_call keeps))]
  have callref_eq : t.callref = (f t).callref := (congrArg CallHistory.callref (keeps t)).symm
  have ⟨mem, id⟩ := find_mem here.found
  refine (CcMove.conclude w callId t f _ _ here.found keeps (fun _ => rfl) ⟨t, mem, id, callref_eq⟩ ?_
    (fun own => callref_eq ▸ owned own t here.found) gives).reach
  split <;> rfl

theorem reach_release {cause : CcCause} (owned : rules.Speaks w callId)
    (gives : ¬ rules.keep callId) : CcReach rules w (releaseAndFree w callId cause) := by
  refine reach_strict (strict_releaseAndFree cause) fun t here => ?_
  have released := reach_releaseAndFree (f := fun s => s) w callId cause (fun _ => rfl) owned gives
  rwa [onTrans_id here] at released

/-- Freeing without a call reference, where nobody is owed a message. -/
theorem reach_drop (zeroes : ∀ s, (g s).call = { s.call with callref := 0 })
    (reason : w.crashed = false → w.mnccUp = false ∨
      ∃ s ∈ w.trans, s.callId = callId ∧ (s.callref ≠ 0 → s.callref = s.ref → s.rejected = true))
    (gives : ¬ rules.keep callId) : CcReach rules w (transFree (w.onTrans callId g) callId) :=
  reach_strict strict_changeAndFree fun t here =>
    (CcMove.drop w callId t g here.found zeroes (reason here.live) gives).reach

/-! ### Handlers -/

variable {setup : MnccMsg}

section Handlers

variable {out : CcNet → CcNet} {env : CcEnv}

/-- A call-out is moves, too. -/
def CcRules.Moves (rules : CcRules) (out : CcNet → CcNet) : Prop := ∀ w, CcReach rules w (out w)

theorem reach_recvmsg (outside : rules.Moves out) (goesOn : msg.type.isTerminal = false)
    (notSetup : msg.type ≠ .setupInd) (owned : rules.own → w.crashed = false → Owned w id msg) :
    CcReach rules w (mnccRecvmsg out w id msg) := by
  refine CcReach.trans (CcReach.trans ?_ (outside _)) reach_note
  cases crashed : w.crashed with
  | true => rw [toMncc_frozen crashed]; exact .refl
  | false => exact (CcMove.relay w id msg goesOn notSetup fun own => owned own crashed).reach

/-- A transaction that is found, with a call reference. -/
theorem owned_of_found (found : w.find callId = some t) (callref : t.callref = msg.callref)
    (under : t.callref ≠ 0) : Owned w (some callId) msg :=
  have ⟨mem, id⟩ := find_mem found
  ⟨t, mem, id, callref, callref ▸ under⟩

/-- The handler speaks for the transaction it has just changed. -/
theorem owned_onTrans (here : w.Has callId t)
    (keeps : ∀ s, (f s).call = s.call) (callref : t.callref = msg.callref) (under : t.callref ≠ 0) :
    Owned (w.onTrans callId f) (some callId) msg :=
  have same : (f t).callref = t.callref := congrArg CallHistory.callref (keeps t)
  owned_of_found (here.onTrans (callId_of_call keeps)).found (same.trans callref) (same.symm ▸ under)

theorem reach_indicate (outside : rules.Moves out)
    (tame : ∀ t, w.find callId = some t → Tame t (f t)) (goesOn : msg.type.isTerminal = false)
    (notSetup : msg.type ≠ .setupInd) (owned : rules.Speaks w callId)
    (keeps : ∀ s, (f s).call = s.call) : CcReach rules w (w.indicate out callId f msg) :=
  reach_withTrans fun t here => (reach_onTrans tame keeps).trans
    (reach_recvmsg outside goesOn notSetup fun own _ =>
      owned_onTrans here keeps rfl (owned own t here.found))

theorem reach_assignment (outside : rules.Moves out) (w : CcNet) (callId : Nat) (env : CcEnv) :
    CcReach rules w (mscATryCallAssignment out w callId env) := by
  refine reach_withTrans fun t _ => ?_
  split
  · exact (CcMove.crash w).reach
  · split
    · exact (reach_quiet (by intro _; rfl)).trans (outside _)
    · exact .refl

theorem reach_sdp (outside : rules.Moves out) : CcReach rules w (rxMnccSdp out w callId env) := by
  refine reach_withTrans fun t _ => ?_
  split
  · split
    · exact (CcMove.crash w).reach
    · exact outside w
  · exact .refl

/-! #### Clearing -/

theorem transTx_has (here : w.Has callId t) (type : CcMsgType) :
    (transTxGsm48 w callId type).Has callId t ∧ (transTxGsm48 w callId type).trans = w.trans := by
  rw [transTxGsm48, withTrans_found here]
  split
  · refine ⟨here.emit _, ?_⟩
    rw [emit_live here.live]
  · exact ⟨here, rfl⟩

theorem reach_rxRelease (msg : CcMsg) (owned : rules.Speaks w callId)
    (gives : ¬ rules.keep callId) : CcReach rules w (gsm48CcRxRelease w callId msg) := by
  refine reach_withTrans fun t here => (reach_stopTimer rules w callId).trans ?_
  have stopped := here.onTrans (f := CcTrans.stopTimer) fun _ => rfl
  have speaks (own : rules.own) := owned own t here.found
  simp only [freeWithoutRef]
  generalize w.onTrans callId CcTrans.stopTimer = w' at stopped
  rw [onTrans_onTrans (by intro _; rfl)]
  split
  · rw [mnccRecvTerminal, noteMncc, onTrans_onTrans (by intro _; rfl)]
    have ⟨mem, id⟩ := find_mem stopped.found
    exact reach_conclude stopped (fun _ => rfl) ⟨_, mem, id, rfl⟩ rfl speaks gives
  · rw [mnccRecvTerminal, noteMncc, onTrans_onTrans (by intro _; rfl)]
    have ⟨here', _⟩ := transTx_has stopped .releaseCompl
    have ⟨mem, id⟩ := find_mem here'.found
    exact (reach_tx _ _ _).trans
      (reach_conclude here' (fun _ => rfl) ⟨_, mem, id, rfl⟩ rfl speaks gives)

theorem releaseComplType_ends (state : CcState) : (releaseComplType state).isTerminal = true := by
  cases state <;> rfl

theorem reach_rxReleaseCompl (msg : CcMsg) (gives : ¬ rules.keep callId) :
    CcReach rules w (gsm48CcRxReleaseCompl w callId msg) := by
  refine reach_withTrans fun t here => (reach_stopTimer rules w callId).trans ?_
  have stopped := here.onTrans (f := CcTrans.stopTimer) fun _ => rfl
  simp only [freeWithoutRef]
  generalize w.onTrans callId CcTrans.stopTimer = w' at stopped
  have ⟨mem, id⟩ := find_mem stopped.found
  split
  · rename_i ended
    exact reach_drop (fun _ => rfl) (fun _ => .inr ⟨_, mem, id, fun under => absurd ended under⟩) gives
  · rename_i under
    rw [mnccRecvTerminal, noteMncc, onTrans_onTrans (by intro _; rfl)]
    exact reach_conclude stopped (fun _ => rfl) ⟨_, mem, id, rfl⟩ (releaseComplType_ends _)
      (fun _ => under) gives

/-- Sending to the MS does not depend on the call reference. -/
theorem transTx_onTrans (here : w.Has callId t) (same : ∀ s, (f s).callId = s.callId)
    (conn : ∀ s, (f s).mscA = s.mscA) :
    transTxGsm48 (w.onTrans callId f) callId type = (transTxGsm48 w callId type).onTrans callId f := by
  rw [onTrans_found (transTx_has here type).1, transTxGsm48, transTxGsm48,
    withTrans_found (here.onTrans same), withTrans_found here, conn, onTrans_found here]
  split
  · rw [emit_live here.live, emit_live]
    exact here.live
  · rfl

theorem reach_txReleaseCompl (rejected : w.crashed = false →
      ∃ s ∈ w.trans, s.callId = callId ∧ (s.callref ≠ 0 → s.callref = s.ref → s.rejected = true))
    (gives : ¬ rules.keep callId) : CcReach rules w (gsm48CcTxReleaseCompl w callId) := by
  have told : CcNet.Strict callId fun w => transTxGsm48 w callId .releaseCompl := strict_withTrans _
  refine reach_strict ((strict_onTrans.andThen told.frozen).andThen strict_transFree.frozen)
    fun t here => ?_
  have same := (transTx_has here .releaseCompl).2
  rw [transTx_onTrans here (by intro _; rfl) (by intro _; rfl)]
  exact (reach_tx w callId .releaseCompl).trans
    (reach_drop (fun _ => rfl) (fun _ => .inr (same ▸ rejected here.live)) gives)

/-! #### Timers -/

theorem reach_releaseTimeout (here : w.Has callId t) (pending : t.timer ≠ none)
    (gives : ¬ rules.keep callId) (l4 : CcCause) (mo : MnccCause) :
    CcReach rules w (releaseTimeout (w.onTrans callId CcTrans.stopTimer) callId l4 mo) := by
  have stopped := here.onTrans (f := CcTrans.stopTimer) fun _ => rfl
  rw [releaseTimeout, withTrans_found stopped]
  refine CcReach.trans ?_ (reach_txRelease ?_)
  · split
    · exact reach_stopTimer rules w callId
    · rename_i under
      rw [mnccReleaseInd, withTrans_found stopped, mnccRecvTerminal, noteMncc,
        onTrans_onTrans (by intro _; rfl)]
      refine (CcMove.expire w callId t _ here.found pending rfl under ?_ gives).reach
      split <;> rfl
  · intro _ _ msg is type
    cases is
    cases type

theorem reach_disconnectTimeout (outside : rules.Moves out) (l4 : CcCause) :
    CcReach rules w (disconnectTimeout out w callId l4) := by
  refine reach_withTrans fun t here => CcReach.trans ?_ (reach_txDisconnect (by simp))
  split
  · exact .refl
  · rename_i under
    exact reach_recvmsg outside rfl (by simp) fun _ _ => owned_of_found here.found rfl under

theorem reach_timeout (outside : rules.Moves out)
    (goesOn : rules.keep callId → ∀ t, w.find callId = some t → t.timer ≠ some .t303 ∧ t.timer ≠ some .t306) :
    CcReach rules w (gsm48CcTimeout out w callId) := by
  refine reach_withTrans fun t here => ?_
  have stop := reach_stopTimer rules w callId
  split
  · exact .refl
  · rename_i timer
    exact reach_releaseTimeout here (by simp [timer]) (fun keep => (goesOn keep t here.found).1 timer) _ _
  · exact stop.trans (reach_disconnectTimeout outside _)
  · exact stop.trans (reach_disconnectTimeout outside _)
  · exact stop.trans (reach_disconnectTimeout outside _)
  · split
    · exact reach_changeAndFree fun _ => rfl
    · refine stop.trans (CcReach.trans (reach_txRelease fun s found msg is _ => ?_) (reach_quiet fun _ => rfl))
      -- the RELEASE that is sent once more is the one that is stored
      rw [here.found_onTrans (by intro _; rfl) found]
      exact is
  · rename_i timer
    exact reach_releaseTimeout here (by simp [timer]) (fun keep => (goesOn keep t here.found).2 timer) _ _
  · exact stop.trans (reach_disconnectTimeout outside _)

theorem reach_guardTimeout : CcReach rules w (gsm48CcGuardTimeout w callId) := by
  refine reach_withTrans fun t _ => ?_
  split
  · exact reach_changeAndFree fun _ => rfl
  · exact .refl

/-! #### Establishing calls -/

section

variable (outside : rules.Moves out)
include outside

theorem reach_rxSetup (msg : CcMsg) (new : ∀ t, w.find callId = some t → t.state = .null) :
    CcReach rules w (gsm48CcRxSetup out w callId msg env) := by
  refine reach_withTrans fun t _ => ?_
  split
  · exact (CcMove.crash w).reach
  · refine (reach_onTrans (fun t found => ⟨?_, ?_⟩) (by intro _; rfl)).trans (reach_assignment outside _ callId env)
    · exact fun _ => ⟨.inl (new t found), .inl rfl⟩
    · rintro msg' is -
      cases is
      exact .inr ⟨.inl (new t found), rfl⟩

theorem reach_rxSetupRtp (here : w.Has callId t) (initiated : t.state = .initiated)
    (isSetup : t.msg.map (·.type) = some .setupInd) (conn : t.mscA.isSome = true)
    (owned : rules.own → t.callref ≠ 0) :
    CcReach rules w (gsm48CcRxSetupCnLocalRtpPortKnown out w callId env) := by
  obtain ⟨setup, prepared, type⟩ := Option.map_eq_some_iff.mp isSetup
  rw [gsm48CcRxSetupCnLocalRtpPortKnown, withTrans_found here]
  simp only [prepared]
  rw [if_neg (by simp [initiated, type, Option.isSome_iff_ne_none.mp conn])]
  split
  · refine CcReach.trans (CcReach.trans (CcMove.reach ?_) (outside _)) reach_note
    exact .announce w callId t setup _ here.found initiated prepared type rfl rfl owned
  · exact reach_changeAndFree fun _ => rfl

theorem reach_txCallProc (msg : MnccMsg) :
    CcReach rules w (gsm48CcTxCallProcAndAssign out w callId msg env) := by
  refine reach_withTrans fun t _ => ?_
  have proceeding : CcReach rules w (w.onTrans callId fun t => t.newState .moCallProc) :=
    reach_onTrans (fun _ _ => .of_newState (by decide) fun _ is _ => is) fun _ => rfl
  split
  · refine proceeding.trans ((reach_tx _ callId .callProc).trans ?_)
    split
    · exact reach_assignment outside _ _ _
    · exact .refl
  · exact proceeding

theorem reach_txAlerting (msg : MnccMsg) :
    CcReach rules w (gsm48CcTxAlerting out w callId msg env) := by
  have delivered : CcReach rules w (w.onTrans callId fun t => t.newState .callDelivered) :=
    reach_onTrans (fun _ _ => .of_newState (by decide) fun _ is _ => is) fun _ => rfl
  refine (delivered.trans ?_).trans (reach_tx _ callId .alerting)
  split
  · exact reach_sdp outside
  · exact .refl

theorem reach_txConnect (msg : MnccMsg) :
    CcReach rules w (gsm48CcTxConnect out w callId msg env) := by
  have indicated :
      CcReach rules w (w.onTrans callId fun t => { t with timer := some .t313 }.newState .connectInd) :=
    reach_onTrans (fun _ _ => .of_newState (by decide) fun _ is _ => is) fun _ => rfl
  refine (indicated.trans ?_).trans (reach_tx _ callId .connect)
  split
  · exact reach_sdp outside
  · exact .refl

end

/-- A SETUP can be sent: there is a transaction identifier for it, and a codec may match. -/
def SetupGoesOut (w : CcNet) (t : CcTrans) (setup : MnccMsg) (env : CcEnv) : Prop :=
  gsm48CcTxSetupSetTransactionId w t env ≠ none ∧
    gsm48CcTxSetupSetBearerCap env (setup.bearer.getD t.bearer) ≠ .incompatible

instance (w : CcNet) (t : CcTrans) (setup : MnccMsg) (env : CcEnv) : Decidable (SetupGoesOut w t setup env) :=
  inferInstanceAs (Decidable (_ ∧ _))

/-- Only transaction identifiers matter. -/
theorem SetupGoesOut.of_map (goesOut : SetupGoesOut w t setup env) (h : CcTrans → CcTrans)
    (trans : w'.trans = w.trans.map h)
    (same : ∀ s, (h s).vsub = s.vsub ∧ (h s).transactionId = s.transactionId)
    (is : t'.vsub = t.vsub ∧ t'.transactionId = t.transactionId ∧ t'.bearer = t.bearer) :
    SetupGoesOut w' t' setup env := by
  obtain ⟨vsub, id, bearer⟩ := is
  refine ⟨?_, bearer ▸ goesOut.2⟩
  have free := goesOut.1
  unfold gsm48CcTxSetupSetTransactionId at free ⊢
  rw [trans, filter_map, filterMap_map, vsub, id]
  simpa only [Function.comp_def, same] using free

theorem SetupGoesOut.onTrans (goesOut : SetupGoesOut w t setup env)
    (same : ∀ s, (f s).vsub = s.vsub ∧ (f s).transactionId = s.transactionId)
    (bearer : (f t).bearer = t.bearer) (here : w.Has callId t) :
    SetupGoesOut (w.onTrans callId f) (f t) setup env :=
  goesOut.of_map _ (by rw [onTrans_found here]) (fun s => by split <;> simp [same])
    ⟨(same t).1, (same t).2, bearer⟩

theorem reach_txSetup (setup : MnccMsg) (owned : rules.Speaks w callId)
    (goesOut : rules.keep callId → ∀ t, w.find callId = some t → SetupGoesOut w t setup env) :
    CcReach rules w (gsm48CcTxSetup w callId setup env) := by
  refine reach_withTrans fun t here => ?_
  split
  · rename_i noId
    exact reach_release owned fun keep => (goesOut keep t here.found).1 noId
  · split
    · exact (CcMove.crash w).reach
    · split
      · exact reach_tell (fun _ _ => .of_newState (by decide) fun _ is _ => is) (by intro _; rfl)
      · rename_i incompatible
        exact reach_releaseAndFree _ _ _ (by intro _; rfl) owned fun keep =>
          (goesOut keep t here.found).2 incompatible
      · exact reach_changeAndFree fun _ => rfl

theorem reach_paged (mscA : Option Nat)
    (owned : rules.own → ∀ t, w.find callId = some t → t.pagingRequest = true → t.callref ≠ 0)
    (goesOut : rules.keep callId → ∀ t, w.find callId = some t → t.pagingRequest = true → t.mscA = none →
      mscA ≠ none ∧ SetupGoesOut w t (t.msg.getD { type := .unset }) env) :
    CcReach rules w (ccPagingCb w callId mscA env) := by
  refine reach_withTrans fun t here => ?_
  split
  · exact .refl
  rename_i waits
  have paging : t.pagingRequest = true ∧ t.mscA = none := by simpa using waits
  have goesOut' (keep : rules.keep callId) := goesOut keep t here.found paging.1 paging.2
  split
  · refine (reach_quiet (by intro _; rfl)).trans (reach_txSetup _ (fun own t' found => ?_) fun keep t' found => ?_)
    · rw [here.found_onTrans (by intro _; rfl) found]
      exact owned own t here.found paging.1
    · rw [here.found_onTrans (by intro _; rfl) found]
      exact (goesOut' keep).2.onTrans (fun _ => ⟨rfl, rfl⟩) rfl here
  · refine reach_release (fun own t' found => ?_) fun keep => (goesOut' keep).1 rfl
    rw [← here.eq found]
    exact owned own t here.found paging.1

/-- No call ends during call-outs, and none gives up its call reference. -/
def KeepsCalls (out : CcNet → CcNet) : Prop :=
  ∀ s : CcNet, ∀ t ∈ s.trans, ∃ t' ∈ (out s).trans, t'.callId = t.callId ∧ t'.callref = t.callref

section

variable (owned : Owned w (some callId) msg)
include owned

theorem Owned.during (kept : KeepsCalls out) : Owned (out w) (some callId) msg := by
  obtain ⟨t, mem, id, callref, under⟩ := owned
  obtain ⟨t', mem', id', callref'⟩ := kept w t mem
  exact ⟨t', mem', id'.trans id, callref'.trans callref, under⟩

theorem Owned.changed (live : (w.onTrans callId f).crashed = false)
    (keeps : ∀ s, (f s).call = s.call) : Owned (w.onTrans callId f) (some callId) msg := by
  obtain ⟨t, mem, id, callref, under⟩ := owned
  obtain ⟨s, here⟩ := has_of_onTrans live
  rw [onTrans_found here]
  refine ⟨f t, mem_map.mpr ⟨t, mem, by simp [id]⟩, (callId_of_call keeps t).trans id, ?_, under⟩
  exact (congrArg CallHistory.callref (keeps t)).trans callref

theorem Owned.withTrans {k : CcTrans → CcNet}
    (next : ∀ t, w.Has callId t → Owned (k t) (some callId) msg) :
    Owned (w.withTrans callId k) (some callId) msg := by
  refine (strict_withTrans fun _ => k).elim (P := fun w => Owned w _ msg) owned owned fun t here => ?_
  rw [withTrans_found here]
  exact next t here

theorem Owned.assignment (kept : KeepsCalls out) :
    Owned (mscATryCallAssignment out w callId env) (some callId) msg := by
  refine owned.withTrans fun t here => ?_
  split
  · exact owned
  · split
    · exact (owned.changed (here.onTrans (by intro _; rfl)).live (by intro _; rfl)).during kept
    · exact owned

theorem Owned.sdp (kept : KeepsCalls out) :
    Owned (rxMnccSdp out w callId env) (some callId) msg := by
  refine owned.withTrans fun t here => ?_
  split
  · split
    · exact owned
    · exact owned.during kept
  · exact owned

end

section

variable (outside : rules.Moves out)
include outside

theorem reach_rxCallConf (msg : CcMsg)
    (present : ∀ t, w.find callId = some t → t.state = .callPresent)
    (owned : rules.Speaks w callId)
    (kept : rules.own → KeepsCalls out) :
    CcReach rules w (gsm48CcRxCallConf out w callId msg env) := by
  refine reach_withTrans fun t here => ?_
  have confirmed : CcReach rules w (w.onTrans callId fun t => { t.setBearer msg.bearer with timer := some .t310 }) := by
    refine reach_onTrans (fun t found => .of_late ?_ fun _ is _ => is) fun _ => rfl
    simp [CcTrans.early, CcTrans.setBearer, present t found]
  have assigned := confirmed.trans (reach_assignment outside _ callId env)
  split
  · refine (assigned.trans (reach_onTrans (fun t _ => ?_) (by intro _; rfl))).trans
      (reach_recvmsg outside rfl (by simp) fun own live' => ?_)
    · exact .of_newState (by decide) fun _ is _ => is
    · refine Owned.changed (Owned.assignment ?_ (kept own)) live' (by intro _; rfl)
      exact owned_onTrans here (by intro _; rfl) rfl (owned own t here.found)
  · exact assigned

theorem reach_mtRtp (here : w.Has callId t) (conn : t.mscA.isSome = true)
    (owned : rules.own → t.callref ≠ 0) :
    CcReach rules w (gsm48CcMtRtpPortAndCodecKnown out w callId env) := by
  rw [gsm48CcMtRtpPortAndCodecKnown, withTrans_found here,
    if_neg (by simp [Option.isSome_iff_ne_none.mp conn])]
  split
  · exact reach_transFree
  · split
    · exact reach_recvmsg outside rfl (by simp) fun own _ => owned_of_found here.found rfl (owned own)
    · exact .refl

theorem reach_rxAlerting (owned : rules.Speaks w callId) :
    CcReach rules w (gsm48CcRxAlerting out w callId env) := by
  unfold gsm48CcRxAlerting
  split
  · exact reach_indicate outside (fun _ _ => .of_newState (by decide) fun _ is _ => is) rfl (by simp) owned fun _ => rfl
  · exact reach_changeAndFree fun _ => rfl

theorem reach_cnRtpKnown (found : w.find callId = some t) (conn : t.mscA.isSome = true)
    (owned : rules.own → t.state ≠ .releaseReq → t.callref ≠ 0) :
    CcReach rules w (ccOnCnLocalRtpPortKnown out w callId env) := by
  refine reach_withTrans fun t' here => ?_
  obtain rfl := here.eq found
  split
  · rename_i initiated
    split
    · rename_i isSetup
      exact reach_rxSetupRtp outside here initiated isSetup conn fun own => owned own (by simp [initiated])
    · exact .refl
  · rename_i confirmed
    exact reach_mtRtp outside here conn fun own => owned own (by simp [confirmed])
  · exact .refl

theorem reach_assigned (codec : Bool)
    (owned : rules.own → ∀ t, w.find callId = some t → t.state ≠ .releaseReq → t.callref ≠ 0) :
    CcReach rules w (ccOnAssignmentDone out w callId codec env) := by
  refine reach_withTrans fun t here => ?_
  have noted : CcReach rules w (w.onTrans callId fun t => { t with codecAssigned := codec }) :=
    reach_quiet fun _ => rfl
  have here' := here.onTrans (f := fun t => { t with codecAssigned := codec }) fun _ => rfl
  refine noted.trans ?_
  generalize w.onTrans callId _ = w' at here'
  have acknowledged (releases : t.state ≠ .releaseReq) :
      CcReach rules w' (if !env.cnRtp then w'
        else if env.localCodecs && env.rtpAddr then mnccRecvRtp out w' (some callId) t.callref .rtpCreate true
        else transFree w' callId) := by
    split
    · exact .refl
    · split
      · exact reach_recvmsg outside rfl (by simp) fun own _ =>
          owned_of_found here'.found rfl (owned own t here.found releases)
      · exact reach_transFree
  split
  all_goals
    first
    | exact .refl
    | exact reach_transFree
    | rename_i state
      exact acknowledged (by simp [state])

end

/-! #### Messages of MNCC -/

theorem reach_bridge (msg : MnccMsg) : CcReach rules w (tchBridge w msg env) := by
  unfold tchBridge
  split
  · split
    · exact .refl
    · exact (reach_txDisconnect (by simp)).trans (reach_txDisconnect (by simp))
  · exact .refl

/-- The transaction with the call reference of a message. -/
theorem owned_of_callref (found : w.findByCallref callref = some t) (same : msg.callref = callref)
    (under : callref ≠ 0) : Owned w (some t.callId) msg :=
  have ⟨mem, is⟩ := mem_of_find found
  ⟨t, mem, rfl, is.trans same.symm, same ▸ under⟩

theorem reach_rtpCreate (outside : rules.Moves out) (msg : MnccMsg)
    (owned : rules.own → msg.callref ≠ 0 ∧ msg.callref ∉ endedRefs w.acts) :
    CcReach rules w (tchRtpCreate out w msg env) := by
  unfold tchRtpCreate
  split
  · exact reach_recvmsg outside rfl (by simp) fun own _ => owned own
  · rename_i t found
    split
    · exact reach_recvmsg outside rfl (by simp) fun own _ => owned_of_callref found rfl (owned own).1
    · exact reach_assignment outside _ _ _

theorem reach_rtpConnect (outside : rules.Moves out) (msg : MnccMsg)
    (owned : rules.own → msg.callref ≠ 0 ∧ msg.callref ∉ endedRefs w.acts)
    (kept : rules.own → KeepsCalls out) : CcReach rules w (tchRtpConnect out w msg env) := by
  unfold tchRtpConnect
  split
  · exact reach_recvmsg outside rfl (by simp) fun own _ => owned own
  · rename_i t found
    have now (own : rules.own) : Owned w (some t.callId) { type := .rtpConnect, callref := msg.callref } :=
      owned_of_callref found rfl (owned own).1
    split
    · exact reach_recvmsg outside rfl (by simp) fun own _ => now own
    · split
      · exact reach_sdp outside
      · exact (reach_sdp outside).trans
          (reach_recvmsg outside rfl (by simp) fun own _ => (now own).sdp (kept own))

/-- A message that MNCC sends for a call, and the transaction that it is for. -/
def Addressed (w : CcNet) (callId : Nat) (msg : MnccMsg) : Prop :=
  ∃ s ∈ w.trans, s.callId = callId ∧ s.callref = msg.callref ∧
    (msg.type = .rejReq → s.callref = s.ref → s.rejected = true)

theorem Addressed.onTrans (addressed : Addressed w callId msg) (keeps : ∀ s, (f s).call = s.call)
    (here : w.Has callId t) : Addressed (w.onTrans callId f) callId msg := by
  obtain ⟨s, mem, id, callref, rejected⟩ := addressed
  rw [onTrans_found here]
  refine ⟨f s, mem_map.mpr ⟨s, mem, by simp [id]⟩, ?_, ?_, fun type same => ?_⟩
  · exact (congrArg CallHistory.callId (keeps s)).trans id
  · exact (congrArg CallHistory.callref (keeps s)).trans callref
  · have callref_eq : (f s).callref = s.callref := congrArg CallHistory.callref (keeps s)
    have ref_eq : (f s).ref = s.ref := congrArg CallHistory.ref (keeps s)
    exact (congrArg CallHistory.rejected (keeps s)).trans
      (rejected type (callref_eq.symm.trans (same.trans ref_eq)))

theorem reach_downstateRout (outside : rules.Moves out)
    (addressed : w.crashed = false → Addressed w callId msg)
    (owned : rules.Speaks w callId)
    (goesOn : rules.keep callId → msg.type ≠ .rejReq)
    (goesOut : rules.keep callId → msg.type = .setupReq → ∀ t, w.find callId = some t →
      SetupGoesOut w t msg env) : CcReach rules w (downstateRout out w callId msg env) := by
  unfold downstateRout
  split
  case h_1 => exact reach_txCallProc outside msg
  case h_2 => exact reach_txAlerting outside msg
  case h_3 => exact reach_txConnect outside msg
  case h_5 type => exact reach_txSetup msg owned fun keep => goesOut keep type
  case h_20 type =>
    refine reach_txReleaseCompl (fun live => ?_) fun keep => goesOn keep type
    obtain ⟨s, mem, id, -, rejected⟩ := addressed live
    exact ⟨s, mem, id, fun _ => rejected type⟩
  case h_21 type => exact reach_txDisconnect (by simp [type])
  case h_22 type =>
    refine reach_txRelease fun _ _ msg' is isSetup => ?_
    cases is
    rw [type] at isSetup
    cases isSetup
  case h_23 => exact .refl
  -- the others pass a message on, with a change of state at most
  all_goals
    first
    | exact reach_tell (fun _ _ => .of_same rfl rfl rfl) (by intro _; rfl)
    | exact reach_tell (fun _ _ => .of_newState (by decide) fun _ is _ => is) (by intro _; rfl)

/-- What a call that keeps its call reference asks of a message of MNCC for it. -/
def MnccGoesOn (w : CcNet) (t : CcTrans) (msg : MnccMsg) (env : CcEnv) : Prop :=
  t.mscA ≠ none ∧ (msg.type = .rejReq → t.state ≠ .initiated) ∧
    (msg.type = .setupReq → t.state = .null → SetupGoesOut w t msg env)

theorem reach_txToTrans (outside : rules.Moves out)
    (addressed : w.crashed = false → Addressed w callId msg) (owned : rules.own → msg.callref ≠ 0)
    (goesOn : rules.keep callId → ∀ t, w.Has callId t → MnccGoesOn w t msg env) :
    CcReach rules w (mnccTxToTrans out w callId msg env) := by
  have noted : CcReach rules w (w.onTrans callId fun t =>
      { t with timerGuard := t.timerGuard || !msg.type.passesThrough, mnccInitiated := true }) :=
    reach_quiet fun _ => rfl
  refine noted.trans (reach_withTrans fun t here => .ofNumbered fun numbered => ?_)
  obtain ⟨t₀, here₀⟩ := has_of_onTrans here.live
  have still := (addressed here₀.live).onTrans (f := fun t =>
    { t with timerGuard := t.timerGuard || !msg.type.passesThrough, mnccInitiated := true })
    (fun _ => rfl) here₀
  have goesOn' (keep : rules.keep callId) : MnccGoesOn (w.onTrans callId fun t =>
      { t with timerGuard := t.timerGuard || !msg.type.passesThrough, mnccInitiated := true }) t msg env := by
    obtain ⟨conn, reject, setup⟩ := goesOn keep t₀ here₀
    rw [here₀.found_onTrans (by intro _; rfl) here.found]
    exact ⟨conn, reject, fun type null => (setup type null).onTrans (fun _ => ⟨rfl, rfl⟩) rfl here₀⟩
  generalize w.onTrans callId _ = w' at here still goesOn' numbered
  split
  · -- still paging
    rename_i paging
    obtain ⟨s, mem, id, callref, -⟩ := still
    rw [mnccRecvTerminal, noteMncc, freeWithoutRef, onTrans_onTrans (by intro _; rfl)]
    refine reach_conclude here (fun _ => rfl) ⟨s, mem, id, callref⟩ ?_ owned
      fun keep => (goesOn' keep).1 (Option.isNone_iff_eq_none.mp paging)
    split <;> rfl
  · split
    · rename_i accepts
      refine reach_downstateRout outside (fun _ => still) (fun own t' found' => ?_) (fun keep type => ?_)
        fun keep type t' found' => ?_
      · obtain ⟨s, mem, id, callref, -⟩ := still
        rw [← numbered.unique mem found' id, callref]
        exact owned own
      · exact (goesOn' keep).2.1 type (by simpa [downstateAccepts, type] using accepts)
      · obtain rfl := here.eq found'
        exact (goesOn' keep).2.2 type (by simpa [downstateAccepts, type] using accepts)
    · exact .refl

theorem CcNet.noted_crashed (w : CcNet) (msg : MnccMsg) : (w.noted msg).crashed = w.crashed :=
  update_crashed emit_crashed

/-- A message of MNCC is for the transaction with its call reference, and a rejection is noted there. -/
theorem CcNet.noted_addressed (live : w.crashed = false)
    (found : (w.noted msg).findByCallref msg.callref = some t) :
    Addressed (w.noted msg) t.callId msg := by
  have ⟨mem, callref⟩ := mem_of_find found
  refine ⟨t, mem, rfl, callref, fun reject same => ?_⟩
  rw [noted_live live] at mem
  obtain ⟨s, -, rfl⟩ := mem_map.mp mem
  have ref : s.ref = msg.callref := same.symm.trans callref
  simp [ref, reject]

theorem CcNet.alloc_mem (live : (w.alloc t).crashed = false) :
    { t with callId := w.newCallId } ∈ (w.alloc t).trans := by
  have live' : w.crashed = false := by
    cases crashed : w.crashed with
    | false => rfl
    | true => rw [alloc, update_frozen crashed, crashed] at live; cases live
  rw [alloc_live live']
  exact mem_concat_self

theorem reach_alloc (rules : CcRules) (w : CcNet) (t : CcTrans) (new : t.New)
    (connected : t.byMncc = true → w.mnccUp = true)
    (owned : rules.own → ∀ s ∈ w.trans, s.callref ≠ t.ref) (kept : rules.keep w.newCallId → t.ref ≠ 0) :
    CcReach rules w (w.alloc t) ∧
      ((w.alloc t).crashed = false → { t with callId := w.newCallId } ∈ (w.alloc t).trans) :=
  ⟨(CcMove.alloc w t new connected owned kept).reach, alloc_mem⟩

theorem CcNet.noted_unknown (unknown : (w.noted msg).findByCallref callref = none) :
    w.findByCallref callref = none := by
  cases crashed : w.crashed with
  | true =>
      rw [noted_frozen crashed] at unknown
      exact unknown
  | false =>
      rw [noted_live crashed, findByCallref, find?_map, Option.map_eq_none_iff] at unknown
      exact unknown

theorem CcNet.noted_found (live : w.crashed = false)
    (found : (w.noted msg).findByCallref callref = some t) :
    ∃ s, w.findByCallref callref = some s ∧
      t = { s with rejected := s.rejected || (s.ref = msg.callref && msg.type = .rejReq) } := by
  rw [noted_live live, findByCallref, find?_map, Option.map_eq_some_iff] at found
  obtain ⟨s, found, is⟩ := found
  exact ⟨s, found, is.symm⟩

/-- `vlr_subscr_find_by_msisdn()` or `vlr_subscr_find_by_imsi()`. -/
def calleeOf (msg : MnccMsg) (env : CcEnv) : Option Callee :=
  if msg.called = [] then env.byImsi msg.imsi else env.byMsisdn msg.called

/-- What a new call that keeps its call reference asks of its `MNCC_SETUP_REQ`. -/
def NewCallGoesOn (w : CcNet) (msg : MnccMsg) (env : CcEnv) : Prop :=
  msg.callref ≠ 0 ∧ ∀ callee conn, calleeOf msg env = some callee → callee.conn = some conn →
    SetupGoesOut w
      { callId := w.newCallId, vsub := callee.vsub, callref := msg.callref, ref := msg.callref } msg env

/-- A new transaction has no identifier yet. -/
theorem SetupGoesOut.alloc {vsub : Nat} (byMncc : Bool) (goesOut : SetupGoesOut w
      { callId := w.newCallId, vsub := vsub, callref := msg.callref, ref := msg.callref } msg env) :
    SetupGoesOut ((w.noted msg).alloc
        { callId := (w.noted msg).newCallId, vsub := vsub, callref := msg.callref, ref := msg.callref
          byMncc := byMncc })
      { callId := (w.noted msg).newCallId, vsub := vsub, callref := msg.callref, ref := msg.callref
        byMncc := byMncc } msg env := by
  refine ⟨?_, goesOut.2⟩
  have free := goesOut.1
  cases crashed : w.crashed with
  | true =>
      rw [noted_frozen crashed, CcNet.alloc, update_frozen crashed]
      exact free
  | false =>
      rw [alloc_live ((w.noted_crashed msg).trans crashed), noted_live crashed]
      simp only [gsm48CcTxSetupSetTransactionId, filter_append, filter_map,
        filterMap_append, filterMap_map] at free ⊢
      simpa [Function.comp_def] using free

theorem reach_newCall (outside : rules.Moves out)
    (unknown : (w.noted msg).findByCallref msg.callref = none) (up : w.mnccUp = true)
    (owned : rules.own → msg.callref ≠ 0 ∧ (msg.type ≠ .setupReq → msg.callref ∉ endedRefs w.acts))
    (goesOn : rules.keep (w.noted msg).newCallId → msg.type = .setupReq → NewCallGoesOn w msg env) :
    CcReach rules w (mnccTxNewCall out (w.noted msg) msg env) := by
  have refused (cause : CcCause) : CcReach rules w (mnccReleaseUnknown (w.noted msg) msg.callref cause) :=
    (CcMove.reply w msg { type := .relInd, callref := msg.callref, cause := some ⟨.prnSLu, cause⟩ }
      unknown rfl rfl owned).reach
  have heard : CcReach rules w (w.noted msg) := (CcMove.hear w msg).reach
  have up' : (w.noted msg).mnccUp = true := ((noted_refs w msg : SameRefs rules.keep True _ _).mnccUp trivial).trans up
  have other (s : CcTrans) (mem : s ∈ (w.noted msg).trans) : s.callref ≠ msg.callref := by
    simpa using find?_eq_none.mp unknown s mem
  unfold mnccTxNewCall
  split
  · exact refused _
  rename_i isSetup
  have setup : msg.type = .setupReq := of_not_not isSetup
  split
  · exact refused _
  split
  · exact refused _
  rename_i callee known
  dsimp only
  split
  · exact refused _
  split
  · exact refused _
  split
  · exact refused _
  have goesOut (keep : rules.keep (w.noted msg).newCallId) (conn : Nat) (on : callee.conn = some conn) :=
    ((goesOn keep setup).2 callee conn known on).alloc true
  have under (keep : rules.keep (w.noted msg).newCallId) : msg.callref ≠ 0 := (goesOn keep setup).1
  generalize w.noted msg = w' at heard up' other goesOut under
  have ⟨allocated, is⟩ := reach_alloc rules w'
    { callId := w'.newCallId, vsub := callee.vsub, callref := msg.callref, ref := msg.callref
      byMncc := true } ⟨rfl, rfl, rfl, rfl, rfl, rfl⟩ (fun _ => up') (fun _ => other) under
  refine heard.trans (allocated.trans (.ofNumbered fun numbered => ?_))
  generalize w'.alloc _ = w'' at is numbered goesOut
  split
  · -- the SETUP is kept until paging succeeds
    have kept : CcReach rules w'' (w''.onTrans w'.newCallId fun t =>
        { t with msg := some msg, pagingRequest := env.pagingStarts }) := by
      refine reach_onTrans (fun t _ => ⟨fun early => ⟨early, .inl rfl⟩, ?_⟩) fun _ => rfl
      intro msg' is isInd
      cases is
      rw [setup] at isInd
      cases isInd
    split
    · exact kept
    · exact kept.trans reach_transFree
  · rename_i conn on
    refine (reach_quiet (by intro _; rfl)).trans (reach_txToTrans outside (fun live => ?_) (fun own => (owned own).1)
      fun keep t' here' => ?_)
    · obtain ⟨t, here⟩ := has_of_onTrans live
      have addressed : Addressed w'' w'.newCallId msg :=
        ⟨_, is here.live, rfl, rfl, fun reject => by simp [setup] at reject⟩
      exact addressed.onTrans (fun _ => rfl) here
    · obtain ⟨t, here⟩ := has_of_onTrans here'.live
      rw [here.found_onTrans (by intro _; rfl) here'.found]
      obtain rfl := numbered.unique (is here.live) here.found rfl
      refine ⟨by simp [on], fun type => ?_, fun _ _ => ?_⟩
      · rw [setup] at type
        cases type
      · exact (goesOut keep conn on).onTrans (fun _ => ⟨rfl, rfl⟩) rfl here

/-- What a call that keeps its call reference asks of messages of MNCC. -/
def MnccKeeps (callId : Nat) (w : CcNet) (msg : MnccMsg) (env : CcEnv) : Prop :=
  match w.findByCallref msg.callref with
  | some t => t.callId = callId → MnccGoesOn w t msg env
  | none => w.newCallId = callId → msg.type = .setupReq → NewCallGoesOn w msg env

theorem reach_mncc (outside : rules.Moves out) (msg : MnccMsg) (up : w.mnccUp = true)
    (owned : rules.own → msg.callref ≠ 0 ∧ (msg.type ≠ .setupReq → msg.callref ∉ endedRefs w.acts))
    (keepsCalls : rules.own → msg.type = .rtpConnect → KeepsCalls out)
    (keeps : ∀ callId, rules.keep callId → MnccKeeps callId w msg env) :
    CcReach rules w (mnccTxToGsmCc out w msg env) := by
  unfold mnccTxToGsmCc
  split
  · exact reach_bridge msg
  · rename_i type
    exact reach_rtpCreate outside msg fun own => ⟨(owned own).1, (owned own).2 (by simp [type])⟩
  · rename_i type
    exact reach_rtpConnect outside msg (fun own => ⟨(owned own).1, (owned own).2 (by simp [type])⟩)
      fun own => keepsCalls own type
  · exact .refl
  · exact .refl
  · dsimp only
    split
    · rename_i unknown
      refine reach_newCall outside unknown up owned fun keep setup => ?_
      have keeps' := keeps _ keep
      rw [MnccKeeps, noted_unknown unknown] at keeps'
      exact keeps' (noted_refs w msg : SameRefs rules.keep False w _).next.symm setup
    · rename_i t found
      refine (CcMove.hear w msg).reach.trans (.ofNumbered fun numbered => reach_txToTrans outside
        (fun live => ?_) (fun own => (owned own).1) fun keep t' here => ?_)
      · exact noted_addressed ((w.noted_crashed msg).symm.trans live) found
      · have live₀ := (w.noted_crashed msg).symm.trans here.live
        obtain rfl := numbered.unique (mem_of_find?_eq_some found) here.found rfl
        obtain ⟨s, found₀, rfl⟩ := noted_found live₀ found
        have keeps' := keeps _ keep
        rw [MnccKeeps, found₀] at keeps'
        obtain ⟨conn, reject, setup⟩ := keeps' rfl
        refine ⟨conn, reject, fun type null => ?_⟩
        refine (setup type null).of_map _ (by rw [noted_live live₀]) ?_ ?_
        · exact fun _ => ⟨rfl, rfl⟩
        · exact ⟨rfl, rfl, rfl⟩

/-! #### Messages of the MS -/

/-- What a message of the MS asks of the transaction that it is for. -/
def MsgOwned (type : CcMsgType) (t : CcTrans) : Prop :=
  type ≠ .releaseCompl → type ≠ .statusEnq → t.callref ≠ 0

theorem reach_datastateRout (outside : rules.Moves out) {msg : CcMsg}
    (accepted : ∀ t, w.find callId = some t → datastateAccepts msg.type t.state = true)
    (owned : rules.own → ∀ t, w.find callId = some t → MsgOwned msg.type t)
    (kept : rules.own → msg.type = .callConf → KeepsCalls out)
    (goesOn : rules.keep callId → msg.type ≠ .release ∧ msg.type ≠ .releaseCompl) :
    CcReach rules w (datastateRout out w callId msg env) := by
  unfold datastateRout
  split
  case h_1 type =>
    exact reach_rxSetup outside msg fun t found => by simpa [datastateAccepts, type] using accepted t found
  case h_2 type =>
    exact reach_rxSetup outside msg fun t found => by simpa [datastateAccepts, type] using accepted t found
  case h_4 type =>
    refine reach_rxCallConf outside msg (fun t found => ?_) (fun own t found => ?_) fun own => kept own type
    · simpa [datastateAccepts, type] using accepted t found
    · exact owned own t found (by simp [type]) (by simp [type])
  case h_5 type =>
    exact reach_rxAlerting outside fun own t found => owned own t found (by simp [type]) (by simp [type])
  case h_11 => exact reach_tell (fun _ _ => .of_same rfl rfl rfl) (by intro _; rfl)
  case h_19 type =>
    exact reach_rxRelease msg (fun own t found => owned own t found (by simp [type]) (by simp [type]))
      fun keep => (goesOn keep).1 type
  case h_20 type => exact reach_rxReleaseCompl msg fun keep => (goesOn keep).2 type
  case h_21 => exact .refl
  -- the others tell MNCC, with a change of state at most
  all_goals
    rename_i type
    have owned' (own : rules.own) (t : CcTrans) (found : w.find callId = some t) : t.callref ≠ 0 :=
      owned own t found (by simp [type]) (by simp [type])
    first
    | exact reach_indicate outside (fun _ _ => .of_same rfl rfl rfl) rfl (by simp) owned' fun _ => rfl
    | exact reach_indicate outside (fun _ _ => .of_newState (by decide) fun _ is _ => is) rfl (by simp) owned' fun _ => rfl

theorem reach_rcvCcTrans (outside : rules.Moves out) (msg : CcMsg)
    (owned : rules.own → ∀ t, w.Has callId t →
      datastateAccepts msg.type t.state = true → MsgOwned msg.type t)
    (kept : rules.own → msg.type = .callConf → KeepsCalls out)
    (goesOn : rules.keep callId → ∀ t, w.Has callId t →
      msg.type ≠ .releaseCompl ∧ (msg.type = .release → t.state = .null)) :
    CcReach rules w (rcvCcTrans out w callId msg env) := by
  refine reach_withTrans fun t here => ?_
  split
  · rename_i accepted
    refine reach_datastateRout outside (fun t' found => here.eq found ▸ accepted)
      (fun own t' found => ?_) kept fun keep => ⟨fun type => ?_, (goesOn keep t here).1⟩
    · exact here.eq found ▸ owned own t here accepted
    · have null := (goesOn keep t here).2 type
      simp [datastateAccepts, type, null] at accepted
  · split
    · exact reach_transFree
    · exact .refl

theorem mscCcNextOutgoingCallref_pos (lastCallref : Nat) : mscCcNextOutgoingCallref lastCallref ≠ 0 := by
  unfold mscCcNextOutgoingCallref
  dsimp only
  split <;> omega

/-- A message of the MS does not make a transaction speak that has no call reference, and does not create
one with a call reference that is in use. -/
def MsSpeaks (w : CcNet) (vsub transactionId : Nat) (msg : CcMsg) : Prop :=
  match w.findById vsub transactionId with
  | some t => datastateAccepts msg.type t.state = true → MsgOwned msg.type t
  | none => ∀ s ∈ w.trans, s.callref ≠ mscCcNextOutgoingCallref w.lastCallref

instance (type : CcMsgType) (t : CcTrans) : Decidable (MsgOwned type t) :=
  inferInstanceAs (Decidable (_ → _ → _))

instance (w : CcNet) (vsub transactionId : Nat) (msg : CcMsg) :
    Decidable (MsSpeaks w vsub transactionId msg) := by
  unfold MsSpeaks
  split <;> infer_instance

/-- What every message to MNCC having a call reference asks of a message of the MS. -/
def MsOwns (out : CcNet → CcNet) (w : CcNet) (vsub transactionId : Nat) (msg : CcMsg) : Prop :=
  (msg.type = .callConf → KeepsCalls out) ∧ MsSpeaks w vsub transactionId msg

/-- What a call that keeps its call reference asks of messages of the MS. -/
def MsKeeps (callId : Nat) (w : CcNet) (vsub transactionId : Nat) (msg : CcMsg) : Prop :=
  match w.findById vsub transactionId with
  | some t => t.callId = callId → msg.type ≠ .releaseCompl ∧ (msg.type = .release → t.state = .null)
  | none => w.newCallId = callId → msg.type ≠ .releaseCompl

theorem reach_rcvCc (outside : rules.Moves out) (conn : Nat) (vsub : Option Nat)
    (transactionId : Nat) (msg : CcMsg)
    (owns : rules.own → ∀ v, vsub = some v → MsOwns out w v transactionId msg)
    (keeps : ∀ callId, rules.keep callId → ∀ v, vsub = some v → MsKeeps callId w v transactionId msg) :
    CcReach rules w (gsm0408RcvCc out w conn vsub transactionId msg env) := by
  unfold gsm0408RcvCc
  split
  · exact .refl
  rename_i v
  have owns' (own : rules.own) := owns own v rfl
  have keeps' (callId : Nat) (keep : rules.keep callId) := keeps callId keep v rfl
  unfold MsOwns MsSpeaks at owns'
  unfold MsKeeps at keeps'
  refine .ofNumbered fun numbered => ?_
  split
  · rename_i t found
    have mem : t ∈ w.trans := mem_of_find?_eq_some found
    simp only [found] at owns' keeps'
    refine reach_rcvCcTrans outside msg (fun own t' here accepted => ?_) (fun own => (owns' own).1)
      fun keep t' here => ?_
    · obtain rfl := numbered.unique mem here.found rfl
      exact (owns' own).2 accepted
    · obtain rfl := numbered.unique mem here.found rfl
      exact keeps' _ keep rfl
  rename_i missing
  simp only [missing] at owns' keeps'
  dsimp only
  refine (CcMove.count w (mscCcNextOutgoingCallref w.lastCallref)).reach.trans ?_
  have fields : (w.update fun w' => { w' with lastCallref := mscCcNextOutgoingCallref w.lastCallref }).trans
      = w.trans ∧ (w.update fun w' =>
        { w' with lastCallref := mscCcNextOutgoingCallref w.lastCallref }).newCallId = w.newCallId := by
    unfold update
    split <;> exact ⟨rfl, rfl⟩
  generalize w.update _ = w' at fields
  split
  · exact (CcMove.toMs w' none .releaseCompl).reach
  obtain ⟨allocated, is⟩ := reach_alloc rules w'
    { callId := w'.newCallId, vsub := v, transactionId := some transactionId
      callref := mscCcNextOutgoingCallref w.lastCallref, ref := mscCcNextOutgoingCallref w.lastCallref }
    ⟨rfl, rfl, rfl, rfl, rfl, rfl⟩ (fun byMncc => by cases byMncc)
    (fun own s mem => (owns' own).2 s (fields.1 ▸ mem)) fun _ => mscCcNextOutgoingCallref_pos _
  refine allocated.trans (.ofNumbered fun numbered' => ?_)
  generalize w'.alloc _ = w'' at is numbered'
  split
  · exact reach_transFree
  · refine (reach_quiet (by intro _; rfl)).trans (reach_rcvCcTrans outside msg (fun own t' here' _ => ?_)
      (fun own => (owns' own).1) fun keep t' here' => ?_)
    · obtain ⟨t, here⟩ := has_of_onTrans here'.live
      rw [here.found_onTrans (by intro _; rfl) here'.found]
      obtain rfl := numbered'.unique (is here.live) here.found rfl
      exact fun _ _ => mscCcNextOutgoingCallref_pos _
    · obtain ⟨t, here⟩ := has_of_onTrans here'.live
      rw [here.found_onTrans (by intro _; rfl) here'.found]
      obtain rfl := numbered'.unique (is here.live) here.found rfl
      exact ⟨keeps' _ keep fields.2.symm, fun _ => rfl⟩

/-! #### The end of MNCC -/

theorem reach_clearAll {ids : List Nat} (down : w.mnccUp = false) (gives : ∀ id ∈ ids, ¬ rules.keep id) :
    CcReach rules w (ids.foldl freeWithoutRef w) := by
  induction ids generalizing w with
  | nil => exact .refl
  | cons id ids ih =>
      have dropped : CcReach rules w (freeWithoutRef w id) :=
        reach_drop (fun _ => rfl) (fun _ => .inl down) (gives id (mem_cons_self ..))
      refine dropped.trans (ih ?_ fun id mem => gives id (mem_cons_of_mem _ mem))
      rw [freeWithoutRef, transFree_mnccUp, onTrans_mnccUp, down]

theorem reach_mnccLost (gives : ∀ t ∈ w.trans, ¬ rules.keep t.callId) : CcReach rules w (mnccSockClose w) := by
  refine (CcMove.lost w).reach.trans ?_
  unfold mnccSockClose gsm0408ClearAllTrans
  cases crashed : w.crashed with
  | false =>
      refine reach_clearAll ?_ fun id mem => ?_
      · rw [update_live (by simp [crashed])]
      · rw [update_live (by simp [crashed]), emit_live crashed] at mem
        obtain ⟨t, mem', rfl⟩ := mem_map.mp mem
        exact gives t mem'
  | true =>
      rw [emit_frozen crashed, update_frozen crashed]
      have frozen (id : Nat) : freeWithoutRef w id = w := by
        rw [freeWithoutRef, onTrans_frozen crashed, strict_transFree.frozen w crashed]
      rw [foldl_fixed' frozen]
      exact .refl

/-! ### Every move -/

theorem CcMove.grows (move : CcMove rules w w') : w.acts <+: w'.acts := by
  rcases move.refs with same | ⟨t, -, -, rfl⟩
  · exact same.acts
  · unfold CcNet.alloc update
    split
    · exact prefix_rfl
    · exact (emit_refs : SameRefs rules.keep False _ _).acts

theorem CcMove.frozen (move : CcMove rules w w') (crashed : w.crashed = true) : w' = w := by
  cases move with
  | crash =>
      unfold CcNet.crash
      rw [← crashed]
  | toMs callId type => exact emit_frozen crashed _
  | change callId t f => exact onTrans_frozen crashed
  | relay callId msg => exact toMncc_frozen crashed _ _
  | announce callId t setup msg => rw [onTrans_frozen crashed, toMncc_frozen crashed]
  | hear msg => exact noted_frozen crashed msg
  | reply msg answer => rw [noted_frozen crashed, toMncc_frozen crashed]
  | expire callId t msg =>
      rw [onTrans_frozen crashed, toMncc_frozen crashed, onTrans_frozen crashed]
  | free callId t f => rw [onTrans_frozen crashed, strict_transFree.frozen w crashed]
  | conclude callId t f g msg =>
      rw [onTrans_frozen crashed, toMncc_frozen crashed, onTrans_frozen crashed,
        strict_transFree.frozen w crashed]
  | drop callId t g => rw [onTrans_frozen crashed, strict_transFree.frozen w crashed]
  | alloc _ | count _ => exact update_frozen crashed _
  | lost => rw [emit_frozen crashed, update_frozen crashed]
  | connected => exact update_frozen crashed _

/-! ### Runs -/

theorem reach_ifKnown {k : CcTrans → CcNet} (reach : ∀ t, w.find callId = some t → CcReach rules w (k t)) :
    CcReach rules w (w.ifKnown callId k) := by
  unfold ifKnown
  split
  · exact .refl
  · rename_i t found
    exact reach t found

/-- The message to MNCC that an input leads to has the call reference of a call that is not over. -/
def CcInput.Owns (out : CcNet → CcNet) (w : CcNet) : CcInput → Prop
  | .mncc msg _ =>
    msg.callref ≠ 0 ∧ (msg.type ≠ .setupReq → msg.callref ∉ endedRefs w.acts) ∧
      (msg.type = .rtpConnect → KeepsCalls out)
  | .ms _ vsub transactionId msg _ => ∀ v, vsub = some v → MsOwns out w v transactionId msg
  | .paged callId _ _ => ∀ t ∈ w.find callId, t.pagingRequest = true → t.callref ≠ 0
  | .cnRtpKnown callId _ | .assigned callId _ _ =>
    ∀ t ∈ w.find callId, t.state ≠ .releaseReq → t.callref ≠ 0
  | .timeout _ | .guardTimeout _ | .free _ | .moved _ _ | .mnccLost | .mnccConnected => True

/-- An input does not make a call give up its call reference. -/
def CcInput.Keeps (callId : Nat) (w : CcNet) : CcInput → Prop
  | .mncc msg env => MnccKeeps callId w msg env
  | .ms _ vsub transactionId msg _ => ∀ v, vsub = some v → MsKeeps callId w v transactionId msg
  | .paged id mscA env =>
    id = callId → ∀ t ∈ w.find id, t.pagingRequest = true → t.mscA = none →
      mscA ≠ none ∧ SetupGoesOut w t (t.msg.getD { type := .unset }) env
  | .timeout id => id = callId → ∀ t ∈ w.find id, t.timer ≠ some .t303 ∧ t.timer ≠ some .t306
  | .mnccLost => ∀ t ∈ w.trans, t.callId ≠ callId
  | .guardTimeout _ | .cnRtpKnown _ _ | .assigned _ _ _ | .free _ | .moved _ _ | .mnccConnected => True

/-- An input keeps to the rules. -/
def CcInput.Meets (rules : CcRules) (out : CcNet → CcNet) (w : CcNet) (input : CcInput) : Prop :=
  (rules.own → input.Owns out w) ∧ ∀ callId, rules.keep callId → input.Keeps callId w

theorem ccEvent_reach (outside : rules.Moves out) (w : CcNet) (input : CcInput)
    (meets : input.Meets rules out w) : CcReach rules w (ccEvent out w input) := by
  obtain ⟨owns, keeps⟩ := meets
  cases input with
  | mncc msg env =>
      change CcReach rules w (if w.mnccUp then mnccTxToGsmCc out w msg env else w)
      split
      · rename_i up
        exact reach_mncc outside msg up (fun own => ⟨(owns own).1, (owns own).2.1⟩)
          (fun own => (owns own).2.2) keeps
      · exact .refl
  | ms conn vsub transactionId msg env => exact reach_rcvCc outside conn vsub transactionId msg owns keeps
  | paged callId mscA env =>
      exact reach_ifKnown fun _ _ => reach_paged mscA owns fun keep => keeps callId keep rfl
  | timeout callId =>
      exact reach_ifKnown fun _ _ => reach_timeout outside fun keep => keeps callId keep rfl
  | guardTimeout callId => exact reach_ifKnown fun _ _ => reach_guardTimeout
  | cnRtpKnown callId env =>
      refine reach_ifKnown fun t found => ?_
      split
      · rename_i conn
        exact reach_cnRtpKnown outside found conn fun own => owns own t found
      · exact .refl
  | assigned callId codec env =>
      refine reach_ifKnown fun t found => ?_
      split
      · exact reach_assigned outside codec owns
      · exact .refl
  | free callId => exact reach_ifKnown fun _ _ => reach_transFree
  | moved callId conn =>
      refine reach_ifKnown fun t found => ?_
      split
      · exact reach_quiet fun _ => rfl
      · exact .refl
  | mnccLost => exact reach_mnccLost fun t mem keep => keeps t.callId keep t mem rfl
  | mnccConnected => exact (CcMove.connected w).reach

/-- No rules. -/
def CcRules.none : CcRules := ⟨False, fun _ => False⟩

/-- A run is moves only. -/
theorem ccRun_reach (run : CcRun w w') : CcReach .none w w' :=
  NestedRun.relates (R := CcReach .none) (fun _ => .refl) CcReach.trans
    (fun _ outside w input => ccEvent_reach outside w input ⟨False.elim, fun _ => False.elim⟩) run

/-- A run whose inputs keep to rules is moves that keep to them. -/
theorem ccRunMeeting_reach
    (run : NestedRunMeeting ccEvent (fun out w input => input.Meets rules out w) w w') :
    CcReach rules w w' :=
  NestedRunMeeting.relates (R := CcReach rules) (fun _ => .refl) CcReach.trans
    (fun _ outside w input => ccEvent_reach outside w input) run

theorem CcNet.Fresh.numbered (fresh : w.Fresh) : w.Numbered where
  ids := by simp [fresh.trans]
  fresh := by simp [fresh.trans]

end Handlers

end OsmoMsc.Cc
