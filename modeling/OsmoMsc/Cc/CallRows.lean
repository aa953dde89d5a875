/-
Module: OsmoMsc.Cc.CallRows
Purpose: The rows of a call in the CDR file (msc_cdr.c): partial ones from the interval timer, and a
  final one from `_gsm48_cc_trans_free()`.  They all have the call reference that the call was set
  up with, as long as the handler that ends the call does not take it away first; a call that is
  released, by either side, is written with call reference zero.
Trusted boundary: which rows there are and their call references; the other columns are those of
  `OsmoMsc.Cdr.Ticket`.  The interval timer may fire for any transaction: what it writes does not depend on
  when it was started
Main exports: CallRow, CdrCalls, emitCall, CdrRun, RowsAgree, cdrRun_rowsAgree
-/
import OsmoMsc.Cc.CallRef

namespace OsmoMsc.Cc

open Library (mem_concat NestedRunMeeting StepsMeet)
open Relation CcNet List

/-! ### Rows -/

/-- A row for a call. -/
structure CallRow where
  callId : Nat
  /-- `sequence_number`. -/
  sequence : Nat
  isPartial : Bool
  callref : Nat
deriving DecidableEq, Repr

/-- Call control, and what has been written about its calls. -/
structure CdrCalls where
  net : CcNet := {}
  /-- `cdr_enabled()`. -/
  enabled : Bool := true
  rows : List CallRow := []

variable {s : CdrCalls} {w w' : CcNet} {callId : Nat}

/-- `emit_call()`. -/
def emitCall (s : CdrCalls) (t : CcTrans) (isPartial : Bool) : CdrCalls :=
  if s.enabled then
    { s with
      rows := s.rows ++ [
        { callId := t.callId
          sequence := (s.rows.filter (·.callId = t.callId)).length
          isPartial := isPartial
          callref := t.callref }] }
  else s

/-- An input of call control.  `_gsm48_cc_trans_free()` calls `msc_cdr_call()` first, and does not change the
call reference afterwards. -/
def CdrCalls.cc (s : CdrCalls) (out : CcNet → CcNet) (input : CcInput) : CdrCalls :=
  let net := ccEvent out s.net input
  (net.gone.drop s.net.gone.length).foldl (fun s t => emitCall s t false) { s with net := net }

/-- `cdr_interval_cb()`. -/
def CdrCalls.interval (s : CdrCalls) (callId : Nat) : CdrCalls :=
  match s.net.find callId with
  | none => s
  | some t => emitCall s t true

/-- A run of call control with an operator who switches CDRs on and off; `ok` is asked of every input, those
during call-outs included. -/
inductive CdrRun (ok : (CcNet → CcNet) → CcNet → CcInput → Prop) : CdrCalls → CdrCalls → Prop
  | refl (s : CdrCalls) : CdrRun ok s s
  | cc {s s' : CdrCalls} (run : CdrRun ok s s') (out : CcNet → CcNet)
      (outside : ∀ w, NestedRunMeeting ccEvent ok w (out w)) (input : CcInput) (meets : ok out s'.net input) :
      CdrRun ok s (s'.cc out input)
  | interval {s s' : CdrCalls} (run : CdrRun ok s s') (callId : Nat) : CdrRun ok s (s'.interval callId)
  | configured {s s' : CdrCalls} (run : CdrRun ok s s') (enabled : Bool) :
      CdrRun ok s { s' with enabled := enabled }

/-- All rows of a call have the call reference, other than zero, that its transaction was created with. -/
structure RowsAgree (s : CdrCalls) (callId : Nat) : Prop where
  own : ∀ row ∈ s.rows, row.callId = callId →
    row.callref ≠ 0 ∧ s.net.acts.any (CcAct.creates callId row.callref) = true
  same : ∀ row ∈ s.rows, ∀ row' ∈ s.rows, row.callId = callId → row'.callId = callId →
    row.callref = row'.callref

/-! ### The call reference of a call -/

/-- A call has its call reference, whether it lasts or is over. -/
structure HasRef (callId ref : Nat) (w : CcNet) : Prop where
  nonzero : ref ≠ 0
  created : w.acts.any (CcAct.creates callId ref) = true
  old : callId < w.newCallId
  refs : ∀ t ∈ w.trans ++ w.gone, t.callId = callId → t.callref = ref

/-- There has been no such call yet. -/
def NotYet (callId : Nat) (w : CcNet) : Prop := ∀ t ∈ w.trans ++ w.gone, t.callId ≠ callId

/-- The rules for a call that does not give up its call reference. -/
def CcRules.keeping (callId : Nat) : CcRules := ⟨False, (· = callId)⟩

theorem CcMove.hasRef {ref : Nat} (move : CcMove (.keeping callId) w w') (has : HasRef callId ref w) :
    HasRef callId ref w' := by
  have created : w'.acts.any (CcAct.creates callId ref) = true := by
    obtain ⟨more, grown⟩ := move.grows
    rw [← grown, any_append, has.created]
    rfl
  rcases move.refs with same | ⟨t, -, -, rfl⟩
  · refine ⟨has.nonzero, created, same.next ▸ has.old, fun t mem id => ?_⟩
    obtain ⟨s, mem', id', -, callref⟩ := same.known t mem id
    exact callref.trans (has.refs s mem' (id'.symm.trans id))
  · cases crashed : w.crashed with
    | true =>
        rw [CcNet.alloc, update_frozen crashed]
        exact has
    | false =>
        rw [alloc_live crashed] at created ⊢
        refine ⟨has.nonzero, created, Nat.lt_succ_of_lt has.old, fun s mem id => ?_⟩
        rcases mem_append.mp mem with listed | freed
        · rcases mem_concat.mp listed with before | rfl
          · exact has.refs s (mem_append_left _ before) id
          · exact absurd id (Nat.ne_of_gt has.old)
        · exact has.refs s (mem_append_right _ freed) id

theorem CcMove.notYet (move : CcMove (.keeping callId) w w') (notYet : NotYet callId w) :
    NotYet callId w' ∨ ∃ ref, HasRef callId ref w' := by
  rcases move.refs with same | ⟨t, new, kept, rfl⟩
  · refine .inl fun t mem id => ?_
    obtain ⟨s, mem', id', -⟩ := same.known t mem id
    exact notYet s mem' (id'.symm.trans id)
  · cases crashed : w.crashed with
    | true =>
        rw [CcNet.alloc, update_frozen crashed]
        exact .inl notYet
    | false =>
        rw [alloc_live crashed]
        by_cases here : w.newCallId = callId
        · refine .inr ⟨t.ref, kept here, ?_, here ▸ Nat.lt_succ_self _, fun s mem id => ?_⟩
          · simp [CcAct.creates, here]
          rcases mem_append.mp mem with listed | freed
          · rcases mem_concat.mp listed with before | rfl
            · exact absurd id (notYet s (mem_append_left _ before))
            · exact new.callref
          · exact absurd id (notYet s (mem_append_right _ freed))
        · refine .inl fun s mem id => ?_
          rcases mem_append.mp mem with listed | freed
          · rcases mem_concat.mp listed with before | rfl
            · exact notYet s (mem_append_left _ before) id
            · exact here id
          · exact notYet s (mem_append_right _ freed) id

theorem hasRef_of_moves {ref : Nat} (moves : ReflTransGen (CcMove (.keeping callId)) w w')
    (has : HasRef callId ref w) : HasRef callId ref w' := by
  induction moves with
  | refl => exact has
  | tail _ move ih => exact move.hasRef ih

theorem notYet_of_moves (moves : ReflTransGen (CcMove (.keeping callId)) w w')
    (notYet : NotYet callId w) : NotYet callId w' ∨ ∃ ref, HasRef callId ref w' := by
  induction moves with
  | refl => exact .inl notYet
  | tail _ move ih =>
      rcases ih with before | ⟨ref, has⟩
      · exact move.notYet before
      · exact .inr ⟨ref, move.hasRef has⟩

/-! ### Runs -/

/-- Every row of the call that has been written has the call reference of the call. -/
structure RowsInv (callId : Nat) (s : CdrCalls) : Prop where
  numbered : s.net.Numbered
  rows : NotYet callId s.net ∧ (∀ row ∈ s.rows, row.callId ≠ callId) ∨
    ∃ ref, HasRef callId ref s.net ∧ ∀ row ∈ s.rows, row.callId = callId → row.callref = ref

theorem RowsInv.emit (inv : RowsInv callId s) {t : CcTrans} (known : t ∈ s.net.trans ++ s.net.gone)
    (isPartial : Bool) : RowsInv callId (emitCall s t isPartial) := by
  unfold emitCall
  split
  · refine ⟨inv.numbered, ?_⟩
    rcases inv.rows with ⟨notYet, rows⟩ | ⟨ref, has, rows⟩
    · refine .inl ⟨notYet, fun row mem => ?_⟩
      rcases mem_concat.mp mem with before | rfl
      · exact rows row before
      · exact notYet t known
    · refine .inr ⟨ref, has, fun row mem id => ?_⟩
      rcases mem_concat.mp mem with before | rfl
      · exact rows row before id
      · exact has.refs t known id
  · exact inv

theorem emitCall_net (s : CdrCalls) (t : CcTrans) (isPartial : Bool) :
    (emitCall s t isPartial).net = s.net := by
  unfold emitCall
  split <;> rfl

theorem RowsInv.emitAll (inv : RowsInv callId s) {ts : List CcTrans}
    (known : ∀ t ∈ ts, t ∈ s.net.trans ++ s.net.gone) :
    RowsInv callId (ts.foldl (fun s t => emitCall s t false) s) := by
  induction ts generalizing s with
  | nil => exact inv
  | cons t ts ih =>
      refine ih (inv.emit (known t mem_cons_self) false) fun t' mem => ?_
      rw [emitCall_net]
      exact known t' (mem_cons_of_mem t mem)

theorem RowsInv.cc (inv : RowsInv callId s) {out : CcNet → CcNet}
    (outside : ∀ w, NestedRunMeeting ccEvent (fun _ w input => input.Keeps callId w) w (out w))
    {input : CcInput} (keeps : input.Keeps callId s.net) : RowsInv callId (s.cc out input) := by
  have meets (out : CcNet → CcNet) (w : CcNet) (input : CcInput) (keeps : input.Keeps callId w) :
      input.Meets (.keeping callId) out w := ⟨False.elim, fun id same => same ▸ keeps⟩
  have moves : ReflTransGen (CcMove (.keeping callId)) s.net (ccEvent out s.net input) :=
    ccEvent_reach (fun w => ccRunMeeting_reach ((outside w).weaken fun out w input => meets out w input))
      s.net input (meets out s.net input keeps) inv.numbered
  have after : RowsInv callId { s with net := ccEvent out s.net input } := by
    refine ⟨numbered_of_moves moves inv.numbered, ?_⟩
    rcases inv.rows with ⟨notYet, rows⟩ | ⟨ref, has, rows⟩
    · rcases notYet_of_moves moves notYet with still | ⟨ref, has⟩
      · exact .inl ⟨still, rows⟩
      · exact .inr ⟨ref, has, fun row mem id => absurd id (rows row mem)⟩
    · exact .inr ⟨ref, hasRef_of_moves moves has, rows⟩
  exact after.emitAll fun t mem => mem_append_right _ (mem_of_mem_drop mem)

theorem CdrRun.inv {s' : CdrCalls} (run : CdrRun (fun _ w input => input.Keeps callId w) s s')
    (inv : RowsInv callId s) : RowsInv callId s' := by
  induction run with
  | refl => exact inv
  | cc _ out outside input keeps ih => exact ih.cc outside keeps
  | @interval s' run id ih =>
      unfold CdrCalls.interval
      split
      · exact ih
      · rename_i t found
        exact ih.emit (mem_append_left _ (find_mem found).1) true
  | configured _ _ ih => exact ⟨ih.numbered, ih.rows⟩

theorem RowsInv.agree (inv : RowsInv callId s) : RowsAgree s callId := by
  rcases inv.rows with ⟨-, rows⟩ | ⟨ref, has, rows⟩
  · exact ⟨fun row mem id => absurd id (rows row mem), fun row mem _ _ id => absurd id (rows row mem)⟩
  · refine ⟨fun row mem id => ?_, fun row mem row' mem' id id' => ?_⟩
    · rw [rows row mem id]
      exact ⟨has.nonzero, has.created⟩
    · exact (rows row mem id).trans (rows row' mem' id').symm

/-- The rows of a call agree in every run in which nothing makes the call give up its call reference: neither
side releases it, T303 and T306 do not end it, paging succeeds and the SETUP can be sent, and MNCC neither
rejects the call, nor sends for it while the MS is paged, nor goes away. -/
theorem cdrRun_rowsAgree {s s' : CdrCalls} (fresh : s.net.Fresh) (noRows : s.rows = [])
    (run : CdrRun (fun _ w input => input.Keeps callId w) s s') : RowsAgree s' callId := by
  have start : RowsInv callId s := by
    refine ⟨fresh.numbered, .inl ⟨?_, ?_⟩⟩
    · simp [NotYet, fresh.trans, fresh.gone]
    · simp [noRows]
  exact (run.inv start).agree

/-- Inputs without anything in between. -/
inductive CdrInput where
  | cc (input : CcInput)
  | interval (callId : Nat)

def cdrStep (s : CdrCalls) : CdrInput → CdrCalls
  | .cc input => s.cc (fun w => w) input
  | .interval callId => s.interval callId

def CdrInput.Meets (ok : (CcNet → CcNet) → CcNet → CcInput → Prop) (s : CdrCalls) : CdrInput → Prop
  | .cc input => ok (fun w => w) s.net input
  | .interval _ => True

theorem cdrRun_foldl {ok : (CcNet → CcNet) → CcNet → CcInput → Prop} {inputs : List CdrInput}
    (meets : StepsMeet cdrStep (fun s input => input.Meets ok s) s inputs) :
    CdrRun ok s (inputs.foldl cdrStep s) := by
  have extend (inputs : List CdrInput) {s' : CdrCalls} (run : CdrRun ok s s')
      (meets : StepsMeet cdrStep (fun s input => input.Meets ok s) s' inputs) :
      CdrRun ok s (inputs.foldl cdrStep s') := by
    induction inputs generalizing s' with
    | nil => exact run
    | cons input inputs ih =>
        refine ih ?_ meets.2
        cases input with
        | cc input => exact run.cc _ .refl input meets.1
        | interval callId => exact run.interval callId
  exact extend inputs (.refl s) meets

/-- A call to the MS that is taken; the interval timer fires, and the connection is lost. -/
def lostCall : List CdrInput :=
  [.cc (.mncc setupReq calleeIdle), .cc (.paged 1 (some 3) {}), .cc (.ms 3 (some 7) 0 { type := .callConf } {}),
    .cc (.ms 3 (some 7) 0 { type := .connect } {}), .cc (.mncc { type := .setupComplReq, callref := 5 } {}),
    .interval 1, .cc (.free 1)]

theorem cdrRun_rowsAgree_lostCall :
    (lostCall.foldl cdrStep {}).rows = [⟨1, 0, true, 5⟩, ⟨1, 1, false, 5⟩] ∧
      RowsAgree (lostCall.foldl cdrStep {}) 1 := by
  refine ⟨by decide, cdrRun_rowsAgree ⟨rfl, rfl, rfl⟩ rfl (cdrRun_foldl ?_)⟩
  refine ⟨?_, ?_, ?_, ?_, ?_, trivial, trivial, trivial⟩
  · intro _ _
    refine ⟨by decide, ?_⟩
    rintro callee conn ⟨⟩ ⟨⟩
  · intro _
    exact show ∀ t ∈ find _ _, _ from by decide
  · rintro v ⟨⟩ _
    exact ⟨by decide, nofun⟩
  · rintro v ⟨⟩ _
    exact ⟨by decide, nofun⟩
  · intro _
    exact ⟨by decide, nofun, nofun⟩

/-- The same call, which the MS ends. -/
def endedCall : List CdrInput :=
  [.cc (.mncc setupReq calleeIdle), .cc (.paged 1 (some 3) {}), .cc (.ms 3 (some 7) 0 { type := .callConf } {}),
    .cc (.ms 3 (some 7) 0 { type := .connect } {}), .cc (.mncc { type := .setupComplReq, callref := 5 } {}),
    .interval 1, .cc (.ms 3 (some 7) 0 { type := .disconnect } {}), .cc (.mncc { type := .relReq, callref := 5 } {}),
    .cc (.ms 3 (some 7) 0 { type := .releaseCompl } {})]

/-- The final row has no call reference. -/
theorem not_rowsAgree :
    CdrRun (fun _ _ _ => True) {} (endedCall.foldl cdrStep {}) ∧
      (endedCall.foldl cdrStep {}).rows = [⟨1, 0, true, 5⟩, ⟨1, 1, false, 0⟩] ∧
      ¬ RowsAgree (endedCall.foldl cdrStep {}) 1 := by
  refine ⟨cdrRun_foldl ?_, by decide, fun agree => ?_⟩
  · exact ⟨trivial, trivial, trivial, trivial, trivial, trivial, trivial, trivial, trivial, trivial⟩
  · exact absurd (agree.own ⟨1, 1, false, 0⟩ (by decide) rfl).1 (by decide)

end OsmoMsc.Cc
