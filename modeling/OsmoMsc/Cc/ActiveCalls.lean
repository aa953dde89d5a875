/-
Module: OsmoMsc.Cc.ActiveCalls
Purpose: The statistics of call control (gsm_04_08_cc.c, transaction.c).  `new_cc_state()` is the only
  function that sets the state of a transaction, and `count_statistics()` in it the only one that
  counts, so a run is any sequence of allocations, of changes of state, and of the beginnings and ends
  of `trans_free()`.  That function takes the transaction off `trans_list` first and puts it to NULL
  last, and in between it tells MNCC, which may release the other leg at once.
Trusted boundary: the counters and the statistics item do not wrap around
Main exports: CcCounts, CcCalls, newCcState, callsStep, CcCalls.Counted, callsRun_counted
-/
import Mathlib.Data.List.Nodup
import OsmoMsc.Cc.Trans

namespace OsmoMsc.Cc

/-! ### Counting -/

/-- What `count_statistics()` adds up: `MSC_STAT_ACTIVE_CALLS`, `MSC_CTR_CALL_ACTIVE`,
`MSC_CTR_CALL_COMPLETE` and `MSC_CTR_CALL_INCOMPLETE`. -/
structure CcCounts where
  activeCalls : Int := 0
  callActive : Nat := 0
  callComplete : Nat := 0
  callIncomplete : Nat := 0
deriving DecidableEq, Repr

/-- `count_statistics()`. -/
def CcCounts.countStatistics (c : CcCounts) (oldState newState : CcState) : CcCounts :=
  if oldState = newState then c
  else
    let c :=
      if newState = .active then
        { c with activeCalls := c.activeCalls + 1, callActive := c.callActive + 1 }
      else c
    if oldState = .active then
      let c := { c with activeCalls := c.activeCalls - 1 }
      if newState = .disconnectReq ∨ newState = .disconnectInd then
        { c with callComplete := c.callComplete + 1 }
      else { c with callIncomplete := c.callIncomplete + 1 }
    else c

/-- What the counters say the item is. -/
def CcCounts.balance (c : CcCounts) : Int := c.callActive - c.callComplete - c.callIncomplete

/-- A transaction of the layer, until its memory is freed. -/
structure CcCall where
  callId : Nat
  state : CcState := .null
  /-- It is in `trans_list`. -/
  linked : Bool := true
deriving DecidableEq, Repr

def CcCall.isActive (call : CcCall) : Bool := call.state = .active

/-- The transactions that exist, and what has been counted. -/
structure CcCalls where
  calls : List CcCall := []
  counts : CcCounts := {}
deriving DecidableEq, Repr

/-- Change the transaction with a name. -/
def changeCall (callId : Nat) (f : CcCall → CcCall) (calls : List CcCall) : List CcCall :=
  calls.map fun call => if call.callId = callId then f call else call

section Step

variable (s : CcCalls) (callId : Nat)

/-- `new_cc_state()`. -/
def newCcState (state : CcState) : CcCalls :=
  match s.calls.find? (·.callId = callId) with
  | none => s
  | some call =>
      { calls := changeCall callId (fun call => { call with state := state }) s.calls
        counts := s.counts.countStatistics call.state state }

/-- `trans_alloc()`, under a name that no other transaction has. -/
def transAlloc : CcCalls :=
  if s.calls.any (·.callId = callId) then s
  else { s with calls := s.calls ++ [{ callId := callId }] }

/-- `trans_free()` begins. -/
def transUnlink : CcCalls :=
  { s with calls := changeCall callId (fun call => { call with linked := false }) s.calls }

/-- `trans_free()` ends: `_gsm48_cc_trans_free()` puts the transaction to NULL, and its memory goes. -/
def transFreed : CcCalls :=
  if s.calls.any fun call => call.callId = callId && !call.linked then
    let s := newCcState s callId .null
    { s with calls := s.calls.filter (·.callId ≠ callId) }
  else s

end Step

/-- What happens to transactions. -/
inductive CcCallInput where
  | transAlloc (callId : Nat)
  | newCcState (callId : Nat) (state : CcState)
  | transUnlink (callId : Nat)
  | transFreed (callId : Nat)
deriving DecidableEq, Repr

def callsStep (s : CcCalls) : CcCallInput → CcCalls
  | .transAlloc callId => transAlloc s callId
  | .newCcState callId state => newCcState s callId state
  | .transUnlink callId => transUnlink s callId
  | .transFreed callId => transFreed s callId

/-- `MSC_STAT_ACTIVE_CALLS` is the number of transactions in ACTIVE, and what the counters say it is; it
is the number of those in `trans_list` unless one in ACTIVE is being freed. -/
structure CcCalls.Counted (s : CcCalls) : Prop where
  calls : s.counts.activeCalls = s.calls.countP CcCall.isActive
  counters : s.counts.activeCalls = s.counts.balance
  listed : (∀ call ∈ s.calls, call.isActive = true → call.linked = true) →
    s.counts.activeCalls = s.calls.countP fun call => call.linked && call.isActive

/-! ### Steps and runs -/

/-- What a transaction in a state is worth. -/
def CcState.worth (state : CcState) : Nat := if state = .active then 1 else 0

/-- The item and the counters both follow the state. -/
theorem CcCounts.countStatistics_eq (c : CcCounts) (oldState newState : CcState) :
    (c.countStatistics oldState newState).activeCalls =
        c.activeCalls + newState.worth - oldState.worth ∧
      (c.countStatistics oldState newState).balance =
        c.balance + newState.worth - oldState.worth := by
  unfold countStatistics balance CcState.worth
  by_cases same : oldState = newState
  · simp [same]
  · rw [if_neg same]
    by_cases ends : oldState = .active
    · have other : newState ≠ .active := fun again => same (ends.trans again.symm)
      simp only [ends, other, if_true, if_false]
      split <;> simp <;> omega
    · simp only [ends, if_false]
      split <;> simp
      omega

theorem nodup_changeCall {f : CcCall → CcCall} (keeps : ∀ call, (f call).callId = call.callId)
    (callId : Nat) {calls : List CcCall} (ids : (calls.map (·.callId)).Nodup) :
    ((changeCall callId f calls).map (·.callId)).Nodup := by
  have same : (changeCall callId f calls).map (·.callId) = calls.map (·.callId) := by
    rw [changeCall, List.map_map]
    refine List.map_congr_left fun call _ => ?_
    simp only [Function.comp_apply]
    split
    · exact keeps call
    · rfl
  rwa [same]

theorem changeCall_of_notMem {f : CcCall → CcCall} {callId : Nat} {calls : List CcCall}
    (unknown : callId ∉ calls.map (·.callId)) : changeCall callId f calls = calls := by
  refine (List.map_congr_left fun call known => if_neg fun here => ?_).trans (List.map_id calls)
  exact unknown (List.mem_map.mpr ⟨call, known, here⟩)

theorem countP_cons_isActive (call : CcCall) (calls : List CcCall) :
    (call :: calls).countP CcCall.isActive = calls.countP CcCall.isActive + call.state.worth := by
  simp [List.countP_cons, CcCall.isActive, CcState.worth]

/-- The number of active calls follows the state of the one that changes. -/
theorem countP_changeCall {calls : List CcCall} {call : CcCall} {callId : Nat} (state : CcState)
    (ids : (calls.map (·.callId)).Nodup) (found : calls.find? (·.callId = callId) = some call) :
    (changeCall callId (fun call => { call with state := state }) calls).countP CcCall.isActive +
        call.state.worth =
      calls.countP CcCall.isActive + state.worth := by
  induction calls with
  | nil => cases found
  | cons head tail ih =>
      obtain ⟨fresh, ids⟩ := List.nodup_cons.mp ids
      rw [changeCall, List.map_cons, ← changeCall, countP_cons_isActive, countP_cons_isActive]
      by_cases here : head.callId = callId
      · obtain rfl : head = call := by simpa [List.find?_cons, here] using found
        rw [changeCall_of_notMem (here ▸ fresh), if_pos here]
        simp only
        omega
      · rw [List.find?_cons_of_neg (by simpa using here)] at found
        have rest := ih ids found
        rw [if_neg here]
        omega

theorem state_of_newCcState {s : CcCalls} {callId : Nat} {state : CcState} {call : CcCall}
    (known : call ∈ (newCcState s callId state).calls) (here : call.callId = callId) :
    call.state = state := by
  unfold newCcState at known
  split at known
  · rename_i unknown
    exact absurd here (by simpa using List.find?_eq_none.mp unknown call known)
  · obtain ⟨before, -, rfl⟩ := List.mem_map.mp known
    by_cases same : before.callId = callId
    · rw [if_pos same]
    · rw [if_neg same] at here
      exact absurd here same

/-- Names are different, and what is counted is right. -/
structure CallsInv (s : CcCalls) : Prop where
  ids : (s.calls.map (·.callId)).Nodup
  item : s.counts.activeCalls = s.calls.countP CcCall.isActive
  counters : s.counts.activeCalls = s.counts.balance

section

variable {s : CcCalls} (inv : CallsInv s)
include inv

theorem CallsInv.counted : s.Counted where
  calls := inv.item
  counters := inv.counters
  listed all := by
    rw [inv.item, Int.ofNat_inj]
    refine List.countP_congr fun call known => ?_
    simp only [Bool.and_eq_true]
    exact ⟨fun active => ⟨all call known active, active⟩, And.right⟩

theorem CallsInv.newCcState (callId : Nat) (state : CcState) : CallsInv (newCcState s callId state) := by
  unfold Cc.newCcState
  split
  · exact inv
  · rename_i call found
    obtain ⟨item, balance⟩ := s.counts.countStatistics_eq call.state state
    have number := countP_changeCall state inv.ids found
    have before := inv.item
    have counters := inv.counters
    exact ⟨nodup_changeCall (by intro _; rfl) callId inv.ids, by simp only; omega,
      by simp only; omega⟩

theorem CallsInv.transAlloc (callId : Nat) : CallsInv (transAlloc s callId) := by
  unfold Cc.transAlloc
  split
  · exact inv
  · rename_i unknown
    refine ⟨?_, ?_, inv.counters⟩
    · rw [List.map_append, List.map_singleton]
      refine inv.ids.append (List.nodup_singleton _) ?_
      simpa using unknown
    · simp [inv.item, CcCall.isActive]

theorem CallsInv.transUnlink (callId : Nat) : CallsInv (transUnlink s callId) := by
  refine ⟨nodup_changeCall (by intro _; rfl) callId inv.ids, ?_, inv.counters⟩
  rw [Cc.transUnlink, changeCall, List.countP_map]
  refine inv.item.trans (Int.ofNat_inj.mpr (List.countP_congr fun call _ => ?_))
  simp only [Function.comp_apply]
  split <;> rfl

/-- The transaction is in NULL by then, so that nothing counts it. -/
theorem CallsInv.transFreed (callId : Nat) : CallsInv (transFreed s callId) := by
  unfold Cc.transFreed
  split
  · have null := inv.newCcState callId .null
    refine ⟨null.ids.sublist (List.filter_sublist.map _), ?_, null.counters⟩
    rw [null.item, Int.ofNat_inj, List.countP_filter]
    refine List.countP_congr fun call known => ?_
    have state := state_of_newCcState known
    simp only [Bool.and_eq_true, decide_eq_true_eq]
    refine ⟨fun active => ⟨active, fun here => ?_⟩, And.left⟩
    simp [CcCall.isActive, state here] at active
  · exact inv

theorem CallsInv.step (input : CcCallInput) : CallsInv (callsStep s input) := by
  cases input with
  | transAlloc callId => exact inv.transAlloc callId
  | newCcState callId state => exact inv.newCcState callId state
  | transUnlink callId => exact inv.transUnlink callId
  | transFreed callId => exact inv.transFreed callId

end

/-- After every step of every run the statistics are right. -/
theorem callsRun_counted (inputs : List CcCallInput) : (inputs.foldl callsStep {}).Counted := by
  have inv : CallsInv (inputs.foldl callsStep {}) :=
    List.foldlRecOn inputs callsStep ⟨List.nodup_nil, rfl, rfl⟩ fun s inv input _ => inv.step input
  exact inv.counted

/-- Two legs of a call that both are in ACTIVE.  The connection of one is lost, and while it is freed the
built-in MNCC handler releases the other. -/
def otherLegReleased : List CcCallInput :=
  [.transAlloc 1, .transAlloc 2, .newCcState 1 .active, .newCcState 2 .active, .transUnlink 1,
    .newCcState 2 .releaseReq]

/-- The one that is being freed is still counted, but not in `trans_list` any more. -/
theorem unlinked_call_is_counted :
    (otherLegReleased.foldl callsStep {}).counts.activeCalls = 1 ∧
      ((otherLegReleased.foldl callsStep {}).calls.countP fun call =>
        call.linked && call.isActive) = 0 := by
  decide

end OsmoMsc.Cc
