/-
Module: OsmoMsc.Library.Fsm
Purpose: Table-driven finite state machine instances in the manner of libosmocore's `osmo_fsm`.  A
  table says which events a state accepts and which states it may be left for; an instance holds its
  state, the number of its running timer and whether it is being terminated.  A refused state change
  or event leaves the instance as it was (the `Option` results).
Trusted boundary: human-reviewed spec (libosmocore's fsm.c is not part of the modelled sources)
Main exports: Table, Inst, Inst.stateChg, Inst.accepts, Inst.term
-/
import Mathlib.Tactic.Common

namespace OsmoMsc.Library

/-- `in_event_mask` and `out_state_mask` of a machine. -/
structure Table (S E : Type*) where
  inEvent : S → E → Bool
  outState : S → S → Bool

/-- One running machine.  `timer` is the `T` number of the armed timer, if one is armed. -/
structure Inst (S : Type*) where
  state : S
  timer : Option Nat := none
  terminating : Bool := false
deriving DecidableEq, Repr

variable {timeout : Option Nat}

namespace Inst

variable {S E : Type*} (table : Table S E) (fi : Inst S)

/-- `osmo_fsm_inst_state_chg()`: `none` when the change is refused, because the instance is
terminating or because the current state's mask does not permit the new one.  A permitted change
replaces the timer. -/
def stateChg (new : S) (timeout : Option Nat) : Option (Inst S) :=
  if fi.terminating then none
  else if table.outState fi.state new then some { fi with state := new, timer := timeout }
  else none

/-- `osmo_fsm_inst_dispatch()` reaches the state's action function for this event. -/
def accepts (e : E) : Bool :=
  !fi.terminating && table.inEvent fi.state e

/-- `osmo_fsm_inst_term()`: `none` when the instance is already being terminated.  The timer is
gone with the instance. -/
def term : Option (Inst S) :=
  if fi.terminating then none else some { fi with terminating := true, timer := none }

variable {table fi}

theorem stateChg_eq_some {new : S} {fi' : Inst S} :
    fi.stateChg table new timeout = some fi' ↔
      fi.terminating = false ∧ table.outState fi.state new = true ∧
        fi' = { fi with state := new, timer := timeout } := by
  unfold stateChg
  cases terminating : fi.terminating <;> cases permitted : table.outState fi.state new <;>
    simp [eq_comm]

/-- A permitted state change never ends the instance. -/
theorem stateChg_terminating {new : S} {fi' : Inst S}
    (changed : fi.stateChg table new timeout = some fi') : fi'.terminating = false := by
  obtain ⟨running, -, rfl⟩ := stateChg_eq_some.mp changed
  exact running

theorem term_eq_some {fi' : Inst S} :
    fi.term = some fi' ↔
      fi.terminating = false ∧ fi' = { fi with terminating := true, timer := none } := by
  unfold term
  cases terminating : fi.terminating <;> simp [eq_comm]

@[simp] theorem accepts_of_terminating (ended : fi.terminating = true) (e : E) :
    fi.accepts table e = false := by
  simp [accepts, ended]

end Inst

end OsmoMsc.Library
