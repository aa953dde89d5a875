/-
Module: OsmoMsc.Library.Reading
Purpose: Programs that read octets of a memory at positions of their choice.  A program is the tree
  of its reads, so that next to its result one can ask how far it reads.  The one rule about it is
  that memories which agree as far as a program reads give it the same result.
Trusted boundary: none
Main exports: Reading, Reading.run, Reading.extent, Reading.read, Reading.readN, Reading.run_congr
-/
import Mathlib.Tactic.Common

namespace OsmoMsc.Library

/-- A program that reads octets and ends in a value. -/
inductive Reading (α : Type*) where
  | done (value : α)
  | octet (pos : Nat) (next : UInt8 → Reading α)

namespace Reading

variable {α β : Type}

/-- Run a program on a memory. -/
def run (mem : Nat → UInt8) : Reading α → α
  | done value => value
  | octet pos next => (next (mem pos)).run mem

/-- The end of the furthest octet that the program reads. -/
def extent (mem : Nat → UInt8) : Reading α → Nat
  | done _ => 0
  | octet pos next => max (pos + 1) ((next (mem pos)).extent mem)

protected def bind : Reading α → (α → Reading β) → Reading β
  | done value, f => f value
  | octet pos next, f => octet pos fun b => (next b).bind f

instance : Monad Reading where
  pure := done
  bind := Reading.bind

/-- Read one octet. -/
def read (pos : Nat) : Reading UInt8 := octet pos done

/-- Read some octets in a row. -/
def readN (pos : Nat) : Nat → Reading (List UInt8)
  | 0 => pure []
  | n + 1 => do
      let b ← read pos
      let bs ← readN (pos + 1) n
      return b :: bs

variable {mem mem' : Nat → UInt8}

@[simp] theorem run_pure (value : α) : run mem (pure value) = value := rfl

@[simp] theorem extent_pure (value : α) : extent mem (pure value : Reading α) = 0 := rfl

@[simp] theorem run_read (pos : Nat) : run mem (read pos) = mem pos := rfl

@[simp] theorem extent_read (pos : Nat) : extent mem (read pos) = pos + 1 := by
  simp [read, extent]

@[simp] theorem run_bind (program : Reading α) (f : α → Reading β) :
    run mem (program >>= f) = run mem (f (run mem program)) := by
  induction program with
  | done value => rfl
  | octet pos next ih => exact ih (mem pos)

@[simp] theorem extent_bind (program : Reading α) (f : α → Reading β) :
    extent mem (program >>= f) = max (extent mem program) (extent mem (f (run mem program))) := by
  induction program with
  | done value => exact (Nat.zero_max _).symm
  | octet pos next ih =>
      have rest := ih (mem pos)
      simp only [extent, run, Bind.bind, Reading.bind] at rest ⊢
      rw [rest, Nat.max_assoc]

/-- After one octet the program goes on from its value. -/
theorem extent_read_bind (pos : Nat) (f : UInt8 → Reading β) :
    extent mem (read pos >>= f) = max (pos + 1) (extent mem (f (mem pos))) := rfl

theorem extent_readN (mem : Nat → UInt8) (pos n : Nat) :
    extent mem (readN pos n) = if n = 0 then 0 else pos + n := by
  induction n generalizing pos with
  | zero => rfl
  | succ n ih =>
      simp only [readN, extent_bind, extent_read, extent_pure, ih, Nat.succ_ne_zero, if_false]
      split <;> omega

@[simp] theorem length_run_readN (pos n : Nat) : (run mem (readN pos n)).length = n := by
  induction n generalizing pos with
  | zero => rfl
  | succ n ih => simp [readN, ih]

/-- A program sees no difference between memories that agree as far as it reads. -/
theorem run_congr {program : Reading α} (same : ∀ i < extent mem program, mem' i = mem i) :
    run mem' program = run mem program := by
  induction program with
  | done value => rfl
  | octet pos next ih =>
      have here : mem' pos = mem pos := same pos (by simp only [extent]; omega)
      simp only [run, here]
      exact ih (mem pos) fun i inside => same i (by simp only [extent]; omega)

end Reading

end OsmoMsc.Library
