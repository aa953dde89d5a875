/-
Module: OsmoMsc.Vlr.DedupTuples
Purpose: The authentication tuples that `dedup_vsub()` in vlr.c takes over from the record of a
  subscriber to the new record with the same IMSI, and when it takes over all there is room for.
Trusted boundary: none
Main exports: dedupTuples, TakesOver
-/
import Mathlib.Data.List.Dedup
import OsmoMsc.Vlr.Subscr

namespace OsmoMsc.Vlr

open List

/-- The slot holds no tuple. -/
def AuthTuple.isFree (tuple : AuthTuple) : Bool := tuple.keySeq = vlrKeySeqInval

/-- The tuples of the new record in the loops of `dedup_vsub()`, and the copies so far: from which
index to which. -/
structure TupleCopy where
  tuples : Fin 5 → AuthTuple
  copies : List (Fin 5 × Fin 5) := []

/-- The indices of the slots that hold no tuple. -/
def freeSlots (tuples : Fin 5 → AuthTuple) : List (Fin 5) :=
  (List.finRange 5).filter fun j => (tuples j).isFree

/-- One round of the outer loop of `dedup_vsub()`.  Each round of the inner loop looks at a slot of
its own, and none of them ends the loop. -/
def TupleCopy.copyFrom (old : Fin 5 → AuthTuple) (copy : TupleCopy) (i : Fin 5) : TupleCopy :=
  if (old i).isFree then copy
  else
    { tuples := fun j => if (copy.tuples j).isFree then old i else copy.tuples j
      copies := copy.copies ++ (freeSlots copy.tuples).map (i, ·) }

/-- What `dedup_vsub()` does with the tuples. -/
def dedupTuples (old vsub : VlrSubscr) : TupleCopy :=
  (List.finRange 5).foldl (TupleCopy.copyFrom old.authTuples) { tuples := vsub.authTuples }

/-- The indices of the slots that hold a tuple. -/
def heldSlots (tuples : Fin 5 → AuthTuple) : List (Fin 5) :=
  (List.finRange 5).filter fun i => !(tuples i).isFree

/-- Once there is no free slot, nothing is copied. -/
theorem copyFrom_foldl_full (old : Fin 5 → AuthTuple) (indices : List (Fin 5)) (copy : TupleCopy)
    (full : ∀ j, (copy.tuples j).isFree = false) :
    indices.foldl (TupleCopy.copyFrom old) copy = copy :=
  foldl_fixed' (fun i => by simp [TupleCopy.copyFrom, freeSlots, full]) indices

/-- The first valid tuple goes to every free slot, and no other tuple is copied. -/
theorem copyFrom_foldl (old new : Fin 5 → AuthTuple) (indices : List (Fin 5)) :
    indices.foldl (TupleCopy.copyFrom old) { tuples := new } =
      match indices.find? fun i => !(old i).isFree with
      | none => { tuples := new }
      | some i =>
          { tuples := fun j => if (new j).isFree then old i else new j
            copies := (freeSlots new).map (i, ·) } := by
  induction indices with
  | nil => rfl
  | cons i indices ih =>
      rw [foldl_cons, TupleCopy.copyFrom]
      cases free : (old i).isFree with
      | true => simpa [free] using ih
      | false =>
          rw [if_neg (by simp), copyFrom_foldl_full]
          · simp [free]
          · intro j
            by_cases slot : (new j).isFree <;> simp [slot, free]

/-- Each tuple is copied once at most, as many are copied as there is room for, and the tuples that
were there stay. -/
structure TakesOver (old vsub : VlrSubscr) (copy : TupleCopy) : Prop where
  once : ∀ i, (copy.copies.map Prod.fst).count i ≤ 1
  fills : (copy.copies.map Prod.fst).dedup.length =
    min (freeSlots vsub.authTuples).length (heldSlots old.authTuples).length
  keeps : ∀ j, (vsub.authTuples j).isFree = false → copy.tuples j = vsub.authTuples j

/-- `dedup_vsub()` takes the tuples over as it should if and only if the new record has room for one
tuple at most, or the old one has none. -/
theorem dedupTuples_takesOver_iff (old vsub : VlrSubscr) :
    TakesOver old vsub (dedupTuples old vsub) ↔
      (freeSlots vsub.authTuples).length ≤ 1 ∨ heldSlots old.authTuples = [] := by
  have eq := copyFrom_foldl old.authTuples vsub.authTuples (List.finRange 5)
  rw [← dedupTuples] at eq
  cases first : (List.finRange 5).find? fun i => !(old.authTuples i).isFree with
  | none =>
      have none : heldSlots old.authTuples = [] := by
        simpa [heldSlots] using first
      rw [first] at eq
      refine iff_of_true ⟨?_, ?_, ?_⟩ (.inr none) <;> simp [eq, none]
  | some i =>
      have held : i ∈ heldSlots old.authTuples :=
        mem_filter.mpr ⟨mem_finRange i, by simpa using find?_some first⟩
      have some : 0 < (heldSlots old.authTuples).length := length_pos_of_mem held
      rw [first] at eq
      -- All copies are of the same tuple.
      have copied : (dedupTuples old vsub).copies.map Prod.fst =
          List.replicate (freeSlots vsub.authTuples).length i := by
        simp [eq, Function.comp_def]
      constructor
      · intro takes
        have once := takes.once i
        rw [copied, count_replicate_self] at once
        exact .inl once
      · rintro (room | none)
        · refine ⟨fun k => ?_, ?_, fun j taken => by simp [eq, taken]⟩
          · rw [copied]
            exact Nat.le_trans count_le_length (by simpa using room)
          · rw [copied]
            rcases Nat.le_one_iff_eq_zero_or_eq_one.mp room with zero | one
            · simp [zero]
            · simp [one, Nat.min_eq_left some]
        · exact absurd none (ne_nil_of_mem held)

/-- A record whose first slots hold tuples of the given key sequence numbers. -/
def withTuples (keySeqs : List Nat) : VlrSubscr :=
  { authTuples := fun j => { keySeq := keySeqs.getD j vlrKeySeqInval } }

/-- Two tuples and two free slots: the first tuple fills both, and the second is lost. -/
theorem dedup_copies_first_tuple_twice :
    ¬ TakesOver (withTuples [0, 1]) (withTuples [0, 1, 2])
      (dedupTuples (withTuples [0, 1]) (withTuples [0, 1, 2])) := by
  intro takes
  exact absurd (takes.once 0) (by decide)

end OsmoMsc.Vlr
