/-
Module: OsmoMsc.Library.HashIndex
Purpose: Chained hash tables whose nodes are embedded in the records they index.  A lookup walks the
  chain of a key and compares the key each record has now.  `Indexes` says that every record stands
  in the chain of its key and in no other; a rehash restores it, and it makes a lookup complete.
Trusted boundary: none
Main exports: Chains, hashDel, hashAdd, rehash, Indexes, Indexes.rehash, Indexes.hashDel,
  Indexes.find_isSome_iff
-/
import Mathlib.Logic.Function.Basic
import Mathlib.Tactic.Common

namespace OsmoMsc.Library

variable {κ β ρ : Type*} [DecidableEq β] [DecidableEq ρ]

/-- The chains of a table, by bucket. -/
abbrev Chains (β ρ : Type*) := β → List ρ

/-- `hash_del()`: the node leaves the chain it is in, if any. -/
def hashDel (chains : Chains β ρ) (p : ρ) : Chains β ρ := fun b => (chains b).filter (· ≠ p)

/-- `hash_add()`: the node goes to the head of the chain. -/
def hashAdd (chains : Chains β ρ) (p : ρ) (b : β) : Chains β ρ :=
  Function.update chains b (p :: chains b)

/-- Take a record out, and put it back under the key it has now. -/
def rehash (hash : κ → β) (chains : Chains β ρ) (p : ρ) : Option κ → Chains β ρ
  | none => hashDel chains p
  | some k => hashAdd (hashDel chains p) p (hash k)

/-- Every record stands in the chain of its key, and in no other. -/
def Indexes (hash : κ → β) (chains : Chains β ρ) (key : ρ → Option κ) : Prop :=
  ∀ b p, p ∈ chains b ↔ ∃ k, key p = some k ∧ hash k = b

variable {hash : κ → β} {chains : Chains β ρ} {key : ρ → Option κ}

omit [DecidableEq β] [DecidableEq ρ] in
theorem Indexes.congr {key' : ρ → Option κ} (indexes : Indexes hash chains key)
    (same : ∀ p, key' p = key p) : Indexes hash chains key' := by
  obtain rfl : key' = key := funext same
  exact indexes

omit [DecidableEq β] [DecidableEq ρ] in
theorem indexes_empty : Indexes hash (fun _ => []) (fun _ : ρ => none) := by
  intro b p
  simp

omit [DecidableEq β] in
theorem Indexes.hashDel (indexes : Indexes hash chains key) (p : ρ) :
    Indexes hash (hashDel chains p) (Function.update key p none) := by
  intro b q
  by_cases same : q = p
  · simp [Library.hashDel, same]
  · simp [Library.hashDel, same, indexes b q]

theorem Indexes.rehash (indexes : Indexes hash chains key) (p : ρ) (k : Option κ) :
    Indexes hash (rehash hash chains p k) (Function.update key p k) := by
  cases k with
  | none => exact indexes.hashDel p
  | some k =>
      intro b q
      have rest := indexes.hashDel p b q
      by_cases bucket : b = hash k
      · subst bucket
        by_cases same : q = p
        · simp [Library.rehash, hashAdd, same]
        · simpa [Library.rehash, hashAdd, same] using rest
      · by_cases same : q = p
        · simp [Library.rehash, hashAdd, same, bucket, Library.hashDel, Ne.symm bucket]
        · simpa [Library.rehash, hashAdd, same, bucket] using rest

omit [DecidableEq β] [DecidableEq ρ] in
/-- A lookup that compares current keys finds a record if and only if there is one. -/
theorem Indexes.find_isSome_iff (indexes : Indexes hash chains key) {hit : ρ → Bool} {k : κ}
    (compares : ∀ p ∈ chains (hash k), hit p = true ↔ key p = some k) :
    ((chains (hash k)).find? hit).isSome ↔ ∃ p, key p = some k := by
  rw [List.find?_isSome]
  constructor
  · rintro ⟨p, member, hits⟩
    exact ⟨p, (compares p member).mp hits⟩
  · rintro ⟨p, keyed⟩
    have member : p ∈ chains (hash k) := (indexes (hash k) p).mpr ⟨k, keyed, rfl⟩
    exact ⟨p, member, (compares p member).mpr keyed⟩

end OsmoMsc.Library
