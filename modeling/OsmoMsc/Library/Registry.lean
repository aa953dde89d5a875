/-
Module: OsmoMsc.Library.Registry
Purpose: Lists of records that are found by a key, as C programs keep them in linked lists: change
  the record with a key, or take it out.
Trusted boundary: none
Main exports: adjust, remove, mem_adjust, mem_remove, map_adjust, nodup_map_concat,
  lt_succ_of_concat, mem_of_find, find_of_mem
-/
import Mathlib.Data.List.Nodup
import Mathlib.Tactic.Common

namespace OsmoMsc.Library

open List

variable {α κ : Type*} [DecidableEq κ] (key : α → κ)

/-- Change the records with the key. -/
def adjust (k : κ) (f : α → α) (xs : List α) : List α :=
  xs.map fun x => if key x = k then f x else x

/-- Take the records with the key out. -/
def remove (k : κ) (xs : List α) : List α := xs.filter fun x => key x ≠ k

variable {key} {k : κ} {f : α → α} {xs : List α} {x : α}

theorem mem_adjust : x ∈ adjust key k f xs ↔
    (∃ old ∈ xs, key old = k ∧ x = f old) ∨ (x ∈ xs ∧ key x ≠ k) := by
  simp only [adjust, mem_map]
  constructor
  · rintro ⟨old, member, rfl⟩
    split
    · rename_i same
      exact .inl ⟨old, member, same, rfl⟩
    · rename_i other
      exact .inr ⟨member, other⟩
  · rintro (⟨old, member, same, rfl⟩ | ⟨member, other⟩)
    · exact ⟨old, member, if_pos same⟩
    · exact ⟨x, member, if_neg other⟩

@[simp] theorem mem_remove : x ∈ remove key k xs ↔ x ∈ xs ∧ key x ≠ k := by
  simp [remove]

variable {β : Type*} {field : α → β}

/-- A field that the change leaves alone. -/
theorem map_adjust (same : ∀ x, field (f x) = field x) :
    (adjust key k f xs).map field = xs.map field := by
  simp only [adjust, map_map]
  refine map_congr_left fun x _ => ?_
  simp only [Function.comp_apply]
  split
  · exact same x
  · rfl

theorem adjust_adjust {g : α → α} (keeps : ∀ x, key (f x) = key x) :
    adjust key k g (adjust key k f xs) = adjust key k (fun x => g (f x)) xs := by
  simp only [adjust, map_map]
  refine map_congr_left fun x _ => ?_
  by_cases same : key x = k <;> simp [same, keeps]

theorem remove_adjust (keeps : ∀ x, key (f x) = key x) :
    remove key k (adjust key k f xs) = remove key k xs := by
  induction xs with
  | nil => rfl
  | cons x xs ih =>
      simp only [remove, adjust, ne_eq, decide_not] at ih
      by_cases same : key x = k <;> simp [remove, adjust, same, keeps, ih]

theorem nodup_map_remove (nodup : (xs.map field).Nodup) : ((remove key k xs).map field).Nodup :=
  nodup.sublist (filter_sublist.map field)

/-- Records that look the same in two lists. -/
theorem mem_of_map_eq {ys : List α} (same : xs.map field = ys.map field) (mem : x ∈ xs) :
    ∃ y ∈ ys, field y = field x :=
  mem_map.mp (same ▸ mem_map_of_mem mem)

/-- A record of its own. -/
theorem nodup_map_concat (nodup : (xs.map field).Nodup) (new : ∀ y ∈ xs, field y ≠ field x) :
    ((xs ++ [x]).map field).Nodup := by
  rw [map_append, nodup_append]
  refine ⟨nodup, nodup_singleton _, fun _ mem _ mem' => ?_⟩
  obtain ⟨y, known, rfl⟩ := mem_map.mp mem
  rw [mem_singleton.mp mem']
  exact new y known

/-- A record with the next number. -/
theorem lt_succ_of_concat {field : α → Nat} (fresh : ∀ y ∈ xs, field y < field x) :
    ∀ y ∈ xs ++ [x], field y < field x + 1 := by
  intro y mem
  rcases mem_append.mp mem with known | now
  · exact Nat.lt_succ_of_lt (fresh y known)
  · rw [mem_singleton.mp now]
    exact Nat.lt_succ_self _

/-- Where the record with a key stands, if keys are different. -/
theorem split_of_mem (nodup : (xs.map key).Nodup) (mem : x ∈ xs) (f : α → α) :
    ∃ before after, xs = before ++ x :: after ∧ adjust key (key x) f xs = before ++ f x :: after ∧
      remove key (key x) xs = before ++ after := by
  obtain ⟨before, after, rfl⟩ := append_of_mem mem
  rw [map_append, map_cons, nodup_middle, nodup_cons, mem_append, not_or] at nodup
  obtain ⟨⟨notBefore, notAfter⟩, -⟩ := nodup
  have other {ys : List α} (not : key x ∉ ys.map key) (y : α) (mem : y ∈ ys) : key y ≠ key x :=
    fun same => not (same ▸ mem_map_of_mem mem)
  have adjusted {ys : List α} (not : key x ∉ ys.map key) : adjust key (key x) f ys = ys := by
    refine (map_congr_left fun y mem => if_neg (other not y mem)).trans ?_
    exact map_id' ys
  have removed {ys : List α} (not : key x ∉ ys.map key) : remove key (key x) ys = ys :=
    filter_eq_self.mpr fun y mem => by simpa using other not y mem
  refine ⟨before, after, rfl, ?_, ?_⟩
  · have split : adjust key (key x) f (before ++ x :: after) =
        adjust key (key x) f before ++ f x :: adjust key (key x) f after := by
      simp [adjust]
    rw [split, adjusted notBefore, adjusted notAfter]
  · have split : remove key (key x) (before ++ x :: after) =
        remove key (key x) before ++ remove key (key x) after := by
      simp [remove]
    rw [split, removed notBefore, removed notAfter]

/-- A record that is found by its key. -/
theorem mem_of_find {found : α} (is : xs.find? (fun x => decide (key x = k)) = some found) :
    found ∈ xs ∧ key found = k :=
  ⟨mem_of_find?_eq_some is, by simpa using find?_some is⟩

theorem find_of_mem (nodup : (xs.map key).Nodup) (mem : x ∈ xs) :
    xs.find? (fun y => decide (key y = key x)) = some x := by
  cases is : xs.find? (fun y => decide (key y = key x)) with
  | none => exact absurd (find?_eq_none.mp is x mem) (by simp)
  | some found =>
      obtain ⟨mem', same⟩ := mem_of_find is
      exact congrArg some (inj_on_of_nodup_map nodup mem' mem same)

theorem find_adjust (keeps : ∀ x, key (f x) = key x) :
    (adjust key k f xs).find? (fun x => decide (key x = k)) =
      (xs.find? fun x => decide (key x = k)).map f := by
  induction xs with
  | nil => rfl
  | cons x xs ih =>
      unfold adjust at ih ⊢
      by_cases same : key x = k <;> simp [same, keeps, ih]

end OsmoMsc.Library
