/-
Module: OsmoMsc.Library.Framing
Purpose: Streams of frames that begin with a header of fixed length which tells how long the frame
  is.  A stream is split into frames from its start, up to the first header that is invalid or the
  first frame that is not complete, and can be split piece by piece as it arrives.
Trusted boundary: none
Main exports: Framing, Framing.frames, Framing.IsFrame, Framing.Incomplete, Framing.Invalid,
  Framing.frames_of_incomplete, Framing.frames_of_invalid
-/
import Mathlib.Data.List.Basic
import Mathlib.Tactic.Common

namespace OsmoMsc.Library

open List

/-- A header of `headerLen` symbols gives the length of its frame, header included, or is invalid. -/
structure Framing (α : Type*) where
  headerLen : Nat
  frameLen : List α → Option Nat
  longer : ∀ header n, frameLen header = some n → headerLen < n

namespace Framing

variable {α : Type*} (F : Framing α)

/-- The first frame of the stream and what follows it. -/
def next (stream : List α) : Option (List α × List α) :=
  if stream.length < F.headerLen then none
  else
    match F.frameLen (stream.take F.headerLen) with
    | none => none
    | some n => if stream.length < n then none else some (stream.take n, stream.drop n)

/-- The first frames of the stream, `fuel` of them at most. -/
def framesUpTo : Nat → List α → List (List α)
  | 0, _ => []
  | fuel + 1, stream =>
      match F.next stream with
      | none => []
      | some (frame, rest) => frame :: framesUpTo fuel rest

/-- The frames of the stream. -/
def frames (stream : List α) : List (List α) := F.framesUpTo stream.length stream

/-- The header of the frame tells its length. -/
def IsFrame (frame : List α) : Prop := F.frameLen (frame.take F.headerLen) = some frame.length

/-- The beginning of a frame, perhaps not yet all of its header. -/
def Incomplete (buffer : List α) : Prop :=
  buffer.length < F.headerLen ∨
    ∃ n, F.frameLen (buffer.take F.headerLen) = some n ∧ buffer.length < n

/-- The buffer begins with an invalid header. -/
def Invalid (buffer : List α) : Prop :=
  F.headerLen ≤ buffer.length ∧ F.frameLen (buffer.take F.headerLen) = none

variable {F} {frame buffer rest stream : List α}

theorem IsFrame.headerLen_lt (isFrame : F.IsFrame frame) : F.headerLen < frame.length :=
  F.longer _ _ isFrame

theorem next_append (isFrame : F.IsFrame frame) : F.next (frame ++ rest) = some (frame, rest) := by
  have long := isFrame.headerLen_lt
  have header : (frame ++ rest).take F.headerLen = frame.take F.headerLen :=
    take_append_of_le_length (Nat.le_of_lt long)
  have noHeader : ¬ (frame ++ rest).length < F.headerLen := by
    simp only [length_append]
    omega
  rw [next, if_neg noHeader, header, isFrame]
  simp

theorem next_length_lt (found : F.next stream = some (frame, rest)) :
    rest.length < stream.length := by
  unfold next at found
  split at found
  · cases found
  · split at found
    · cases found
    · rename_i n header
      split at found
      · cases found
      · cases found
        have := F.longer _ _ header
        simp only [length_drop]
        omega

theorem framesUpTo_nil (fuel : Nat) : F.framesUpTo fuel [] = [] := by
  cases fuel with
  | zero => rfl
  | succ fuel =>
      cases found : F.next [] with
      | none => simp [framesUpTo, found]
      | some cut =>
          have shorter : cut.2.length < ([] : List α).length := next_length_lt found
          simp at shorter

/-- Every frame is longer than its header, so the length of the stream bounds their number. -/
theorem framesUpTo_eq {fuel : Nat} (enough : stream.length ≤ fuel) :
    F.framesUpTo fuel stream = F.frames stream := by
  suffices agree : ∀ fuel fuel' (stream : List α), stream.length ≤ fuel → stream.length ≤ fuel' →
      F.framesUpTo fuel stream = F.framesUpTo fuel' stream from
    agree fuel stream.length stream enough (Nat.le_refl _)
  intro fuel
  induction fuel with
  | zero =>
      intro fuel' stream enough _
      obtain rfl : stream = [] := length_eq_zero_iff.mp (by omega)
      rw [framesUpTo_nil, framesUpTo_nil]
  | succ fuel ih =>
      intro fuel' stream enough enough'
      cases fuel' with
      | zero =>
          obtain rfl : stream = [] := length_eq_zero_iff.mp (by omega)
          rw [framesUpTo_nil, framesUpTo_nil]
      | succ fuel' =>
          cases found : F.next stream with
          | none => simp [framesUpTo, found]
          | some cut =>
              have shorter : cut.2.length < stream.length := next_length_lt found
              simp only [framesUpTo, found]
              rw [ih fuel' cut.2 (by omega) (by omega)]

theorem frames_cons (isFrame : F.IsFrame frame) :
    F.frames (frame ++ rest) = frame :: F.frames rest := by
  have long := isFrame.headerLen_lt
  obtain ⟨fuel, length⟩ : ∃ fuel, (frame ++ rest).length = fuel + 1 :=
    Nat.exists_eq_add_of_le' (by simp only [length_append]; omega)
  have enough : rest.length ≤ fuel := by
    simp only [length_append] at length
    omega
  rw [frames, length, framesUpTo, next_append isFrame]
  simp only [framesUpTo_eq enough]

section

variable {cut : List (List α)} (allFrames : ∀ frame ∈ cut, F.IsFrame frame)
include allFrames

theorem frames_flatten_append : F.frames (cut.flatten ++ rest) = cut ++ F.frames rest := by
  induction cut with
  | nil => rfl
  | cons frame cut ih =>
      rw [flatten_cons, append_assoc, frames_cons (allFrames frame mem_cons_self),
        ih fun later member => allFrames later (mem_cons_of_mem frame member)]
      rfl

omit allFrames in
theorem frames_of_next_none (nothing : F.next stream = none) : F.frames stream = [] := by
  unfold frames
  cases stream.length with
  | zero => rfl
  | succ fuel => simp [framesUpTo, nothing]

/-- What is left over is not a frame yet. -/
theorem frames_of_incomplete (incomplete : F.Incomplete buffer) :
    F.frames (cut.flatten ++ buffer) = cut := by
  have nothing : F.next buffer = none := by
    unfold next
    rcases incomplete with short | ⟨n, header, short⟩
    · rw [if_pos short]
    · split
      · rfl
      · simp [header, short]
  rw [frames_flatten_append allFrames, frames_of_next_none nothing, append_nil]

/-- After an invalid header there are no frames, whatever follows. -/
theorem frames_of_invalid (invalid : F.Invalid buffer) (more : List α) :
    F.frames (cut.flatten ++ (buffer ++ more)) = cut := by
  have header : (buffer ++ more).take F.headerLen = buffer.take F.headerLen :=
    take_append_of_le_length invalid.1
  have nothing : F.next (buffer ++ more) = none := by
    unfold next
    split
    · rfl
    · rw [header, invalid.2]
  rw [frames_flatten_append allFrames, frames_of_next_none nothing, append_nil]

end

end Framing

end OsmoMsc.Library
