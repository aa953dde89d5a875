/-
Module: OsmoMsc.Library.CText
Purpose: Texts as C programs handle them.  A text is the list of characters before the terminating
  NUL, a pointer into it is a suffix of it, and a character array is a text that fits.  The module
  gives the functions of the C library that searching, printing and scanning rest on, and says what
  each of them does on `piece ++ rest`.
Trusted boundary: `unsigned` has 32 bits and `unsigned long` 64
Main exports: Text, CStr, CArr, ascii, strchr, strstr, fgets, readLines, decText, dText, scanU
-/
import Mathlib.Algebra.Group.Int.Defs
import Mathlib.Algebra.GroupWithZero.Nat
import Mathlib.Data.List.Basic
import Mathlib.Data.List.TakeWhile
import Mathlib.Tactic.Common

namespace OsmoMsc.Library

open List

/-- The characters of a C string before its NUL; a pointer into the string is a suffix. -/
abbrev Text := List Char

variable {s line rest : Text} {c : Char} {n size : Nat}

/-- A C string. -/
abbrev CStr := { text : Text // '\x00' ∉ text }

/-- The C string in an array of `size` characters. -/
abbrev CArr (size : Nat) := { text : Text // text.length < size }

variable {p : Char → Bool} {digits pattern t : Text} {stops : List Char}

namespace CText

/-- The text of a literal of ASCII characters, which are its bytes; unlike `String.toList` this
evaluates without decoding UTF-8. -/
def ascii (literal : String) : Text :=
  literal.toByteArray.data.toList.map fun byte => Char.ofNat byte.toNat

/-- `strlcpy()` into an array: what does not fit is cut off. -/
def strlcpy (size : Nat) (text : Text) [room : Fact (0 < size)] : CArr size :=
  ⟨text.take (size - 1), by have := room.out; rw [length_take]; omega⟩

instance fact_16 : Fact (0 < 16) := ⟨by decide⟩
instance fact_46 : Fact (0 < 46) := ⟨by decide⟩
instance fact_128 : Fact (0 < 128) := ⟨by decide⟩
instance fact_256 : Fact (0 < 256) := ⟨by decide⟩

/-- A property of all characters of a text is decided on the text, not on all of Unicode. -/
instance decidableForallMemText (p : Char → Prop) [DecidablePred p] (text : Text) :
    Decidable (∀ c ∈ text, p c) :=
  List.decidableBAll p text

/-! ### Searching -/

/-- `strchr()`: the suffix that begins with the first `c`. -/
def strchr (c : Char) : Text → Option Text
  | [] => none
  | d :: s => if d = c then some (d :: s) else strchr c s

theorem strchr_append (absent : c ∉ s) (t : Text) : strchr c (s ++ t) = strchr c t := by
  induction s with
  | nil => rfl
  | cons d s ih =>
      have differs : d ≠ c := fun same => absent (same ▸ mem_cons_self)
      rw [cons_append, strchr, if_neg differs]
      exact ih fun member => absent (mem_cons_of_mem d member)

@[simp] theorem strchr_cons_self (c : Char) (s : Text) : strchr c (c :: s) = some (c :: s) := by
  simp [strchr]

theorem strchr_suffix {t : Text} (found : strchr c s = some t) : t <:+ s := by
  induction s with
  | nil => exact absurd found nofun
  | cons d s ih =>
      simp only [strchr] at found
      split at found
      · exact Option.some.inj found ▸ suffix_refl _
      · exact (ih found).trans (suffix_cons d s)

theorem strchr_eq_none (absent : strchr c s = none) : c ∉ s := by
  induction s with
  | nil => exact not_mem_nil
  | cons d s ih =>
      simp only [strchr] at absent
      split at absent
      · cases absent
      · rename_i differs
        exact not_mem_cons_of_ne_of_not_mem (Ne.symm differs) (ih absent)

/-- `strstr()`: the suffix that begins with the first occurrence of `pattern`. -/
def strstr (pattern : Text) : Text → Option Text
  | [] => if pattern = [] then some [] else none
  | d :: s => if pattern.isPrefixOf (d :: s) then some (d :: s) else strstr pattern s

theorem strstr_length_le (found : strstr pattern s = some t) : t.length ≤ s.length := by
  induction s with
  | nil =>
      simp only [strstr] at found
      split at found
      · obtain rfl := Option.some.inj found
        exact Nat.le_refl _
      · exact absurd found nofun
  | cons c s ih =>
      simp only [strstr] at found
      split at found
      · obtain rfl := Option.some.inj found
        exact Nat.le_refl _
      · exact Nat.le_succ_of_le (ih found)

/-- A pattern is not found before the first occurrence of its first character. -/
theorem strstr_skip (absent : c ∉ s) (t : Text) :
    strstr (c :: pattern) (s ++ t) = strstr (c :: pattern) t := by
  induction s with
  | nil => rfl
  | cons d s ih =>
      have differs : c ≠ d := fun same => absent (same ▸ mem_cons_self)
      rw [cons_append, strstr, if_neg]
      · exact ih fun member => absent (mem_cons_of_mem d member)
      · simp [differs]

theorem strstr_append (absent : c ∉ s) (t : Text) :
    strstr (c :: pattern) (s ++ (c :: pattern ++ t)) = some (c :: pattern ++ t) := by
  rw [strstr_skip absent]
  simp [strstr, isPrefixOf_iff_prefix]

/-- What is found begins with the pattern, and the pattern does not occur before it. -/
theorem strstr_eq_some (nonempty : pattern ≠ []) (found : strstr pattern s = some t) :
    ∃ piece, s = piece ++ t ∧ pattern <+: t ∧ ¬ pattern <:+: piece := by
  induction s with
  | nil =>
      rw [strstr, if_neg nonempty] at found
      exact absurd found nofun
  | cons d s ih =>
      rw [strstr] at found
      by_cases here : pattern.isPrefixOf (d :: s) = true
      · rw [if_pos here] at found
        obtain rfl := Option.some.inj found
        exact ⟨[], rfl, isPrefixOf_iff_prefix.mp here, by simpa using nonempty⟩
      · rw [if_neg here] at found
        obtain ⟨piece, rfl, begins, absent⟩ := ih found
        refine ⟨d :: piece, rfl, begins, fun inside => ?_⟩
        obtain first | later := infix_cons_iff.mp inside
        · exact here (List.isPrefixOf_iff_prefix.mpr (first.trans (prefix_append _ t)))
        · exact absent later

/-- The text up to the first character of `stops`, where `strcspn()` would cut it. -/
def cut (stops : List Char) (s : Text) : Text := s.takeWhile (· ∉ stops)

theorem takeWhile_append_cons {d : Char} (all : ∀ c ∈ s, p c = true) (stop : p d = false)
    (t : Text) : (s ++ d :: t).takeWhile p = s := by
  rw [takeWhile_append_of_pos all, takeWhile_cons_of_neg (by simp [stop]),
    append_nil]

/-- A run of characters of one kind ends at a character of another kind, whatever follows it. -/
theorem takeWhile_append_stop (stop : p c = false) (s t : Text) :
    (s ++ c :: t).takeWhile p = s.takeWhile p := by
  induction s with
  | nil => simp [stop]
  | cons d s ih => by_cases own : p d = true <;> simp [own, ih]

theorem dropWhile_append_stop (stop : p c = false) (s t : Text) :
    (s ++ c :: t).dropWhile p = s.dropWhile p ++ c :: t := by
  induction s with
  | nil => simp [stop]
  | cons d s ih => by_cases own : p d = true <;> simp [own, ih]

theorem cut_append {d : Char} (absent : ∀ c ∈ s, c ∉ stops) (stop : d ∈ stops) (t : Text) :
    cut stops (s ++ d :: t) = s :=
  takeWhile_append_cons (by simpa using absent) (by simpa using stop) t

theorem cut_eq_self (absent : ∀ c ∈ s, c ∉ stops) : cut stops s = s :=
  takeWhile_eq_self_iff.mpr (by simpa using absent)

/-! ### Reading line by line -/

/-- The characters one `fgets()` with room for `n` characters takes, and the rest. -/
def fgetsTake : Nat → Text → Text × Text
  | 0, s => ([], s)
  | _ + 1, [] => ([], [])
  | n + 1, c :: s => if c = '\n' then ([c], s) else ((c :: (fgetsTake n s).1), (fgetsTake n s).2)

/-- `fgets()` with a buffer of `size` characters. -/
def fgets (size : Nat) (s : Text) : Option (Text × Text) :=
  if s = [] then none else some (fgetsTake (size - 1) s)

/-- A piece without a line feed is taken whole while there is room. -/
theorem fgetsTake_append (absent : '\n' ∉ s) (n : Nat) (t : Text) :
    fgetsTake (s.length + n) (s ++ t) = (s ++ (fgetsTake n t).1, (fgetsTake n t).2) := by
  induction s with
  | nil => simp
  | cons d s ih =>
      have differs : d ≠ '\n' := fun same => absent (same ▸ mem_cons_self)
      have rest := ih fun member => absent (mem_cons_of_mem d member)
      rw [length_cons, Nat.succ_add]
      simp [fgetsTake, differs, rest]

/-- A line that fits with its line feed is taken whole. -/
theorem fgetsTake_line (absent : '\n' ∉ s) (fits : s.length < n) (t : Text) :
    fgetsTake n (s ++ '\n' :: t) = (s ++ ['\n'], t) := by
  obtain ⟨m, rfl⟩ := Nat.exists_eq_add_of_lt fits
  rw [Nat.add_assoc, fgetsTake_append absent]
  simp [fgetsTake]

/-- A line that fills the buffer exactly is taken without its line feed. -/
theorem fgetsTake_full (absent : '\n' ∉ s) (t : Text) :
    fgetsTake s.length (s ++ '\n' :: t) = (s, '\n' :: t) := by
  simpa [fgetsTake] using fgetsTake_append absent 0 ('\n' :: t)

theorem fgetsTake_length_le {n : Nat} {s : Text} : (fgetsTake n s).2.length ≤ s.length := by
  fun_induction fgetsTake n s with
  | case1 _ | case2 _ => exact Nat.le_refl _
  | case3 n s => exact Nat.le_succ _
  | case4 n c s differs ih => exact Nat.le_succ_of_le ih

theorem fgetsTake_length_lt (room : n ≠ 0) (nonempty : s ≠ []) :
    (fgetsTake n s).2.length < s.length := by
  obtain ⟨n, rfl⟩ := Nat.exists_eq_succ_of_ne_zero room
  obtain ⟨c, s, rfl⟩ := exists_cons_of_ne_nil nonempty
  unfold fgetsTake
  by_cases lf : c = '\n'
  · rw [if_pos lf]
    exact Nat.lt_succ_self _
  · rw [if_neg lf]
    exact Nat.lt_succ_of_le fgetsTake_length_le

/-- What the first `fuel` calls of `fgets()` return. -/
def fgetsLoop (size : Nat) : Nat → Text → List Text
  | 0, _ => []
  | fuel + 1, s =>
      match fgets size s with
      | none => []
      | some (line, rest) => line :: fgetsLoop size fuel rest

/-- What `while (fgets(line, size, f))` reads; each call takes a character at least. -/
def fgetsAll (size : Nat) (s : Text) : List Text := fgetsLoop size s.length s

/-- A call for each character is enough. -/
theorem fgetsLoop_fuel (room : 1 < size) {fuel fuel' : Nat} (enough : s.length ≤ fuel)
    (enough' : s.length ≤ fuel') : fgetsLoop size fuel s = fgetsLoop size fuel' s := by
  induction fuel generalizing fuel' s with
  | zero =>
      obtain rfl : s = [] := length_eq_zero_iff.mp (Nat.le_zero.mp enough)
      cases fuel' <;> rfl
  | succ fuel ih =>
      by_cases empty : s = []
      · subst empty
        cases fuel' <;> rfl
      · have shorter := fgetsTake_length_lt (n := size - 1) (by omega) empty
        obtain ⟨fuel', rfl⟩ : ∃ k, fuel' = k + 1 := Nat.exists_eq_succ_of_ne_zero (by omega)
        simp only [fgetsLoop, fgets, if_neg empty]
        exact congrArg _ (ih (by omega) (by omega))

/-- One call and the calls after it. -/
theorem fgetsAll_eq (room : 1 < size) (nonempty : s ≠ [])
    (taken : fgetsTake (size - 1) s = (line, rest)) :
    fgetsAll size s = line :: fgetsAll size rest := by
  have shorter := fgetsTake_length_lt (n := size - 1) (by omega) nonempty
  simp only [taken] at shorter
  obtain ⟨fuel, length⟩ : ∃ k, s.length = k + 1 := Nat.exists_eq_succ_of_ne_zero (by omega)
  rw [fgetsAll, length]
  simp only [fgetsLoop, fgets, if_neg nonempty, taken]
  exact congrArg _ (fgetsLoop_fuel room (by omega) (Nat.le_refl _))

/-- The lines a program gets that reads with a buffer of `size` characters, cuts each line at the
first carriage return or line feed and skips empty ones. -/
def readLines (size : Nat) (s : Text) : List Text :=
  ((fgetsAll size s).map (cut ['\r', '\n'])).filter (· ≠ [])

/-- A line is read as one, also where its line feed does not fit into the buffer: the next call then
gets a line of its own that is empty. -/
theorem readLines_cons (room : 1 < size) (noLf : '\n' ∉ line) (fits : line.length < size)
    (rest : Text) :
    readLines size (line ++ '\n' :: rest) =
      [cut ['\r', '\n'] line].filter (· ≠ []) ++ readLines size rest := by
  by_cases full : line.length = size - 1
  · have taken : fgetsTake (size - 1) (line ++ '\n' :: rest) = (line, '\n' :: rest) :=
      full ▸ fgetsTake_full noLf rest
    have feed : fgetsTake (size - 1) ('\n' :: rest) = (['\n'], rest) :=
      fgetsTake_line (s := []) (by simp) (by simp only [length_nil]; omega) rest
    have cutFeed : cut ['\r', '\n'] ['\n'] = [] := rfl
    rw [readLines, fgetsAll_eq room (by simp) taken, fgetsAll_eq room (by simp) feed,
      map_cons, map_cons, cutFeed, ← singleton_append, filter_append]
    rfl
  · have taken := fgetsTake_line noLf (n := size - 1) (by omega) rest
    have cutLine : cut ['\r', '\n'] (line ++ ['\n']) = cut ['\r', '\n'] line :=
      takeWhile_append_stop (by simp) line []
    rw [readLines, fgetsAll_eq room (by simp) taken, map_cons, cutLine,
      ← singleton_append, filter_append]
    rfl

/-- One call before the lines are read; a line feed that did not fit does not add a line. -/
theorem fgets_readLines (room : 1 < size) (noLf : '\n' ∉ line) (fits : line.length < size)
    (rest : Text) :
    ∃ first tail, fgets size (line ++ '\n' :: rest) = some (first, tail) ∧
      cut ['\r', '\n'] first = cut ['\r', '\n'] line ∧
      readLines size tail = readLines size rest := by
  rw [fgets, if_neg (by simp)]
  by_cases full : line.length = size - 1
  · refine ⟨line, '\n' :: rest, congrArg some (full ▸ fgetsTake_full noLf rest), rfl, ?_⟩
    exact @readLines_cons [] size room (by simp) (Nat.lt_of_succ_lt room) rest
  · exact ⟨_, rest, congrArg some (fgetsTake_line noLf (by omega) rest),
      takeWhile_append_stop (by simp) line [], rfl⟩

/-- A line without line ends in it is read as it is. -/
theorem readLines_line (plain : ∀ c ∈ line, c ∉ ['\r', '\n']) (nonempty : line ≠ [])
    (fits : line.length < size) (rest : Text) :
    readLines size (line ++ '\n' :: rest) = line :: readLines size rest := by
  have positive : 0 < line.length := length_pos_iff.mpr nonempty
  have noLf : '\n' ∉ line := fun member => plain _ member (by simp)
  rw [readLines_cons (by omega) noLf fits, cut_eq_self plain,
    filter_cons_of_pos (by simpa using nonempty)]
  rfl

theorem fgetsTake_all (absent : '\n' ∉ s) (fits : s.length ≤ n) : fgetsTake n s = (s, []) := by
  obtain ⟨m, rfl⟩ := Nat.exists_eq_add_of_le fits
  have taken := fgetsTake_append absent m []
  rw [append_nil] at taken
  cases m <;> simpa [fgetsTake] using taken

/-- The last line, after which no line feed follows. -/
theorem readLines_last (room : 1 < size) (noLf : '\n' ∉ line) (fits : line.length < size) :
    readLines size line = [cut ['\r', '\n'] line].filter (· ≠ []) := by
  by_cases empty : line = []
  · subst empty
    rfl
  · rw [readLines, fgetsAll_eq room empty (fgetsTake_all noLf (by omega))]
    rfl

/-- A file whose lines fit is read line by line. -/
theorem readLines_intercalate (room : 1 < size) {lines : List Text}
    (fit : ∀ line ∈ lines, '\n' ∉ line ∧ line.length < size) :
    readLines size (['\n'].intercalate lines) = (lines.map (cut ['\r', '\n'])).filter (· ≠ []) := by
  induction lines with
  | nil => rfl
  | cons line lines ih =>
      obtain ⟨noLf, fits⟩ := fit line mem_cons_self
      cases lines with
      | nil =>
          rw [intercalate_singleton, readLines_last room noLf fits]
          rfl
      | cons next lines =>
          have rest := ih fun l member => fit l (mem_cons_of_mem line member)
          rw [intercalate_cons_cons, append_assoc, singleton_append,
            readLines_cons room noLf fits, rest, ← filter_append]
          rfl

/-! ### Printing numbers -/

/-- `%d` and `%ld`. -/
def decText : Int → Text
  | .ofNat n => Nat.toDigits 10 n
  | .negSucc n => '-' :: Nat.toDigits 10 (n + 1)

/-- `%0<width>d`: the zeros stand after the sign. -/
def padText (width : Nat) : Int → Text
  | .ofNat n => (Nat.toDigits 10 n).leftpad width '0'
  | .negSucc n => '-' :: (Nat.toDigits 10 (n + 1)).leftpad (width - 1) '0'

/-- `%x`. -/
def hexText (n : Nat) : Text := Nat.toDigits 16 n

/-- `%d` of an `unsigned`: the bits are read as a signed number. -/
def dText (x : UInt32) : Text := decText x.toInt32.toInt

/-- The characters of printed numbers. -/
def numerals : List Char := ascii "-0123456789abcdef"

theorem digitChar_mem_numerals (small : n < 16) : n.digitChar ∈ numerals := by
  revert n
  decide

theorem mem_numerals_of_mem_toDigits {base : Nat} (two : 1 < base) (sixteen : base ≤ 16)
    (member : c ∈ Nat.toDigits base n) : c ∈ numerals := by
  induction n using Nat.strongRecOn with
  | ind n ih =>
      rw [Nat.toDigits_eq_if two] at member
      by_cases small : n < base
      · rw [if_pos small, mem_singleton] at member
        exact member ▸ digitChar_mem_numerals (Nat.lt_of_lt_of_le small sixteen)
      · rw [if_neg small, mem_append, mem_singleton] at member
        obtain high | low := member
        · exact ih _ (Nat.div_lt_self (by omega) two) high
        · have digit : n % base < base := Nat.mod_lt _ (by omega)
          exact low ▸ digitChar_mem_numerals (Nat.lt_of_lt_of_le digit sixteen)

theorem mem_numerals_of_mem_decText {n : Int} (member : c ∈ decText n) : c ∈ numerals := by
  cases n with
  | ofNat n => exact mem_numerals_of_mem_toDigits (by decide) (by decide) member
  | negSucc n =>
      obtain rfl | member := mem_cons.mp member
      · decide
      · exact mem_numerals_of_mem_toDigits (by decide) (by decide) member

theorem mem_numerals_of_mem_leftpad {width : Nat} (all : ∀ c ∈ digits, c ∈ numerals)
    (member : c ∈ digits.leftpad width '0') : c ∈ numerals := by
  rw [List.leftpad, mem_append] at member
  obtain zeros | member := member
  · rw [eq_of_mem_replicate zeros]
    decide
  · exact all c member

theorem mem_numerals_of_mem_padText {width : Nat} {n : Int} (member : c ∈ padText width n) :
    c ∈ numerals := by
  have digits : ∀ n, ∀ c ∈ Nat.toDigits 10 n, c ∈ numerals := fun n c =>
    mem_numerals_of_mem_toDigits (by decide) (by decide)
  cases n with
  | ofNat n => exact mem_numerals_of_mem_leftpad (digits n) member
  | negSucc n =>
      obtain rfl | member := mem_cons.mp member
      · decide
      · exact mem_numerals_of_mem_leftpad (digits (n + 1)) member

/-! ### Scanning -/

/-- `isspace()`. -/
def isSpace (c : Char) : Bool := c ∈ [' ', '\t', '\n', '\x0b', '\x0c', '\r']

/-- The sign of a number, if there is one, and what follows. -/
def scanSign : Text → Bool × Text
  | '-' :: s => (true, s)
  | '+' :: s => (false, s)
  | s => (false, s)

/-- `strtoul()` of a sign and digits. -/
def strtoul (negative : Bool) (digits : Text) : Nat :=
  let n := Nat.ofDigitChars 10 digits 0
  if 2 ^ 64 ≤ n then 2 ^ 64 - 1 else if negative then (2 ^ 64 - n) % 2 ^ 64 else n

/-- `%u`: white space is skipped, a sign is allowed; the number and what follows it. -/
def scanU (s : Text) : Option (UInt32 × Text) :=
  let (negative, s) := scanSign (s.dropWhile isSpace)
  if s.takeWhile Char.isDigit = [] then none
  else some (.ofNat (strtoul negative (s.takeWhile Char.isDigit)), s.dropWhile Char.isDigit)

/-- What follows a printed number does not go on with a digit. -/
def NoDigit (s : Text) : Prop := ∀ c ∈ s.head?, c.isDigit = false

theorem isDigit_of_mem_toDigits (member : c ∈ Nat.toDigits 10 n) : c.isDigit = true :=
  Nat.isDigit_of_mem_toDigits (by decide) (by decide) member

theorem takeWhile_digits (all : ∀ c ∈ digits, c.isDigit = true) (stop : NoDigit rest) :
    (digits ++ rest).takeWhile Char.isDigit = digits := by
  rw [takeWhile_append_of_pos all]
  cases rest with
  | nil => simp
  | cons d rest => simp [stop d rfl]

theorem dropWhile_digits (all : ∀ c ∈ digits, c.isDigit = true) (stop : NoDigit rest) :
    (digits ++ rest).dropWhile Char.isDigit = rest := by
  rw [dropWhile_append_of_pos all]
  cases rest with
  | nil => rfl
  | cons d rest => simp [stop d rfl]

/-- The digits of a number are scanned back, with the sign that was scanned before them. -/
theorem scanU_digits {negative : Bool}
    (sign : scanSign (s.dropWhile isSpace) = (negative, Nat.toDigits 10 n ++ rest))
    (stop : NoDigit rest) :
    scanU s = some (.ofNat (strtoul negative (Nat.toDigits 10 n)), rest) := by
  have all : ∀ c ∈ Nat.toDigits 10 n, c.isDigit = true := fun c => isDigit_of_mem_toDigits
  simp only [scanU, sign]
  rw [takeWhile_digits all stop, dropWhile_digits all stop, if_neg Nat.toDigits_ne_nil]

theorem isSpace_of_isDigit (digit : c.isDigit = true) : isSpace c = false := by
  have noDigit : ∀ c ∈ [' ', '\t', '\n', '\x0b', '\x0c', '\r'], c.isDigit = false := by decide
  by_contra space
  have member := of_decide_eq_true (Bool.not_eq_false _ ▸ space : isSpace c = true)
  rw [noDigit c member] at digit
  exact Bool.noConfusion digit

/-- A text that begins with a digit has no sign and no white space before it. -/
theorem scanSign_digit (digit : c.isDigit = true) (s : Text) :
    scanSign ((c :: s).dropWhile isSpace) = (false, c :: s) := by
  have noMinus : c ≠ '-' := by rintro rfl; simp at digit
  have noPlus : c ≠ '+' := by rintro rfl; simp at digit
  rw [dropWhile_cons_of_neg (by simp [isSpace_of_isDigit digit])]
  unfold scanSign
  split
  · rename_i same
    exact absurd (cons.inj same).1 noMinus
  · rename_i same
    exact absurd (cons.inj same).1 noPlus
  · rfl

/-- A number is scanned from what is before the next slash. -/
theorem scanU_append_slash (s : Text) :
    ∃ scanned : Option (UInt32 × Text), ∀ t,
      scanU (s ++ '/' :: t) = scanned.map fun (x, s') => (x, s' ++ '/' :: t) := by
  obtain ⟨negative, digits, sign⟩ : ∃ negative digits, ∀ t,
      scanSign ((s ++ '/' :: t).dropWhile isSpace) = (negative, digits ++ '/' :: t) := by
    refine ⟨(scanSign (s.dropWhile isSpace)).1, (scanSign (s.dropWhile isSpace)).2, fun t => ?_⟩
    rw [dropWhile_append_stop (by decide)]
    generalize s.dropWhile isSpace = s'
    unfold scanSign
    cases s' with
    | nil => rfl
    | cons c s' =>
        by_cases minus : c = '-'
        · subst minus
          rfl
        · by_cases plus : c = '+'
          · subst plus
            rfl
          · simp [minus, plus]
  by_cases none : digits.takeWhile Char.isDigit = []
  · refine ⟨.none, fun t => ?_⟩
    simp only [scanU, sign]
    rw [takeWhile_append_stop (by decide), if_pos none]
    rfl
  · refine ⟨some (.ofNat (strtoul negative (digits.takeWhile Char.isDigit)),
      digits.dropWhile Char.isDigit), fun t => ?_⟩
    simp only [scanU, sign]
    rw [takeWhile_append_stop (by decide), dropWhile_append_stop (by decide), if_neg none]
    rfl

theorem toInt_toInt32 (x : UInt32) :
    x.toInt32.toInt = if x.toNat < 2 ^ 31 then (x.toNat : Int) else x.toNat - 2 ^ 32 := by
  have cond : x.toInt32.toInt = x.toBitVec.toInt := rfl
  rw [cond, BitVec.toInt_eq_toNat_cond]
  have nat : x.toBitVec.toNat = x.toNat := rfl
  rw [nat]
  split <;> split <;> omega

theorem dText_of_lt {x : UInt32} (small : x.toNat < 2 ^ 31) :
    dText x = Nat.toDigits 10 x.toNat := by
  rw [dText, toInt_toInt32, if_pos small]
  rfl

theorem dText_of_ge {x : UInt32} (large : 2 ^ 31 ≤ x.toNat) :
    dText x = '-' :: Nat.toDigits 10 (2 ^ 32 - x.toNat) := by
  have bound := x.toNat_lt
  have negative : (x.toNat : Int) - 2 ^ 32 = .negSucc (2 ^ 32 - x.toNat - 1) := by omega
  rw [dText, toInt_toInt32, if_neg (by omega), negative]
  simp only [decText]
  rw [Nat.sub_add_cancel (by omega)]

/-- An `unsigned` that is printed with `%d` is scanned back with `%u`, also where the sign bit is
set and the number printed is negative. -/
theorem scanU_dText (x : UInt32) (stop : NoDigit rest) :
    scanU (dText x ++ rest) = some (x, rest) := by
  have bound := x.toNat_lt
  by_cases small : x.toNat < 2 ^ 31
  · obtain ⟨c, digits, split⟩ : ∃ c digits, Nat.toDigits 10 x.toNat = c :: digits :=
      exists_cons_of_ne_nil Nat.toDigits_ne_nil
    have digit : c.isDigit = true := isDigit_of_mem_toDigits (split ▸ mem_cons_self)
    have sign : scanSign ((dText x ++ rest).dropWhile isSpace) =
        (false, Nat.toDigits 10 x.toNat ++ rest) := by
      rw [dText_of_lt small, split]
      exact scanSign_digit digit (digits ++ rest)
    rw [scanU_digits sign stop]
    have value : strtoul false (Nat.toDigits 10 x.toNat) = x.toNat := by
      simp only [strtoul, Nat.ofDigitChars_ten_toDigits]
      rw [if_neg (by omega)]
      rfl
    rw [value, UInt32.ofNat_toNat]
  · have sign : scanSign ((dText x ++ rest).dropWhile isSpace) =
        (true, Nat.toDigits 10 (2 ^ 32 - x.toNat) ++ rest) := by
      rw [dText_of_ge (by omega)]
      rfl
    rw [scanU_digits sign stop]
    have value : strtoul true (Nat.toDigits 10 (2 ^ 32 - x.toNat)) =
        2 ^ 64 - (2 ^ 32 - x.toNat) := by
      simp only [strtoul, Nat.ofDigitChars_ten_toDigits]
      rw [if_neg (by omega), if_pos trivial, Nat.mod_eq_of_lt (by omega)]
    have wraps : (UInt32.ofNat (2 ^ 64 - (2 ^ 32 - x.toNat))) = x := by
      apply UInt32.toNat.inj
      rw [UInt32.toNat_ofNat']
      omega
    rw [value, wraps]

end CText

end OsmoMsc.Library
