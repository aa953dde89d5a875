/-
Module: OsmoMsc.Cdr.BerFile
Purpose: The file osmo-msc-cdrenc writes is a well-formed sequence of header, records and trailer.
  Every function of the writer is shown to append the encoding of some elements to its buffer, so
  the file is the encoding of a tree, and reading it gives back that tree: all lengths are exact,
  at every depth and for contents of every size.
Trusted boundary: none
Main exports: TicketFile, FileOf, encodeFile_fileOf, cdrRun_encoded
-/
import OsmoMsc.Cdr.Encoder

namespace OsmoMsc.Cdr

open Library Library.CText Library.Ber List

/-! ### The writer writes elements -/

theorem tagStack_eq {fuel tag : Nat} (enough : tag ≤ fuel) :
    tagStack fuel tag = (Nat.digits 128 tag).map fun d => .ofNat (d + 128) := by
  induction fuel generalizing tag with
  | zero =>
      obtain rfl : tag = 0 := Nat.le_zero.mp enough
      simp [tagStack]
  | succ fuel ih =>
      by_cases zero : tag = 0
      · simp [tagStack, zero]
      · rw [tagStack, if_neg zero, Nat.digits_def' (by decide) (Nat.pos_of_ne_zero zero),
          map_cons, ih (by omega)]

theorem octetStack_eq {fuel n : Nat} (enough : n < 256 ^ fuel) :
    octetStack fuel n = (Nat.digits 256 n).map .ofNat := by
  induction fuel generalizing n with
  | zero =>
      obtain rfl : n = 0 := by simpa using enough
      simp [octetStack]
  | succ fuel ih =>
      by_cases zero : n = 0
      · simp [octetStack, zero]
      · rw [octetStack, if_neg zero, Nat.digits_def' (by decide) (Nat.pos_of_ne_zero zero),
          map_cons, ih (by rw [Nat.div_lt_iff_lt_mul (by decide)]; rwa [Nat.pow_succ] at enough)]

/-- All digits but the last are marked. -/
theorem continued_append (ds : List Nat) (d : Nat) :
    continued (ds ++ [d]) = ds.map (fun d => .ofNat (d + 128)) ++ [.ofNat d] := by
  induction ds with
  | nil => rfl
  | cons c ds ih =>
      cases ds with
      | nil => rfl
      | cons e ds =>
          simp only [cons_append, continued, map_cons] at ih ⊢
          rw [ih]

theorem berTag_eq (b : BerBuf) (tagClass : Fin 4) (constructed : Bool) (tag : Nat) :
    berTag b tagClass constructed tag = b ++ identifier tagClass constructed tag := by
  unfold berTag identifier
  by_cases small : tag < 31
  · simp only [if_pos small]
    rfl
  · simp only [if_neg small]
    rw [Nat.digits_def' (by decide) (show 0 < tag by omega), reverse_cons, reverse_cons,
      continued_append, tagStack_eq (by omega), map_reverse]
    rfl

theorem berLength_eq (b : BerBuf) (len : Nat) : berLength b len = b ++ lengthOctets len := by
  unfold berLength lengthOctets
  by_cases small : len < 128
  · simp only [if_pos small]
  · have enough : len < 256 ^ len := Nat.lt_pow_self (by decide)
    simp only [if_neg small, octetStack_eq enough, length_map, map_reverse]

/-- A buffer has got some more elements, which are not larger than `most`. -/
def Appends (most : Nat) (b b' : BerBuf) : Prop :=
  ∃ ts, b' = b ++ encodeAll ts ∧ (encodeAll ts).length ≤ most

theorem Appends.refl (most : Nat) (b : BerBuf) : Appends most b b :=
  ⟨[], by simp [encodeAll], by simp [encodeAll]⟩

theorem Appends.trans {m n : Nat} {a b c : BerBuf} (first : Appends m a b)
    (second : Appends n b c) : Appends (m + n) a c := by
  obtain ⟨ts, rfl, size⟩ := first
  obtain ⟨us, rfl, more⟩ := second
  refine ⟨ts ++ us, by simp, ?_⟩
  rw [encodeAll_append, length_append]
  omega

theorem Appends.weaken {m n : Nat} {a b : BerBuf} (written : Appends m a b) (le : m ≤ n) :
    Appends n a b := by
  obtain ⟨ts, rfl, size⟩ := written
  exact ⟨ts, rfl, Nat.le_trans size le⟩

variable {ts : List Ber}

/-- A sequence that is not empty is not encoded as nothing. -/
theorem encodeAll_ne_nil {t : Ber} : encodeAll (t :: ts) ≠ [] := by
  have long : 0 < (encode t).length := by
    cases t with
    | prim cls tag octets =>
        have := length_element cls false tag octets
        simp only [encode]
        omega
    | node cls tag children =>
        have := length_element cls true tag (encodeAll children)
        simp only [encode]
        omega
  intro empty
  have none := congrArg List.length empty
  simp only [encodeAll, length_append, length_nil] at none
  omega

variable {data : List UInt8}

theorem berCtxPrim_eq (nonempty : data ≠ []) (b : BerBuf) (tag : Nat) :
    berCtxPrim b tag data = b ++ encodeAll [.prim 2 tag data] := by
  rw [berCtxPrim, if_neg nonempty, berLength_eq, berTag_eq]
  simp [encode, element]

theorem berCtxPrim_appends (b : BerBuf) (tag : Nat) {n : Nat} (size : data.length ≤ n) :
    Appends (tag + 2 * n + 2) b (berCtxPrim b tag data) := by
  by_cases empty : data = []
  · rw [berCtxPrim, if_pos empty]
    exact .refl _ b
  · have most := length_element_le 2 false tag data
    refine ⟨_, berCtxPrim_eq empty b tag, ?_⟩
    rw [encodeAll_singleton, encode]
    omega

theorem berWrapCtx_eq (nonempty : ts ≠ []) (b : BerBuf) (tag : Nat) :
    berWrapCtx b tag (encodeAll ts) = b ++ encodeAll [.node 2 tag ts] := by
  obtain ⟨t, ts, rfl⟩ := exists_cons_of_ne_nil nonempty
  rw [berWrapCtx, if_neg encodeAll_ne_nil, berLength_eq, berTag_eq]
  simp [encode, element]

/-- What is wrapped was written by the writer, too. -/
theorem berWrapCtx_appends {b : BerBuf} {tag : Nat} {n : Nat} {inner : BerBuf}
    (written : Appends n [] inner) : Appends (tag + 2 * n + 2) b (berWrapCtx b tag inner) := by
  obtain ⟨ts, rfl, size⟩ := written
  rw [nil_append]
  cases ts with
  | nil => exact .refl _ b
  | cons t ts =>
      have most := length_element_le 2 true tag (encodeAll (t :: ts))
      refine ⟨_, berWrapCtx_eq (cons_ne_nil t ts) b tag, ?_⟩
      rw [encodeAll_singleton, encode]
      omega

/-! ### The octets of values -/

theorem length_pairs (octet : Nat → Nat → Nat) (s : Text) :
    (pairs octet s).length = s.length / 2 := by
  fun_induction pairs octet s with
  | case1 a b s ih =>
      simp only [length_cons, ih]
      omega
  | case2 s short =>
      match s with
      | [] => rfl
      | [_] => simp
      | a :: b :: s => exact absurd rfl (short a b s)

/-- Octets are only written where there is room for all. -/
theorem length_pairs_le {octet : Nat → Nat → Nat} {outl : Nat} {hex : Text} :
    (if outl < hex.length / 2 then [] else pairs octet hex).length ≤ outl := by
  split
  · exact Nat.zero_le _
  · rw [length_pairs]
    omega

theorem length_berTbcdDigits {outl : Nat} {digits : Text} :
    (berTbcdDigits outl digits).length ≤ outl :=
  length_pairs_le

theorem length_berTbcdNumber (outl : Nat) (digits : Text) (tonNpi : UInt8) :
    (berTbcdNumber outl digits tonNpi).length ≤ outl := by
  unfold berTbcdNumber
  simp only
  split
  · exact Nat.zero_le _
  · rename_i fits
    simp only [length_cons]
    omega

theorem length_berHexBytes (outl : Nat) (hex : Text) : (berHexBytes outl hex).length ≤ outl := by
  unfold berHexBytes
  split
  · exact Nat.zero_le _
  · exact length_pairs_le

/-- The character of a nibble of a number, unless it is a filler. -/
def tbcdChar (n : Nat) : Option Char :=
  if n < 10 then some (.ofNat ('0'.toNat + n))
  else if n = 10 then some '*'
  else if n = 11 then some '#'
  else none

/-- The nibbles of a number, swapped back. -/
def tbcdText (octets : List UInt8) : Text :=
  octets.flatMap fun octet => [octet.toNat % 16, octet.toNat / 16].filterMap tbcdChar

theorem nibble_lt (c : Char) : nibble c < 16 := by
  unfold nibble
  split_ifs <;> simp_all [Char.le_def, UInt32.le_iff_toNat_le] <;> omega

theorem tbcdText_pairs {hex : Text} (even : hex.length % 2 = 0) :
    tbcdText (pairs (fun a b => b * 16 + a) hex) = hex.filterMap (tbcdChar <| nibble ·) := by
  fun_induction pairs _ hex with
  | case1 a b s ih =>
      have low := nibble_lt a
      have high := nibble_lt b
      rw [length_cons, length_cons] at even
      have octet : (UInt8.ofNat (nibble b * 16 + nibble a)).toNat = nibble b * 16 + nibble a :=
        Nat.mod_eq_of_lt (by omega)
      have first : (nibble b * 16 + nibble a) % 16 = nibble a := by omega
      have second : (nibble b * 16 + nibble a) / 16 = nibble b := by omega
      rw [tbcdText, flatMap_cons, ← tbcdText, ih (by omega), octet, first, second]
      exact (@filterMap_append _ _ [a, b] s (tbcdChar <| nibble ·)).symm
  | case2 s short =>
      match s with
      | [] => rfl
      | [_] => simp at even
      | a :: b :: s => exact absurd rfl (short a b s)

/-- What a string may hold that is written as a number: 1 to 63 digits, stars and hashes. -/
structure TbcdString (digits : Text) : Prop where
  nonempty : digits ≠ []
  short : digits.length ≤ 63
  chars : ∀ c ∈ digits, c.isDigit = true ∨ c = '*' ∨ c = '#'

theorem TbcdString.readBack {digits : Text} (valid : TbcdString digits) :
    tbcdText (berTbcdDigits 32 digits) = digits := by
  have back (c : Char) (char : c ∈ digits) : (tbcdDigit c).bind (tbcdChar <| nibble ·) = some c := by
    rcases valid.chars c char with isDigit | rfl | rfl
    · have range : '0' ≤ c ∧ c ≤ '9' := by
        simpa [Char.isDigit, Char.le_def] using isDigit
      have least : '0'.toNat ≤ c.toNat := range.1
      have most : c.toNat ≤ '9'.toNat := range.2
      have isNibble : nibble c = c.toNat - '0'.toNat := if_pos range
      rw [tbcdDigit, if_pos isDigit, Option.bind_some, isNibble, tbcdChar,
        if_pos (Nat.sub_lt_left_of_lt_add least (Nat.lt_succ_of_le most)), Nat.add_sub_cancel' least,
        Char.ofNat_toNat]
    · decide
    · decide
  have kept : (digits.filterMap tbcdDigit).filterMap (tbcdChar <| nibble ·) = digits := by
    rw [filterMap_filterMap, filterMap_congr back, filterMap_some]
  have short : (digits.filterMap tbcdDigit).length ≤ 63 :=
    (length_filterMap_le _ _).trans valid.short
  unfold berTbcdDigits
  rw [take_of_length_le short]
  generalize digits.filterMap tbcdDigit = hex at kept short
  dsimp only
  have filled : (if hex.length % 2 = 1 then hex ++ ['f'] else hex).filterMap (tbcdChar <| nibble ·) =
      digits := by
    split
    · rw [filterMap_append, kept]
      exact append_nil _
    · exact kept
  have length : (if hex.length % 2 = 1 then hex ++ ['f'] else hex).length =
      (hex.length + 1) / 2 * 2 := by
    split
    · rw [length_append, length_singleton]
      omega
    · omega
  rw [if_neg (by omega), tbcdText_pairs (by omega), filled]

theorem tbcd_roundTrip {digits : Text} (valid : TbcdString digits) :
    tbcdText (berTbcdDigits 32 digits) = digits ∧
    (∀ tonNpi, berTbcdNumber 33 digits tonNpi = tonNpi :: berTbcdDigits 32 digits) ∧
    ∀ other, TbcdString other → berTbcdDigits 32 digits = berTbcdDigits 32 other →
      digits = other := by
  refine ⟨valid.readBack, ?_, ?_⟩
  · intro tonNpi
    have length := @length_berTbcdDigits 32 digits
    have nonempty : berTbcdDigits 32 digits ≠ [] := by
      intro empty
      exact valid.nonempty (valid.readBack.symm.trans (congrArg tbcdText empty))
    rw [berTbcdNumber, if_neg (by rw [not_or]; exact ⟨nonempty, by omega⟩)]
  · intro other otherValid same
    rw [← valid.readBack, same, otherValid.readBack]

theorem tbcd_roundTrip_odd : tbcdText (berTbcdDigits 32 (ascii "12*#5")) = ascii "12*#5" :=
  (@tbcd_roundTrip (ascii "12*#5") ⟨by decide, by decide, by decide⟩).1

theorem length_callrefOctets {s : Text} : (callrefOctets s).length ≤ 16 := by
  have bytes : ∀ v : Option Nat,
      ((v.map fun v => berHexBytes 16 (snprintf 32 (hexText v))).getD []).length ≤ 16 := by
    intro v
    cases v with
    | none => exact Nat.zero_le _
    | some v => exact length_berHexBytes 16 _
  unfold callrefOctets
  simp only
  split
  · exact Nat.zero_le _
  · exact bytes _

theorem length_encodeInt (value : Int) : (encodeInt value).length ≤ 5 := by
  have small : (value % 2 ^ 32).toNat < 256 ^ 4 := by omega
  have few : (octetStack 4 (value % 2 ^ 32).toNat).length ≤ 4 := by
    rwa [octetStack_eq small, length_map, Nat.digits_length_le_iff (by decide)]
  unfold encodeInt
  simp only
  split
  · exact Nat.le_of_ble_eq_true rfl
  · split <;> simp only [length_cons, length_reverse] <;> omega

/-- An `int` is read back as an unsigned number. -/
theorem readInt_encodeInt {value : Int} (int : value = 0 ∨ value % 2 ^ 32 ≠ 0) :
    Shortest (encodeInt value) ∧ readInt (encodeInt value) = value % 2 ^ 32 := by
  by_cases zero : value = 0
  · subst zero
    exact ⟨⟨cons_ne_nil _ _, nofun⟩, rfl⟩
  · obtain ⟨n, bits⟩ : ∃ n : Nat, (n : Int) = value % 2 ^ 32 :=
      ⟨_, Int.toNat_of_nonneg (Int.emod_nonneg _ (by decide))⟩
    have octets : octetStack 4 n = (Nat.digits 256 n).map .ofNat := octetStack_eq (by omega)
    have number : readNat (octetStack 4 n).reverse = n := by
      rw [octets, ← map_reverse, readNat_digits]
    have nonempty : Nat.digits 256 n ≠ [] := Nat.digits_ne_nil_iff_ne_zero.mpr (by omega)
    -- The first octet is the last digit, which is not zero.
    obtain ⟨top, rest, first⟩ : ∃ top rest, (octetStack 4 n).reverse = top :: rest :=
      exists_cons_of_ne_nil (by simpa [octets] using nonempty)
    have last : (octetStack 4 n).getLast? = some top := by rw [← head?_reverse, first]; rfl
    have positive : top ≠ 0 := by
      rw [octets, getLast?_map, Option.map_eq_some_iff] at last
      obtain ⟨digit, isLast, rfl⟩ := last
      obtain ⟨-, rfl⟩ := mem_getLast?_eq_getLast isLast
      have small := Nat.digits_lt_base (by decide) (getLast_mem nonempty)
      intro zero
      have zero := congrArg UInt8.toNat zero
      rw [UInt8.toNat_ofNat_of_lt' small] at zero
      exact Nat.getLast_digit_ne_zero 256 (by omega) zero
    simp only [encodeInt, if_neg zero, ← bits, Int.toNat_natCast, getLastD_eq_getLast?, last,
      Option.getD_some]
    by_cases high : 128 ≤ top.toNat
    · have sign : ((0 :: (octetStack 4 n).reverse).headD 0).toNat < 128 := Nat.zero_lt_succ _
      rw [if_pos high, readInt_of_small sign]
      refine ⟨⟨cons_ne_nil _ _, ?_⟩, congrArg Nat.cast number⟩
      rw [first]
      rintro _ _ _ ⟨⟩
      exact ⟨fun low => Nat.not_le_of_lt low.2 high, fun ones => absurd ones.1 (by decide)⟩
    · have sign : ((octetStack 4 n).reverse.headD 0).toNat < 128 := by
        rw [first]
        exact Nat.lt_of_not_le high
      rw [if_neg high, readInt_of_small sign, number]
      rw [first]
      refine ⟨⟨cons_ne_nil _ _, ?_⟩, rfl⟩
      rintro _ _ _ ⟨⟩
      exact ⟨fun zero => positive zero.1, fun ones => high (by rw [ones.1]; decide)⟩

/-- A decimal number in a column is cut to a `long` and then to an `int`. -/
theorem rowInt_decText {r : Row} {key : Text} {n : Nat} (column : rowGet r key = decText n)
    (default : Int) : rowInt r key default = toInt (min n (2 ^ 63 - 1)) := by
  have all : ∀ c ∈ Nat.toDigits 10 n, c.isDigit = true := fun c => isDigit_of_mem_toDigits
  have taken : (Nat.toDigits 10 n).takeWhile Char.isDigit = Nat.toDigits 10 n :=
    takeWhile_eq_self_iff.mpr all
  have sign : scanSign ((Nat.toDigits 10 n).dropWhile isSpace) = (false, Nat.toDigits 10 n) := by
    obtain ⟨c, digits, split⟩ := exists_cons_of_ne_nil (@Nat.toDigits_ne_nil n 10)
    rw [split] at all ⊢
    exact scanSign_digit (all c mem_cons_self) digits
  have long : strtol10 (Nat.toDigits 10 n) = some (min (n : Int) (2 ^ 63 - 1)) := by
    simp [strtol10, sign, taken, Nat.toDigits_ne_nil, Nat.ofDigitChars_ten_toDigits]
  change rowGet r key = Nat.toDigits 10 n at column
  rw [rowInt, column, if_neg Nat.toDigits_ne_nil, long]
  rfl

/-- The content of an integer element is the shortest one that is read back as the `int` just when
that is not negative, and the number of a record is read back just when it fits into 32 bits. -/
theorem berCtxInt_readBack_iff {v : Int} (int : -2 ^ 31 ≤ v ∧ v < 2 ^ 31) {r : Row} {n : Nat}
    (fits : n < 2 ^ 64) (column : rowGet r (ascii "record_number") = decText n) :
    (∀ b tag, berCtxInt b tag v = b ++ encodeAll [.prim 2 tag (encodeInt v)]) ∧
    (Shortest (encodeInt v) ∧ readInt (encodeInt v) = v ↔ 0 ≤ v) ∧
    (readInt (encodeInt (rowInt r (ascii "record_number") 0)) = n ↔ n < 2 ^ 32) := by
  obtain ⟨shortest, value⟩ := @readInt_encodeInt v (by omega)
  have number := (@readInt_encodeInt (toInt (min n (2 ^ 63 - 1))) (by unfold toInt; omega)).2
  refine ⟨fun b tag => berCtxPrim_eq shortest.nonempty b tag, ?_, ?_⟩
  · rw [value]
    exact ⟨fun same => by omega, fun positive => ⟨shortest, by omega⟩⟩
  · rw [rowInt_decText column, number]
    unfold toInt
    omega

theorem berCtxInt_readBack_seven :
    readInt (encodeInt (rowInt [(ascii "record_number", ascii "7")] (ascii "record_number") 0)) =
      (7 : Nat) :=
  ((@berCtxInt_readBack_iff 0 (by decide) _ 7 (by decide) rfl).2.2).mpr (by decide)

/-- -1 is read back as 2^32 - 1, and the record number 2^32 as 0. -/
theorem negative_and_large_numbers_change :
    readInt (encodeInt (-1)) = 2 ^ 32 - 1 ∧
      readInt (encodeInt (rowInt [(ascii "record_number", decText (2 ^ 32))]
        (ascii "record_number") 0)) = 0 := by
  decide +kernel

theorem length_padText (n : Int) : 2 ≤ (padText 2 n).length := by
  cases n with
  | ofNat n =>
      simp only [padText, length_leftpad]
      omega
  | negSucc n =>
      simp only [padText, length_cons, length_leftpad]
      omega

/-- A time stamp is never empty. -/
theorem berTimestamp_ne_nil (utc : Tm) (tzHex : Text) : berTimestamp utc tzHex ≠ [] := by
  have year := length_padText ((utc.year + 1900).tmod 100)
  unfold berTimestamp
  generalize hex_eq : padText 2 ((utc.year + 1900).tmod 100) ++ padText 2 (utc.mon + 1) ++
    padText 2 utc.mday ++ padText 2 utc.hour ++ padText 2 utc.min ++ padText 2 utc.sec ++
    (if tzHex = [] then ascii "2b0000" else tzHex) = hex
  have long : 2 ≤ hex.length := by
    rw [← hex_eq]
    simp only [length_append]
    omega
  have cut_long : 2 ≤ (snprintf 32 hex).length ∧ (snprintf 32 hex).length ≤ 31 := by
    simp only [snprintf, length_take]
    omega
  have nonempty : ∀ s : Text, 2 ≤ s.length → s.length ≤ 32 →
      (if 16 < s.length / 2 then [] else pairs (fun a b => a * 16 + b) s) ≠ [] := by
    intro s two most
    rw [if_neg (by omega), ← length_pos_iff, length_pairs]
    omega
  unfold berHexBytes
  rw [if_neg (by omega)]
  split
  · exact nonempty _ (by simp only [length_cons]; omega)
      (by simp only [length_cons]; omega)
  · exact nonempty _ (by omega) (by omega)

/-! ### Records -/

/-- The tag a field is written with. -/
def Field.tag : Field → Nat
  | .tbcd tag _ | .isdn tag _ | .entity tag | .time tag _ | .int tag _ | .callref tag _
  | .ascii tag _ | .incomingRoute tag | .outgoingRoute tag | .location tag | .luLocation tag => tag

theorem recordFields_bounds (type : Int) :
    (recordFields type).length ≤ 26 ∧ ∀ field ∈ recordFields type, field.tag ≤ 232 := by
  unfold recordFields
  split <;> decide

theorem writeRoute_appends {w : BerBuf} {tag : Nat} {name : Text} (short : name.length < 4096) :
    Appends (tag + 16394) w (writeRoute w tag name) := by
  unfold writeRoute
  split
  · exact .refl _ w
  · refine (berWrapCtx_appends (berCtxPrim_appends [] 1 (n := 4096) ?_)).weaken ?_
    · rw [length_map]
      omega
    · omega

variable {r : Row}

theorem writeLocation_appends {lacTag ciTag : Nat} {w : BerBuf} {tag : Nat} :
    Appends (tag + 2 * (lacTag + ciTag) + 42) w (writeLocation lacTag ciTag w tag r) := by
  unfold writeLocation
  simp only
  split
  · exact .refl _ w
  · refine (berWrapCtx_appends ((berCtxPrim_appends [] lacTag (length_berHexBytes 4 _)).trans
      (berCtxPrim_appends _ ciTag (length_berHexBytes 4 _)))).weaken ?_
    omega

/-- A route is configured in an array, or is the column of the row. -/
theorem length_routeFor {c : EncCfg} {number : Text} {fallback : Text}
    (short : fallback.length < 4096) : (routeFor c number fallback).length < 4096 := by
  have chosen : ∀ best ∈ c.routes.foldl (routeStep number) none, best.2.length < 4096 := by
    refine foldlRecOn (motive := fun best : Option (Nat × Text) => ∀ b ∈ best, b.2.length < 4096)
      c.routes _ (by simp) fun best before route _ => ?_
    unfold routeStep
    simp only
    split
    · rintro b ⟨⟩
      exact Nat.lt_of_lt_of_le route.2.property (by decide)
    · exact before
  unfold routeFor
  split
  · rename_i pl name best
    split
    · exact short
    · exact chosen _ best
  · exact short

/-- A row of values that fit into a line. -/
def ShortRow (r : Row) : Prop := ∀ key, (rowGet r key).length < 4096

theorem writeField_appends (c : EncCfg) (short : ShortRow r) (w : BerBuf) {field : Field}
    (small : field.tag ≤ 232) : Appends (2 ^ 15) w (writeField c r w field) := by
  have prim {tag n : Nat} {data : List UInt8} (small : tag ≤ 232) (size : data.length ≤ n)
      (fits : n ≤ 4096) : Appends (2 ^ 15) w (berCtxPrim w tag data) :=
    (berCtxPrim_appends w tag size).weaken (by omega)
  have route {tag : Nat} {name : Text} (small : tag ≤ 232) (short : name.length < 4096) :
      Appends (2 ^ 15) w (writeRoute w tag name) :=
    (writeRoute_appends short).weaken (by omega)
  cases field with
  | tbcd tag column => exact prim small length_berTbcdDigits (by decide)
  | isdn tag column | entity tag => exact prim small (length_berTbcdNumber 33 _ _) (by decide)
  | time tag column =>
      simp only [writeField]
      split
      · exact .refl _ w
      · exact prim small (length_berHexBytes 16 _) (by decide)
  | int tag column => exact prim small (length_encodeInt _) (by decide)
  | callref tag column => exact prim small length_callrefOctets (by decide)
  | ascii tag column =>
      refine prim (n := 4096) small ?_ (by decide)
      rw [length_map]
      exact Nat.le_of_lt (short _)
  | incomingRoute tag => exact route small (short _)
  | outgoingRoute tag => exact route small (length_routeFor (short _))
  | location tag | luLocation tag =>
      refine writeLocation_appends.weaken ?_
      simp only [Field.tag] at small
      omega

theorem fillRecord_appends (c : EncCfg) (short : ShortRow r) (type : Int) :
    Appends (26 * 2 ^ 15) (berCtxInt [] 0 type) (fillRecord c r type) := by
  obtain ⟨few, small⟩ := recordFields_bounds type
  suffices run : ∀ (fields : List Field) (w : BerBuf), (∀ field ∈ fields, field.tag ≤ 232) →
      Appends (fields.length * 2 ^ 15) w (fields.foldl (writeField c r) w) from
    (run _ _ small).weaken (Nat.mul_le_mul_right _ few)
  intro fields
  induction fields with
  | nil => exact fun w _ => .refl _ w
  | cons field fields ih =>
      intro w small
      have first := writeField_appends c short w (small field mem_cons_self)
      have rest := ih (writeField c r w field) fun f member => small f (mem_cons_of_mem _ member)
      refine (first.trans rest).weaken ?_
      rw [length_cons, Nat.succ_mul, Nat.add_comm]

/-! ### The file -/

/-- The types of records the encoder knows. -/
def knownTypes : List Int := [0, 1, 6, 7, 10, 13]

/-- The element of a row. -/
def RecordOf (c : EncCfg) (row : Row) (record : Ber) : Prop :=
  ∃ tag fields, record = .node 2 tag fields ∧ (tag : Int) = recordType row ∧
    encodeAll fields = fillRecord c row (recordType row)

/-- What the octets of a file must be for some rows: they are read, in one way, as a sequence of
header, records and trailer; there is one record for each row, in order and with the tag of its
type; and the trailer ends with their number. -/
def FileOf (c : EncCfg) (rows : List Row) (octets : List UInt8) : Prop :=
  ∃ header records trailer, Ber.decode octets =
      some [.node 0 16 [.node 2 0 header, .node 2 1 records, .node 2 2 trailer]] ∧
    List.Forall₂ (RecordOf c) rows records ∧
    ∃ count, trailer.getLast? = some (.prim 2 4 count) ∧ readInt count = records.length

/-- The octets of a row are those of its element. -/
theorem rowOctets_eq (c : EncCfg) {row : Row} (known : recordType row ∈ knownTypes)
    (short : ShortRow row) :
    ∃ record, RecordOf c row record ∧ rowOctets c row = encode record ∧
      (encode record).length ≤ 2 ^ 21 := by
  have range : 0 ≤ recordType row ∧ recordType row ≤ 13 := by
    simp only [knownTypes, mem_cons, not_mem_nil, or_false] at known
    omega
  obtain ⟨tag, tag_eq⟩ : ∃ tag : Nat, (tag : Int) = recordType row :=
    ⟨(recordType row).toNat, Int.toNat_of_nonneg range.1⟩
  obtain ⟨shortest, -⟩ := @readInt_encodeInt tag (by omega)
  have first : berCtxInt [] 0 (tag : Int) = encodeAll [.prim 2 0 (encodeInt tag)] :=
    berCtxPrim_eq shortest.nonempty [] 0
  obtain ⟨fields, fields_eq, size⟩ := fillRecord_appends c short (recordType row)
  rw [← tag_eq, first, ← encodeAll_append] at fields_eq
  refine ⟨.node 2 tag (.prim 2 0 (encodeInt tag) :: fields), ⟨tag, _, rfl, tag_eq, ?_⟩, ?_, ?_⟩
  · rw [← tag_eq, fields_eq]
    rfl
  · simp only [rowOctets, if_pos range.1]
    rw [← tag_eq, Int.toNat_natCast, fields_eq,
      berWrapCtx_eq (by simp) [] tag, nil_append, encodeAll_singleton]
    rfl
  · have own := length_element_le 2 false 0 (encodeInt tag)
    have int := length_encodeInt tag
    have whole := length_element_le 2 true tag (encodeAll (.prim 2 0 (encodeInt tag) :: fields))
    simp only [encode]
    simp only [encodeAll, encode, length_append] at whole ⊢
    omega

/-- The octets of all rows are those of their elements. -/
theorem rowsOctets_eq {c : EncCfg} {rows : List Row}
    (known : ∀ row ∈ rows, recordType row ∈ knownTypes) (short : ∀ row ∈ rows, ShortRow row) :
    ∃ records, List.Forall₂ (RecordOf c) rows records ∧
      rows.flatMap (rowOctets c) = encodeAll records ∧
      (encodeAll records).length ≤ rows.length * 2 ^ 21 := by
  induction rows with
  | nil => exact ⟨[], .nil, by simp [encodeAll], by simp [encodeAll]⟩
  | cons row rows ih =>
      obtain ⟨record, of, octets, size⟩ :=
        rowOctets_eq c (known row mem_cons_self) (short row mem_cons_self)
      obtain ⟨records, all, rest, more⟩ :=
        ih (fun row member => known row (mem_cons_of_mem _ member))
          (fun row member => short row (mem_cons_of_mem _ member))
      refine ⟨record :: records, .cons of all, ?_, ?_⟩
      · rw [flatMap_cons, octets, rest, encodeAll]
      · simp only [encodeAll, length_append, length_cons]
        omega

/-- The header, which begins with a time stamp. -/
theorem headerOctets_eq (host : EncHost) (c : EncCfg) (rows : List Row) :
    ∃ header, header ≠ [] ∧ headerOctets host c rows = encodeAll header ∧
      (encodeAll header).length ≤ 256 := by
  have stamp := berCtxPrim_eq (berTimestamp_ne_nil (host.gmtime host.now) c.timezone.val) [] 0
  have own := length_element_le 2 false 0 (berTimestamp (host.gmtime host.now) c.timezone.val)
  have bytes : (berTimestamp (host.gmtime host.now) c.timezone.val).length ≤ 16 :=
    length_berHexBytes 16 _
  obtain ⟨rest, rest_eq, size⟩ := berCtxPrim_appends
    (berCtxPrim [] 0 (berTimestamp (host.gmtime host.now) c.timezone.val)) 1
    (length_berTbcdNumber 33 (fileEntity c rows) 0x91)
  refine ⟨.prim 2 0 (berTimestamp (host.gmtime host.now) c.timezone.val) :: rest,
    cons_ne_nil _ _, ?_, ?_⟩
  · rw [headerOctets, rest_eq, stamp, nil_append, ← encodeAll_append]
    rfl
  · simp only [encodeAll, encode, length_append]
    omega

/-- The trailer, which ends with the counter of rows. -/
theorem trailerOctets_eq (host : EncHost) (c : EncCfg) {rows : List Row}
    (counted : rows.length % 2 ^ 32 ≠ 0) :
    ∃ trailer count, trailerOctets host c rows = encodeAll (trailer ++ [.prim 2 4 count]) ∧
      readInt count = rows.length % 2 ^ 32 ∧
      (encodeAll (trailer ++ [.prim 2 4 count])).length ≤ 256 := by
  have number : nrows rows % 2 ^ 32 = rows.length % 2 ^ 32 := by
    simp only [nrows, toInt]
    omega
  obtain ⟨shortest, value⟩ := @readInt_encodeInt (nrows rows) (by omega)
  have stamp : ∀ t, (berTimestamp (host.gmtime t) c.timezone.val).length ≤ 16 := fun t =>
    length_berHexBytes 16 _
  obtain ⟨before, ⟨trailer, rfl, size⟩, octets⟩ :
      ∃ before, Appends 176 [] before ∧
        trailerOctets host c rows = berCtxInt before 4 (nrows rows) :=
    ⟨_, ((berCtxPrim_appends [] 0 (stamp _)).trans
      (berCtxPrim_appends _ 1 (length_berTbcdNumber 33 _ _))).trans
      (berCtxPrim_appends _ 2 (stamp _)) |>.trans (berCtxPrim_appends _ 3 (stamp _)), rfl⟩
  have own := length_element_le 2 false 4 (encodeInt (nrows rows))
  have int := length_encodeInt (nrows rows)
  refine ⟨trailer, encodeInt (nrows rows), ?_, value.trans number, ?_⟩
  · rw [octets, berCtxInt, berCtxPrim_eq shortest.nonempty, nil_append, encodeAll_append]
  · rw [encodeAll_append, encodeAll_singleton, encode, length_append]
    omega

/-- The octets of a file are those of its tree. -/
theorem fileTree_eq (host : EncHost) (c : EncCfg) {rows : List Row}
    (counted : rows.length % 2 ^ 32 ≠ 0) (known : ∀ row ∈ rows, recordType row ∈ knownTypes)
    (short : ∀ row ∈ rows, ShortRow row) :
    ∃ header records trailer count, fileOctets host c rows =
        encodeAll [.node 0 16 [.node 2 0 header, .node 2 1 records,
          .node 2 2 (trailer ++ [.prim 2 4 count])]] ∧
      List.Forall₂ (RecordOf c) rows records ∧ readInt count = rows.length % 2 ^ 32 ∧
      (fileOctets host c rows).length ≤ (rows.length + 1) * 2 ^ 23 := by
  obtain ⟨header, header_ne, header_eq, header_size⟩ := headerOctets_eq host c rows
  obtain ⟨records, all, records_eq, records_size⟩ := rowsOctets_eq known short
  obtain ⟨trailer, count, trailer_eq, value, trailer_size⟩ := trailerOctets_eq host c counted
  have records_ne : records ≠ [] := by
    rintro rfl
    exact counted (by rw [forall₂_nil_right_iff.mp all]; rfl)
  have octets : fileOctets host c rows = encodeAll [.node 0 16 [.node 2 0 header,
      .node 2 1 records, .node 2 2 (trailer ++ [.prim 2 4 count])]] := by
    simp only [fileOctets]
    rw [header_eq, records_eq, trailer_eq, berWrapCtx_eq header_ne, berWrapCtx_eq records_ne,
      berWrapCtx_eq (by simp), berLength_eq, berTag_eq]
    simp [encode, encodeAll, element]
  refine ⟨header, records, trailer, count, octets, all, value, ?_⟩
  have whole := length_element_le 0 true 16 (encodeAll [.node 2 0 header,
    .node 2 1 records, .node 2 2 (trailer ++ [.prim 2 4 count])])
  have first := length_element_le 2 true 0 (encodeAll header)
  have second := length_element_le 2 true 1 (encodeAll records)
  have third := length_element_le 2 true 2 (encodeAll (trailer ++ [.prim 2 4 count]))
  rw [octets, encodeAll_singleton, encode]
  simp only [encodeAll, encode, length_append, length_nil] at whole ⊢
  omega

/-- A file is written, and is read as a tree whose trailer holds the counter of rows. -/
theorem encodeFile_tree (host : EncHost) (c : EncCfg) {csv : Text} {rows : List Row}
    (read : encodeFileRows csv = rows) (counted : rows.length % 2 ^ 32 ≠ 0)
    (fits : rows.length < 2 ^ 40) (known : ∀ row ∈ rows, recordType row ∈ knownTypes)
    (short : ∀ row ∈ rows, ShortRow row) :
    ∃ octets header records trailer count, encodeFile host c csv = some octets ∧
      Ber.decode octets = some [.node 0 16 [.node 2 0 header, .node 2 1 records,
        .node 2 2 (trailer ++ [.prim 2 4 count])]] ∧
      List.Forall₂ (RecordOf c) rows records ∧ readInt count = rows.length % 2 ^ 32 := by
  obtain ⟨header, records, trailer, count, octets, all, value, size⟩ :=
    fileTree_eq host c counted known short
  have nonzero : nrows rows ≠ 0 := by
    simp only [nrows, toInt]
    omega
  have word : (fileOctets host c rows).length < 2 ^ 64 := by omega
  refine ⟨fileOctets host c rows, header, records, trailer, count, ?_, ?_, all, value⟩
  · simp only [encodeFile, read]
    rw [if_neg nonzero, if_neg (Nat.not_le_of_lt word)]
  · rw [octets] at word ⊢
    exact Ber.decode_encodeAll word

/-! ### The lines of a ticket file -/

/-- A ticket file: its lines, the first of which names the columns.  Where the file ends with a line
feed, the last line is empty.  It is a text: at a zero the C functions would take the line to end. -/
structure TicketFile where
  header : Text
  lines : List Text
  fit : ∀ line ∈ header :: lines, '\n' ∉ line ∧ '\x00' ∉ line ∧ line.length < lineMaxLen

namespace TicketFile

def text (file : TicketFile) : Text := ['\n'].intercalate (file.header :: file.lines)

/-- The rows of the file: its lines that are not empty, with the names of the columns. -/
def rows (file : TicketFile) : List Row :=
  ((file.lines.map (cut ['\r', '\n'])).filter (· ≠ [])).map fun line =>
    (splitCsv maxCols (cut ['\r', '\n'] file.header)).zip (splitCsv maxCols line)

/-- The encoder reads the rows of the file. -/
theorem encodeFileRows_text (file : TicketFile) : encodeFileRows file.text = file.rows := by
  obtain ⟨header, lines, fit⟩ := file
  obtain ⟨noLf, -, fits⟩ := fit header mem_cons_self
  cases lines with
  | nil =>
      by_cases empty : header = []
      · subst empty
        rfl
      · have taken := fgetsTake_all noLf (n := lineMaxLen - 1) (by omega)
        rw [text, intercalate_singleton, encodeFileRows, fgets, if_neg empty, taken]
        rfl
  | cons line lines =>
      have rest : readLines lineMaxLen (['\n'].intercalate (line :: lines)) =
          ((line :: lines).map (cut ['\r', '\n'])).filter (· ≠ []) :=
        readLines_intercalate (by decide) fun l member =>
          let fits := fit l (mem_cons_of_mem _ member)
          ⟨fits.1, fits.2.2⟩
      obtain ⟨first, tail, read, header_eq, tail_eq⟩ :=
        fgets_readLines (by decide) noLf fits (['\n'].intercalate (line :: lines))
      rw [text, intercalate_cons_cons, append_assoc, singleton_append, encodeFileRows, read]
      simp only [header_eq, tail_eq, rest]
      rfl

end TicketFile

/-- No value of a row is longer than the line it stands in. -/
theorem shortRow_of_line {names : List Text} {line : Text} (fits : line.length < lineMaxLen) :
    ShortRow (names.zip (splitCsv maxCols line)) := by
  intro key
  rcases rowGet_zip_mem names (splitCsv maxCols line) key with none | value
  · rw [none]
    decide
  · exact Nat.lt_of_le_of_lt (mem_splitCsv value).1.length_le fits

theorem TicketFile.shortRow (file : TicketFile) : ∀ row ∈ file.rows, ShortRow row := by
  intro row member
  obtain ⟨line, kept, rfl⟩ := mem_map.mp member
  obtain ⟨whole, among, rfl⟩ := mem_map.mp (mem_of_mem_filter kept)
  have fits := (file.fit whole (mem_cons_of_mem _ among)).2.2
  have cut_le : (cut ['\r', '\n'] whole).length ≤ whole.length :=
    (List.takeWhile_prefix _).length_le
  exact shortRow_of_line (Nat.lt_of_le_of_lt cut_le fits)

/-- The file `encode_file()` writes for a ticket file of one or more rows of known types is read, in
one way, as header, records and trailer, with one record for each row and their number in the
trailer. -/
theorem encodeFile_fileOf (host : EncHost) (c : EncCfg) (file : TicketFile)
    (nonempty : file.rows ≠ []) (few : file.rows.length < 2 ^ 31)
    (known : ∀ row ∈ file.rows, recordType row ∈ knownTypes) :
    ∃ octets, encodeFile host c file.text = some octets ∧ FileOf c file.rows octets := by
  have positive := length_pos_iff.mpr nonempty
  obtain ⟨octets, header, records, trailer, count, written, tree, all, value⟩ :=
    encodeFile_tree host c file.encodeFileRows_text (by omega) (by omega) known file.shortRow
  refine ⟨octets, written, header, records, trailer ++ [.prim 2 4 count], tree, all, count,
    getLast?_concat, ?_⟩
  rw [value, ← all.length_eq]
  omega

/-- A call and a short message, the last line without a line feed. -/
def smallFile : TicketFile where
  header := ascii "record_type,served_imsi"
  lines := [ascii "0,901700000000001", [], ascii "6,901700000000002"]
  fit := by decide

/-- The first second of 1970; no row has a time. -/
def epochEncoder : EncHost where
  gmtime _ := { year := 70, mon := 0, mday := 1, hour := 0, min := 0, sec := 0, yday := 0 }
  timegm _ := 0
  now := 0

theorem encodeFile_fileOf_smallFile : ∃ octets,
    encodeFile epochEncoder {} smallFile.text = some octets ∧ FileOf {} smallFile.rows octets :=
  encodeFile_fileOf epochEncoder {} smallFile (by decide) (by decide) (by decide)

/-- More rows than an `int` can count. -/
def largeFile : TicketFile where
  header := ascii "record_type"
  lines := List.replicate (2 ^ 32 + 1) (ascii "0")
  fit := by
    intro line member
    rcases mem_cons.mp member with rfl | member
    · decide
    · rw [eq_of_mem_replicate member]
      decide

theorem largeFile_rows :
    largeFile.rows = List.replicate (2 ^ 32 + 1) [(ascii "record_type", ascii "0")] := by
  have row : (splitCsv maxCols (cut ['\r', '\n'] (ascii "record_type"))).zip
      (splitCsv maxCols (cut ['\r', '\n'] (ascii "0"))) =
        [(ascii "record_type", ascii "0")] := by decide
  simp only [TicketFile.rows, largeFile, map_replicate]
  rw [filter_replicate_of_pos (by decide), map_replicate, row]

/-- With `2 ^ 32 + 1` rows, and a counter that wraps around, the trailer says that there is one
record. -/
theorem rows_not_counted : largeFile.rows ≠ [] ∧
    (∀ row ∈ largeFile.rows, recordType row ∈ knownTypes) ∧
    ∃ octets, encodeFile epochEncoder {} largeFile.text = some octets ∧
      ¬ FileOf {} largeFile.rows octets := by
  have known : ∀ row ∈ largeFile.rows, recordType row ∈ knownTypes := by
    intro row member
    rw [largeFile_rows] at member
    rw [eq_of_mem_replicate member]
    decide
  have length : largeFile.rows.length = 2 ^ 32 + 1 := by
    rw [largeFile_rows, length_replicate]
  obtain ⟨octets, header, records, trailer, count, written, tree, all, value⟩ :=
    encodeFile_tree epochEncoder {} largeFile.encodeFileRows_text (by omega) (by omega) known
      largeFile.shortRow
  refine ⟨fun empty => ?_, known, octets, written, ?_⟩
  · rw [empty] at length
    exact absurd length (by decide)
  · rintro ⟨header', records', trailer', tree', all', count', last, value'⟩
    rw [tree] at tree'
    simp only [Option.some.injEq, cons.injEq, Ber.node.injEq, true_and, and_true] at tree'
    obtain ⟨-, rfl, rfl⟩ := tree'
    rw [getLast?_concat, Option.some.injEq, Ber.prim.injEq] at last
    obtain ⟨-, -, rfl⟩ := last
    rw [value, ← all.length_eq, length] at value'
    omega

/-! ### The files of the MSC -/

theorem RowData.Readable.shortRow {row : RowData} (readable : row.Readable) :
    ShortRow (expectedRow row) := by
  have short : ShortRow ((headerColumns.map Column.name).zip (splitCsv maxCols row.line)) :=
    shortRow_of_line row.line_length
  rwa [readable.line_eq, splitCsv_columns readable.plain] at short

/-- The encoder reads the type that the MSC has written. -/
theorem recordType_expectedRow {row : RowData} (known : row.recordType ∈ knownTypes) :
    recordType (expectedRow row) = row.recordType := by
  have read : recordType (expectedRow row) = _ :=
    congrArg (fun text => if text = [] then 0 else ((strtol10 text).map toInt).getD 0)
      (rowGet_expectedRow row .recordType)
  rw [read, RowData.given]
  revert known
  generalize row.recordType = type
  revert type
  decide

end OsmoMsc.Cdr
