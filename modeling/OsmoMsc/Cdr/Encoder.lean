/-
Module: OsmoMsc.Cdr.Encoder
Purpose: How the encoder osmo-msc-cdrenc turns the rows of a ticket file into a file of BER
  elements: the writer of huawei_ber.c, `fill_record()` with the fields of each type of record as a
  table, and `encode_file()` (cdrenc_main.c).  A buffer is the list of its octets.
Trusted boundary: `gmtime_r()` and `timegm()` are parameters; a signed counter wraps around;
  `ber_grow()` aborts when a buffer would not fit into the address space
Main exports: berTag, berLength, berCtxPrim, berCtxInt, encodeInt, berTbcdDigits, berTimestamp,
  Field, fillRecord, fileOctets, encodeFile
-/
import OsmoMsc.Cdr.ReadBack
import OsmoMsc.Library.Ber

namespace OsmoMsc.Cdr

open Library Library.CText

/-! ### The writer -/

/-- `struct ber_buf` -/
abbrev BerBuf := List UInt8

instance neZero_four : NeZero 4 := ⟨by decide⟩

/-- `while (tag > 0)`: the octets of a tag after the last one, pushed in this order. -/
def tagStack : Nat → Nat → List UInt8
  | 0, _ => []
  | fuel + 1, tag => if tag = 0 then [] else .ofNat (tag % 128 + 128) :: tagStack fuel (tag / 128)

/-- `ber_tag()`. -/
def berTag (b : BerBuf) (tagClass : Fin 4) (constructed : Bool) (tag : Nat) : BerBuf :=
  let first := tagClass.val * 64 + if constructed then 32 else 0
  if tag < 31 then b ++ [.ofNat (first + tag)]
  else b ++ .ofNat (first + 0x1f) :: (.ofNat (tag % 128) :: tagStack tag (tag / 128)).reverse

/-- `while (t)`: the octets of a number, pushed in this order. -/
def octetStack : Nat → Nat → List UInt8
  | 0, _ => []
  | fuel + 1, t => if t = 0 then [] else .ofNat (t % 256) :: octetStack fuel (t / 256)

/-- `ber_length()`. -/
def berLength (b : BerBuf) (len : Nat) : BerBuf :=
  if len < 128 then b ++ [.ofNat len]
  else
    let tmp := octetStack len len
    b ++ .ofNat (128 + tmp.length) :: tmp.reverse

/-- `ber_ctx_prim()`. -/
def berCtxPrim (b : BerBuf) (tag : Nat) (data : List UInt8) : BerBuf :=
  if data = [] then b else berLength (berTag b 2 false tag) data.length ++ data

/-- `encode_int()`, of an `int`. -/
def encodeInt (value : Int) : List UInt8 :=
  if value = 0 then [0]
  else
    let u := (value % 2 ^ 32).toNat
    let tmp := octetStack 4 u
    if 128 ≤ (tmp.getLastD 0).toNat then 0 :: tmp.reverse else tmp.reverse

/-- `ber_ctx_int()`. -/
def berCtxInt (b : BerBuf) (tag : Nat) (value : Int) : BerBuf := berCtxPrim b tag (encodeInt value)

/-- `ber_wrap_ctx()`. -/
def berWrapCtx (outer : BerBuf) (tag : Nat) (inner : BerBuf) : BerBuf :=
  if inner = [] then outer else berLength (berTag outer 2 true tag) inner.length ++ inner

/-! ### The octets of values -/

/-- `nibble()`. -/
def nibble (c : Char) : Nat :=
  if '0' ≤ c ∧ c ≤ '9' then c.toNat - '0'.toNat
  else if 'a' ≤ c ∧ c ≤ 'f' then c.toNat - 'a'.toNat + 10
  else if 'A' ≤ c ∧ c ≤ 'F' then c.toNat - 'A'.toNat + 10
  else 15

/-- The octets of pairs of nibbles, the first one high or low. -/
def pairs (octet : Nat → Nat → Nat) : Text → List UInt8
  | a :: b :: s => .ofNat (octet (nibble a) (nibble b)) :: pairs octet s
  | _ => []

/-- The digit `ber_tbcd_digits()` keeps for a character. -/
def tbcdDigit (c : Char) : Option Char :=
  if c.isDigit then some c
  else if c = '*' then some 'a'
  else if c = '#' then some 'b'
  else none

/-- `ber_tbcd_digits()` into a buffer of `outl` octets. -/
def berTbcdDigits (outl : Nat) (digits : Text) : List UInt8 :=
  let hex := (digits.filterMap tbcdDigit).take 63
  let hex := if hex.length % 2 = 1 then hex ++ ['f'] else hex
  if outl < hex.length / 2 then [] else pairs (fun a b => b * 16 + a) hex

/-- `ber_tbcd_number()`. -/
def berTbcdNumber (outl : Nat) (digits : Text) (tonNpi : UInt8) : List UInt8 :=
  let tmp := berTbcdDigits 32 digits
  if tmp = [] ∨ outl < tmp.length + 1 then [] else tonNpi :: tmp

/-- `ber_hex_bytes()`. -/
def berHexBytes (outl : Nat) (hex : Text) : List UInt8 :=
  if hex.length % 2 = 1 ∧ 128 < hex.length + 2 then []
  else
    let hex := if hex.length % 2 = 1 then '0' :: hex else hex
    if outl < hex.length / 2 then [] else pairs (fun a b => a * 16 + b) hex

/-- `%<width>d` of `sscanf()`. -/
def scanD (width : Nat) (s : Text) : Option (Int × Text) :=
  let s := s.dropWhile isSpace
  let (negative, t) := scanSign (s.take width)
  let digits := t.takeWhile Char.isDigit
  if digits = [] then none
  else
    let n : Int := Nat.ofDigitChars 10 digits 0
    some (if negative then -n else n, s.drop ((s.take width).length - t.length + digits.length))

/-- `ber_parse_csv_time()`. -/
def berParseCsvTime (s : Text) : Option Tm := do
  guard (14 ≤ s.length)
  let (y, s) ← scanD 4 s
  let (mo, s) ← scanD 2 s
  let (d, s) ← scanD 2 s
  let (h, s) ← scanD 2 s
  let (mi, s) ← scanD 2 s
  let (se, _) ← scanD 2 s
  some { year := y - 1900, mon := mo - 1, mday := d, hour := h, min := mi, sec := se, yday := 0 }

/-- `ber_timestamp()` into a buffer of 16 octets. -/
def berTimestamp (utc : Tm) (tzHex : Text) : List UInt8 :=
  berHexBytes 16 (snprintf 32
    (padText 2 ((utc.year + 1900).tmod 100) ++ padText 2 (utc.mon + 1) ++ padText 2 utc.mday ++
      padText 2 utc.hour ++ padText 2 utc.min ++ padText 2 utc.sec ++
      if tzHex = [] then ascii "2b0000" else tzHex))

/-- `strtol(s, &end, 10)`; `none` if no digit is found. -/
def strtol10 (s : Text) : Option Int :=
  let (negative, t) := scanSign (s.dropWhile isSpace)
  let digits := t.takeWhile Char.isDigit
  if digits = [] then none
  else
    let n : Int := Nat.ofDigitChars 10 digits 0
    some (if negative then max (-n) (-2 ^ 63) else min n (2 ^ 63 - 1))

/-- A `long` is stored in an `int`. -/
def toInt (v : Int) : Int := (v + 2 ^ 31) % 2 ^ 32 - 2 ^ 31

/-- `row_int()`. -/
def rowInt (r : Row) (key : Text) (default : Int) : Int :=
  if rowGet r key = [] then default
  else ((strtol10 (rowGet r key)).map toInt).getD default

/-- `strtoul(s, &end, base)`: the number, and what follows it unless nothing is found. -/
def strtoulBase (base : Nat) (isBaseDigit : Char → Bool) (s : Text) : Option (Nat × Text) :=
  let (negative, t) := scanSign (s.dropWhile isSpace)
  let t :=
    match t with
    | '0' :: x :: d :: t =>
        if base = 16 ∧ (x = 'x' ∨ x = 'X') ∧ isBaseDigit d = true then d :: t else '0' :: x :: d :: t
    | t => t
  let digits := t.takeWhile isBaseDigit
  if digits = [] then none
  else
    let n := digits.foldl (fun n c => n * base + nibble c) 0
    some (if 2 ^ 64 ≤ n then 2 ^ 64 - 1 else if negative then (2 ^ 64 - n) % 2 ^ 64 else n,
      t.dropWhile isBaseDigit)

def isHexDigit (c : Char) : Bool :=
  c.isDigit || ('a' ≤ c && c ≤ 'f') || ('A' ≤ c && c ≤ 'F')

/-- The octets of `ber_ctx_callref()`. -/
def callrefOctets (hexOrNum : Text) : List UInt8 :=
  let s :=
    match hexOrNum with
    | '0' :: 'x' :: s | '0' :: 'X' :: s => s
    | s => s
  let v : Option Nat :=
    match strtoulBase 16 isHexDigit s with
    | some (v, []) => some v
    | _ => (strtoulBase 10 Char.isDigit s).map Prod.fst
  if hexOrNum = [] then []
  else (v.map fun v => berHexBytes 16 (snprintf 32 (hexText v))).getD []

/-! ### Records -/

/-- What `encode_file()` reads of `struct cfg`. -/
structure EncCfg where
  entity : CArr 32 := ⟨ascii "0000", by decide⟩
  timezone : CArr 16 := ⟨ascii "2b0000", by decide⟩
  routes : List (CArr 32 × CArr 32) := []

/-- What the C library computes, and the time. -/
structure EncHost where
  gmtime : Int → Tm
  timegm : Tm → Int
  now : Int

variable (c : EncCfg) (host : EncHost) (r : Row)

/-- The route with the longest prefix so far. -/
def routeStep (number : Text) (best : Option (Nat × Text)) (route : CArr 32 × CArr 32) :
    Option (Nat × Text) :=
  let pl := route.1.val.length
  if route.1.val.isPrefixOf number = true ∧ ∀ b ∈ best, b.1 < pl then some (pl, route.2.val)
  else best

/-- `route_for()`. -/
def routeFor (number fallback : Text) : Text :=
  match c.routes.foldl (routeStep number) none with
  | some (_, name) => if name = [] then fallback else name
  | none => fallback

/-- `digit_entity()`. -/
def digitEntity : Text :=
  if c.entity.val ≠ [] ∧ c.entity.val.all Char.isDigit then c.entity.val
  else
    let digits := ((rowGet r (ascii "recording_entity")).filter Char.isDigit).take 31
    if digits = [] then ascii "0000" else digits

/-- A call of a function that writes a field: its tag, and the column it takes. -/
inductive Field where
  | tbcd (tag : Nat) (column : String)
  | isdn (tag : Nat) (column : String)
  | entity (tag : Nat)
  | time (tag : Nat) (column : String)
  | int (tag : Nat) (column : String)
  | callref (tag : Nat) (column : String)
  | ascii (tag : Nat) (column : String)
  | incomingRoute (tag : Nat)
  | outgoingRoute (tag : Nat)
  | location (tag : Nat)
  | luLocation (tag : Nat)
deriving DecidableEq, Repr

/-- `write_route()`. -/
def writeRoute (w : BerBuf) (tag : Nat) (name : Text) : BerBuf :=
  if name = [] then w
  else berWrapCtx w tag (berCtxPrim [] 1 (name.map fun c => .ofNat c.toNat))

/-- `%04x` of the low 16 bits. -/
def hex4 (n : Int) : Text := (hexText (n % 2 ^ 16).toNat).leftpad 4 '0'

/-- `write_location()` and `write_lu_location()`, which use different tags inside. -/
def writeLocation (lacTag ciTag : Nat) (w : BerBuf) (tag : Nat) (r : Row) : BerBuf :=
  let lac := rowInt r (ascii "lac") 0
  let ci := rowInt r (ascii "ci") 0
  if lac = 0 ∧ ci = 0 then w
  else
    berWrapCtx w tag
      (berCtxPrim (berCtxPrim [] lacTag (berHexBytes 4 (hex4 lac))) ciTag
        (berHexBytes 4 (hex4 ci)))

/-- One field of a record. -/
def writeField (w : BerBuf) : Field → BerBuf
  | .tbcd tag column => berCtxPrim w tag (berTbcdDigits 32 (rowGet r (ascii column)))
  | .isdn tag column => berCtxPrim w tag (berTbcdNumber 33 (rowGet r (ascii column)) 0x91)
  | .entity tag => berCtxPrim w tag (berTbcdNumber 33 (digitEntity c r) 0x91)
  | .time tag column =>
      match berParseCsvTime (rowGet r (ascii column)) with
      | none => w
      | some tm => berCtxPrim w tag (berTimestamp tm c.timezone.val)
  | .int tag column => berCtxInt w tag (rowInt r (ascii column) 0)
  | .callref tag column => berCtxPrim w tag (callrefOctets (rowGet r (ascii column)))
  | .ascii tag column =>
      berCtxPrim w tag ((rowGet r (CText.ascii column)).map fun c => .ofNat c.toNat)
  | .incomingRoute tag => writeRoute w tag (rowGet r (ascii "incoming_route"))
  | .outgoingRoute tag =>
      writeRoute w tag
        (routeFor c (rowGet r (ascii "called_number")) (rowGet r (ascii "outgoing_route")))
  | .location tag => writeLocation 0 1 w tag r
  | .luLocation tag => writeLocation 2 3 w tag r

/-- The fields of a type of record, after the type itself. -/
def recordFields (type : Int) : List Field :=
  match type with
  | 0 =>
      [.tbcd 1 "served_imsi", .tbcd 2 "served_imei", .isdn 3 "served_msisdn",
       .isdn 4 "calling_number", .isdn 5 "called_number", .isdn 6 "translated_number",
       .isdn 7 "connected_number", .entity 9, .incomingRoute 10, .outgoingRoute 11, .location 12,
       .time 22 "seizure_time", .time 23 "answer_time", .time 24 "release_time",
       .int 25 "call_duration", .int 30 "cause_for_term", .callref 32 "call_reference",
       .callref 38 "network_call_reference", .entity 39, .int 61 "system_type",
       .ascii 188 "global_area_id", .tbcd 192 "first_mccmnc", .tbcd 194 "last_mccmnc",
       .time 201 "setup_time", .time 202 "alerting_time", .int 232 "record_number"]
  | 1 =>
      [.tbcd 1 "served_imsi", .tbcd 2 "served_imei", .isdn 3 "served_msisdn",
       .isdn 4 "calling_number", .isdn 5 "connected_number", .entity 6, .incomingRoute 7,
       .outgoingRoute 8, .location 9, .time 19 "seizure_time", .time 20 "answer_time",
       .time 21 "release_time", .int 22 "call_duration", .int 27 "cause_for_term",
       .callref 29 "call_reference", .callref 33 "network_call_reference", .entity 34,
       .int 46 "system_type", .ascii 188 "global_area_id", .tbcd 192 "first_mccmnc",
       .tbcd 194 "last_mccmnc", .time 203 "setup_time", .time 204 "alerting_time",
       .isdn 205 "called_number", .int 232 "record_number"]
  | 6 =>
      [.tbcd 1 "served_imsi", .tbcd 2 "served_imei", .isdn 3 "served_msisdn",
       .isdn 5 "service_centre", .entity 6, .location 7, .time 9 "origination_time",
       .isdn 12 "destination_number", .int 14 "system_type", .ascii 188 "global_area_id",
       .tbcd 192 "first_mccmnc", .callref 201 "call_reference", .int 232 "record_number"]
  | 7 =>
      [.isdn 1 "service_centre", .tbcd 2 "served_imsi", .tbcd 3 "served_imei",
       .isdn 4 "served_msisdn", .entity 6, .location 7, .time 8 "delivery_time",
       .int 11 "system_type", .ascii 188 "global_area_id", .tbcd 192 "first_mccmnc",
       .isdn 201 "origination", .callref 202 "call_reference", .int 232 "record_number"]
  | 10 =>
      [.tbcd 1 "served_imsi", .tbcd 2 "served_imei", .isdn 3 "served_msisdn", .entity 5,
       .location 6, .time 10 "seizure_time", .callref 13 "call_reference",
       .int 232 "record_number"]
  | 13 =>
      [.tbcd 1 "served_imsi", .isdn 2 "served_msisdn", .entity 3, .luLocation 5,
       .time 7 "seizure_time", .callref 12 "call_reference", .int 232 "record_number"]
  | _ => []

/-- `fill_record()`. -/
def fillRecord (type : Int) : BerBuf :=
  (recordFields type).foldl (writeField c r) (berCtxInt [] 0 type)

/-- The type `encode_file()` reads from a row. -/
def recordType : Int := rowInt r (ascii "record_type") 0

/-- The element of a row in the buffer `recs`. -/
def rowOctets : BerBuf :=
  let type := recordType r
  let body := fillRecord c r type
  if 0 ≤ type then berWrapCtx [] type.toNat body
  -- `ber_tag()` takes a negative tag for a short one and puts its low bits into the first octet.
  else berLength [0xa0 ||| .ofInt type] body.length ++ body

/-! ### Files -/

/-- `note_time()`: the first and the last time so far. -/
def noteTime (isFirst : Bool) (s : Text) (times : Int × Int) : Int × Int :=
  match berParseCsvTime s with
  | none => times
  | some tm =>
      let t := host.timegm tm
      if t = -1 then times
      else if isFirst then (if times.1 = 0 ∨ t < times.1 then t else times.1, times.2)
      else (times.1, if times.2 < t then t else times.2)

/-- The times that a row adds. -/
def noteRow (times : Int × Int) (r : Row) : Int × Int :=
  let times := noteTime host true (rowGet r (ascii "seizure_time")) times
  let times := noteTime host false (rowGet r (ascii "release_time")) times
  let times := noteTime host true (rowGet r (ascii "origination_time")) times
  noteTime host false (rowGet r (ascii "delivery_time")) times

/-- `int nrows`, taken to wrap around -/
def nrows (rows : List Row) : Int := toInt rows.length

/-- The entity of the first row, or of the last row that is counted as number 0. -/
def fileEntity (rows : List Row) : Text :=
  (((rows.zipIdx.filter fun (_, i) => toInt i = 0).getLast?).map
    fun (r, _) => digitEntity c r).getD (ascii "0000")

def headerOctets (c : EncCfg) (rows : List Row) : BerBuf :=
  let header := berCtxPrim [] 0 (berTimestamp (host.gmtime host.now) c.timezone.val)
  berCtxPrim header 1 (berTbcdNumber 33 (fileEntity c rows) 0x91)

def trailerOctets (c : EncCfg) (rows : List Row) : BerBuf :=
  let times := rows.foldl (noteRow host) (0, 0)
  let first := if times.1 = 0 then host.now else times.1
  let last := if times.2 = 0 then first else times.2
  let stamp := fun t => berTimestamp (host.gmtime t) c.timezone.val
  let trailer := berCtxPrim [] 0 (stamp host.now)
  let trailer := berCtxPrim trailer 1 (berTbcdNumber 33 (fileEntity c rows) 0x91)
  let trailer := berCtxPrim trailer 2 (stamp first)
  let trailer := berCtxPrim trailer 3 (stamp last)
  berCtxInt trailer 4 (nrows rows)

/-- The octets `encode_file()` writes for some rows. -/
def fileOctets (c : EncCfg) (rows : List Row) : BerBuf :=
  let body := berWrapCtx [] 0 (headerOctets host c rows)
  let body := berWrapCtx body 1 (rows.flatMap (rowOctets c))
  let body := berWrapCtx body 2 (trailerOctets host c rows)
  berLength (berTag [] 0 true 16) body.length ++ body

/-- `encode_file()`: the file that is written, unless there are no rows or memory runs out. -/
def encodeFile (c : EncCfg) (csv : Text) : Option (List UInt8) :=
  let rows := encodeFileRows csv
  if nrows rows = 0 then none
  else if 2 ^ 64 ≤ (fileOctets host c rows).length then none
  else some (fileOctets host c rows)

end OsmoMsc.Cdr
