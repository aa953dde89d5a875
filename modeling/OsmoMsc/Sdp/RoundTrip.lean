/-
Module: OsmoMsc.Sdp.RoundTrip
Purpose: The parser of SDP texts undoes the composer: a message with an IPv4 address and codecs of
  distinct payload types comes back as it was.  Each parser is shown on its line followed by an
  arbitrary rest; the line `m=` lists the codecs, which leaves an entry for each, and the codec's
  own lines then complete it.
Trusted boundary: none
Main exports: SdpMsg.Regular, sdpParseRtpmap_eq, sdpMsgFromSdpStr_toSdpStrBuf
-/
import OsmoMsc.Sdp.Msg

namespace OsmoMsc.Sdp

open Library Library.CText List

variable {sdp : SdpMsg} {codec : AudioCodec} {ac : AudioCodecs} {s body rest : Text}

/-! ### Line by line -/

variable {sdp' : SdpMsg}

section Lines

variable {inetPton6 : Text → Bool} {done todo : List AudioCodec} {i : Nat} {attrib : Char}

/-- A turn for each character is enough. -/
theorem sdpMsgFromSdpStrLoop_fuel {fuel fuel' : Nat} (enough : s.length ≤ fuel)
    (enough' : s.length ≤ fuel') :
    sdpMsgFromSdpStrLoop inetPton6 fuel sdp s = sdpMsgFromSdpStrLoop inetPton6 fuel' sdp s := by
  induction fuel generalizing fuel' sdp s with
  | zero =>
      obtain rfl : s = [] := length_eq_zero_iff.mp (Nat.le_zero.mp enough)
      cases fuel' <;> rfl
  | succ fuel ih =>
      cases s with
      | nil => cases fuel' <;> rfl
      | cons c rest =>
          obtain ⟨fuel', rfl⟩ : ∃ k, fuel' = k + 1 :=
            Nat.exists_eq_succ_of_ne_zero (Nat.ne_of_gt (Nat.lt_of_lt_of_le (Nat.succ_pos _) enough'))
          simp only [length_cons] at enough enough'
          have nextLine (sdp : SdpMsg) {p lineEnd : Text} (short : p.length ≤ rest.length + 1)
              (found : strstr crlf p = some lineEnd) :
              sdpMsgFromSdpStrLoop inetPton6 fuel sdp lineEnd.tail =
                sdpMsgFromSdpStrLoop inetPton6 fuel' sdp lineEnd.tail := by
            have shorter := strstr_length_le found
            have tail := length_tail (l := lineEnd)
            exact ih (by omega) (by omega)
          simp only [sdpMsgFromSdpStrLoop]
          by_cases lineEnd : c = '\r' ∨ c = '\n'
          · rw [if_pos lineEnd, if_pos lineEnd]
            exact ih (by omega) (by omega)
          · rw [if_neg lineEnd, if_neg lineEnd]
            split
            · rename_i src
              simp only [length_cons] at nextLine
              split
              · cases found : strstr crlf src with
                | none => rfl
                | some lineEnd => exact nextLine _ (by omega) found
              · rfl
            · cases found : strstr crlf (c :: rest) with
              | none => rfl
              | some lineEnd => exact nextLine sdp (by simp) found

/-- The loop from a position on, with turns enough. -/
def parseFrom (inetPton6 : Text → Bool) (sdp : SdpMsg) (s : Text) : SdpMsg × Rc :=
  sdpMsgFromSdpStrLoop inetPton6 s.length sdp s

/-- A line that is parsed without error. -/
theorem parseFrom_line (printable : attrib ≠ '\r' ∧ attrib ≠ '\n') (noCr : '\r' ∉ body)
    (parsed : sdpParseLine inetPton6 attrib sdp (body ++ crlf ++ rest) = (sdp', .ok)) :
    parseFrom inetPton6 sdp (attrib :: '=' :: body ++ crlf ++ rest) =
      parseFrom inetPton6 sdp' rest := by
  have found : strstr crlf (body ++ crlf ++ rest) = some (crlf ++ rest) := by
    rw [append_assoc]
    exact strstr_append noCr rest
  have length : (attrib :: '=' :: body ++ crlf ++ rest).length =
      (body.length + rest.length + 2) + 2 := by
    simp [crlf]
    omega
  rw [parseFrom, length]
  have turn : sdpMsgFromSdpStrLoop inetPton6 (body.length + rest.length + 2 + 2) sdp
      (attrib :: '=' :: body ++ crlf ++ rest) =
      sdpMsgFromSdpStrLoop inetPton6 (body.length + rest.length + 3) sdp' ('\n' :: rest) := by
    simp only [cons_append, sdpMsgFromSdpStrLoop, if_neg (not_or.mpr printable), parsed, found]
    rfl
  rw [turn]
  simp only [sdpMsgFromSdpStrLoop, or_true, if_true]
  exact sdpMsgFromSdpStrLoop_fuel (by omega) (Nat.le_refl _)

/-- A line that is not accepted ends the parser. -/
theorem parseFrom_failed (printable : attrib ≠ '\r' ∧ attrib ≠ '\n')
    (failed : (sdpParseLine inetPton6 attrib sdp (body ++ crlf ++ rest)).2 ≠ .ok) :
    (parseFrom inetPton6 sdp (attrib :: '=' :: body ++ crlf ++ rest)).2 ≠ .ok := by
  have length : (attrib :: '=' :: body ++ crlf ++ rest).length =
      (body ++ crlf ++ rest).length + 1 + 1 := rfl
  rw [parseFrom, length]
  simp only [cons_append, sdpMsgFromSdpStrLoop, if_neg (not_or.mpr printable)]
  split
  · rename_i parsed
    exact absurd (congrArg Prod.snd parsed) failed
  · exact failed

theorem sdpParseLine_connection (sdp : SdpMsg) (src : Text) :
    sdpParseLine inetPton6 'c' sdp src = sdpParseConnectionInfo inetPton6 sdp src := by
  simp [sdpParseLine]

theorem sdpParseLine_media (sdp : SdpMsg) (src : Text) :
    sdpParseLine inetPton6 'm' sdp src = sdpParseMediaDescription sdp src := by
  simp [sdpParseLine]

/-- A line the parser ignores. -/
theorem parseFrom_ignored (printable : attrib ≠ '\r' ∧ attrib ≠ '\n')
    (other : attrib ≠ 'a' ∧ attrib ≠ 'm' ∧ attrib ≠ 'c') (noCr : '\r' ∉ body) (rest : Text)
    (sdp : SdpMsg) :
    parseFrom inetPton6 sdp (attrib :: '=' :: body ++ crlf ++ rest) =
      parseFrom inetPton6 sdp rest := by
  apply parseFrom_line printable noCr
  simp [sdpParseLine, other]

end Lines

/-! ### Where searches stop -/

theorem sdpMsgLineEnd_eq (noCr : '\r' ∉ body) (rest : Text) :
    sdpMsgLineEnd (body ++ crlf ++ rest) = crlf ++ rest := by
  have found : strchr '\r' (body ++ crlf ++ rest) = some (crlf ++ rest) := by
    rw [append_assoc, strchr_append noCr]
    exact strchr_cons_self '\r' ('\n' :: rest)
  rw [sdpMsgLineEnd, found]
  rfl

/-- A pointer before the end of the line it is on. -/
theorem before_append {piece : Text} (nonempty : piece ≠ []) (lineEnd : Text) :
    before (piece ++ lineEnd) lineEnd = true := by
  have positive := length_pos_iff.mpr nonempty
  simp only [before, length_append, decide_eq_true_eq]
  omega

theorem isPrefixOf_append (start tail : Text) : start.isPrefixOf (start ++ tail) = true :=
  isPrefixOf_iff_prefix.mpr ⟨tail, rfl⟩

theorem notMem_dText {c : Char} (other : c ∉ numerals) (x : UInt32) : c ∉ dText x :=
  fun member => other (mem_numerals_of_mem_decText member)

theorem dText_ne_nil (x : UInt32) : dText x ≠ [] := by
  by_cases small : x.toNat < 2 ^ 31
  · rw [dText_of_lt small]
    exact Nat.toDigits_ne_nil
  · rw [dText_of_ge (Nat.le_of_not_lt small)]
    exact cons_ne_nil _ _

theorem noDigit_cons {c : Char} (other : c.isDigit = false) (s : Text) : NoDigit (c :: s) := by
  intro d first
  obtain rfl : c = d := by simpa using first
  exact other

/-- A number does not begin with a space. -/
theorem skipSpaces_dText (x : UInt32) (rest : Text) :
    skipSpaces (' ' :: (dText x ++ rest)) = dText x ++ rest := by
  obtain ⟨c, digits, split⟩ := exists_cons_of_ne_nil (dText_ne_nil x)
  have noSpace : c ≠ ' ' := by
    rintro rfl
    exact notMem_dText (by decide) x (split ▸ mem_cons_self)
  simp [skipSpaces, split, noSpace]

/-! ### The entry for a payload type -/

/-- The payload types that have an entry. -/
def AudioCodecs.types (ac : AudioCodecs) : List UInt32 := ac.codec.map (·.payloadType)

/-- A change of an entry that keeps its payload type. -/
theorem types_modify (ac : AudioCodecs) (i : Nat) {f : AudioCodec → AudioCodec}
    (keeps : ∀ codec, (f codec).payloadType = codec.payloadType) :
    (ac.modify i f).types = ac.types := by
  change (ac.codec.modify i f).map (·.payloadType) = ac.codec.map (·.payloadType)
  refine ext_getElem? fun j => ?_
  simp only [getElem?_map, getElem?_modify]
  split
  · cases ac.codec[j]? <;> simp [keeps]
  · cases ac.codec[j]? <;> rfl

variable {payloadType : UInt32}

/-- The entry an existing payload type has. -/
theorem byPayloadType_found (found : ac.codec.findIdx? (·.payloadType = payloadType) = some i) :
    sdpAudioCodecsByPayloadType ac payloadType = some (ac, i) := by
  simp [sdpAudioCodecsByPayloadType, found]

/-- It is found by its payload type only. -/
theorem findIdx_types (ac : AudioCodecs) :
    ac.codec.findIdx? (·.payloadType = payloadType) = ac.types.findIdx? (· = payloadType) := by
  rw [AudioCodecs.types, findIdx?_map]
  rfl

/-- A new payload type gets an entry at the end. -/
theorem byPayloadType_new (fresh : ∀ other ∈ ac.codec, other.payloadType ≠ payloadType)
    (room : ac.codec.length < codecsMax) :
    ∃ ac', sdpAudioCodecsByPayloadType ac payloadType = some (ac', ac.codec.length) ∧
      ac'.codec = ac.codec ++ [{ payloadType, rate := 8000 }] := by
  have absent : ac.codec.findIdx? (·.payloadType = payloadType) = none :=
    findIdx?_eq_none_iff.mpr (by simpa using fresh)
  simp [sdpAudioCodecsByPayloadType, absent, room, AudioCodecs.add]

theorem modify_codec (split : ac.codec = done ++ codec :: todo) (f : AudioCodec → AudioCodec) :
    (ac.modify done.length f).codec = done ++ f codec :: todo := by
  change ac.codec.modify done.length f = done ++ f codec :: todo
  rw [split, modify_eq_take_drop]
  simp

/-! ### Regular messages -/

/-- The texts of a codec end where its lines do. -/
structure AudioCodec.OnLine (codec : AudioCodec) : Prop where
  name : '\r' ∉ codec.subtypeName.val
  fmtp : '\r' ∉ codec.fmtp.val

/-- What a codec needs for its lines to be read back. -/
structure AudioCodec.Regular (codec : AudioCodec) : Prop where
  payloadType : codec.payloadType.toNat < 2 ^ 31
  named : codec.subtypeName.val ≠ []
  name : ∀ c ∈ codec.subtypeName.val, c ∉ ['/', '\r', '\n']
  noLeadingSpace : ∀ c ∈ codec.subtypeName.val.head?, isSpace c = false
  rate : 0 < codec.rate
  fmtp : ∀ c ∈ codec.fmtp.val, c ∉ ['\r', '\n']

theorem AudioCodec.Regular.onLine (regular : codec.Regular) : codec.OnLine where
  name := fun member => regular.name '\r' member (by decide)
  fmtp := fun member => regular.fmtp '\r' member (by decide)

/-- What a message needs. -/
structure SdpMsg.Regular (sdp : SdpMsg) : Prop where
  af : sdp.rtp.af = .inet
  ipv4 : inetPton4 sdp.rtp.ip.val = true
  nonempty : sdp.audioCodecs.codec ≠ []
  distinct : (sdp.audioCodecs.codec.map (·.payloadType)).Nodup
  codecs : ∀ codec ∈ sdp.audioCodecs.codec, codec.Regular
  ptime : 0 < sdp.ptime

/-! ### The attributes -/

/-- The text of an attribute about the payload type of a codec. -/
def attribText (start : Text) (codec : AudioCodec) (value : Text) : Text :=
  start ++ dText codec.payloadType ++ ' ' :: value

/-- The text of an attribute `rtpmap`. -/
def rtpmapText (codec : AudioCodec) : Text :=
  attribText (ascii "rtpmap:") codec (codec.subtypeName.val ++ '/' :: dText codec.rate)

/-- The text of an attribute `fmtp`. -/
def fmtpText (codec : AudioCodec) : Text := attribText (ascii "fmtp:") codec codec.fmtp.val

theorem noCr_attribText {start value : Text} (noStart : '\r' ∉ start) (noValue : '\r' ∉ value)
    (codec : AudioCodec) : '\r' ∉ attribText start codec value := by
  have number := notMem_dText (show '\r' ∉ numerals by decide)
  simp [attribText, noStart, number, noValue]

theorem noCr_rtpmapText (texts : codec.OnLine) : '\r' ∉ rtpmapText codec :=
  noCr_attribText (by decide)
    (by simp [texts.name, notMem_dText (show '\r' ∉ numerals by decide)]) codec

theorem noCr_fmtpText (texts : codec.OnLine) : '\r' ∉ fmtpText codec :=
  noCr_attribText (by decide) texts.fmtp codec

/-- What the parsers of such an attribute look up: the number, and the space after it, which is the
first one. -/
theorem attribText_parts {start : Text} (noSpace : ' ' ∉ start) (codec : AudioCodec)
    (value tail : Text) :
    scanU ((attribText start codec value ++ tail).drop start.length) =
        some (codec.payloadType, ' ' :: (value ++ tail)) ∧
      strchr ' ' (attribText start codec value ++ tail) = some (' ' :: (value ++ tail)) := by
  have text : attribText start codec value ++ tail =
      start ++ (dText codec.payloadType ++ ' ' :: (value ++ tail)) := by
    simp [attribText]
  constructor
  · rw [text, drop_left]
    exact scanU_dText codec.payloadType (noDigit_cons (by decide) _)
  · rw [text, strchr_append noSpace, strchr_append (notMem_dText (by decide) codec.payloadType)]
    exact strchr_cons_self ' ' _

theorem store_val {size : Nat} (text : CArr size) : store size text.val = some text := by
  rw [store, dif_pos text.property]

/-- What `sscanf()` makes of the name and the rate as they are printed. -/
def scanPrinted (codec : AudioCodec) : Option (Text × Option UInt32 × Option UInt32) :=
  scanRtpmap (codec.subtypeName.val ++ '/' :: dText codec.rate)

/-- What follows a name up to the next slash after it, and what follows that. -/
def UpToRate (codec : AudioCodec) (s : Text) : Prop :=
  s = [] ∨ ∃ w, s = w ++ '/' :: dText codec.rate

/-- One `/%u` of the printed name and rate is not changed by what follows the line. -/
theorem scanSlashU_append (upToRate : UpToRate codec s) (stop : NoDigit rest)
    (noSlash : rest.head? ≠ some '/') :
    scanSlashU (s ++ rest) = (scanSlashU s).map (fun (x, s) => (x, s ++ rest)) ∧
      ∀ x t, scanSlashU s = some (x, t) → UpToRate codec t := by
  obtain rfl | ⟨w, rfl⟩ := upToRate
  · have none : scanSlashU rest = none := by
      unfold scanSlashU
      split
      · exact absurd rfl noSlash
      · rfl
    exact ⟨none, nofun⟩
  · cases w with
    | nil =>
        have number := scanU_dText codec.rate stop
        have alone : scanU (dText codec.rate) = some (codec.rate, []) := by
          simpa using @scanU_dText [] codec.rate (by simp [NoDigit])
        refine ⟨?_, fun x t found => .inl ?_⟩
        · simp only [nil_append, cons_append, scanSlashU, number, alone]
          rfl
        · simp only [nil_append, scanSlashU, alone, Option.some.injEq, Prod.mk.injEq] at found
          exact found.2.symm
    | cons c w =>
        by_cases slash : c = '/'
        · subst slash
          obtain ⟨scanned, scanned_eq⟩ := scanU_append_slash w
          have here := scanned_eq (dText codec.rate)
          have there := scanned_eq (dText codec.rate ++ rest)
          refine ⟨?_, fun x t found => .inr ?_⟩
          · simp only [cons_append, append_assoc, scanSlashU, here, there]
            cases scanned <;> simp
          · simp only [cons_append, scanSlashU, here, Option.map_eq_some_iff,
              Prod.mk.injEq] at found
            obtain ⟨⟨y, w'⟩, -, -, same⟩ := found
            exact ⟨w', same.symm⟩
        · have none : ∀ t, scanSlashU (c :: t) = none := by
            intro t
            unfold scanSlashU
            split
            · rename_i same
              exact absurd (cons.inj same).1 slash
            · rfl
          simp [none]

/-- The scan of the printed name and rate, where they stand in the text. -/
theorem scanRtpmap_eq (codec : AudioCodec) (stop : NoDigit rest) (noSlash : rest.head? ≠ some '/') :
    scanRtpmap (' ' :: (codec.subtypeName.val ++ '/' :: (dText codec.rate ++ rest))) =
      scanPrinted codec := by
  have skipped : ∀ d, (codec.subtypeName.val ++ '/' :: d).dropWhile isSpace =
      codec.subtypeName.val.dropWhile isSpace ++ '/' :: d :=
    dropWhile_append_stop (by decide) _
  have named : ∀ d, (codec.subtypeName.val.dropWhile isSpace ++ '/' :: d).takeWhile (· ≠ '/') =
      (codec.subtypeName.val.dropWhile isSpace).takeWhile (· ≠ '/') :=
    takeWhile_append_stop (by decide) _
  have rest_eq : ∀ d, (codec.subtypeName.val.dropWhile isSpace ++ '/' :: d).drop
      (((codec.subtypeName.val.dropWhile isSpace).takeWhile (· ≠ '/')).take 31).length =
      (codec.subtypeName.val.dropWhile isSpace).drop
        (((codec.subtypeName.val.dropWhile isSpace).takeWhile (· ≠ '/')).take 31).length ++
        '/' :: d := by
    intro d
    refine drop_append_of_le_length (Nat.le_trans (length_take_le' _ _) ?_)
    exact (takeWhile_sublist _).length_le
  simp only [scanRtpmap, scanPrinted]
  rw [dropWhile_cons_of_pos (by decide), skipped, skipped, named, named]
  by_cases blank : ((codec.subtypeName.val.dropWhile isSpace).takeWhile (· ≠ '/')).take 31 = []
  · rw [if_pos blank, if_pos blank]
  · rw [if_neg blank, if_neg blank, rest_eq, rest_eq]
    generalize (codec.subtypeName.val.dropWhile isSpace).drop _ = w
    obtain ⟨rate_eq, after⟩ := @scanSlashU_append codec _ _ (.inr ⟨w, rfl⟩) stop noSlash
    rw [append_assoc, cons_append] at rate_eq
    rw [rate_eq]
    cases found : scanSlashU (w ++ '/' :: dText codec.rate) with
    | none => rfl
    | some scanned =>
        obtain ⟨rate, t⟩ := scanned
        obtain ⟨channels, -⟩ := scanSlashU_append (after rate t found) stop noSlash
        simp only [Option.map_some, channels]
        cases scanSlashU t <;> rfl

/-- The name that is scanned fits where it is stored. -/
theorem scanPrinted_fits {name : Text} {rate channels : Option UInt32}
    (scanned : scanPrinted codec = some (name, rate, channels)) : name.length < 16 := by
  have short : ((((codec.subtypeName.val ++ '/' :: dText codec.rate).dropWhile isSpace).takeWhile
      (· ≠ '/')).take 31).length < 16 := by
    rw [dropWhile_append_stop (by decide), takeWhile_append_stop (by decide)]
    have taken := length_take_le' 31
      ((codec.subtypeName.val.dropWhile isSpace).takeWhile (· ≠ '/'))
    have trimmed := (takeWhile_sublist (· ≠ '/')
      (l := codec.subtypeName.val.dropWhile isSpace)).length_le
    have dropped := (dropWhile_sublist isSpace (l := codec.subtypeName.val)).length_le
    have fits := codec.subtypeName.property
    omega
  simp only [scanPrinted, scanRtpmap] at scanned
  split at scanned
  · exact absurd scanned nofun
  · split at scanned <;>
    · simp only [Option.some.injEq, Prod.mk.injEq] at scanned
      exact scanned.1 ▸ short

/-- A regular codec is scanned as it is. -/
theorem scanPrinted_eq (regular : codec.Regular) :
    scanPrinted codec = some (codec.subtypeName.val, some codec.rate, none) := by
  have short : codec.subtypeName.val.length ≤ 31 := by
    have fits := codec.subtypeName.property
    omega
  obtain ⟨c, name, split⟩ := exists_cons_of_ne_nil regular.named
  have first : isSpace c = false := regular.noLeadingSpace c (by simp [split])
  have trimmed : codec.subtypeName.val.dropWhile isSpace = codec.subtypeName.val := by
    rw [split, dropWhile_cons_of_neg (by simp [first])]
  have name_eq : codec.subtypeName.val.takeWhile (· ≠ '/') = codec.subtypeName.val := by
    refine takeWhile_eq_self_iff.mpr fun d member => ?_
    have other := regular.name d member
    simp only [ne_eq, decide_not, Bool.not_eq_true', decide_eq_false_iff_not]
    rintro rfl
    exact other mem_cons_self
  have rate : scanSlashU ('/' :: dText codec.rate) = some (codec.rate, []) := by
    simpa [scanSlashU] using @scanU_dText [] codec.rate (by simp [NoDigit])
  simp only [scanPrinted, scanRtpmap]
  rw [dropWhile_append_stop (by decide), trimmed, takeWhile_append_stop (by decide), name_eq,
    take_of_length_le short, if_neg regular.named, drop_left, rate]
  rfl

/-- The line `rtpmap` gives its entry the name and the rate, as far as they are scanned. -/
theorem sdpParseRtpmap_eq (texts : codec.OnLine) (rest : Text)
    (entryFound : sdpAudioCodecsByPayloadType sdp.audioCodecs codec.payloadType =
      some (sdp.audioCodecs, i)) :
    sdpParseRtpmap sdp (rtpmapText codec ++ (crlf ++ rest)) =
      match scanPrinted codec with
      | none => (sdp, .einval)
      | some (name, rate, channels) =>
          match store 16 name with
          | none => (sdp, .overflow)
          | some subtypeName =>
              (sdp.setCodecs (sdp.audioCodecs.modify i fun entry =>
                { entry with subtypeName, rate := rate.getD entry.rate }),
                if channels.getD 1 = 1 then .ok else .enotsup) := by
  obtain ⟨number, space⟩ := attribText_parts (show ' ' ∉ ascii "rtpmap:" by decide) codec
    (codec.subtypeName.val ++ '/' :: dText codec.rate) (crlf ++ rest)
  rw [← rtpmapText] at number space
  have lineEnd := sdpMsgLineEnd_eq (noCr_rtpmapText texts) rest
  have onLine := before_append (cons_ne_nil ' '
    (codec.subtypeName.val ++ '/' :: dText codec.rate)) (crlf ++ rest)
  have stop : NoDigit (crlf ++ rest) := noDigit_cons (by decide) ('\n' :: rest)
  have scanned := scanRtpmap_eq codec stop (by simp [crlf])
  simp only [append_assoc, cons_append] at space lineEnd onLine
  simp only [sdpParseRtpmap, number, space, lineEnd, onLine, entryFound, scanned]
  rfl

/-- The line `fmtp` gives its entry the parameters. -/
theorem sdpParseFmtp_eq (texts : codec.OnLine) (present : codec.fmtp.val ≠ []) (rest : Text)
    (entryFound : sdpAudioCodecsByPayloadType sdp.audioCodecs codec.payloadType =
      some (sdp.audioCodecs, i)) :
    sdpParseFmtp sdp (fmtpText codec ++ (crlf ++ rest)) =
      (sdp.setCodecs (sdp.audioCodecs.modify i fun entry =>
        { entry with fmtp := codec.fmtp }), .ok) := by
  obtain ⟨number, space⟩ := attribText_parts (show ' ' ∉ ascii "fmtp:" by decide) codec
    codec.fmtp.val (crlf ++ rest)
  rw [← fmtpText] at number space
  have lineEnd := sdpMsgLineEnd_eq (noCr_fmtpText texts) rest
  have onLine := before_append present (crlf ++ rest)
  have length : (codec.fmtp.val ++ (crlf ++ rest)).length - (crlf ++ rest).length =
      codec.fmtp.val.length := by
    rw [length_append, Nat.add_sub_cancel]
  rw [append_assoc] at lineEnd
  simp only [sdpParseFmtp, number, space, lineEnd, tail_cons, onLine, length, take_left,
    entryFound, store_val]
  rfl

/-! ### The line of the media -/

/-- A word and the space after it are skipped. -/
theorem skipWords_succ {word next lineEnd : Text} (piece : Text) (noSpace : ' ' ∉ word)
    (skipped : skipSpaces (' ' :: next) = next) (onLine : next = piece ++ lineEnd)
    (nonempty : piece ≠ []) (n : Nat) :
    skipWords lineEnd (n + 1) (word ++ ' ' :: next) = skipWords lineEnd n next := by
  have before_end : before next lineEnd = true := onLine ▸ before_append nonempty lineEnd
  simp only [skipWords, strchr_append noSpace, strchr_cons_self, skipped, before_end, if_true]

/-- What one payload type of the line `m=` does to the codecs. -/
def listPayloadType (ac : AudioCodecs) (payloadType : UInt32) : Option AudioCodecs :=
  (sdpAudioCodecsByPayloadType ac payloadType).map fun (ac, i) =>
    ac.modify i fun codec =>
      { codec with
        subtypeName := (sdpMsgPayloadTypeNames codec.payloadType).getD codec.subtypeName }

/-- What the payload types of some codecs do. -/
def listCodecs (ac : AudioCodecs) : List AudioCodec → Option AudioCodecs
  | [] => some ac
  | codec :: more => (listPayloadType ac codec.payloadType).bind (listCodecs · more)

/-- One payload type is listed, and the pointer goes on. -/
theorem sdpParsePayloadTypes_turn {lineEnd tail : Text}
    (listed : listPayloadType sdp.audioCodecs payloadType = some ac) (stop : NoDigit tail)
    (onLine : before (dText payloadType ++ tail) lineEnd = true) (fuel : Nat) :
    sdpParsePayloadTypes lineEnd (fuel + 1) sdp (dText payloadType ++ tail) =
      sdpParsePayloadTypes lineEnd fuel (sdp.setCodecs ac)
        (skipSpaces ((strchr ' ' tail).getD lineEnd)) := by
  obtain ⟨⟨found, i⟩, created, named⟩ := Option.map_eq_some_iff.mp listed
  have space : strchr ' ' (dText payloadType ++ tail) = strchr ' ' tail :=
    strchr_append (notMem_dText (by decide) payloadType) tail
  simp only [sdpParsePayloadTypes, onLine, scanU_dText payloadType stop, created, space, named]
  rfl

theorem payloadTypes_cons (codec : AudioCodec) (more : List AudioCodec) (tail : Text) :
    payloadTypes (codec :: more) ++ tail =
      ' ' :: (dText codec.payloadType ++ (payloadTypes more ++ tail)) := by
  simp [payloadTypes]

/-- The payload types of the line are listed, in order.  After the last of them the pointer
moves to a space of a later line, or to the end of this one. -/
theorem sdpParsePayloadTypes_eq (rest : Text) {more : List AudioCodec} {fuel : Nat}
    (enough : more.length + 2 ≤ fuel)
    (listed : listCodecs sdp.audioCodecs (codec :: more) = some ac) :
    sdpParsePayloadTypes (crlf ++ rest) fuel sdp
        (dText codec.payloadType ++ (payloadTypes more ++ (crlf ++ rest))) =
      (sdp.setCodecs ac, .ok) := by
  induction more generalizing codec sdp fuel with
  | nil =>
      obtain ⟨fuel, rfl⟩ : ∃ k, fuel = k + 2 := ⟨fuel - 2, by simp at enough; omega⟩
      have first : listPayloadType sdp.audioCodecs codec.payloadType = some ac := by
        simpa [listCodecs, Option.bind_eq_some_iff] using listed
      refine (sdpParsePayloadTypes_turn first
        (noDigit_cons (c := '\r') (by decide) ('\n' :: rest))
        (before_append (dText_ne_nil codec.payloadType) (crlf ++ rest)) (fuel + 1)).trans ?_
      have beyond : before (skipSpaces ((strchr ' ' (crlf ++ rest)).getD (crlf ++ rest)))
          (crlf ++ rest) = false := by
        have shrinks : ∀ s : Text, (skipSpaces s).length ≤ s.length := fun s =>
          (dropWhile_sublist _).length_le
        have next : ((strchr ' ' (crlf ++ rest)).getD (crlf ++ rest)).length ≤
            (crlf ++ rest).length := by
          cases found : strchr ' ' (crlf ++ rest) with
          | none => exact Nat.le_refl _
          | some space => exact (strchr_suffix found).length_le
        simpa [before] using Nat.le_trans (shrinks _) next
      have last : strchr ' ' ('\r' :: '\n' :: rest) = strchr ' ' (crlf ++ rest) := rfl
      simp only [sdpParsePayloadTypes, last, beyond, if_true]
  | cons next more ih =>
      obtain ⟨fuel, rfl⟩ : ∃ k, fuel = k + 1 := ⟨fuel - 1, by omega⟩
      have tail := payloadTypes_cons next more (crlf ++ rest)
      obtain ⟨ac', first, others⟩ := Option.bind_eq_some_iff.mp listed
      have turn := sdpParsePayloadTypes_turn first
        (tail ▸ noDigit_cons (c := ' ') (by decide) _)
        (by
          rw [← append_assoc]
          exact before_append (by simp [dText_ne_nil]) (crlf ++ rest)) fuel
      rw [turn, tail, strchr_cons_self, Option.getD_some, skipSpaces_dText]
      exact @ih (sdp.setCodecs ac') next fuel (by simp only [length_cons] at enough; omega)
        others

/-- What the line `m=` knows of a codec. -/
def entryOf (codec : AudioCodec) : AudioCodec where
  payloadType := codec.payloadType
  subtypeName := (sdpMsgPayloadTypeNames codec.payloadType).getD (strlcpy 16 [])
  rate := 8000

/-- A new payload type gets an entry with what is known of it. -/
theorem listPayloadType_new (fresh : ∀ other ∈ ac.codec, other.payloadType ≠ codec.payloadType)
    (room : ac.codec.length < codecsMax) :
    ∃ ac' : AudioCodecs, listPayloadType ac codec.payloadType = some ac' ∧
      ac'.codec = ac.codec ++ [entryOf codec] := by
  obtain ⟨ac', created, codecs⟩ := byPayloadType_new fresh room
  have named := modify_codec codecs fun entry =>
    { entry with
      subtypeName := (sdpMsgPayloadTypeNames entry.payloadType).getD entry.subtypeName }
  have entry : { payloadType := codec.payloadType, rate := 8000,
                 subtypeName := (sdpMsgPayloadTypeNames codec.payloadType).getD (strlcpy 16 [])
                 : AudioCodec } = entryOf codec := rfl
  rw [entry] at named
  exact ⟨_, by rw [listPayloadType, created]; rfl, named⟩

/-- Codecs of distinct payload types get an entry each. -/
theorem listCodecs_distinct {codecs : List AudioCodec}
    (fresh : ∀ other ∈ ac.codec, ∀ c ∈ codecs, other.payloadType ≠ c.payloadType)
    (distinct : (codecs.map (·.payloadType)).Nodup)
    (room : ac.codec.length + codecs.length ≤ codecsMax) :
    ∃ ac' : AudioCodecs, listCodecs ac codecs = some ac' ∧
      ac'.codec = ac.codec ++ codecs.map entryOf := by
  induction codecs generalizing ac with
  | nil => exact ⟨ac, rfl, by simp⟩
  | cons codec more ih =>
      obtain ⟨ac', first, entry⟩ := listPayloadType_new
        (fun other member => fresh other member codec mem_cons_self)
        (by simp only [length_cons] at room; omega)
      simp only [map_cons, nodup_cons] at distinct
      obtain ⟨last, others, entries⟩ := @ih ac'
        (by
          intro other member c later
          rw [entry, mem_append, mem_singleton] at member
          obtain old | rfl := member
          · exact fresh other old c (mem_cons_of_mem codec later)
          · intro same
            exact distinct.1 (mem_map.mpr ⟨c, later, same.symm⟩))
        distinct.2
        (by
          simp only [entry, length_append, length_cons, length_nil] at room ⊢
          omega)
      refine ⟨last, ?_, by rw [entries, entry]; simp⟩
      rw [listCodecs, first]
      exact others

theorem length_le_payloadTypes (codecs : List AudioCodec) :
    codecs.length ≤ (payloadTypes codecs).length := by
  induction codecs with
  | nil => exact Nat.le_refl _
  | cons codec codecs ih =>
      simp only [payloadTypes, flatMap_cons, length_append, length_cons] at ih ⊢
      omega

/-- The port is printed like an `unsigned`. -/
theorem decText_port (port : UInt16) : decText port.toNat = dText port.toUInt32 := by
  have bound := port.toNat_lt
  rw [dText_of_lt (by rw [UInt16.toNat_toUInt32]; omega), UInt16.toNat_toUInt32]
  rfl

/-- The text of the line `m=` after its `=`. -/
def mediaText (port : UInt16) (codecs : List AudioCodec) : Text :=
  ascii "audio " ++ decText port.toNat ++ ascii " RTP/AVP" ++ payloadTypes codecs

theorem mediaText_eq (port : UInt16) (codecs : List AudioCodec) (tail : Text) :
    mediaText port codecs ++ tail =
      ascii "audio" ++ ' ' :: (dText port.toUInt32 ++ ' ' :: (ascii "RTP/AVP" ++
        (payloadTypes codecs ++ tail))) := by
  have audio : ascii "audio " = ascii "audio" ++ [' '] := by decide
  have avp : ascii " RTP/AVP" = ' ' :: ascii "RTP/AVP" := by decide
  simp [mediaText, decText_port, audio, avp]

theorem noCr_payloadTypes (codecs : List AudioCodec) : '\r' ∉ payloadTypes codecs := by
  intro member
  obtain ⟨codec, -, within⟩ := mem_flatMap.mp member
  obtain space | number := mem_cons.mp within
  · exact absurd space (by decide)
  · exact notMem_dText (by decide) codec.payloadType number

theorem noCr_mediaText (port : UInt16) (codecs : List AudioCodec) :
    '\r' ∉ mediaText port codecs := by
  have audio : '\r' ∉ ascii "audio " := by decide
  have avp : '\r' ∉ ascii " RTP/AVP" := by decide
  simp [mediaText, decText_port, audio, avp, notMem_dText (show '\r' ∉ numerals by decide),
    noCr_payloadTypes]

theorem scanU_space (s : Text) : scanU (' ' :: s) = scanU s := by
  rw [scanU, dropWhile_cons_of_pos (by decide)]
  rfl

/-- The words before the first payload type are skipped. -/
theorem skipWords_mediaText (port : UInt16) (codec : AudioCodec) (more : List AudioCodec)
    (lineEnd : Text) :
    skipWords lineEnd 3 (mediaText port (codec :: more) ++ lineEnd) =
      some (dText codec.payloadType ++ (payloadTypes more ++ lineEnd)) := by
  have numbers := dText_ne_nil codec.payloadType
  have avp : skipSpaces (' ' :: (ascii "RTP/AVP" ++ ' ' :: (dText codec.payloadType ++
      (payloadTypes more ++ lineEnd)))) = ascii "RTP/AVP" ++ ' ' :: (dText codec.payloadType ++
      (payloadTypes more ++ lineEnd)) := rfl
  rw [mediaText_eq, payloadTypes_cons]
  rw [skipWords_succ (dText port.toUInt32 ++ ' ' :: (ascii "RTP/AVP" ++ ' ' ::
      (dText codec.payloadType ++ payloadTypes more))) (by decide) (skipSpaces_dText _ _)
    (by simp) (by simp)]
  rw [skipWords_succ (ascii "RTP/AVP" ++ ' ' :: (dText codec.payloadType ++
      payloadTypes more)) (notMem_dText (by decide) _) avp (by simp) (by simp)]
  rw [skipWords_succ (dText codec.payloadType ++ payloadTypes more) (by decide)
    (skipSpaces_dText _ _) (by simp) (by simp [numbers])]
  rfl

/-- The line `m=` gives the port and lists the codecs. -/
theorem sdpParseMediaDescription_eq (port : UInt16) {codecs : List AudioCodec}
    (nonempty : codecs ≠ []) (listed : listCodecs sdp.audioCodecs codecs = some ac) (rest : Text) :
    sdpParseMediaDescription sdp (mediaText port codecs ++ crlf ++ rest) =
      ({ sdp with rtp := { sdp.rtp with port }, audioCodecs := ac }, .ok) := by
  obtain ⟨codec, more, rfl⟩ := exists_cons_of_ne_nil nonempty
  have lineEnd := sdpMsgLineEnd_eq (noCr_mediaText port (codec :: more)) rest
  have words := skipWords_mediaText port codec more (crlf ++ rest)
  rw [← append_assoc] at words
  have start : (ascii "audio").isPrefixOf
      (mediaText port (codec :: more) ++ crlf ++ rest) = true := by
    rw [append_assoc, mediaText_eq]
    exact isPrefixOf_append _ _
  obtain ⟨tail, number⟩ : ∃ tail, scanU
      ((mediaText port (codec :: more) ++ crlf ++ rest).drop (ascii "audio").length) =
      some (port.toUInt32, tail) := by
    rw [append_assoc, mediaText_eq, drop_left, scanU_space]
    exact ⟨_, scanU_dText _ (noDigit_cons (by decide) _)⟩
  have inRange : ¬ 0xffff < port.toUInt32.toNat := by
    have bound := port.toNat_lt
    rw [UInt16.toNat_toUInt32]
    omega
  have enough : more.length + 2 ≤
      (dText codec.payloadType ++ (payloadTypes more ++ (crlf ++ rest))).length + 1 := by
    have types := length_le_payloadTypes more
    have positive := length_pos_iff.mpr (dText_ne_nil codec.payloadType)
    simp only [length_append]
    omega
  have parsed := @sdpParsePayloadTypes_eq { sdp with rtp := { sdp.rtp with port } } codec ac rest more
    _ enough listed
  simp only [sdpParseMediaDescription, start, number, if_neg inRange, lineEnd, words,
    UInt16.toUInt16_toUInt32, parsed]
  rfl

/-! ### The other lines -/

/-- A word is scanned up to the white space after it. -/
theorem scanWord_eq {word : Text} (nonempty : word ≠ [])
    (noSpace : ∀ c ∈ word, isSpace c = false) {d : Char} (space : isSpace d = true) (t : Text) :
    scanWord (' ' :: (word ++ d :: t)) = some (word, d :: t) := by
  obtain ⟨c, letters, split⟩ := exists_cons_of_ne_nil nonempty
  have first : isSpace c = false := noSpace c (split ▸ mem_cons_self)
  have skipped : (' ' :: (word ++ d :: t)).dropWhile isSpace = word ++ d :: t := by
    rw [dropWhile_cons_of_pos (by decide), split, cons_append,
      dropWhile_cons_of_neg (by simp [first])]
  have letter : ∀ c ∈ word, (! isSpace c) = true := by simpa using noSpace
  have taken : (word ++ d :: t).takeWhile (! isSpace ·) = word :=
    takeWhile_append_cons letter (by simp [space]) t
  have dropped : (word ++ d :: t).dropWhile (! isSpace ·) = d :: t := by
    rw [dropWhile_append_of_pos letter, dropWhile_cons_of_neg (by simp [space])]
  simp only [scanWord, skipped, taken, dropped, if_neg nonempty]

/-- The characters of a text `inet_pton()` accepts. -/
theorem inetPton4Go_chars {octets value : Nat} {sawDigit : Bool}
    (accepted : inetPton4Go s octets value sawDigit = true) :
    ∀ c ∈ s, c.isDigit = true ∨ c = '.' := by
  fun_induction inetPton4Go s octets value sawDigit <;> simp_all

theorem inetPton4_ne_nil (accepted : inetPton4 s = true) : s ≠ [] := by
  rintro rfl
  exact absurd accepted (by decide)

theorem inetPton4_noSpace (accepted : inetPton4 s = true) : ∀ c ∈ s, isSpace c = false := by
  intro c member
  obtain digit | rfl := inetPton4Go_chars accepted c member
  · exact isSpace_of_isDigit digit
  · decide

theorem strlcpy_val {size : Nat} [Fact (0 < size)] (text : CArr size) :
    strlcpy size text.val = text := by
  apply Subtype.ext
  exact take_of_length_le (Nat.le_sub_one_of_lt text.property)

/-- The words of the line `c=` before the address. -/
theorem connectionText (version : Char) (visible : isSpace version = false) (tail : Text) :
    ascii "IN IP" ++ version :: ' ' :: tail =
        ascii "IN" ++ ' ' :: (ascii "IP" ++ [version] ++ ' ' :: tail) ∧
      scanWord (' ' :: (ascii "IP" ++ [version] ++ ' ' :: tail)) =
        some (ascii "IP" ++ [version], ' ' :: tail) := by
  have words : ascii "IN IP" = ascii "IN" ++ ' ' :: ascii "IP" := by decide
  have letters : ∀ c ∈ ascii "IP", isSpace c = false := by decide
  refine ⟨by simp [words], scanWord_eq (by simp) ?_ (by decide) _⟩
  simpa [or_imp, forall_and] using ⟨letters, visible⟩

/-- The line `c=` gives the address, and keeps the port. -/
theorem sdpParseConnectionInfo_eq (inetPton6 : Text → Bool) (sdp : SdpMsg) {ip : CArr 46}
    (ipv4 : inetPton4 ip.val = true) (rest : Text) :
    sdpParseConnectionInfo inetPton6 sdp
        (ascii "IN IP" ++ '4' :: ' ' :: ip.val ++ crlf ++ rest) =
      ({ sdp with rtp := { af := .inet, ip, port := sdp.rtp.port } }, .ok) := by
  have nonempty := inetPton4_ne_nil ipv4
  obtain ⟨source, version⟩ := connectionText '4' (by decide) (ip.val ++ '\r' :: '\n' :: rest)
  have address : scanWord (' ' :: (ip.val ++ '\r' :: '\n' :: rest)) =
      some (ip.val, '\r' :: '\n' :: rest) :=
    scanWord_eq nonempty (inetPton4_noSpace ipv4) (by decide) _
  have fits : ¬ 46 ≤ ip.val.length := Nat.not_le_of_lt ip.property
  have family : osmoIpStrType inetPton6 ip.val = .inet := by
    simp [osmoIpStrType, nonempty, ipv4]
  have short : ¬ 10 ≤ (ascii "IP" ++ ['4']).length := by decide
  have text : ascii "IN IP" ++ '4' :: ' ' :: ip.val ++ crlf ++ rest =
      ascii "IN IP" ++ '4' :: ' ' :: (ip.val ++ '\r' :: '\n' :: rest) := by simp [crlf]
  rw [text, source]
  simp only [sdpParseConnectionInfo, isPrefixOf_append, drop_left, version, if_neg short, address,
    if_neg fits, osmoSockaddrStrFromStr, strlcpy_val, family]
  rfl

theorem sdpParseAttrib_rtpmap (sdp : SdpMsg) (codec : AudioCodec) (tail : Text) :
    sdpParseAttrib sdp (rtpmapText codec ++ tail) = sdpParseRtpmap sdp (rtpmapText codec ++ tail) := by
  simp only [sdpParseAttrib, rtpmapText, attribText, append_assoc, isPrefixOf_append, if_true]

theorem sdpParseAttrib_fmtp (sdp : SdpMsg) (codec : AudioCodec) (tail : Text) :
    sdpParseAttrib sdp (fmtpText codec ++ tail) = sdpParseFmtp sdp (fmtpText codec ++ tail) := by
  have rtpmap : ∀ tail, (ascii "rtpmap:").isPrefixOf (ascii "fmtp:" ++ tail) = false := fun _ => rfl
  simp [sdpParseAttrib, fmtpText, attribText, isPrefixOf_append, rtpmap]

/-- The line `ptime`. -/
theorem sdpParseAttrib_ptime {sdp : SdpMsg} {ptime : UInt32} {rest : Text} :
    sdpParseAttrib sdp (ascii "ptime:" ++ dText ptime ++ crlf ++ rest) =
      ({ sdp with ptime }, .ok) := by
  have number : scanU (dText ptime ++ '\r' :: '\n' :: rest) = some (ptime, '\r' :: '\n' :: rest) :=
    scanU_dText ptime (noDigit_cons (by decide) ('\n' :: rest))
  have source : ascii "ptime:" ++ dText ptime ++ crlf ++ rest =
      ascii "ptime:" ++ (dText ptime ++ '\r' :: '\n' :: rest) := by simp [crlf]
  have rtpmap : ∀ tail, (ascii "rtpmap:").isPrefixOf (ascii "ptime:" ++ tail) = false :=
    fun _ => rfl
  have fmtp : ∀ tail, (ascii "fmtp:").isPrefixOf (ascii "ptime:" ++ tail) = false :=
    fun _ => rfl
  rw [source]
  simp [sdpParseAttrib, isPrefixOf_append, rtpmap, fmtp, sdpParsePtime, number]

variable {mode : SdpMode}

/-- The line of a mode. -/
theorem sdpParseAttrib_mode (sdp : SdpMsg) (set : mode ≠ .unset) (tail : Text) :
    sdpParseAttrib sdp (sdpModeStr mode ++ tail) = ({ sdp with mode }, .ok) := by
  cases mode with
  | unset => exact absurd rfl set
  | sendonly | recvonly | sendrecv | inactive => rfl

/-! ### The whole text -/

variable {version : Char}

section Whole

variable {inetPton6 : Text → Bool} {done todo : List AudioCodec} {i : Nat} {attrib : Char}

/-- A line of an attribute. -/
theorem parseFrom_attrib (noCr : '\r' ∉ body)
    (parsed : sdpParseAttrib sdp (body ++ crlf ++ rest) = (sdp', .ok)) :
    parseFrom inetPton6 sdp (ascii "a=" ++ body ++ crlf ++ rest) = parseFrom inetPton6 sdp' rest :=
  parseFrom_line (show 'a' ≠ '\r' ∧ 'a' ≠ '\n' by decide) noCr parsed

theorem codecLines_eq (named : codec.subtypeName.val ≠ []) (rated : 0 < codec.rate) :
    codecLines codec = ascii "a=" ++ rtpmapText codec ++ crlf ++
      if codec.fmtp.val = [] then [] else ascii "a=" ++ fmtpText codec ++ crlf := by
  have rate : orDefault codec.rate 8000 = codec.rate := if_pos rated
  have rtpmap : ascii "a=rtpmap:" = ascii "a=" ++ ascii "rtpmap:" := by decide
  have fmtp : ascii "a=fmtp:" = ascii "a=" ++ ascii "fmtp:" := by decide
  simp [codecLines, named, rate, rtpmap, fmtp, rtpmapText, fmtpText, attribText]

/-- The lines of a codec that has an entry, and of which a name and one channel are scanned. -/
theorem parseFrom_codecLines (texts : codec.OnLine) (named : codec.subtypeName.val ≠ [])
    (rated : 0 < codec.rate) (rest : Text)
    (found : sdp.audioCodecs.codec.findIdx? (·.payloadType = codec.payloadType) = some i)
    {name : CArr 16} {rate channels : Option UInt32}
    (scanned : scanPrinted codec = some (name.val, rate, channels)) (one : channels.getD 1 = 1) :
    parseFrom inetPton6 sdp (codecLines codec ++ rest) =
      parseFrom inetPton6 (sdp.setCodecs (sdp.audioCodecs.modify i fun entry =>
        { entry with
          subtypeName := name, rate := rate.getD entry.rate
          fmtp := if codec.fmtp.val = [] then entry.fmtp else codec.fmtp })) rest := by
  have rtpmap (rest : Text) :
      parseFrom inetPton6 sdp (ascii "a=" ++ rtpmapText codec ++ crlf ++ rest) =
        parseFrom inetPton6 (sdp.setCodecs (sdp.audioCodecs.modify i fun entry =>
          { entry with subtypeName := name, rate := rate.getD entry.rate })) rest := by
    apply parseFrom_attrib (noCr_rtpmapText texts)
    rw [append_assoc, sdpParseAttrib_rtpmap,
      sdpParseRtpmap_eq texts rest (byPayloadType_found found), scanned]
    simp only [store_val, one, if_true]
  rw [codecLines_eq named rated, append_assoc, rtpmap]
  by_cases absent : codec.fmtp.val = []
  · simp only [if_pos absent, nil_append]
  · rw [findIdx_types, ← types_modify _ i (f := fun entry => { entry with
      subtypeName := name, rate := rate.getD entry.rate }) fun _ => rfl, ← findIdx_types] at found
    have fmtp := @sdpParseFmtp_eq (sdp.setCodecs _) _ _ texts absent rest (byPayloadType_found found)
    rw [← sdpParseAttrib_fmtp, ← append_assoc] at fmtp
    simp only [if_neg absent]
    refine (parseFrom_attrib (noCr_fmtpText texts) fmtp).trans ?_
    simp only [SdpMsg.setCodecs, AudioCodecs.modify, modify_modify_eq]
    rfl

/-- The lines of all codecs, each with its entry in the list. -/
theorem parseFrom_codecs (regular : ∀ codec ∈ todo, codec.Regular) (rest : Text)
    (split : sdp.audioCodecs.codec = done ++ todo.map entryOf)
    (distinct : ((done ++ todo).map (·.payloadType)).Nodup) :
    ∃ ac : AudioCodecs, ac.codec = done ++ todo ∧
      parseFrom inetPton6 sdp (todo.flatMap codecLines ++ rest) =
        parseFrom inetPton6 (sdp.setCodecs ac) rest := by
  induction todo generalizing done sdp with
  | nil => exact ⟨sdp.audioCodecs, by simpa using split, rfl⟩
  | cons codec todo ih =>
      have fresh : ∀ other ∈ done, other.payloadType ≠ codec.payloadType := by
        intro other member same
        rw [map_append] at distinct
        exact (nodup_append.mp distinct).2.2 _ (mem_map_of_mem member) _
          (mem_map_of_mem mem_cons_self) same
      have own := regular codec mem_cons_self
      have found : sdp.audioCodecs.codec.findIdx? (·.payloadType = codec.payloadType) =
          some done.length := by
        rw [split, findIdx?_append, findIdx?_eq_none_iff.mpr (by simpa using fresh)]
        simp [findIdx?_cons, entryOf]
      have completed := modify_codec split fun entry =>
        { entry with
          subtypeName := codec.subtypeName, rate := codec.rate
          fmtp := if codec.fmtp.val = [] then entry.fmtp else codec.fmtp }
      have complete : { entryOf codec with
            subtypeName := codec.subtypeName, rate := codec.rate
            fmtp := if codec.fmtp.val = [] then (entryOf codec).fmtp else codec.fmtp } = codec := by
        refine AudioCodec.ext rfl rfl rfl ?_
        dsimp only
        split
        · rename_i absent
          exact Subtype.ext absent.symm
        · rfl
      rw [complete] at completed
      obtain ⟨ac', all, others⟩ := @ih (sdp.setCodecs _) (done ++ [codec])
        (fun c member => regular c (mem_cons_of_mem codec member))
        (by simpa [SdpMsg.setCodecs] using completed) (by simpa using distinct)
      refine ⟨ac', by simpa using all, ?_⟩
      rw [flatMap_cons, append_assoc, parseFrom_codecLines own.onLine own.named own.rate _ found
        (scanPrinted_eq own) rfl]
      exact others

/-- The text of a message as its lines. -/
theorem sdpMsgToSdpStr_eq (nonempty : sdp.rtp.ip.val ≠ [])
    (version_eq : ipv inetPton6 sdp = version) :
    sdpMsgToSdpStr inetPton6 sdp =
      'v' :: '=' :: ascii "0" ++ crlf ++
      ('o' :: '=' :: (ascii "OsmoMSC 0 0 IN IP" ++ version :: ' ' :: sdp.rtp.ip.val) ++ crlf ++
      ('s' :: '=' :: ascii "GSM Call" ++ crlf ++
      ('c' :: '=' :: (ascii "IN IP" ++ version :: ' ' :: sdp.rtp.ip.val) ++ crlf ++
      ('t' :: '=' :: ascii "0 0" ++ crlf ++
      ('m' :: '=' :: mediaText sdp.rtp.port sdp.audioCodecs.codec ++ crlf ++
      (sdp.audioCodecs.codec.flatMap codecLines ++
      (ascii "a=" ++ (ascii "ptime:" ++ dText (orDefault sdp.ptime 20)) ++ crlf ++
      (if sdp.mode = .unset then [] else ascii "a=" ++ sdpModeStr sdp.mode ++ crlf)))))))) := by
  have ip : ipText sdp = sdp.rtp.ip.val := if_neg nonempty
  have v : ascii "v=0" = 'v' :: '=' :: ascii "0" := by decide
  have o : ascii "o=OsmoMSC 0 0 IN IP" = 'o' :: '=' :: ascii "OsmoMSC 0 0 IN IP" := by decide
  have s : ascii "s=GSM Call" = 's' :: '=' :: ascii "GSM Call" := by decide
  have c : ascii "c=IN IP" = 'c' :: '=' :: ascii "IN IP" := by decide
  have t : ascii "t=0 0" = 't' :: '=' :: ascii "0 0" := by decide
  have m : ascii "m=audio " = 'm' :: '=' :: ascii "audio " := by decide
  have a : ascii "a=ptime:" = ascii "a=" ++ ascii "ptime:" := by decide
  simp only [sdpMsgToSdpStr, mediaText, version_eq, ip, v, o, s, c, t, m, a,
    append_assoc, cons_append]

/-- The version of IP that is printed for an IPv4 address. -/
theorem ipv_eq_four (ipv4 : inetPton4 sdp.rtp.ip.val = true) : ipv inetPton6 sdp = '4' := by
  have nonempty := inetPton4_ne_nil ipv4
  have ip : ipText sdp = sdp.rtp.ip.val := if_neg nonempty
  simp [ipv, ip, osmoIpStrType, nonempty, ipv4]

/-- The lines before the address are ignored. -/
theorem parseFrom_untilAddress {ip : Text} (noCr : '\r' ∉ ip) (printable : version ≠ '\r')
    (rest : Text) :
    parseFrom inetPton6 {}
        ('v' :: '=' :: ascii "0" ++ crlf ++
        ('o' :: '=' :: (ascii "OsmoMSC 0 0 IN IP" ++ version :: ' ' :: ip) ++ crlf ++
        ('s' :: '=' :: ascii "GSM Call" ++ crlf ++ rest))) =
      parseFrom inetPton6 {} rest := by
  have noCrOwner : '\r' ∉ ascii "OsmoMSC 0 0 IN IP" ++ version :: ' ' :: ip := by
    have start : '\r' ∉ ascii "OsmoMSC 0 0 IN IP" := by decide
    simp [start, noCr, printable.symm]
  rw [parseFrom_ignored (by decide) (by decide) (by decide)]
  rw [parseFrom_ignored (by decide) (by decide) noCrOwner]
  rw [parseFrom_ignored (by decide) (by decide) (by decide)]

/-- The lines up to the media give the address. -/
theorem parseFrom_untilMedia {ip : CArr 46} (ipv4 : inetPton4 ip.val = true) (rest : Text) :
    parseFrom inetPton6 {}
        ('v' :: '=' :: ascii "0" ++ crlf ++
        ('o' :: '=' :: (ascii "OsmoMSC 0 0 IN IP" ++ '4' :: ' ' :: ip.val) ++ crlf ++
        ('s' :: '=' :: ascii "GSM Call" ++ crlf ++
        ('c' :: '=' :: (ascii "IN IP" ++ '4' :: ' ' :: ip.val) ++ crlf ++
        ('t' :: '=' :: ascii "0 0" ++ crlf ++ rest))))) =
      parseFrom inetPton6 { rtp := { af := .inet, ip } } rest := by
  have noCrIp : '\r' ∉ ip.val := fun member =>
    absurd (inetPton4_noSpace ipv4 '\r' member) (by decide)
  have noCrConnection : '\r' ∉ ascii "IN IP" ++ '4' :: ' ' :: ip.val := by
    have start : '\r' ∉ ascii "IN IP" := by decide
    simp [start, noCrIp]
  have connection : ∀ rest, sdpParseLine inetPton6 'c' {}
      (ascii "IN IP" ++ '4' :: ' ' :: ip.val ++ crlf ++ rest) =
        ({ rtp := { af := .inet, ip } }, .ok) := fun rest =>
    (sdpParseLine_connection {} _).trans (sdpParseConnectionInfo_eq inetPton6 {} ipv4 rest)
  rw [parseFrom_untilAddress noCrIp (by decide)]
  rw [parseFrom_line (by decide) noCrConnection (connection _)]
  rw [parseFrom_ignored (by decide) (by decide) (by decide)]

/-- The line of the media gives the port and lists the codecs. -/
theorem parseFrom_media (af : sdp.rtp.af = .inet) (nonempty : sdp.audioCodecs.codec ≠ [])
    (listed : listCodecs {} sdp.audioCodecs.codec = some ac) (rest : Text) :
    parseFrom inetPton6 { rtp := { af := .inet, ip := sdp.rtp.ip } }
        ('m' :: '=' :: mediaText sdp.rtp.port sdp.audioCodecs.codec ++ crlf ++ rest) =
      parseFrom inetPton6 { rtp := sdp.rtp, audioCodecs := ac } rest := by
  have media := @sdpParseMediaDescription_eq
    { rtp := { af := .inet, ip := sdp.rtp.ip } } ac sdp.rtp.port _ nonempty listed rest
  have rtp : { af := .inet, ip := sdp.rtp.ip, port := sdp.rtp.port : SockaddrStr } = sdp.rtp := by
    rw [← af]
  apply parseFrom_line (by decide) (noCr_mediaText _ _)
  rw [sdpParseLine_media, media]
  simp only [rtp]

theorem noCr_sdpModeStr : '\r' ∉ sdpModeStr mode := by
  cases mode <;> decide

/-- The last lines give the packet time and the mode. -/
theorem parseFrom_tail (unset : sdp.mode = .unset) (ptime : UInt32) (mode : SdpMode) :
    parseFrom inetPton6 sdp (ascii "a=" ++ (ascii "ptime:" ++ dText ptime) ++ crlf ++
        (if mode = .unset then [] else ascii "a=" ++ sdpModeStr mode ++ crlf)) =
      ({ sdp with ptime, mode }, .ok) := by
  have noCr : '\r' ∉ ascii "ptime:" ++ dText ptime := by
    have start : '\r' ∉ ascii "ptime:" := by decide
    simp [start, notMem_dText (show '\r' ∉ numerals by decide)]
  rw [parseFrom_attrib noCr sdpParseAttrib_ptime]
  by_cases none : mode = .unset
  · rw [if_pos none, none, ← unset]
    rfl
  · rw [if_neg none, ← append_nil (ascii "a=" ++ sdpModeStr mode ++ crlf)]
    have parsed := sdpParseAttrib_mode { sdp with ptime } none (crlf ++ [])
    rw [← append_assoc] at parsed
    rw [parseFrom_attrib noCr_sdpModeStr parsed]
    rfl

/-- The text of a regular message is parsed back to the message. -/
theorem sdpMsgFromSdpStr_toSdpStr (regular : sdp.Regular) :
    sdpMsgFromSdpStr inetPton6 (sdpMsgToSdpStr inetPton6 sdp) = (sdp, .ok) := by
  change parseFrom inetPton6 {} _ = _
  have ptime : orDefault sdp.ptime 20 = sdp.ptime := if_pos regular.ptime
  rw [sdpMsgToSdpStr_eq (inetPton4_ne_nil regular.ipv4) (ipv_eq_four regular.ipv4), ptime]
  obtain ⟨entries, listed, entries_eq⟩ := @listCodecs_distinct {} sdp.audioCodecs.codec
    (by simp) regular.distinct (by simpa using sdp.audioCodecs.fits)
  obtain ⟨codecs, codecs_eq, lines⟩ := @parseFrom_codecs
    { rtp := sdp.rtp, audioCodecs := entries } inetPton6 [] _ regular.codecs
    (ascii "a=" ++ (ascii "ptime:" ++ dText sdp.ptime) ++ crlf ++
      (if sdp.mode = .unset then [] else ascii "a=" ++ sdpModeStr sdp.mode ++ crlf))
    (by simpa using entries_eq) regular.distinct
  obtain rfl : codecs = sdp.audioCodecs := AudioCodecs.ext codecs_eq
  rw [parseFrom_untilMedia regular.ipv4, parseFrom_media regular.af regular.nonempty listed, lines,
    parseFrom_tail rfl]
  rfl

end Whole

/-- What `sdp_msg_to_sdp_str_buf()` writes into a buffer that is large enough,
`sdp_msg_from_sdp_str()` reads back: it returns 0, and the message is the same in address, port,
packet time, mode and list of codecs. -/
theorem sdpMsgFromSdpStr_toSdpStrBuf (inetPton6 : Text → Bool) (sdp : SdpMsg)
    (regular : sdp.Regular) (size : Nat)
    (room : (sdpMsgToSdpStrBuf inetPton6 size sdp).2 < size) :
    sdpMsgFromSdpStr inetPton6 (sdpMsgToSdpStrBuf inetPton6 size sdp).1 = (sdp, .ok) := by
  have whole : (sdpMsgToSdpStrBuf inetPton6 size sdp).1 = sdpMsgToSdpStr inetPton6 sdp :=
    take_of_length_le (Nat.le_sub_one_of_lt room)
  rw [whole]
  exact sdpMsgFromSdpStr_toSdpStr regular

/-- An offer of AMR and GSM full rate. -/
def amrOffer : SdpMsg where
  rtp := { af := .inet, ip := strlcpy 46 (ascii "10.0.0.1"), port := 16384 }
  ptime := 20
  mode := .sendrecv
  audioCodecs :=
    { codec :=
        [{ payloadType := 112, subtypeName := strlcpy 16 (ascii "AMR"), rate := 8000
           fmtp := strlcpy 256 (ascii "octet-align=1; mode-set=2") },
         { payloadType := 3, subtypeName := strlcpy 16 (ascii "GSM"), rate := 8000 }] }

theorem amrOffer_regular : amrOffer.Regular where
  af := rfl
  ipv4 := by decide
  nonempty := by decide
  distinct := by decide
  codecs := by
    intro codec member
    simp only [amrOffer, mem_cons, not_mem_nil, or_false] at member
    obtain rfl | rfl := member
    · refine ⟨by decide, by decide, by decide, fun c first => ?_, by decide, by decide⟩
      obtain rfl : 'A' = c := Option.some.inj first
      decide
    · refine ⟨by decide, by decide, by decide, fun c first => ?_, by decide, by decide⟩
      obtain rfl : 'G' = c := Option.some.inj first
      decide
  ptime := by decide

theorem sdpMsgFromSdpStr_toSdpStrBuf_amrOffer :
    amrOffer.Regular ∧ (sdpMsgToSdpStrBuf (fun _ => false) 1024 amrOffer).2 < 1024 ∧
      sdpMsgFromSdpStr (fun _ => false) (sdpMsgToSdpStrBuf (fun _ => false) 1024 amrOffer).1 =
        (amrOffer, .ok) := by
  have room : (sdpMsgToSdpStrBuf (fun _ => false) 1024 amrOffer).2 < 1024 := by decide +kernel
  exact ⟨amrOffer_regular, room,
    sdpMsgFromSdpStr_toSdpStrBuf (fun _ => false) amrOffer amrOffer_regular 1024 room⟩

end OsmoMsc.Sdp
