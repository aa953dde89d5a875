/-
Module: OsmoMsc.Sdp.Accepted
Purpose: Which of the texts that `sdp_msg_to_sdp_str_buf()` composes `sdp_msg_from_sdp_str()`
  accepts.  The payload types of the entries are what matters: the line `m=` gives each codec an
  entry of its payload type, and the later lines of a codec find it there.
Trusted boundary: none
Main exports: AudioCodecs.types, AudioCodec.scans, sdpMsgFromSdpStr_accepts_iff
-/
import OsmoMsc.Sdp.RoundTrip

namespace OsmoMsc.Sdp

open Library Library.CText List

variable {sdp : SdpMsg} {codecs : List AudioCodec} {ac : AudioCodecs} {codec : AudioCodec}

/-! ### The payload types of the entries -/

variable {payloadType : UInt32}

/-- A payload type that has an entry is found there. -/
theorem findIdx_of_mem (member : payloadType ∈ ac.types) :
    ∃ i, ac.codec.findIdx? (·.payloadType = payloadType) = some i := by
  rw [findIdx_types]
  exact Option.isSome_iff_exists.mp (by simpa using member)

/-- Listing a payload type adds at most one entry, and keeps those there are. -/
theorem listPayloadType_types (room : ac.codec.length < codecsMax) :
    ∃ ac', listPayloadType ac payloadType = some ac' ∧
      ac'.codec.length ≤ ac.codec.length + 1 ∧ payloadType ∈ ac'.types ∧ ac.types ⊆ ac'.types := by
  by_cases member : payloadType ∈ ac.types
  · obtain ⟨i, found⟩ := findIdx_of_mem member
    refine ⟨_, by rw [listPayloadType, byPayloadType_found found]; rfl, ?_, ?_, ?_⟩
    · simp [AudioCodecs.modify]
    · rwa [types_modify]
      intro codec
      rfl
    · rw [types_modify]
      · exact Subset.refl _
      · intro codec
        rfl
  · have fresh : ∀ other ∈ ac.codec, other.payloadType ≠ payloadType :=
      fun other present same => member (mem_map.mpr ⟨other, present, same⟩)
    obtain ⟨ac', listed, entries⟩ := @listPayloadType_new { payloadType } ac fresh room
    have types : ac'.types = ac.types ++ [payloadType] := by
      simp [AudioCodecs.types, entries, entryOf]
    exact ⟨ac', listed, by simp [entries], by simp [types], by simp [types]⟩

/-- With room for all of them, all codecs are listed and have an entry then. -/
theorem listCodecs_types (room : ac.codec.length + codecs.length ≤ codecsMax) :
    ∃ ac', listCodecs ac codecs = some ac' ∧ ac.types ⊆ ac'.types ∧
      ∀ codec ∈ codecs, codec.payloadType ∈ ac'.types := by
  induction codecs generalizing ac with
  | nil => exact ⟨ac, rfl, Subset.refl _, by simp⟩
  | cons codec more ih =>
      simp only [length_cons] at room
      obtain ⟨ac', first, length, own, kept⟩ :=
        @listPayloadType_types ac codec.payloadType (by omega)
      obtain ⟨last, others, kept', entries⟩ := @ih ac' (by omega)
      refine ⟨last, ?_, Subset.trans kept kept', ?_⟩
      · rw [listCodecs, first]
        exact others
      · intro c member
        obtain rfl | later := mem_cons.mp member
        · exact kept' own
        · exact entries c later

/-! ### The lines of the codecs -/

section Lines

variable {inetPton6 : Text → Bool}

/-- A codec with the rate that is printed for it. -/
def AudioCodec.printed (codec : AudioCodec) : AudioCodec :=
  { codec with rate := orDefault codec.rate 8000 }

theorem codecLines_printed (codec : AudioCodec) : codecLines codec.printed = codecLines codec := by
  have twice : orDefault codec.printed.rate 8000 = orDefault codec.rate 8000 := by
    unfold AudioCodec.printed orDefault
    by_cases rated : 0 < codec.rate
    · rw [if_pos rated, if_pos rated]
    · rw [if_neg rated]
      rfl
  unfold codecLines
  rw [twice]
  rfl

theorem rate_printed {codec : AudioCodec} : 0 < codec.printed.rate := by
  unfold AudioCodec.printed orDefault
  by_cases rated : 0 < codec.rate
  · simp [rated]
  · simp only [rated, if_false]
    decide

/-- Whether `sscanf()` finds a name, and one channel if any, in what is printed for a codec; for a
codec without a name nothing is printed. -/
def AudioCodec.scans (codec : AudioCodec) : Bool :=
  codec.subtypeName.val = [] ||
    match scanPrinted codec.printed with
    | none => false
    | some (_, _, channels) => channels.getD 1 = 1

/-- What is scanned for a codec whose lines are accepted. -/
theorem scanPrinted_of_scans (named : codec.subtypeName.val ≠ []) (scans : codec.scans = true) :
    ∃ (name : CArr 16) (rate channels : Option UInt32),
      scanPrinted codec.printed = some (name.val, rate, channels) ∧ channels.getD 1 = 1 := by
  simp only [AudioCodec.scans, named, decide_false, Bool.false_or] at scans
  cases scanned : scanPrinted codec.printed with
  | none =>
      rw [scanned] at scans
      exact Bool.noConfusion scans
  | some found =>
      obtain ⟨name, rate, channels⟩ := found
      rw [scanned] at scans
      exact ⟨⟨name, scanPrinted_fits scanned⟩, rate, channels, rfl, of_decide_eq_true scans⟩

/-- The lines of a codec that has an entry are accepted if they can be scanned, and need no other
entry. -/
theorem parseFrom_scannedLines (texts : codec.OnLine) (scans : codec.scans = true) (rest : Text)
    (listed : codec.payloadType ∈ sdp.audioCodecs.types) :
    ∃ ac : AudioCodecs, ac.types = sdp.audioCodecs.types ∧
      parseFrom inetPton6 sdp (codecLines codec ++ rest) =
        parseFrom inetPton6 (sdp.setCodecs ac) rest := by
  by_cases unnamed : codec.subtypeName.val = []
  · refine ⟨sdp.audioCodecs, rfl, ?_⟩
    rw [codecLines, if_pos unnamed]
    rfl
  · have printed : codec.printed.OnLine := ⟨texts.name, texts.fmtp⟩
    obtain ⟨i, found⟩ := findIdx_of_mem listed
    obtain ⟨name, rate, channels, scanned, one⟩ := scanPrinted_of_scans unnamed scans
    rw [← codecLines_printed]
    refine ⟨_, ?_, parseFrom_codecLines printed unnamed rate_printed rest found scanned one⟩
    exact types_modify _ i fun _ => rfl

/-- Otherwise they end the parser. -/
theorem parseFrom_unscannedLines (texts : codec.OnLine) (scans : codec.scans = false) (rest : Text)
    (listed : codec.payloadType ∈ sdp.audioCodecs.types) :
    (parseFrom inetPton6 sdp (codecLines codec ++ rest)).2 ≠ .ok := by
  simp only [AudioCodec.scans, Bool.or_eq_false_iff, decide_eq_false_iff_not] at scans
  obtain ⟨named, scans⟩ := scans
  have printed : codec.printed.OnLine := ⟨texts.name, texts.fmtp⟩
  obtain ⟨i, found⟩ := findIdx_of_mem listed
  rw [← codecLines_printed, @codecLines_eq codec.printed named rate_printed, append_assoc]
  refine parseFrom_failed (show 'a' ≠ '\r' ∧ 'a' ≠ '\n' by decide) ?_
  change (sdpParseAttrib sdp (rtpmapText codec.printed ++ crlf ++ _)).2 ≠ .ok
  rw [append_assoc, sdpParseAttrib_rtpmap, sdpParseRtpmap_eq printed _ (byPayloadType_found found)]
  cases scanned : scanPrinted codec.printed with
  | none => exact Rc.noConfusion
  | some result =>
      obtain ⟨name, rate, channels⟩ := result
      rw [scanned] at scans
      have several : channels.getD 1 ≠ 1 := of_decide_eq_false scans
      cases stored : store 16 name with
      | none => simp [stored]
      | some subtypeName => simp [stored, several]

/-- The lines of all codecs are accepted, or the first ones that cannot be scanned end the parser. -/
theorem parseFrom_codecs_cases (texts : ∀ codec ∈ codecs, codec.OnLine) (rest : Text)
    (listed : ∀ codec ∈ codecs, codec.payloadType ∈ sdp.audioCodecs.types) :
    if ∀ codec ∈ codecs, codec.scans = true then
      ∃ ac : AudioCodecs, parseFrom inetPton6 sdp (codecs.flatMap codecLines ++ rest) =
        parseFrom inetPton6 (sdp.setCodecs ac) rest
    else (parseFrom inetPton6 sdp (codecs.flatMap codecLines ++ rest)).2 ≠ .ok := by
  induction codecs generalizing sdp with
  | nil => exact ⟨sdp.audioCodecs, rfl⟩
  | cons codec more ih =>
      simp only [forall_mem_cons] at texts listed ⊢
      rw [flatMap_cons, append_assoc]
      cases first : codec.scans with
      | true =>
          obtain ⟨ac, types, accepted⟩ := @parseFrom_scannedLines sdp codec inetPton6 texts.1 first
            (more.flatMap codecLines ++ rest) listed.1
          rw [accepted]
          simpa [SdpMsg.setCodecs] using @ih (sdp.setCodecs ac) texts.2
            (fun c member => types ▸ listed.2 c member)
      | false => simpa using parseFrom_unscannedLines texts.1 first _ listed.1

end Lines

/-! ### Addresses and media that are not accepted -/

/-- An address of IPv6 is not supported. -/
theorem sdpParseConnectionInfo_inet6 (inetPton6 : Text → Bool) (sdp : SdpMsg) (ip rest : Text) :
    (sdpParseConnectionInfo inetPton6 sdp
      (ascii "IN IP" ++ '6' :: ' ' :: ip ++ crlf ++ rest)).2 ≠ .ok := by
  obtain ⟨source, version⟩ := connectionText '6' (by decide) (ip ++ crlf ++ rest)
  have other : ascii "IP" ++ ['6'] ≠ ascii "IP4" := by decide
  have short : ¬ 10 ≤ (ascii "IP" ++ ['6']).length := by decide
  have text : ascii "IN IP" ++ '6' :: ' ' :: ip ++ crlf ++ rest =
      ascii "IN IP" ++ '6' :: ' ' :: (ip ++ crlf ++ rest) := by simp
  rw [text, source]
  simp only [sdpParseConnectionInfo, isPrefixOf_append, drop_left, version, if_neg short]
  cases scanWord (' ' :: (ip ++ crlf ++ rest)) with
  | none => exact Rc.noConfusion
  | some address =>
      by_cases long : 46 ≤ address.1.length <;> simp [long, other]

/-- A line of the media without payload types ends before the third word that is looked for. -/
theorem sdpParseMediaDescription_nil {sdp : SdpMsg} {port : UInt16} {rest : Text} :
    (sdpParseMediaDescription sdp (mediaText port [] ++ crlf ++ rest)).2 ≠ .ok := by
  have lineEnd := sdpMsgLineEnd_eq (noCr_mediaText port []) rest
  have source : mediaText port [] ++ crlf ++ rest = ascii "audio" ++ ' ' :: (dText port.toUInt32 ++
      ' ' :: (ascii "RTP/AVP" ++ (crlf ++ rest))) := by
    rw [append_assoc]
    exact mediaText_eq port [] (crlf ++ rest)
  have words : skipWords (crlf ++ rest) 3 (mediaText port [] ++ crlf ++ rest) = none := by
    have avp : skipSpaces (' ' :: (ascii "RTP/AVP" ++ (crlf ++ rest))) =
        ascii "RTP/AVP" ++ (crlf ++ rest) := rfl
    rw [source, skipWords_succ (dText port.toUInt32 ++ ' ' :: ascii "RTP/AVP") (by decide)
      (skipSpaces_dText _ _) (by simp) (by simp)]
    rw [skipWords_succ (ascii "RTP/AVP") (notMem_dText (by decide) _) avp (by simp) (by decide)]
    have noSpace : strchr ' ' (ascii "RTP/AVP" ++ (crlf ++ rest)) = strchr ' ' (crlf ++ rest) :=
      strchr_append (by decide) _
    rw [skipWords, noSpace]
    cases found : strchr ' ' (crlf ++ rest) with
    | none => rfl
    | some space =>
        have next := (strchr_suffix found).length_le
        have skipped := (dropWhile_sublist (· = ' ') (l := space)).length_le
        have beyond : before (skipSpaces space) (crlf ++ rest) = false :=
          decide_eq_false (Nat.not_lt_of_le (Nat.le_trans skipped next))
        simp only [beyond]
        rfl
  have start : (ascii "audio").isPrefixOf (mediaText port [] ++ crlf ++ rest) = true := by
    rw [source]
    exact isPrefixOf_append _ _
  simp only [sdpParseMediaDescription, start, lineEnd, words]
  cases scanU ((mediaText port [] ++ crlf ++ rest).drop (ascii "audio").length) with
  | none => exact Rc.noConfusion
  | some number =>
      by_cases large : 0xffff < number.1.toNat <;> simp [large]

/-! ### The whole text -/

section Whole

variable {inetPton6 : Text → Bool}

/-- What the family of an address says. -/
theorem inetPton_of_family (inetPton6 : Text → Bool) (ip : Text) :
    (osmoIpStrType inetPton6 ip = .inet → inetPton4 ip = true) ∧
      (osmoIpStrType inetPton6 ip = .inet6 → inetPton6 ip = true) := by
  unfold osmoIpStrType
  split_ifs <;> simp [*]

/-- The text of a message with an IPv6 address is not accepted. -/
theorem sdpMsgFromSdpStr_inet6 (family : osmoIpStrType inetPton6 sdp.rtp.ip.val = .inet6)
    (noCr : '\r' ∉ sdp.rtp.ip.val) :
    (sdpMsgFromSdpStr inetPton6 (sdpMsgToSdpStr inetPton6 sdp)).2 ≠ .ok := by
  have nonempty : sdp.rtp.ip.val ≠ [] := by
    intro empty
    rw [empty] at family
    exact Af.noConfusion family
  have version : ipv inetPton6 sdp = '6' := by
    have ip : ipText sdp = sdp.rtp.ip.val := if_neg nonempty
    simp [ipv, ip, family]
  change (parseFrom inetPton6 {} _).2 ≠ _
  rw [sdpMsgToSdpStr_eq nonempty version, parseFrom_untilAddress noCr (by decide)]
  refine parseFrom_failed (show 'c' ≠ '\r' ∧ 'c' ≠ '\n' by decide) ?_
  rw [sdpParseLine_connection]
  exact sdpParseConnectionInfo_inet6 inetPton6 {} _ _

/-- The text of a message with an IPv4 address is accepted just when it has codecs and these can be
scanned. -/
theorem sdpMsgFromSdpStr_inet (af : sdp.rtp.af = .inet) (ipv4 : inetPton4 sdp.rtp.ip.val = true)
    (texts : ∀ codec ∈ sdp.audioCodecs.codec, codec.OnLine) :
    ((sdpMsgFromSdpStr inetPton6 (sdpMsgToSdpStr inetPton6 sdp)).2 = .ok ∧
      (sdpMsgFromSdpStr inetPton6 (sdpMsgToSdpStr inetPton6 sdp)).1.rtp = sdp.rtp) ↔
    sdp.audioCodecs.codec ≠ [] ∧ ∀ codec ∈ sdp.audioCodecs.codec, codec.scans = true := by
  obtain ⟨entries, listed, -, present⟩ := @listCodecs_types sdp.audioCodecs.codec {}
    (by simpa using sdp.audioCodecs.fits)
  change ((parseFrom inetPton6 {} _).2 = _ ∧ (parseFrom inetPton6 {} _).1.rtp = _) ↔ _
  rw [sdpMsgToSdpStr_eq (inetPton4_ne_nil ipv4) (ipv_eq_four ipv4), parseFrom_untilMedia ipv4]
  by_cases none : sdp.audioCodecs.codec = []
  · refine iff_of_false (fun accepted => ?_) (fun fit => fit.1 none)
    rw [none] at accepted
    refine parseFrom_failed (show 'm' ≠ '\r' ∧ 'm' ≠ '\n' by decide) ?_ accepted.1
    rw [sdpParseLine_media]
    exact sdpParseMediaDescription_nil
  · have lines := @parseFrom_codecs_cases { rtp := sdp.rtp, audioCodecs := entries } _ inetPton6 texts
      (ascii "a=" ++ (ascii "ptime:" ++ dText (orDefault sdp.ptime 20)) ++ crlf ++
        (if sdp.mode = .unset then [] else ascii "a=" ++ sdpModeStr sdp.mode ++ crlf)) present
    rw [parseFrom_media af none listed]
    split at lines
    · rename_i scans
      obtain ⟨codecs, lines⟩ := lines
      rw [lines, parseFrom_tail rfl]
      exact iff_of_true ⟨rfl, rfl⟩ ⟨none, scans⟩
    · rename_i unscanned
      exact iff_of_false (fun accepted => lines accepted.1) (fun fit => unscanned fit.2)

end Whole

/-- Which texts of `sdp_msg_to_sdp_str_buf()`, written into a buffer that is large enough,
`sdp_msg_from_sdp_str()` accepts with the same address and port, for messages with a valid address
of either family and any codecs: those of an IPv4 address and at least one codec, where each name
that is printed can be scanned.  Codecs may share a payload type, and have no name or no rate. -/
theorem sdpMsgFromSdpStr_accepts_iff (inetPton6 : Text → Bool)
    (plain : ∀ ip, inetPton6 ip = true → '\r' ∉ ip) (sdp : SdpMsg)
    (valid : sdp.rtp.af ≠ .unspec ∧ osmoIpStrType inetPton6 sdp.rtp.ip.val = sdp.rtp.af)
    (texts : ∀ codec ∈ sdp.audioCodecs.codec, codec.OnLine) (size : Nat)
    (room : (sdpMsgToSdpStrBuf inetPton6 size sdp).2 < size) :
    ((sdpMsgFromSdpStr inetPton6 (sdpMsgToSdpStrBuf inetPton6 size sdp).1).2 = .ok ∧
      (sdpMsgFromSdpStr inetPton6 (sdpMsgToSdpStrBuf inetPton6 size sdp).1).1.rtp = sdp.rtp) ↔
    (sdp.rtp.af = .inet ∧ sdp.audioCodecs.codec ≠ [] ∧
      ∀ codec ∈ sdp.audioCodecs.codec, codec.scans = true) := by
  have whole : (sdpMsgToSdpStrBuf inetPton6 size sdp).1 = sdpMsgToSdpStr inetPton6 sdp :=
    take_of_length_le (Nat.le_sub_one_of_lt room)
  obtain ⟨family, valid⟩ := valid
  rw [whole]
  cases af : sdp.rtp.af with
  | unspec => exact absurd af family
  | inet =>
      have ipv4 := (inetPton_of_family inetPton6 _).1 (af ▸ valid)
      rw [sdpMsgFromSdpStr_inet af ipv4 texts, and_iff_right rfl]
  | inet6 =>
      rw [af] at valid
      have noCr := plain _ ((inetPton_of_family inetPton6 _).2 valid)
      exact iff_of_false (fun accepted => sdpMsgFromSdpStr_inet6 valid noCr accepted.1)
        (fun cond => Af.noConfusion cond.1)

/-- An offer in which two codecs share a payload type, one without a rate and one without a name. -/
def sharedTypeOffer : SdpMsg where
  rtp := { af := .inet, ip := strlcpy 46 (ascii "10.0.0.1"), port := 16384 }
  audioCodecs :=
    { codec :=
        [{ payloadType := 112, subtypeName := strlcpy 16 (ascii "AMR")
           fmtp := strlcpy 256 (ascii "octet-align=1") },
         { payloadType := 112 }] }

theorem sharedTypeOffer_onLine : ∀ codec ∈ sharedTypeOffer.audioCodecs.codec, codec.OnLine := by
  intro codec member
  simp only [sharedTypeOffer, mem_cons, not_mem_nil, or_false] at member
  obtain rfl | rfl := member <;> exact ⟨by decide, by decide⟩

theorem sdpMsgFromSdpStr_accepts_sharedTypeOffer :
    (sharedTypeOffer.rtp.af ≠ .unspec ∧
      osmoIpStrType (fun _ => false) sharedTypeOffer.rtp.ip.val = sharedTypeOffer.rtp.af) ∧
      (∀ codec ∈ sharedTypeOffer.audioCodecs.codec, codec.OnLine) ∧
      (sdpMsgToSdpStrBuf (fun _ => false) 1024 sharedTypeOffer).2 < 1024 ∧
      (sdpMsgFromSdpStr (fun _ => false)
        (sdpMsgToSdpStrBuf (fun _ => false) 1024 sharedTypeOffer).1).2 = .ok := by
  have room : (sdpMsgToSdpStrBuf (fun _ => false) 1024 sharedTypeOffer).2 < 1024 := by
    decide +kernel
  have valid : sharedTypeOffer.rtp.af ≠ .unspec ∧
      osmoIpStrType (fun _ => false) sharedTypeOffer.rtp.ip.val = sharedTypeOffer.rtp.af := by
    decide
  have accepted := (sdpMsgFromSdpStr_accepts_iff (fun _ => false) (by simp) sharedTypeOffer valid
    sharedTypeOffer_onLine 1024 room).mpr ⟨rfl, by decide, by decide +kernel⟩
  exact ⟨valid, sharedTypeOffer_onLine, room, accepted.1⟩

/-- An offer of AMR and GSM full rate at an IPv6 address. -/
def ipv6Offer : SdpMsg :=
  { amrOffer with rtp := { af := .inet6, ip := strlcpy 46 (ascii "::1"), port := 16384 } }

/-- An offer at an IPv4 address without any codec. -/
def codeclessOffer : SdpMsg := { amrOffer with audioCodecs := {} }

/-- An offer whose parameters of AMR go on with a line of their own. -/
def crlfOffer : SdpMsg :=
  { amrOffer with
    audioCodecs :=
      { codec :=
          [{ payloadType := 112, subtypeName := strlcpy 16 (ascii "AMR"), rate := 8000
             fmtp := strlcpy 256 (ascii "octet-align=1" ++ crlf ++ ascii "c=IN IP4 10.9.9.9") }] } }

/-- The texts of a message with an IPv6 address and of one without codecs are rejected, and a line
break in the parameters of a codec can change the address. -/
theorem composed_text_not_read_back :
    (sdpMsgFromSdpStr (· = ascii "::1")
        (sdpMsgToSdpStrBuf (· = ascii "::1") 1024 ipv6Offer).1).2 = .enotsup ∧
      (sdpMsgFromSdpStr (· = ascii "::1")
        (sdpMsgToSdpStrBuf (· = ascii "::1") 1024 codeclessOffer).1).2 = .einval ∧
      (sdpMsgFromSdpStr (· = ascii "::1")
        (sdpMsgToSdpStrBuf (· = ascii "::1") 1024 crlfOffer).1).1.rtp ≠ crlfOffer.rtp ∧
      (sdpMsgToSdpStrBuf (· = ascii "::1") 1024 ipv6Offer).2 < 1024 ∧
      (sdpMsgToSdpStrBuf (· = ascii "::1") 1024 codeclessOffer).2 < 1024 ∧
      (sdpMsgToSdpStrBuf (· = ascii "::1") 1024 crlfOffer).2 < 1024 := by
  decide +kernel

end OsmoMsc.Sdp
