/-
Module: OsmoMsc.Sdp.Msg
Purpose: The SDP messages that the MSC exchanges with the MNCC peer and the media gateway: how
  `sdp_msg_to_sdp_str_buf()` composes the text and how `sdp_msg_from_sdp_str()` parses one
  (sdp_msg.c).  A pointer into the text is a suffix of it.  The parser gets the rest of the whole
  text for each line, as the code does, and looks beyond the line where the code does.
Trusted boundary: `inet_pton()` for IPv6 is a parameter; a write beyond a character array ends the
  parser with `overflow`
Main exports: AudioCodec, AudioCodecs, SdpMsg, sdpMsgToSdpStr, sdpMsgToSdpStrBuf,
  sdpAudioCodecsByPayloadType, sdpParseAttrib, sdpParseMediaDescription, sdpParseConnectionInfo,
  sdpMsgFromSdpStr
-/
import OsmoMsc.Library.CText

namespace OsmoMsc.Sdp

open Library Library.CText

/-! ### Messages -/

/-- `enum sdp_mode_e`. -/
inductive SdpMode where
  | unset
  | sendonly
  | recvonly
  | sendrecv
  | inactive
deriving DecidableEq, Repr

/-- `struct sdp_audio_codec`. -/
@[ext] structure AudioCodec where
  payloadType : UInt32 := 0
  subtypeName : CArr 16 := strlcpy 16 []
  rate : UInt32 := 0
  fmtp : CArr 256 := strlcpy 256 []
deriving DecidableEq, Repr

/-- The number of entries of `struct sdp_audio_codecs`. -/
def codecsMax : Nat := 16

theorem nil_fits : ([] : List AudioCodec).length ≤ codecsMax := by decide

/-- `struct sdp_audio_codecs`: the entries in use. -/
@[ext] structure AudioCodecs where
  codec : List AudioCodec := []
  fits : codec.length ≤ codecsMax := by first | exact nil_fits | decide
deriving DecidableEq, Repr

/-- The address families. -/
inductive Af where
  | unspec
  | inet
  | inet6
deriving DecidableEq, Repr

/-- `struct osmo_sockaddr_str`. -/
structure SockaddrStr where
  af : Af := .unspec
  ip : CArr 46 := strlcpy 46 []
  port : UInt16 := 0
deriving DecidableEq, Repr

/-- `struct sdp_msg`, without the bearer services, which are not part of the text. -/
structure SdpMsg where
  rtp : SockaddrStr := {}
  ptime : UInt32 := 0
  mode : SdpMode := .unset
  audioCodecs : AudioCodecs := {}
deriving DecidableEq, Repr

/-! ### Addresses -/

/-- `inet_pton(AF_INET)`, from within the text: how many octets were begun, the value of the last
one, and whether it has a digit yet. -/
def inetPton4Go : Text → Nat → Nat → Bool → Bool
  | [], octets, _, _ => octets = 4
  | c :: s, octets, value, sawDigit =>
      if c.isDigit then
        let new := value * 10 + (c.toNat - '0'.toNat)
        if sawDigit && value = 0 then false
        else if 255 < new then false
        else if sawDigit then inetPton4Go s octets new true
        else if 4 < octets + 1 then false
        else inetPton4Go s (octets + 1) new true
      else if c = '.' ∧ sawDigit = true then
        if octets = 4 then false else inetPton4Go s octets 0 false
      else false

/-- Whether `inet_pton(AF_INET)` accepts the text. -/
def inetPton4 (ip : Text) : Bool := inetPton4Go ip 0 0 false

section Inet6

variable (inetPton6 : Text → Bool)

/-- `osmo_ip_str_type()`. -/
def osmoIpStrType (ip : Text) : Af :=
  if ip = [] then .unspec
  else if inetPton4 ip then .inet
  else if inetPton6 ip then .inet6
  else .unspec

/-- `osmo_sockaddr_str_from_str()`. -/
def osmoSockaddrStrFromStr (ip : Text) (port : UInt16) : SockaddrStr where
  port := port
  ip := strlcpy 46 ip
  af := osmoIpStrType inetPton6 ip

/-! ### Composing -/

/-- `sdp_mode_str` -/
def sdpModeStr : SdpMode → Text
  | .unset => ascii "-"
  | .sendonly => ascii "sendonly"
  | .recvonly => ascii "recvonly"
  | .sendrecv => ascii "sendrecv"
  | .inactive => ascii "inactive"

def crlf : Text := ['\r', '\n']

/-- `rate > 0 ? rate : 8000` and the like. -/
def orDefault (value default : UInt32) : UInt32 := if 0 < value then value else default

/-- The lines for a codec; a codec without a name has none. -/
def codecLines (codec : AudioCodec) : Text :=
  if codec.subtypeName.val = [] then []
  else
    ascii "a=rtpmap:" ++ dText codec.payloadType ++ ' ' :: codec.subtypeName.val ++ '/' ::
        dText (orDefault codec.rate 8000) ++ crlf ++
      if codec.fmtp.val = [] then []
      else ascii "a=fmtp:" ++ dText codec.payloadType ++ ' ' :: codec.fmtp.val ++ crlf

/-- The address that is printed. -/
def ipText (sdp : SdpMsg) : Text :=
  if sdp.rtp.ip.val = [] then ascii "0.0.0.0" else sdp.rtp.ip.val

/-- The version of IP that is printed. -/
def ipv (sdp : SdpMsg) : Char := if osmoIpStrType inetPton6 (ipText sdp) = .inet6 then '6' else '4'

/-- The payload types on the line `m=`. -/
def payloadTypes (codecs : List AudioCodec) : Text :=
  codecs.flatMap fun codec => ' ' :: dText codec.payloadType

/-- The text of `sdp_msg_to_sdp_str_buf()`. -/
def sdpMsgToSdpStr (sdp : SdpMsg) : Text :=
  ascii "v=0" ++ crlf ++
  (ascii "o=OsmoMSC 0 0 IN IP" ++ ipv inetPton6 sdp :: ' ' :: ipText sdp ++ crlf) ++
  (ascii "s=GSM Call" ++ crlf) ++
  (ascii "c=IN IP" ++ ipv inetPton6 sdp :: ' ' :: ipText sdp ++ crlf) ++
  (ascii "t=0 0" ++ crlf) ++
  (ascii "m=audio " ++ decText sdp.rtp.port.toNat ++ ascii " RTP/AVP" ++
    payloadTypes sdp.audioCodecs.codec ++ crlf) ++
  sdp.audioCodecs.codec.flatMap codecLines ++
  (ascii "a=ptime:" ++ dText (orDefault sdp.ptime 20) ++ crlf) ++
  if sdp.mode = .unset then [] else ascii "a=" ++ sdpModeStr sdp.mode ++ crlf

/-- `sdp_msg_to_sdp_str_buf()`: what stands in the buffer, and `chars_needed`. -/
def sdpMsgToSdpStrBuf (size : Nat) (sdp : SdpMsg) : Text × Nat :=
  ((sdpMsgToSdpStr inetPton6 sdp).take (size - 1), (sdpMsgToSdpStr inetPton6 sdp).length)

end Inet6

/-! ### Parsing -/

/-- What the parsers return. -/
inductive Rc where
  | ok
  | einval
  | enospc
  | enotsup
  /-- A character array is written beyond its end. -/
  | overflow
deriving DecidableEq, Repr

variable (sdp : SdpMsg) (src : Text)

/-- `sdp_msg_line_end()`. -/
def sdpMsgLineEnd : Text :=
  ((strchr '\r' src).or (strchr '\n' src)).getD []

/-- A pointer is before another one. -/
def before (p q : Text) : Bool := q.length < p.length

/-- The next entry is used. -/
def AudioCodecs.add (ac : AudioCodecs) (codec : AudioCodec)
    (room : ac.codec.length < codecsMax) : AudioCodecs :=
  ⟨ac.codec ++ [codec], by rw [List.length_append, List.length_singleton]; omega⟩

/-- `sdp_audio_codecs_by_payload_type()` with `create`: the codecs and the entry to be used. -/
def sdpAudioCodecsByPayloadType (ac : AudioCodecs) (payloadType : UInt32) :
    Option (AudioCodecs × Nat) :=
  match ac.codec.findIdx? (·.payloadType = payloadType) with
  | some i => some (ac, i)
  | none =>
      if room : ac.codec.length < codecsMax then
        some (ac.add { payloadType, rate := 8000 } room, ac.codec.length)
      else none

/-- The entry a pointer points to is changed. -/
def AudioCodecs.modify (ac : AudioCodecs) (i : Nat) (f : AudioCodec → AudioCodec) : AudioCodecs :=
  ⟨ac.codec.modify i f, by rw [List.length_modify]; exact ac.fits⟩

/-- The codecs of a message are replaced. -/
def SdpMsg.setCodecs (ac : AudioCodecs) : SdpMsg := { sdp with audioCodecs := ac }

/-- `/%u` -/
def scanSlashU : Text → Option (UInt32 × Text)
  | '/' :: s => scanU s
  | _ => none

/-- `" %31[^/]/%u/%u"`: the name, the rate and the channels, as far as the text matches. -/
def scanRtpmap (s : Text) : Option (Text × Option UInt32 × Option UInt32) :=
  let s := s.dropWhile isSpace
  let name := (s.takeWhile (· ≠ '/')).take 31
  if name = [] then none
  else
    match scanSlashU (s.drop name.length) with
    | none => some (name, none, none)
    | some (rate, s) => some (name, some rate, (scanSlashU s).map Prod.fst)

/-- A character array is written, if the text fits. -/
def store (size : Nat) (text : Text) : Option (CArr size) :=
  if fits : text.length < size then some ⟨text, fits⟩ else none

/-- The attribute `rtpmap` of `sdp_parse_attrib()`. -/
def sdpParseRtpmap : SdpMsg × Rc :=
  match scanU (src.drop (ascii "rtpmap:").length), strchr ' ' src with
  | none, _ | some _, none => (sdp, .einval)
  | some (payloadType, _), some audioName =>
      if before audioName (sdpMsgLineEnd src) = false then (sdp, .einval)
      else
        match sdpAudioCodecsByPayloadType sdp.audioCodecs payloadType with
        | none => (sdp, .enospc)
        | some (ac, i) =>
            match scanRtpmap audioName with
            | none => (sdp.setCodecs ac, .einval)
            | some (name, rate, channels) =>
                match store 16 name with
                | none => (sdp.setCodecs ac, .overflow)
                | some subtypeName =>
                    let named := ac.modify i fun codec =>
                      { codec with subtypeName, rate := rate.getD codec.rate }
                    (sdp.setCodecs named, if channels.getD 1 = 1 then .ok else .enotsup)

/-- The attribute `fmtp` of `sdp_parse_attrib()`. -/
def sdpParseFmtp : SdpMsg × Rc :=
  let lineEnd := sdpMsgLineEnd src
  match scanU (src.drop (ascii "fmtp:").length), strchr ' ' src with
  | none, _ | some _, none => (sdp, .einval)
  | some (payloadType, _), some space =>
      let fmtpStr := space.tail
      if before fmtpStr lineEnd = false then (sdp, .einval)
      else
        match sdpAudioCodecsByPayloadType sdp.audioCodecs payloadType with
        | none => (sdp, .enospc)
        | some (ac, i) =>
            match store 256 (fmtpStr.take (fmtpStr.length - lineEnd.length)) with
            | none => (sdp.setCodecs ac, .overflow)
            | some fmtp => (sdp.setCodecs (ac.modify i fun codec => { codec with fmtp }), .ok)

/-- The attribute `ptime` of `sdp_parse_attrib()`. -/
def sdpParsePtime : SdpMsg × Rc :=
  match scanU (src.drop (ascii "ptime:").length) with
  | none => (sdp, .einval)
  | some (ptime, _) => ({ sdp with ptime }, .ok)

/-- `sdp_parse_attrib()`. -/
def sdpParseAttrib : SdpMsg × Rc :=
  let startsWith := fun start : Text => start.isPrefixOf src
  if startsWith (ascii "rtpmap:") then sdpParseRtpmap sdp src
  else if startsWith (ascii "fmtp:") then sdpParseFmtp sdp src
  else if startsWith (ascii "ptime:") then sdpParsePtime sdp src
  else if startsWith (ascii "rtcp:") then (sdp, .ok)
  else if startsWith (sdpModeStr .sendrecv) then ({ sdp with mode := .sendrecv }, .ok)
  else if startsWith (sdpModeStr .sendonly) then ({ sdp with mode := .sendonly }, .ok)
  else if startsWith (sdpModeStr .recvonly) then ({ sdp with mode := .recvonly }, .ok)
  else if startsWith (sdpModeStr .inactive) then ({ sdp with mode := .inactive }, .ok)
  else (sdp, .ok)

/-- `sdp_msg_payload_type_names` -/
def sdpMsgPayloadTypeNames : UInt32 → Option (CArr 16)
  | 0 => some (strlcpy 16 (ascii "PCMU"))
  | 3 => some (strlcpy 16 (ascii "GSM"))
  | 8 => some (strlcpy 16 (ascii "PCMA"))
  | 18 => some (strlcpy 16 (ascii "G729"))
  | 110 => some (strlcpy 16 (ascii "GSM-EFR"))
  | 111 => some (strlcpy 16 (ascii "GSM-HR-08"))
  | 112 => some (strlcpy 16 (ascii "AMR"))
  | 113 => some (strlcpy 16 (ascii "AMR-WB"))
  | _ => none

def skipSpaces (s : Text) : Text := s.dropWhile (· = ' ')

/-- The pointer moves to the word after the next space, `n` times; `none` if that is not on the
line. -/
def skipWords (lineEnd : Text) : Nat → Text → Option Text
  | 0, p => some p
  | n + 1, p =>
      match strchr ' ' p with
      | none => none
      | some space =>
          if before (skipSpaces space) lineEnd then skipWords lineEnd n (skipSpaces space) else none

/-- The loop over the payload types; each turn moves the pointer. -/
def sdpParsePayloadTypes (lineEnd : Text) : Nat → SdpMsg → Text → SdpMsg × Rc
  | 0, sdp, _ => (sdp, .ok)
  | fuel + 1, sdp, p =>
      if before p lineEnd = false then (sdp, .ok)
      else
        match scanU p with
        | none => (sdp, .einval)
        | some (payloadType, _) =>
            match sdpAudioCodecsByPayloadType sdp.audioCodecs payloadType with
            | none => (sdp, .enospc)
            | some (ac, i) =>
                let named := ac.modify i fun codec =>
                  { codec with
                    subtypeName :=
                      (sdpMsgPayloadTypeNames codec.payloadType).getD codec.subtypeName }
                sdpParsePayloadTypes lineEnd fuel (sdp.setCodecs named)
                  (skipSpaces ((strchr ' ' p).getD lineEnd))

/-- `sdp_parse_media_description()`. -/
def sdpParseMediaDescription : SdpMsg × Rc :=
  let lineEnd := sdpMsgLineEnd src
  if (ascii "audio").isPrefixOf src = false then (sdp, .enotsup)
  else
    match scanU (src.drop (ascii "audio").length) with
    | none => (sdp, .enotsup)
    | some (port, _) =>
        if 0xffff < port.toNat then (sdp, .einval)
        else
          let sdp := { sdp with rtp := { sdp.rtp with port := port.toUInt16 } }
          match skipWords lineEnd 3 src with
          | none => (sdp, .einval)
          | some p => sdpParsePayloadTypes lineEnd (p.length + 1) sdp p

/-- `%s` of `sscanf()`: a word and what follows it. -/
def scanWord (s : Text) : Option (Text × Text) :=
  let s := s.dropWhile isSpace
  if s.takeWhile (! isSpace ·) = [] then none
  else some (s.takeWhile (! isSpace ·), s.dropWhile (! isSpace ·))

/-- `sdp_parse_connection_info()`. -/
def sdpParseConnectionInfo (inetPton6 : Text → Bool) (sdp : SdpMsg) (src : Text) : SdpMsg × Rc :=
  if (ascii "IN").isPrefixOf src = false then (sdp, .einval)
  else
    match scanWord (src.drop (ascii "IN").length) with
    | none => (sdp, .einval)
    | some (ipv, s) =>
        if 10 ≤ ipv.length then (sdp, .overflow)
        else
          match scanWord s with
          | none => (sdp, .einval)
          | some (addrStr, _) =>
              if 46 ≤ addrStr.length then (sdp, .overflow)
              else if ipv ≠ ascii "IP4" then (sdp, .enotsup)
              else
                ({ sdp with rtp := osmoSockaddrStrFromStr inetPton6 addrStr sdp.rtp.port }, .ok)

/-- What `sdp_msg_from_sdp_str()` does with a line, from after its `=`. -/
def sdpParseLine (inetPton6 : Text → Bool) (attrib : Char) (sdp : SdpMsg) (src : Text) :
    SdpMsg × Rc :=
  if attrib = 'a' then sdpParseAttrib sdp src
  else if attrib = 'm' then sdpParseMediaDescription sdp src
  else if attrib = 'c' then sdpParseConnectionInfo inetPton6 sdp src
  else (sdp, .ok)

/-- The loop of `sdp_msg_from_sdp_str()`; each turn moves the pointer. -/
def sdpMsgFromSdpStrLoop (inetPton6 : Text → Bool) : Nat → SdpMsg → Text → SdpMsg × Rc
  | 0, sdp, _ => (sdp, .ok)
  | _ + 1, sdp, [] => (sdp, .ok)
  | fuel + 1, sdp, c :: rest =>
      let nextLine := fun (sdp : SdpMsg) (p : Text) =>
        match strstr crlf p with
        | none => (sdp, .ok)
        | some lineEnd => sdpMsgFromSdpStrLoop inetPton6 fuel sdp lineEnd.tail
      if c = '\r' ∨ c = '\n' then sdpMsgFromSdpStrLoop inetPton6 fuel sdp rest
      else
        match rest with
        | '=' :: src =>
            match sdpParseLine inetPton6 c sdp src with
            | (sdp, .ok) => nextLine sdp src
            | failed => failed
        | _ => nextLine sdp (c :: rest)

/-- `sdp_msg_from_sdp_str()`. -/
def sdpMsgFromSdpStr (inetPton6 : Text → Bool) (src : Text) : SdpMsg × Rc :=
  sdpMsgFromSdpStrLoop inetPton6 src.length {} src

end OsmoMsc.Sdp
