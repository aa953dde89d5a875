/-
Module: OsmoMsc.Sdp.Bounds
Purpose: Which texts make `sdp_msg_from_sdp_str()` write beyond a character array.  None of its
  conversions is bounded by the array that it fills: `%31[^/]` fills `subtype_name[16]`, a fmtp is
  copied with the length of its line into `fmtp[256]`, and `%s` fills `ipv[10]` and `addr_str[46]`.
Trusted boundary: that of OsmoMsc.Sdp.Msg
Main exports: LineFits, sdpLines, Untouched, sdpMsgFromSdpStr_bounded
-/
import OsmoMsc.Sdp.Msg

namespace OsmoMsc.Sdp

open Library Library.CText

/-! ### A line -/

/-- The text from the first space on. -/
def atSpace (src : Text) : Text := (strchr ' ' src).getD []

/-- The name of a `rtpmap` has room.  It ends at a slash, which may stand on a later line. -/
def NameFits (src : Text) : Prop :=
  (((atSpace src).dropWhile isSpace).takeWhile (· ≠ '/')).length < 16

/-- The parameters of a `fmtp` have room. -/
def ParamsFit (src : Text) : Prop :=
  (atSpace src).tail.length - (sdpMsgLineEnd src).length < 256

/-- The two words after the `IN` of a `c=` have room. -/
def WordsFit (src : Text) : Prop :=
  ∀ ipv rest, scanWord (src.drop (ascii "IN").length) = some (ipv, rest) →
    ipv.length < 10 ∧ ∀ addrStr rest', scanWord rest = some (addrStr, rest') → addrStr.length < 46

/-- What stands after the `=` of a line has room in the arrays it is read into. -/
def LineFits (attrib : Char) (src : Text) : Prop :=
  if attrib = 'a' then
    if (ascii "rtpmap:").isPrefixOf src = true then NameFits src
    else (ascii "fmtp:").isPrefixOf src = true → ParamsFit src
  else attrib = 'c' → (ascii "IN").isPrefixOf src = true → WordsFit src

variable {sdp : SdpMsg} {src : Text} {inetPton6 : Text → Bool} {attrib : Char}

/-- The message is as before, but for an entry that is still empty. -/
def Untouched (old new : SdpMsg) : Prop :=
  ∃ ac, new = old.setCodecs ac ∧ (ac = old.audioCodecs ∨
    ∃ payloadType, ac.codec = old.audioCodecs.codec ++ [{ payloadType, rate := 8000 }])

theorem Untouched.refl (sdp : SdpMsg) : Untouched sdp sdp := ⟨sdp.audioCodecs, rfl, .inl rfl⟩

theorem untouched_byPayloadType {ac : AudioCodecs} {payloadType : UInt32} {i : Nat}
    (entry : sdpAudioCodecsByPayloadType sdp.audioCodecs payloadType = some (ac, i)) :
    Untouched sdp (sdp.setCodecs ac) := by
  refine ⟨ac, rfl, ?_⟩
  unfold sdpAudioCodecsByPayloadType at entry
  grind [AudioCodecs.add]

/-- What has room is not written beyond an array; what has no room is, or it is rejected before it
changes anything. -/
def Bounded (old : SdpMsg) (parsed : SdpMsg × Rc) (fits : Prop) : Prop :=
  (fits → parsed.2 ≠ .overflow) ∧
    (¬fits → parsed.2 = .overflow ∨ parsed.2 ≠ .ok ∧ Untouched old parsed.1)

theorem store_eq_none_iff {size : Nat} {text : Text} :
    store size text = none ↔ size ≤ text.length := by
  simp [store]

/-- The scan takes more than has room, so that a name that it cuts does not fit either. -/
theorem store_name {s name : Text} {numbers : Option UInt32 × Option UInt32}
    (scanned : scanRtpmap s = some (name, numbers)) :
    store 16 name = none ↔ ¬((s.dropWhile isSpace).takeWhile (· ≠ '/')).length < 16 := by
  have cutName : name = ((s.dropWhile isSpace).takeWhile (· ≠ '/')).take 31 := by
    unfold scanRtpmap at scanned
    grind
  rw [store_eq_none_iff, cutName, List.length_take]
  omega

theorem sdpParseRtpmap_bounded : Bounded sdp (sdpParseRtpmap sdp src) (NameFits src) := by
  unfold sdpParseRtpmap
  split
  · simp [Bounded, Untouched.refl]
  · simp [Bounded, Untouched.refl]
  · rename_i audioName _ found
    have space : atSpace src = audioName := by simp [atSpace, found]
    rw [NameFits, space, Bounded]
    split
    · grind [Untouched.refl]
    · grind [Untouched.refl, store_name, untouched_byPayloadType]

theorem sdpParseFmtp_bounded : Bounded sdp (sdpParseFmtp sdp src) (ParamsFit src) := by
  unfold sdpParseFmtp ParamsFit atSpace Bounded
  grind [Untouched.refl, store_eq_none_iff]

theorem sdpParseConnectionInfo_bounded :
    Bounded sdp (sdpParseConnectionInfo inetPton6 sdp src)
      ((ascii "IN").isPrefixOf src = true → WordsFit src) := by
  unfold sdpParseConnectionInfo WordsFit Bounded
  grind [Untouched.refl]

/-- A line `m=` has names of its own only. -/
theorem sdpParsePayloadTypes_bounded (lineEnd : Text) (fuel : Nat) (sdp : SdpMsg) (p : Text) :
    (sdpParsePayloadTypes lineEnd fuel sdp p).2 ≠ .overflow := by
  fun_induction sdpParsePayloadTypes lineEnd fuel sdp p <;> simp_all

theorem sdpParseLine_bounded :
    Bounded sdp (sdpParseLine inetPton6 attrib sdp src) (LineFits attrib src) := by
  have rtpmap := @sdpParseRtpmap_bounded sdp src
  have fmtp := @sdpParseFmtp_bounded sdp src
  have words := @sdpParseConnectionInfo_bounded sdp src inetPton6
  unfold Bounded at *
  unfold sdpParseLine LineFits
  split
  · unfold sdpParseAttrib
    grind [sdpParsePtime]
  · split
    · unfold sdpParseMediaDescription
      grind [sdpParsePayloadTypes_bounded]
    · grind

/-! ### A text -/

/-- The lines of a text that `sdp_msg_from_sdp_str()` parses unless it rejects one before: the first
character of each, and the text from after its `=`. -/
def sdpLines : Nat → Text → List (Char × Text)
  | 0, _ => []
  | _ + 1, [] => []
  | fuel + 1, c :: rest =>
      let nextLine := fun p : Text =>
        match strstr crlf p with
        | none => []
        | some lineEnd => sdpLines fuel lineEnd.tail
      if c = '\r' ∨ c = '\n' then sdpLines fuel rest
      else
        match rest with
        | '=' :: src => (c, src) :: nextLine src
        | _ => nextLine (c :: rest)

theorem sdpMsgFromSdpStrLoop_bounded (inetPton6 : Text → Bool) (fuel : Nat) (sdp : SdpMsg)
    (p : Text) :
    ((∀ line ∈ sdpLines fuel p, LineFits line.1 line.2) →
        (sdpMsgFromSdpStrLoop inetPton6 fuel sdp p).2 ≠ .overflow) ∧
      ((sdpMsgFromSdpStrLoop inetPton6 fuel sdp p).2 = .ok →
        ∀ line ∈ sdpLines fuel p, LineFits line.1 line.2) := by
  -- the lines of the text are told apart along the turns of the loop
  induction fuel generalizing sdp p with
  | zero => simp [sdpLines, sdpMsgFromSdpStrLoop]
  | succ fuel ih =>
      cases p with
      | nil => simp [sdpLines, sdpMsgFromSdpStrLoop]
      | cons c rest =>
          unfold sdpLines sdpMsgFromSdpStrLoop
          by_cases blank : c = '\r' ∨ c = '\n'
          · rw [if_pos blank, if_pos blank]
            exact ih sdp rest
          · rw [if_neg blank, if_neg blank]
            split
            · rename_i src
              have line := @sdpParseLine_bounded sdp src inetPton6 c
              simp only [List.forall_mem_cons]
              cases parsed : sdpParseLine inetPton6 c sdp src with
              | mk sdp' rc =>
                  rw [parsed] at line
                  cases rc with
                  | ok =>
                      have fits : LineFits c src := by_contra fun long => by simpa using line.2 long
                      simp only [fits, true_and]
                      cases strstr crlf src with
                      | none => simp
                      | some lineEnd => exact ih sdp' lineEnd.tail
                  | overflow => exact ⟨fun fits => (line.1 fits.1 rfl).elim, fun ok => by cases ok⟩
                  | einval | enospc | enotsup => simp
            · dsimp only
              cases strstr crlf (c :: rest) with
              | none => simp
              | some lineEnd => simpa using ih sdp lineEnd.tail

end OsmoMsc.Sdp
