/-
Module: OsmoMsc.Rtp.Stream
Purpose: The peer of an RTP stream (rtp_stream.c): its remote address and codecs, what of them the MGW
  has been told, and the comparison of codec lists (sdp_msg.c) that decides whether a new list is
  taken over at all.
Trusted boundary: none
Main exports: SockAddr, SdpAudioCodec, sdpAudioCodecsCmp, RtpStream, rtpStreamSetRemoteAddr,
  rtpStreamSetCodecs, rtpStreamCommit, sdpAudioCodecsCmp_exact_iff
-/
import Mathlib.Data.Fintype.EquivFin
import Mathlib.Data.List.Perm.Subperm
import Mathlib.Tactic.Common

namespace OsmoMsc.Rtp

/-- `struct osmo_sockaddr_str`. -/
structure SockAddr where
  ip : Nat := 0
  port : Nat := 0
deriving DecidableEq, Repr

/-- `osmo_sockaddr_str_is_nonzero()`. -/
def SockAddr.isNonzero (addr : SockAddr) : Bool := addr.ip ≠ 0 && addr.port ≠ 0

/-! ### Codecs -/

/-- `struct sdp_audio_codec`. -/
structure SdpAudioCodec where
  payloadType : Nat
  subtypeName : List Char
  rate : Nat := 8000
  fmtp : List Char := []
deriving DecidableEq, Repr

/-- `sdp_audio_codec_cmp()` returns zero. -/
def sdpAudioCodecCmp (a b : SdpAudioCodec) (cmpFmtp cmpPayloadType : Bool) : Bool :=
  a.subtypeName = b.subtypeName && a.rate = b.rate && (!cmpFmtp || a.fmtp = b.fmtp) &&
    (!cmpPayloadType || a.payloadType = b.payloadType)

/-- `sdp_audio_codecs_cmp()` returns zero: the lists are of one length, their first codecs match, and
each codec of the first list has a match in the second. -/
def sdpAudioCodecsCmp (a b : List SdpAudioCodec) (cmpFmtp cmpPayloadType : Bool) : Bool :=
  match a, b with
  | [], [] => true
  | firstA :: restA, firstB :: restB =>
      restA.length = restB.length && sdpAudioCodecCmp firstA firstB cmpFmtp cmpPayloadType &&
        (firstA :: restA).all fun codecA =>
          (firstB :: restB).any fun codecB =>
            sdpAudioCodecCmp codecA codecB cmpFmtp cmpPayloadType
  | _, _ => false

theorem sdpAudioCodecCmp_comm (a b : SdpAudioCodec) (cmpFmtp cmpPayloadType : Bool) :
    sdpAudioCodecCmp a b cmpFmtp cmpPayloadType = sdpAudioCodecCmp b a cmpFmtp cmpPayloadType := by
  simp only [sdpAudioCodecCmp, eq_comm]

/-- Against a list of one codec the order of the lists does not matter. -/
theorem sdpAudioCodecsCmp_singleton_comm (codecs : List SdpAudioCodec) (codec : SdpAudioCodec)
    (cmpFmtp cmpPayloadType : Bool) :
    sdpAudioCodecsCmp codecs [codec] cmpFmtp cmpPayloadType =
      sdpAudioCodecsCmp [codec] codecs cmpFmtp cmpPayloadType := by
  match codecs with
  | [] => rfl
  | [other] => simp [sdpAudioCodecsCmp, sdpAudioCodecCmp_comm other codec]
  | first :: second :: rest => simp [sdpAudioCodecsCmp]

/-! ### The stream -/

/-- `enum rtp_stream_state`. -/
inductive RtpStreamState where
  | uninitialized
  | establishing
  | established
  | discarding
deriving DecidableEq, Repr

/-- `struct rtp_stream`, as far as its peer goes. -/
structure RtpStream where
  state : RtpStreamState := .uninitialized
  remote : SockAddr := {}
  remoteSentToMgw : Bool := false
  codecs : List SdpAudioCodec := []
  codecsKnown : Bool := false
  codecsSentToMgw : Bool := false
  modeSentToMgw : Bool := false
  useOsmux : Bool := false
  /-- `none` for a negative number. -/
  remoteOsmuxCid : Option Nat := none
  remoteOsmuxCidSentToMgw : Bool := false
  /-- A CI is set up at the MGW endpoint. -/
  ci : Bool := false
deriving DecidableEq, Repr

/-- What a stream sends to: its remote address and codecs. -/
structure RtpPeer where
  remote : SockAddr := {}
  codecs : List SdpAudioCodec := []
deriving DecidableEq, Repr

def RtpStream.peer (rtps : RtpStream) : RtpPeer := { remote := rtps.remote, codecs := rtps.codecs }

/-- An established stream has to be established again for what changes. -/
def RtpStream.reestablish (rtps : RtpStream) : RtpStream :=
  if rtps.state = .established then { rtps with state := .establishing } else rtps

/-- `rtp_stream_set_remote_addr()`. -/
def rtpStreamSetRemoteAddr (rtps : RtpStream) (addr : SockAddr) : RtpStream :=
  if rtps.remote = addr then rtps
  else { rtps.reestablish with remote := addr, remoteSentToMgw := false }

/-- `rtp_stream_set_codecs()`. -/
def rtpStreamSetCodecs (rtps : RtpStream) (codecs : List SdpAudioCodec) : RtpStream :=
  if codecs.isEmpty || sdpAudioCodecsCmp rtps.codecs codecs false true then rtps
  else { rtps.reestablish with codecs := codecs, codecsKnown := true, codecsSentToMgw := false }

/-- `rtp_stream_set_one_codec()`. -/
def rtpStreamSetOneCodec (rtps : RtpStream) (codec : SdpAudioCodec) : RtpStream :=
  rtpStreamSetCodecs rtps [codec]

/-- `rtp_stream_do_mdcx()`; `none` if it returns an error. -/
def rtpStreamDoMdcx (rtps : RtpStream) : Option RtpStream :=
  if rtps.ci then
    some { rtps with
      codecsSentToMgw := rtps.codecsKnown || rtps.codecsSentToMgw
      remoteSentToMgw := rtps.remote.isNonzero || rtps.remoteSentToMgw
      modeSentToMgw := true
      remoteOsmuxCidSentToMgw :=
        (rtps.useOsmux && rtps.remoteOsmuxCid.isSome) || rtps.remoteOsmuxCidSentToMgw }
  else none

/-- `rtp_stream_commit()`; `none` if it returns an error. -/
def rtpStreamCommit (rtps : RtpStream) : Option RtpStream :=
  if !rtps.remote.isNonzero || !rtps.codecsKnown then none
  else if rtps.remoteSentToMgw && rtps.codecsSentToMgw && rtps.modeSentToMgw then some rtps
  else rtpStreamDoMdcx rtps

/-- The stream after a call of `rtp_stream_commit()` whose result nobody looks at. -/
def RtpStream.commit (rtps : RtpStream) : RtpStream := (rtpStreamCommit rtps).getD rtps

section

variable (rtps : RtpStream)
include rtps

@[simp] theorem RtpStream.codecs_reestablish : rtps.reestablish.codecs = rtps.codecs := by
  unfold RtpStream.reestablish
  split <;> rfl

@[simp] theorem RtpStream.remote_reestablish : rtps.reestablish.remote = rtps.remote := by
  unfold RtpStream.reestablish
  split <;> rfl

@[simp] theorem remote_rtpStreamSetRemoteAddr (addr : SockAddr) :
    (rtpStreamSetRemoteAddr rtps addr).remote = addr := by
  unfold rtpStreamSetRemoteAddr
  split
  · assumption
  · rfl

@[simp] theorem codecs_rtpStreamSetRemoteAddr (addr : SockAddr) :
    (rtpStreamSetRemoteAddr rtps addr).codecs = rtps.codecs := by
  unfold rtpStreamSetRemoteAddr
  split <;> simp

@[simp] theorem remote_rtpStreamSetCodecs (codecs : List SdpAudioCodec) :
    (rtpStreamSetCodecs rtps codecs).remote = rtps.remote := by
  unfold rtpStreamSetCodecs
  split <;> simp

/-- Committing tells the MGW about the peer and leaves the peer as it is. -/
theorem RtpStream.commit_eq_or : rtps.commit = rtps ∨ rtpStreamDoMdcx rtps = some rtps.commit := by
  unfold RtpStream.commit rtpStreamCommit
  split
  · exact .inl rfl
  · split
    · exact .inl rfl
    · cases sent : rtpStreamDoMdcx rtps with
      | none => exact .inl rfl
      | some rtps' => exact .inr rfl

@[simp] theorem RtpStream.remote_commit : rtps.commit.remote = rtps.remote := by
  rcases rtps.commit_eq_or with same | sent
  · rw [same]
  · obtain ⟨-, eq⟩ := Option.ite_none_right_eq_some.mp sent
    rw [← Option.some.inj eq]

@[simp] theorem RtpStream.codecs_commit : rtps.commit.codecs = rtps.codecs := by
  rcases rtps.commit_eq_or with same | sent
  · rw [same]
  · obtain ⟨-, eq⟩ := Option.ite_none_right_eq_some.mp sent
    rw [← Option.some.inj eq]

end

/-- The codecs of a stream can be set back to `old`: they are these, or one codec that differs. -/
def Restorable (old : List SdpAudioCodec) (rtps : RtpStream) : Prop :=
  rtps.codecs = old ∨
    ∃ codec, rtps.codecs = [codec] ∧ sdpAudioCodecsCmp old [codec] false true = false

theorem restorable_setOneCodec (rtps : RtpStream) (codec : SdpAudioCodec) :
    Restorable rtps.codecs (rtpStreamSetOneCodec rtps codec) := by
  unfold rtpStreamSetOneCodec rtpStreamSetCodecs
  split
  · exact .inl rfl
  · rename_i differs
    exact .inr ⟨codec, rfl, by simpa using differs⟩

/-- Setting the old codecs again brings them back, if there were any. -/
theorem Restorable.codecs_setCodecs {old : List SdpAudioCodec} {rtps : RtpStream}
    (restorable : Restorable old rtps) (some' : old ≠ []) :
    (rtpStreamSetCodecs rtps old).codecs = old := by
  unfold rtpStreamSetCodecs
  rcases restorable with same | ⟨codec, single, differs⟩
  · split
    · exact same
    · rfl
  · rw [sdpAudioCodecsCmp_singleton_comm] at differs
    simp [single, differs, some']

/-! ### Codec lists as sets of codecs -/

/-- What of a codec the flags have compared. -/
def SdpAudioCodec.compared (cmpFmtp cmpPayloadType : Bool) (codec : SdpAudioCodec) : SdpAudioCodec :=
  { codec with
    fmtp := if cmpFmtp then codec.fmtp else []
    payloadType := if cmpPayloadType then codec.payloadType else 0 }

def comparedCodecs (cmpFmtp cmpPayloadType : Bool) (codecs : List SdpAudioCodec) :
    List SdpAudioCodec :=
  codecs.map (·.compared cmpFmtp cmpPayloadType)

variable {cmpFmtp cmpPayloadType : Bool}

section Compared

variable (a b : List SdpAudioCodec)

/-- The lists have the same first codec and are equal as multisets of codecs. -/
def SameCodecs : Prop := a.head? = b.head? ∧ a.Perm b

/-- What the comparison looks at: the lengths, the first codecs, and one inclusion. -/
def Covers : Prop := a.length = b.length ∧ a.head? = b.head? ∧ a ⊆ b

/-- A result of zero says that the lists are the same, and says it in either order of them. -/
structure CmpExact (cmpFmtp cmpPayloadType : Bool) : Prop where
  same : sdpAudioCodecsCmp a b cmpFmtp cmpPayloadType = true ↔
    SameCodecs (comparedCodecs cmpFmtp cmpPayloadType a) (comparedCodecs cmpFmtp cmpPayloadType b)
  comm : sdpAudioCodecsCmp a b cmpFmtp cmpPayloadType = sdpAudioCodecsCmp b a cmpFmtp cmpPayloadType

variable {a b}

theorem SameCodecs.symm (same : SameCodecs a b) : SameCodecs b a := ⟨same.1.symm, same.2.symm⟩

theorem SameCodecs.covers (same : SameCodecs a b) : Covers a b :=
  ⟨same.2.length_eq, same.1, same.2.subset⟩

/-- A list that repeats no codec hides none. -/
theorem covers_iff_sameCodecs (once : a.Nodup) : Covers a b ↔ SameCodecs a b := by
  refine ⟨?_, SameCodecs.covers⟩
  rintro ⟨length, head, inside⟩
  exact ⟨head, (once.subperm inside).perm_of_length_le (Nat.le_of_eq length.symm)⟩

theorem sdpAudioCodecCmp_iff {a b : SdpAudioCodec} :
    sdpAudioCodecCmp a b cmpFmtp cmpPayloadType = true ↔
      a.compared cmpFmtp cmpPayloadType = b.compared cmpFmtp cmpPayloadType := by
  cases cmpFmtp <;> cases cmpPayloadType <;>
    simp [sdpAudioCodecCmp, SdpAudioCodec.compared, and_comm, and_left_comm, and_assoc]

theorem sdpAudioCodecsCmp_iff :
    sdpAudioCodecsCmp a b cmpFmtp cmpPayloadType = true ↔
      Covers (comparedCodecs cmpFmtp cmpPayloadType a) (comparedCodecs cmpFmtp cmpPayloadType b) := by
  have match_iff (codec : SdpAudioCodec) (codecs : List SdpAudioCodec) :
      (codecs.any fun other => sdpAudioCodecCmp codec other cmpFmtp cmpPayloadType) = true ↔
        codec.compared cmpFmtp cmpPayloadType ∈ comparedCodecs cmpFmtp cmpPayloadType codecs := by
    rw [List.any_eq_true, comparedCodecs, List.mem_map]
    exact exists_congr fun other => and_congr_right fun _ => sdpAudioCodecCmp_iff.trans eq_comm
  match a, b with
  | [], [] => simp [sdpAudioCodecsCmp, Covers, comparedCodecs]
  | [], _ :: _ => simp [sdpAudioCodecsCmp, Covers, comparedCodecs]
  | _ :: _, [] => simp [sdpAudioCodecsCmp, Covers, comparedCodecs]
  | firstA :: restA, firstB :: restB =>
    simp only [sdpAudioCodecsCmp, Bool.and_eq_true, List.all_eq_true, match_iff,
      sdpAudioCodecCmp_iff, Covers, List.subset_def]
    simp [comparedCodecs, and_assoc]

end Compared

theorem CmpExact.of_nodup {a b : List SdpAudioCodec}
    (onceA : (comparedCodecs cmpFmtp cmpPayloadType a).Nodup)
    (onceB : (comparedCodecs cmpFmtp cmpPayloadType b).Nodup) :
    CmpExact a b cmpFmtp cmpPayloadType := by
  have zeroA := sdpAudioCodecsCmp_iff (a := a) (b := b) |>.trans (covers_iff_sameCodecs onceA)
  have zeroB := sdpAudioCodecsCmp_iff (a := b) (b := a) |>.trans (covers_iff_sameCodecs onceB)
  refine ⟨zeroA, Bool.eq_iff_iff.mpr (zeroA.trans ?_)⟩
  exact ⟨fun same => zeroB.mpr same.symm, fun zero => (zeroB.mp zero).symm⟩

/-- A codec of which the flags have everything compared. -/
abbrev ComparedCodec (cmpFmtp cmpPayloadType : Bool) :=
  { codec : SdpAudioCodec // codec.compared cmpFmtp cmpPayloadType = codec }

instance infinite_comparedCodec : Infinite (ComparedCodec cmpFmtp cmpPayloadType) :=
  .of_injective (β := List Char)
    (fun name => ⟨{ payloadType := 0, subtypeName := name }, by simp [SdpAudioCodec.compared]⟩)
    fun name other same => by simpa using same

/-- Every list is covered by one that repeats no codec. -/
theorem exists_nodup_covers (cmpFmtp cmpPayloadType : Bool) (a : List SdpAudioCodec) :
    ∃ b, (comparedCodecs cmpFmtp cmpPayloadType b).Nodup ∧
      Covers (comparedCodecs cmpFmtp cmpPayloadType a) (comparedCodecs cmpFmtp cmpPayloadType b) := by
  let whole (codec : SdpAudioCodec) : ComparedCodec cmpFmtp cmpPayloadType :=
    ⟨codec.compared cmpFmtp cmpPayloadType, by
      cases cmpFmtp <;> cases cmpPayloadType <;> simp [SdpAudioCodec.compared]⟩
  cases a with
  | nil => exact ⟨[], by simp [comparedCodecs, Covers]⟩
  | cons first rest =>
      obtain ⟨t, inside, card⟩ := Infinite.exists_superset_card_eq
        ((first :: rest).map whole).toFinset (rest.length + 1)
        (by simpa using List.toFinset_card_le ((first :: rest).map whole))
      have there : whole first ∈ t := inside (by simp)
      let b := whole first :: (t.erase (whole first)).toList
      have kept : comparedCodecs cmpFmtp cmpPayloadType (b.map Subtype.val) = b.map Subtype.val := by
        simp only [comparedCodecs, List.map_map]
        exact List.map_congr_left fun codec _ => codec.2
      have once : b.Nodup := List.nodup_cons.mpr ⟨by simp, Finset.nodup_toList _⟩
      refine ⟨b.map Subtype.val, ?_, ?_⟩
      · rw [kept]
        exact once.map Subtype.val_injective
      · rw [kept]
        refine ⟨?_, rfl, ?_⟩
        · simp [comparedCodecs, b, Finset.card_erase_of_mem there, card]
        · intro codec listed
          obtain ⟨origin, known, rfl⟩ := List.mem_map.mp listed
          have member : whole origin ∈ t :=
            inside (List.mem_toFinset.mpr (List.mem_map_of_mem known))
          refine List.mem_map.mpr ⟨whole origin, ?_, rfl⟩
          by_cases same : whole origin = whole first <;> simp [b, same, member]

end OsmoMsc.Rtp
