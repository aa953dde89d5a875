/-
Module: OsmoMsc.Rtp.PtMap
Purpose: The codecs of a request to the MGW.  `rtp_stream_do_mgcp_verb()` (rtp_stream.c) writes an entry
  of an array for each codec it can map, and does not look at the size of the array.
Trusted boundary: MGCP_MAX_CODECS is 10
Main exports: codecMappingBySubtypeName, MgcpConnPeer, rtpStreamDoMgcpVerb, ptmap_fits_iff
-/
import OsmoMsc.Sdp.Msg

namespace OsmoMsc.Rtp

open Library Library.CText Sdp

/-- `enum mgcp_codecs`, as far as `codec_map` has them. -/
inductive MgcpCodec where
  | pcmu | gsm | pcma | g729 | gsmEfr | gsmHr | amr | amrWb | iufp | clearmode
deriving DecidableEq, Repr

/-- `codec_map`: subtype names and their MGCP codecs. -/
def codecMap : List (Text × MgcpCodec) :=
  [(ascii "PCMU", .pcmu), (ascii "GSM", .gsm), (ascii "PCMA", .pcma), (ascii "G729", .g729),
    (ascii "GSM-EFR", .gsmEfr), (ascii "GSM-HR-08", .gsmHr), (ascii "AMR", .amr), (ascii "AMR", .amr),
    (ascii "AMR-WB", .amrWb), (ascii "AMR-WB", .amrWb), (ascii "VND.3GPP.IUFP", .iufp),
    (ascii "CLEARMODE", .clearmode)]

/-- `codec_mapping_by_subtype_name()`, the MGCP codec of what it finds. -/
def codecMappingBySubtypeName (name : Text) : Option MgcpCodec :=
  (codecMap.find? fun entry => entry.1 = name).map (·.2)

def mgcpMaxCodecs : Nat := 10

/-- The codecs in `struct mgcp_conn_peer`. -/
structure MgcpConnPeer where
  /-- What was written to `ptmap`: the index, the codec and the payload type. -/
  ptmap : List (Nat × MgcpCodec × UInt32) := []
  ptmapLen : Nat := 0
deriving DecidableEq, Repr

/-- One turn of the loop over the codecs; a codec that is unknown is skipped. -/
def MgcpConnPeer.put (turn : MgcpConnPeer × Nat) (codec : AudioCodec) : MgcpConnPeer × Nat :=
  let (verbInfo, i) := turn
  match codecMappingBySubtypeName codec.subtypeName.val with
  | none => (verbInfo, i)
  | some mgcp =>
      ({ ptmap := verbInfo.ptmap ++ [(i, mgcp, codec.payloadType)], ptmapLen := i + 1 }, i + 1)

/-- The codecs that `rtp_stream_do_mgcp_verb()` sends for a stream with known codecs. -/
def rtpStreamDoMgcpVerb (codecs : AudioCodecs) : MgcpConnPeer :=
  (codecs.codec.foldl MgcpConnPeer.put ({}, 0)).1

/-- The codecs of a stream that had none, after `rx_mncc_sdp()`, which also passes on what was parsed
before an error. -/
def rxMnccSdp (inetPton6 : Text → Bool) (sdp : Text) : AudioCodecs :=
  (sdpMsgFromSdpStr inetPton6 sdp).1.audioCodecs

/-- The codecs that have an entry in `codec_map`. -/
def mapped (codecs : List AudioCodec) : List AudioCodec :=
  codecs.filter fun codec => (codecMappingBySubtypeName codec.subtypeName.val).isSome

/-- The entries stand one after the other, and are counted. -/
theorem foldl_put (codecs : List AudioCodec) {verbInfo : MgcpConnPeer} {i : Nat}
    (indices : verbInfo.ptmap.map (·.1) = List.range i) (length : verbInfo.ptmapLen = i) :
    let result := (codecs.foldl MgcpConnPeer.put (verbInfo, i)).1
    result.ptmap.map (·.1) = List.range (i + (mapped codecs).length) ∧
      result.ptmapLen = i + (mapped codecs).length := by
  induction codecs generalizing verbInfo i with
  | nil => exact ⟨indices, length⟩
  | cons codec codecs ih =>
      cases known : codecMappingBySubtypeName codec.subtypeName.val with
      | none => simpa [MgcpConnPeer.put, known, mapped] using ih indices length
      | some mgcp =>
          have added := @ih { ptmap := verbInfo.ptmap ++ [(i, mgcp, codec.payloadType)],
                              ptmapLen := i + 1 } (i + 1)
            (by simp [indices, List.range_succ]) rfl
          simpa [MgcpConnPeer.put, known, mapped, Nat.add_assoc, Nat.add_comm] using added

/-- Whatever codecs a stream has, `ptmap_len` is the number of entries that are written, and these are
within the array exactly if no more codecs than that can be mapped. -/
theorem ptmap_fits_iff (codecs : AudioCodecs) :
    let verbInfo := rtpStreamDoMgcpVerb codecs
    (∀ entry ∈ verbInfo.ptmap, entry.1 < mgcpMaxCodecs) ∧
        verbInfo.ptmapLen = verbInfo.ptmap.length ↔
      (mapped codecs.codec).length ≤ mgcpMaxCodecs := by
  obtain ⟨indices, length⟩ := @foldl_put codecs.codec {} 0 rfl rfl
  simp only [Nat.zero_add] at indices length
  simp only [rtpStreamDoMgcpVerb]
  generalize (codecs.codec.foldl MgcpConnPeer.put ({}, 0)).1 = verbInfo at indices length
  have counted : verbInfo.ptmapLen = verbInfo.ptmap.length := by
    have lengths := congrArg List.length indices
    simpa [length] using lengths.symm
  have within : (∀ entry ∈ verbInfo.ptmap, entry.1 < mgcpMaxCodecs) ↔
      ∀ i ∈ verbInfo.ptmap.map (·.1), i < mgcpMaxCodecs := by
    simp
  rw [within, indices]
  simp only [List.mem_range, counted, and_true]
  constructor
  · intro below
    by_contra more
    exact absurd (below mgcpMaxCodecs (by omega)) (Nat.lt_irrefl _)
  · exact fun few i below => by omega

/-- A remote party offers AMR with eleven payload types. -/
def elevenCodecs : Text :=
  ascii "m=audio 4000 RTP/AVP 96 97 98 99 100 101 102 103 104 105 106" ++ crlf ++
    ((List.range 11).flatMap fun i =>
      ascii "a=rtpmap:" ++ Nat.toDigits 10 (96 + i) ++ ascii " AMR/8000" ++ crlf)

theorem eleventh_codec_beyond_ptmap :
    (rxMnccSdp (fun _ => false) elevenCodecs).codec.length = 11 ∧
      (10, .amr, 106) ∈ (rtpStreamDoMgcpVerb (rxMnccSdp (fun _ => false) elevenCodecs)).ptmap := by
  decide +kernel

end OsmoMsc.Rtp
