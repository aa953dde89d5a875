/-
Module: OsmoMsc.Sdp.CodecFilter
Purpose: How `codec_filter_run()` (codec_filter.c) renders the codecs of a call from those of the RAN
  type, the MS, the BSS and the remote side, with the operations on codec lists that it uses
  (sdp_msg.c).  A pointer to an entry of a list is the index of the entry.
Trusted boundary: none
Main exports: sdpAudioCodecsByDescr, sdpAudioCodecsIntersection, sdpAudioCodecsSelect, CodecFilter,
  codecFilterRun
-/
import OsmoMsc.Sdp.Msg

namespace OsmoMsc.Sdp

open List

/-- `sdp_audio_codec_is_set()`. -/
def sdpAudioCodecIsSet (a : AudioCodec) : Bool := a.subtypeName.val ≠ []

/-- `sdp_audio_codec_cmp()` returns zero. -/
def sdpAudioCodecCmp (a b : AudioCodec) (cmpFmtp cmpPayloadType : Bool) : Bool :=
  a.subtypeName = b.subtypeName && a.rate = b.rate && (!cmpFmtp || a.fmtp = b.fmtp) &&
    (!cmpPayloadType || a.payloadType = b.payloadType)

/-- The entry of a list is the codec, by the comparison of `sdp_audio_codecs_by_descr()`. -/
def AudioCodec.matches (codec i : AudioCodec) : Bool := sdpAudioCodecCmp i codec false false

/-- `sdp_audio_codecs_by_descr()`. -/
def sdpAudioCodecsByDescr (ac : AudioCodecs) (codec : AudioCodec) : Option (Fin ac.codec.length) :=
  ac.codec.findFinIdx? codec.matches

/-- `sdp_audio_codecs_remove()`: the entries that follow move one up. -/
def sdpAudioCodecsRemove (ac : AudioCodecs) (i : Nat) : AudioCodecs where
  codec := ac.codec.eraseIdx i
  fits := (length_eraseIdx_le _ _).trans ac.fits

/-- `codec->payload_type = payload_type`. -/
def AudioCodecs.setPayloadType (ac : AudioCodecs) (i : Nat) (payloadType : UInt32) : AudioCodecs where
  codec := ac.codec.modify i fun codec => { codec with payloadType := payloadType }
  fits := (length_modify _ _ _).trans_le ac.fits

/-- The loop of `sdp_audio_codecs_intersection()`, at an index. -/
def intersectionFrom (other : AudioCodecs) (translate : Bool) (dest : AudioCodecs) (i : Nat) :
    AudioCodecs :=
  if inside : i < dest.codec.length then
    match sdpAudioCodecsByDescr other dest.codec[i] with
    -- What follows is at this index now.
    | none => intersectionFrom other translate (sdpAudioCodecsRemove dest i) i
    | some found =>
        intersectionFrom other translate
          (if translate then dest.setPayloadType i other.codec[found].payloadType else dest) (i + 1)
  else dest
termination_by dest.codec.length - i
decreasing_by
  · simp only [sdpAudioCodecsRemove, length_eraseIdx_of_lt inside]
    omega
  · cases translate <;> simp only [AudioCodecs.setPayloadType] <;> grind

/-- `sdp_audio_codecs_intersection()`. -/
def sdpAudioCodecsIntersection (dest other : AudioCodecs) (translate : Bool) : AudioCodecs :=
  intersectionFrom other translate dest 0

/-- `sdp_audio_codecs_select()`: the entries before it move one down. -/
def sdpAudioCodecsSelect (ac : AudioCodecs) (codec : Fin ac.codec.length) : AudioCodecs where
  codec := ac.codec[codec] :: ac.codec.eraseIdx codec
  fits := by
    have fits := ac.fits
    have inside := codec.isLt
    rw [length_cons, length_eraseIdx_of_lt inside]
    omega

/-- `struct codec_filter`. -/
structure CodecFilter where
  ran : AudioCodecs := {}
  ms : AudioCodecs := {}
  bss : AudioCodecs := {}
  assignment : AudioCodec := {}
deriving DecidableEq, Repr

/-- An intersection that `codec_filter_run()` makes only with a list that is not empty. -/
def AudioCodecs.limit (r other : AudioCodecs) (translate : Bool) : AudioCodecs :=
  if other.codec.length ≠ 0 then sdpAudioCodecsIntersection r other translate else r

/-- `codec_filter_run()`. -/
def codecFilterRun (filter : CodecFilter) (result remote : SdpMsg) : SdpMsg :=
  let r := ((filter.ran.limit filter.ms false).limit filter.bss false).limit remote.audioCodecs true
  { result with
    audioCodecs :=
      if sdpAudioCodecIsSet filter.assignment then
        match sdpAudioCodecsByDescr r filter.assignment with
        | some select => sdpAudioCodecsSelect r select
        | none => r
      else r }

/-- The list has a match for the codec, if it has any codec. -/
def AudioCodecs.allows (ac : AudioCodecs) (codec : AudioCodec) : Bool :=
  ac.codec.isEmpty || ac.codec.any codec.matches

/-- The codec with the payload type of its first match in the list. -/
def AudioCodecs.renumber (ac : AudioCodecs) (codec : AudioCodec) : AudioCodec :=
  match ac.codec.find? codec.matches with
  | some other => { codec with payloadType := other.payloadType }
  | none => codec

theorem find_eq_byDescr (ac : AudioCodecs) (codec : AudioCodec) :
    ac.codec.find? codec.matches = (sdpAudioCodecsByDescr ac codec).map (ac.codec[·]) := by
  rw [sdpAudioCodecsByDescr, find?_eq_map_findFinIdx?_getElem]

/-- The codecs of a list that have a match in the other one. -/
def AudioCodecs.meet (other : AudioCodecs) (translate : Bool) (codecs : List AudioCodec) :
    List AudioCodec :=
  (codecs.filter fun codec => other.codec.any codec.matches).map
    fun codec => if translate then other.renumber codec else codec

section

variable {other : AudioCodecs} {codec : AudioCodec} (translate : Bool) (codecs : List AudioCodec)

theorem meet_cons_of_none (unmatched : sdpAudioCodecsByDescr other codec = none) :
    other.meet translate (codec :: codecs) = other.meet translate codecs := by
  have removed : other.codec.any codec.matches = false := by
    simpa [sdpAudioCodecsByDescr] using unmatched
  rw [AudioCodecs.meet, filter_cons_of_neg (by simp [removed]), AudioCodecs.meet]

theorem meet_cons_of_some {found : Fin other.codec.length}
    (matched : sdpAudioCodecsByDescr other codec = some found) :
    other.meet translate (codec :: codecs) =
      (if translate then { codec with payloadType := other.codec[found].payloadType } else codec) ::
        other.meet translate codecs := by
  have first : other.codec.find? codec.matches = some other.codec[found] := by
    rw [find_eq_byDescr, matched, Option.map_some]
  have kept : other.codec.any codec.matches = true :=
    any_eq_true.mpr ⟨_, mem_of_find?_eq_some first, find?_some first⟩
  rw [AudioCodecs.meet, filter_cons_of_pos (by exact kept), map_cons, AudioCodecs.renumber, first,
    AudioCodecs.meet]

end

/-- Before the index the loop is done; the rest is still to be looked at. -/
theorem intersectionFrom_codec (other : AudioCodecs) (translate : Bool) (dest : AudioCodecs) (i : Nat) :
    (intersectionFrom other translate dest i).codec =
      dest.codec.take i ++ other.meet translate (dest.codec.drop i) := by
  fun_induction intersectionFrom other translate dest i with
  | case1 dest i inside unmatched ih =>
      have length : (dest.codec.take i).length = i := length_take_of_le inside.le
      have split := dest.codec.eraseIdx_eq_take_drop_succ i
      rw [drop_eq_getElem_cons inside, meet_cons_of_none _ _ unmatched, ih]
      simp only [sdpAudioCodecsRemove, split, take_left' length, drop_left' length]
  | case2 dest i inside found matched ih =>
      have length (codec : AudioCodec) : (dest.codec.take i ++ [codec]).length = i + 1 := by
        simp [inside.le]
      rw [drop_eq_getElem_cons inside, meet_cons_of_some _ _ matched, append_cons]
      cases translate with
      | true =>
          have split := dest.codec.modify_eq_take_cons_drop
            (f := fun codec => { codec with payloadType := other.codec[found].payloadType }) inside
          rw [append_cons] at split
          simpa only [AudioCodecs.setPayloadType, dite_true, if_true, split, take_left' (length _),
            drop_left' (length _)] using ih
      | false => exact ih.trans (congrArg (· ++ _) (take_append_getElem inside).symm)
  | case3 dest i outside =>
      simp [AudioCodecs.meet, take_of_length_le (Nat.le_of_not_lt outside),
        drop_of_length_le (Nat.le_of_not_lt outside)]

theorem limit_codec (r other : AudioCodecs) (translate : Bool) :
    (r.limit other translate).codec =
      (r.codec.filter other.allows).map fun codec => if translate then other.renumber codec else codec := by
  unfold AudioCodecs.limit
  split
  · rename_i some
    have allows : other.allows = fun codec => other.codec.any codec.matches := by
      funext codec
      simp [AudioCodecs.allows, length_eq_zero_iff.not.mp some]
    rw [sdpAudioCodecsIntersection, intersectionFrom_codec, allows]
    rfl
  · rename_i none
    have empty : other.codec = [] := by simpa using none
    have allows : other.allows = fun _ => true := by
      funext codec
      simp [AudioCodecs.allows, empty]
    simp [allows, AudioCodecs.renumber, empty]

/-- The first codec of the list that is the assigned one, if there is one, then the others. -/
def assignedFirst (assignment : AudioCodec) (codecs : List AudioCodec) : List AudioCodec :=
  if sdpAudioCodecIsSet assignment then
    (codecs.find? assignment.matches).toList ++ codecs.eraseP assignment.matches
  else codecs

/-- The result has the codecs of the RAN type that every other list allows, with the numbers of the
remote side, in order but for the assigned one; all else is as it was. -/
theorem codecFilterRun_result (filter : CodecFilter) (result remote : SdpMsg) :
    (codecFilterRun filter result remote).audioCodecs.codec =
        assignedFirst filter.assignment
          ((filter.ran.codec.filter fun codec =>
            filter.ms.allows codec && filter.bss.allows codec && remote.audioCodecs.allows codec).map
              remote.audioCodecs.renumber) ∧
      (codecFilterRun filter result remote).rtp = result.rtp ∧
      (codecFilterRun filter result remote).mode = result.mode := by
  refine ⟨?_, rfl, rfl⟩
  generalize eq : ((filter.ran.limit filter.ms false).limit filter.bss false).limit
    remote.audioCodecs true = r
  have limited : r.codec = (filter.ran.codec.filter fun codec => filter.ms.allows codec &&
      filter.bss.allows codec && remote.audioCodecs.allows codec).map remote.audioCodecs.renumber := by
    rw [← eq]
    simp [limit_codec, Bool.and_comm]
  rw [← limited, codecFilterRun, eq, assignedFirst]
  split
  · rw [find_eq_byDescr, eraseP_eq_eraseIdx, findIdx?_eq_map_findFinIdx?_val,
      ← sdpAudioCodecsByDescr]
    cases sdpAudioCodecsByDescr r filter.assignment with
    | none => rfl
    | some select => rfl
  · rfl

end OsmoMsc.Sdp
