/-
Module: OsmoMsc.Msc.Dtap
Purpose: The part of a layer 3 message that the MSC looks at before it knows the subscriber: protocol
  discriminator, message type octet and the classmark of a Complete Layer 3 message, with the
  duplicate detection of ran_msg.c and the list of messages permitted on a fresh connection.
Trusted boundary: human-reviewed spec (`gsm48_hdr_msg_type()` and the classmark helpers belong to
  libosmocore)
Main exports: Pdisc, L3Msg, gsm48HdrMsgType, Classmark, ranDecDtapUndupIsDuplicate, complL3MsgIsR99,
  msgIsInitiallyPermitted
-/
import Mathlib.Tactic.Common

namespace OsmoMsc.Msc

/-- `GSM48_PDISC_*`; `other` stands for the values the MSC has no case for. -/
inductive Pdisc where
  | groupCc
  | bcastCc
  | cc
  | mm
  | rr
  | mmGprs
  | sms
  | smGprs
  | ncSs
  | loc
  | test
  | other
deriving DecidableEq, Repr, Inhabited

/-- A layer 3 message as far as the MSC-A reads it itself.  `classmarkIsR99` is the revision level of
the classmark that stands at the place where `compl_l3_msg_is_r99()` expects one. -/
structure L3Msg where
  pdisc : Pdisc
  msgTypeOctet : Nat
  classmarkIsR99 : Bool := false
deriving DecidableEq, Repr

/-- `gsm48_hdr_msg_type()`: the message type without the send sequence number bits. -/
def gsm48HdrMsgType (gh : L3Msg) : Nat :=
  match gh.pdisc with
  | .mm | .cc | .ncSs => gh.msgTypeOctet &&& 0x3f
  | .groupCc | .bcastCc | .loc => gh.msgTypeOctet &&& 0xbf
  | _ => gh.msgTypeOctet

/-! ### Classmark -/

/-- `struct osmo_gsm48_classmark`: which classmarks are known, and the bits that are read. -/
structure Classmark where
  /-- Revision level and "A5/1 not available" of classmark 1. -/
  classmark1 : Option (Nat × Bool) := none
  /-- Revision level, A5/2 and A5/3 of classmark 2. -/
  classmark2 : Option (Nat × Bool × Bool) := none
  /-- First octet of classmark 3, with A5/4 to A5/7 in the low bits. -/
  classmark3 : Option Nat := none
deriving DecidableEq, Repr, Inhabited

/-- `osmo_gsm48_classmark_is_r99()`. -/
def Classmark.isR99 (cm : Classmark) : Bool :=
  match cm.classmark1, cm.classmark2 with
  | some (revLev, _), _ => decide (2 ≤ revLev)
  | none, some (revLev, _) => decide (2 ≤ revLev)
  | none, none => false

/-- `osmo_gsm48_classmark_supports_a5()`: an `error` names the classmark that is still missing. -/
def Classmark.supportsA5 (cm : Classmark) (a5 : Nat) : Except Nat Bool :=
  if a5 = 0 then .ok true
  else if a5 = 1 then
    match cm.classmark1 with
    | none => .error 1
    | some (_, unavailable) => .ok !unavailable
  else if a5 ≤ 3 then
    match cm.classmark2 with
    | none => .error 2
    | some (_, a52, a53) => .ok (if a5 = 2 then a52 else a53)
  else
    match cm.classmark3 with
    | none => .error 3
    | some octet => .ok (octet.testBit (a5 - 4))

/-- `osmo_gsm48_classmark_update()`: what the source knows replaces what the destination has. -/
def Classmark.update (dst src : Classmark) : Classmark where
  classmark1 := src.classmark1.or dst.classmark1
  classmark2 := src.classmark2.or dst.classmark2
  classmark3 := src.classmark3.or dst.classmark3

/-! ### Duplicate detection (3GPP TS 24.007 11.2.3.2) -/

/-- `ran_dec_dtap_undup_determine_nsd_ret_modulo_r99()`: the send sequence number and its modulus,
`none` where the protocol has no sequence number. -/
def ranDecDtapUndupDetermineNsdRetModuloR99 (pdisc : Pdisc) (msgType : Nat) : Option (Nat × Nat) :=
  match pdisc with
  | .mm | .cc | .ncSs => some ((msgType >>> 6) &&& 0x3, 4)
  | .groupCc | .bcastCc | .loc => some ((msgType >>> 6) &&& 0x1, 2)
  | _ => none

/-- `gsm0407_determine_nsd_ret_modulo_r98()`. -/
def gsm0407DetermineNsdRetModuloR98 (pdisc : Pdisc) (msgType : Nat) : Option (Nat × Nat) :=
  match pdisc with
  | .mm | .cc | .ncSs | .groupCc | .bcastCc | .loc => some ((msgType >>> 6) &&& 0x1, 2)
  | _ => none

/-- `ran_dec_dtap_undup_pdisc_ctr_bin()`. -/
def ranDecDtapUndupPdiscCtrBin : Pdisc → Option (Fin 4)
  | .mm | .cc | .ncSs => some 0
  | .groupCc => some 1
  | .bcastCc => some 2
  | .loc => some 3
  | _ => none

/-- The `n_sd_next[4]` counters of a connection. -/
abbrev NSdNext : Type := Fin 4 → Nat

/-- `ran_dec_dtap_undup_is_duplicate()`: the verdict, and the counters after it. -/
def ranDecDtapUndupIsDuplicate (nSdNext : NSdNext) (isR99 : Bool) (gh : L3Msg) : Bool × NSdNext :=
  let nSdModulo :=
    if isR99 then ranDecDtapUndupDetermineNsdRetModuloR99 gh.pdisc gh.msgTypeOctet
    else gsm0407DetermineNsdRetModuloR98 gh.pdisc gh.msgTypeOctet
  match nSdModulo, ranDecDtapUndupPdiscCtrBin gh.pdisc with
  | some (nSd, modulo), some bin =>
      if nSd ≠ nSdNext bin then (true, nSdNext)
      else (false, Function.update nSdNext bin ((nSd + 1) % modulo))
  | _, _ => (false, nSdNext)

/-! ### Complete Layer 3 messages -/

/-- `compl_l3_msg_is_r99()`: `none` for a message that carries no classmark. -/
def complL3MsgIsR99 (gh : L3Msg) : Option Bool :=
  match gh.pdisc with
  | .mm =>
      -- LOC_UPD_REQUEST, IMSI_DETACH_IND, CM_SERV_REQ, CM_REEST_REQ
      if gsm48HdrMsgType gh ∈ [0x08, 0x01, 0x24, 0x28] then some gh.classmarkIsR99 else none
  | .rr => if gsm48HdrMsgType gh = 0x27 then some gh.classmarkIsR99 else none
  | _ => none

/-- `msg_is_initially_permitted()`. -/
def msgIsInitiallyPermitted (gh : L3Msg) : Bool :=
  match gh.pdisc with
  | .mm =>
      -- LOC_UPD_REQUEST, CM_SERV_REQ, CM_REEST_REQ, AUTH_RESP, AUTH_FAIL, ID_RESP,
      -- TMSI_REALL_COMPL, IMSI_DETACH_IND
      gsm48HdrMsgType gh ∈ [0x08, 0x24, 0x28, 0x14, 0x1c, 0x19, 0x1b, 0x01]
  | .rr => gsm48HdrMsgType gh ∈ [0x27, 0x32]
  | _ => false

end OsmoMsc.Msc
