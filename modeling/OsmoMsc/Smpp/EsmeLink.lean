/-
Module: OsmoMsc.Smpp.EsmeLink
Purpose: How the SMPP server reads the stream of an ESME: `esme_link_read_cb()` of smpp_smsc.c with
  its two read states, over every way in which the stream arrives.  Its local variable `len` is not
  initialised, so what it holds at the start of a call is an input.  While it still holds what
  earlier calls have read of a length field, the PDUs passed on are those that the length fields
  give.
Trusted boundary: `read()` returns the next bytes of the stream, at least one and at most as many as
  it is asked for; `msgb_alloc()` gives room for exactly the size it is asked for
Main exports: EsmeLink, esmeLinkReadCb, smppPdus, SplitAtLengths, LengthKept, esmeRun_splitAtLengths
-/
import Mathlib.Order.Nat
import OsmoMsc.Library.Framing
import OsmoMsc.Library.Run

namespace OsmoMsc.Smpp

open Library List

variable {bytes buffer : List UInt8}

/-! ### The reader -/

/-- `enum esme_read_state`. -/
inductive ReadState where
  | inLen
  | inMsg
deriving DecidableEq, Repr, Inhabited

/-- `struct msgb`: the room that was allocated and the bytes put into it. -/
structure Msgb where
  size : Nat
  data : List UInt8
deriving DecidableEq, Repr

/-- `msgb_tailroom()`. -/
def Msgb.tailroom (msg : Msgb) : Nat := msg.size - msg.data.length

/-- The part of `struct esme` that the reader uses. -/
structure Esme where
  readState : ReadState := .inLen
  readLen : Nat := 0
  readIdx : Nat := 0
  readMsg : Option Msgb := none
  /-- `wqueue.bfd.fd` is `-1`. -/
  closed : Bool := false
deriving DecidableEq, Repr

/-- What the reader does, in order. -/
inductive EsmeAct where
  /-- `smpp_pdu_rx()`. -/
  | smppPduRx (pdu : List UInt8)
  /-- "length invalid". -/
  | lengthInvalid (len : Nat)
deriving DecidableEq, Repr

/-- The four bytes of a `uint32_t` in memory. -/
structure Word where
  bytes : List UInt8
  size : bytes.length = 4
deriving DecidableEq, Repr

/-- How `read()` returns: with an error, or with some of the bytes there are. -/
inductive ReadRc where
  | eintr
  | error
  /-- One byte and `more` have arrived. -/
  | ready (more : Nat)
deriving DecidableEq, Repr

def ReadRc.isReady : ReadRc → Bool
  | .ready _ => true
  | .eintr | .error => false

/-- What a call of `esme_link_read_cb()` depends on: how `read()` returns, what the local variable
`len` holds at the start, and whether a message buffer can be allocated. -/
structure ReadCall where
  rc : ReadRc
  len : Word
  allocOk : Bool := true
deriving DecidableEq, Repr

/-- A reader and its stream: the bytes not yet read, and those that `read()` has returned. -/
structure EsmeLink where
  esme : Esme := {}
  socket : List UInt8
  received : List UInt8 := []
  log : List EsmeAct := []
deriving DecidableEq, Repr

/-- `ntohl()` of four bytes in memory. -/
def ntohl (bytes : List UInt8) : Nat := bytes.foldl (fun acc b => acc * 256 + b.toNat) 0

/-- `read_len < 8 || read_len > UINT16_MAX`. -/
def lengthIsInvalid (len : Nat) : Bool := len < 8 || len > 65535

namespace EsmeLink

variable (s : EsmeLink)

/-- The PDUs passed to `smpp_pdu_rx()`. -/
def pdus : List (List UInt8) :=
  s.log.filterMap fun
    | .smppPduRx pdu => some pdu
    | .lengthInvalid _ => none

/-- Append to the log. -/
def emit (act : EsmeAct) : EsmeLink := { s with log := s.log ++ [act] }

/-- The label `dead_socket`. -/
def deadSocket : EsmeLink := { s with esme := { s.esme with readMsg := none, closed := true } }

/-- The bytes leave the socket. -/
def consume (bytes : List UInt8) : EsmeLink :=
  { s with socket := s.socket.drop bytes.length, received := s.received ++ bytes }

/-- `read()` of at most `count` bytes with `OSMO_FD_CHECK_READ()`; `goOn` is the code after it.  At
the end of the stream, and if nothing is asked for, `read()` returns 0. -/
def fdRead (rc : ReadRc) (count : Nat) (goOn : EsmeLink → List UInt8 → EsmeLink) : EsmeLink :=
  match rc with
  | .eintr => s
  | .error => s.deadSocket
  | .ready more =>
      let bytes := s.socket.take (min (more + 1) count)
      if bytes = [] then s.deadSocket else goOn (s.consume bytes) bytes

end EsmeLink

/-- The local variable after `read()` has stored the bytes at `lenptr + idx`. -/
def Word.store (len : Word) (idx : Nat) (bytes : List UInt8) : List UInt8 :=
  len.bytes.take idx ++ bytes ++ len.bytes.drop (idx + bytes.length)

/-- The case `READ_ST_IN_LEN` once bytes have been read. -/
def gotLenBytes (call : ReadCall) (s : EsmeLink) (bytes : List UInt8) : EsmeLink :=
  let len := call.len.store s.esme.readIdx bytes
  let readIdx := s.esme.readIdx + bytes.length
  if readIdx ≥ 4 then
    let readLen := ntohl len
    let s := { s with esme := { s.esme with readIdx := readIdx, readLen := readLen } }
    if lengthIsInvalid readLen then (s.emit (.lengthInvalid readLen)).deadSocket
    else if !call.allocOk then s
    else
      { s with esme := { s.esme with
        readMsg := some { size := readLen, data := len }, readState := .inMsg, readIdx := 4 } }
  else { s with esme := { s.esme with readIdx := readIdx } }

/-- The case `READ_ST_IN_MSG` once bytes have been read. -/
def gotMsgBytes (msg : Msgb) (s : EsmeLink) (bytes : List UInt8) : EsmeLink :=
  let readIdx := s.esme.readIdx + bytes.length
  let msg := { msg with data := msg.data ++ bytes }
  if readIdx ≥ s.esme.readLen then
    { s.emit (.smppPduRx msg.data) with esme := { s.esme with
      readMsg := none, readIdx := 0, readLen := 0, readState := .inLen } }
  else { s with esme := { s.esme with readIdx := readIdx, readMsg := some msg } }

/-- `esme_link_read_cb()`.  A closed socket is not registered any more. -/
def esmeLinkReadCb (s : EsmeLink) (call : ReadCall) : EsmeLink :=
  if s.esme.closed then s
  else
    match s.esme.readState with
    | .inLen => s.fdRead call.rc (4 - s.esme.readIdx) (gotLenBytes call)
    | .inMsg =>
        match s.esme.readMsg with
        | none => s
        | some msg =>
            s.fdRead call.rc (min (s.esme.readLen - s.esme.readIdx) msg.tailroom) (gotMsgBytes msg)

/-! ### The PDUs of a stream -/

/-- A PDU begins with its length in four bytes. -/
def smppFraming : Framing UInt8 where
  headerLen := 4
  frameLen header := if lengthIsInvalid (ntohl header) then none else some (ntohl header)
  longer header n isLen := by
    split at isLen
    · cases isLen
    · rename_i valid
      cases isLen
      simp [lengthIsInvalid] at valid
      omega

/-- The stream split at the length fields given in it, up to the first invalid length. -/
def smppPdus (stream : List UInt8) : List (List UInt8) := smppFraming.frames stream

/-- The reader has given up the stream because of a length. -/
def EsmeLink.rejected (s : EsmeLink) : Prop := ∃ len, .lengthInvalid len ∈ s.log

/-- The callback is called for a stream, time and again. -/
def esmeRun (stream : List UInt8) (calls : List ReadCall) : EsmeLink :=
  calls.foldl esmeLinkReadCb { socket := stream }

/-- `read()` does not fail, but perhaps with `EINTR`, and neither does `msgb_alloc()`. -/
def ReadCall.Works (call : ReadCall) : Prop := call.rc ≠ .error ∧ call.allocOk = true

/-- After some calls the PDUs passed on are those of the bytes read so far, and once everything is
read or a length was found invalid, they are those of the whole stream.  That comes about: each call
that finds bytes takes one of them at least. -/
structure SplitAtLengths (stream : List UInt8) (calls : List ReadCall) : Prop where
  soFar : (esmeRun stream calls).pdus = smppPdus (esmeRun stream calls).received
  atEnd : (esmeRun stream calls).socket = [] ∨ (esmeRun stream calls).rejected →
    (esmeRun stream calls).pdus = smppPdus stream
  allPassed : (∀ call ∈ calls, call.Works) → stream.length ≤ calls.countP (·.rc.isReady) →
    (esmeRun stream calls).pdus = smppPdus stream

/-- The part of a length field that earlier calls have read is still in the local variable. -/
def LengthKept (s : EsmeLink) (call : ReadCall) : Prop :=
  s.esme.readState = .inLen →
    call.len.bytes.take s.esme.readIdx = s.received.drop (s.received.length - s.esme.readIdx)

instance (s : EsmeLink) (call : ReadCall) : Decidable (LengthKept s call) :=
  inferInstanceAs (Decidable (_ → _))

/-! ### What the reader holds -/

/-- What the reader has kept of a PDU that is not complete, `buffer`. -/
inductive Holds (s : EsmeLink) (buffer : List UInt8) : Prop where
  | inLen (alive : s.esme.closed = false) (state : s.esme.readState = .inLen)
      (idx : s.esme.readIdx = buffer.length) (short : buffer.length ≤ 4)
      (incomplete : smppFraming.Incomplete buffer) (valid : ¬ s.rejected)
  | inMsg (alive : s.esme.closed = false) (state : s.esme.readState = .inMsg)
      (idx : s.esme.readIdx = buffer.length)
      (msg : s.esme.readMsg = some { size := s.esme.readLen, data := buffer })
      (header : smppFraming.frameLen (buffer.take 4) = some s.esme.readLen)
      (long : 4 ≤ buffer.length) (short : buffer.length < s.esme.readLen) (valid : ¬ s.rejected)
  | ended (dead : s.esme.closed = true) (incomplete : smppFraming.Incomplete buffer)
      (valid : ¬ s.rejected)
  | rejected (dead : s.esme.closed = true) (invalid : smppFraming.Invalid buffer)

/-- What is known of the reader after any number of calls. -/
structure LinkInv (stream : List UInt8) (s : EsmeLink) : Prop where
  stream_eq : s.received ++ s.socket = stream
  areFrames : ∀ pdu ∈ s.pdus, smppFraming.IsFrame pdu
  holds : ∃ buffer, s.received = s.pdus.flatten ++ buffer ∧ Holds s buffer

section Reader

variable {stream : List UInt8} {s : EsmeLink}

theorem Holds.incomplete_or_invalid (holds : Holds s buffer) :
    smppFraming.Incomplete buffer ∧ ¬ s.rejected ∨ smppFraming.Invalid buffer := by
  cases holds with
  | inLen _ _ _ _ incomplete valid => exact .inl ⟨incomplete, valid⟩
  | inMsg _ _ _ _ header long short valid => exact .inl ⟨.inr ⟨_, header, short⟩, valid⟩
  | ended _ incomplete valid => exact .inl ⟨incomplete, valid⟩
  | rejected _ invalid => exact .inr invalid

theorem LinkInv.pdus_eq (inv : LinkInv stream s) :
    s.pdus = smppPdus s.received ∧ (s.socket = [] ∨ s.rejected → s.pdus = smppPdus stream) := by
  obtain ⟨buffer, received, holds⟩ := inv.holds
  rcases holds.incomplete_or_invalid with ⟨incomplete, valid⟩ | invalid
  · have soFar : s.pdus = smppPdus s.received := by
      rw [received]
      exact (Framing.frames_of_incomplete inv.areFrames incomplete).symm
    refine ⟨soFar, ?_⟩
    rintro (drained | isRejected)
    · rw [← inv.stream_eq, drained, append_nil]
      exact soFar
    · exact absurd isRejected valid
  · refine ⟨?_, fun _ => ?_⟩
    · rw [received]
      have split := Framing.frames_of_invalid inv.areFrames invalid []
      rw [append_nil] at split
      exact split.symm
    · rw [← inv.stream_eq, received, append_assoc]
      exact (Framing.frames_of_invalid inv.areFrames invalid s.socket).symm

/-! ### One call -/

theorem consume_stream (taken : bytes <+: s.socket) :
    s.received ++ bytes ++ s.socket.drop bytes.length = s.received ++ s.socket := by
  obtain ⟨rest, socket⟩ := taken
  simp [← socket]

theorem LinkInv.deadSocket (inv : LinkInv stream s) : LinkInv stream s.deadSocket := by
  obtain ⟨buffer, received, holds⟩ := inv.holds
  refine ⟨inv.stream_eq, inv.areFrames, buffer, received, ?_⟩
  rcases holds.incomplete_or_invalid with ⟨incomplete, valid⟩ | invalid
  · exact .ended rfl incomplete valid
  · exact .rejected rfl invalid

/-- `read()` leaves everything as it is, fails, or returns some of the next bytes. -/
theorem LinkInv.fdRead (inv : LinkInv stream s) (rc : ReadRc) {count : Nat}
    {goOn : EsmeLink → List UInt8 → EsmeLink}
    (goesOn : ∀ bytes, bytes <+: s.socket → bytes.length ≤ count →
      LinkInv stream (goOn (s.consume bytes) bytes)) : LinkInv stream (s.fdRead rc count goOn) := by
  cases rc with
  | eintr => exact inv
  | error => exact inv.deadSocket
  | ready more =>
      simp only [EsmeLink.fdRead]
      split
      · exact inv.deadSocket
      · refine goesOn _ (List.take_prefix _ _) ?_
        exact (length_take_le _ _).trans (Nat.min_le_right _ _)

/-- The length field becomes complete: the local variable holds all of it. -/
theorem Word.store_of_kept {len : Word} (kept : len.bytes.take buffer.length = buffer)
    (full : 4 ≤ buffer.length + bytes.length) :
    len.store buffer.length bytes = buffer ++ bytes := by
  have nothing : len.bytes.drop (buffer.length + bytes.length) = [] := by
    rw [drop_eq_nil_iff, len.size]
    exact full
  rw [Word.store, kept, nothing, append_nil]

/-- The bytes read of a length field follow those that were read before. -/
theorem LinkInv.gotLenBytes (inv : LinkInv stream s) (call : ReadCall) (taken : bytes <+: s.socket)
    (received : s.received = s.pdus.flatten ++ buffer) (alive : s.esme.closed = false)
    (state : s.esme.readState = .inLen) (idx : s.esme.readIdx = buffer.length)
    (short : buffer.length + bytes.length ≤ 4) (valid : ¬ s.rejected)
    (kept : call.len.bytes.take buffer.length = buffer) :
    LinkInv stream (gotLenBytes call (s.consume bytes) bytes) := by
  have stream_eq := (consume_stream taken).trans inv.stream_eq
  have areFrames := inv.areFrames
  have received' : s.received ++ bytes = s.pdus.flatten ++ (buffer ++ bytes) := by
    rw [received, append_assoc]
  unfold Smpp.gotLenBytes EsmeLink.consume
  dsimp only
  split
  · rename_i full
    rw [idx] at full
    have exact4 : (buffer ++ bytes).length = 4 := by
      rw [length_append]
      omega
    rw [idx, Word.store_of_kept kept full]
    have header : (buffer ++ bytes).take 4 = buffer ++ bytes :=
      take_of_length_le exact4.le
    split
    · rename_i invalid
      refine ⟨stream_eq, ?_, buffer ++ bytes, ?_, ?_⟩
      · simpa [EsmeLink.pdus, EsmeLink.deadSocket, EsmeLink.emit] using areFrames
      · simpa [EsmeLink.pdus, EsmeLink.deadSocket, EsmeLink.emit] using received'
      · refine .rejected rfl ⟨exact4.ge, ?_⟩
        simp [smppFraming, header, invalid]
    · rename_i isValid
      have frameLen : smppFraming.frameLen ((buffer ++ bytes).take 4) =
          some (ntohl (buffer ++ bytes)) := by
        simp [smppFraming, header, isValid]
      have long : 4 < ntohl (buffer ++ bytes) := smppFraming.longer _ _ frameLen
      split
      · refine ⟨stream_eq, areFrames, buffer ++ bytes, received', ?_⟩
        refine .inLen alive state (length_append).symm exact4.le ?_ valid
        exact .inr ⟨_, frameLen, exact4.trans_lt long⟩
      · refine ⟨stream_eq, areFrames, buffer ++ bytes, received', ?_⟩
        exact .inMsg alive rfl exact4.symm rfl frameLen exact4.ge (exact4.trans_lt long) valid
  · rename_i partly
    rw [idx] at partly
    have length : (buffer ++ bytes).length < 4 := by
      rw [length_append]
      omega
    refine ⟨stream_eq, areFrames, buffer ++ bytes, received', ?_⟩
    refine .inLen alive state ?_ length.le (.inl length) valid
    simp [idx]

/-- The bytes read of a PDU follow those that were read before. -/
theorem LinkInv.gotMsgBytes (inv : LinkInv stream s) (taken : bytes <+: s.socket)
    (received : s.received = s.pdus.flatten ++ buffer) (alive : s.esme.closed = false)
    (state : s.esme.readState = .inMsg) (idx : s.esme.readIdx = buffer.length)
    (header : smppFraming.frameLen (buffer.take 4) = some s.esme.readLen) (long : 4 ≤ buffer.length)
    (short : buffer.length + bytes.length ≤ s.esme.readLen) (valid : ¬ s.rejected) :
    LinkInv stream (gotMsgBytes { size := s.esme.readLen, data := buffer } (s.consume bytes) bytes) := by
  have stream_eq := (consume_stream taken).trans inv.stream_eq
  have received' : s.received ++ bytes = s.pdus.flatten ++ (buffer ++ bytes) := by
    rw [received, append_assoc]
  have header' : smppFraming.frameLen ((buffer ++ bytes).take 4) = some s.esme.readLen := by
    rw [take_append_of_le_length long, header]
  unfold Smpp.gotMsgBytes EsmeLink.consume
  dsimp only
  split
  · rename_i full
    rw [idx] at full
    have isFrame : smppFraming.IsFrame (buffer ++ bytes) := by
      refine header'.trans (congrArg some ?_)
      rw [length_append]
      omega
    refine ⟨stream_eq, ?_, [], ?_, ?_⟩
    · intro pdu member
      have known : pdu ∈ s.pdus ∨ pdu = buffer ++ bytes := by
        simpa [EsmeLink.pdus, EsmeLink.emit] using member
      rcases known with old | rfl
      · exact inv.areFrames pdu old
      · exact isFrame
    · simpa [EsmeLink.pdus, EsmeLink.emit] using received'
    · refine .inLen alive rfl rfl (by simp) (.inl (by simp [smppFraming])) ?_
      simpa [EsmeLink.rejected, EsmeLink.emit] using valid
  · rename_i partly
    rw [idx] at partly
    refine ⟨stream_eq, inv.areFrames, buffer ++ bytes, received', ?_⟩
    refine .inMsg alive state ?_ rfl header' ?_ ?_ valid
    · simp [idx]
    · simp only [length_append]
      omega
    · simp only [length_append]
      omega

/-- One call keeps the invariant. -/
theorem esmeLinkReadCb_inv (s : EsmeLink) (call : ReadCall) (inv : LinkInv stream s)
    (lengthKept : LengthKept s call) : LinkInv stream (esmeLinkReadCb s call) := by
  obtain ⟨buffer, received, holds⟩ := inv.holds
  unfold esmeLinkReadCb
  cases holds with
  | inLen alive state idx short incomplete valid =>
      simp only [alive, state, Bool.false_eq_true, if_false]
      refine inv.fdRead call.rc fun bytes taken few => ?_
      have kept : call.len.bytes.take buffer.length = buffer := by
        have last := lengthKept state
        rw [idx, received] at last
        simpa using last
      exact inv.gotLenBytes call taken received alive state idx (by omega) valid kept
  | inMsg alive state idx msg header long short valid =>
      simp only [alive, state, msg, Bool.false_eq_true, if_false]
      refine inv.fdRead call.rc fun bytes taken few => ?_
      exact inv.gotMsgBytes taken received alive state idx header long (by omega) valid
  | ended dead | rejected dead =>
      simp only [dead, if_true]
      exact inv

/-! ### Progress -/

/-- After `n` calls that found bytes, so many have been read, or the stream is done with; and there is
always something to ask `read()` for. -/
structure Progress (n : Nat) (s : EsmeLink) : Prop where
  count : n ≤ s.received.length ∨ s.socket = [] ∨ s.rejected
  isOpen : s.esme.closed = true → s.socket = [] ∨ s.rejected
  room : s.esme.closed = false → s.esme.readState = .inLen → s.esme.readIdx < 4

/-- A call that works and finds bytes takes some, or closes a socket that is done with. -/
theorem Progress.fdRead {n count : Nat} {rc : ReadRc} {goOn : EsmeLink → List UInt8 → EsmeLink}
    (progress : Progress n s) (works : rc ≠ .error) (positive : 0 < count)
    (goesOn : ∀ bytes, 0 < bytes.length → bytes.length ≤ count →
      Progress (n + 1) (goOn (s.consume bytes) bytes)) :
    Progress (n + if rc.isReady then 1 else 0) (s.fdRead rc count goOn) := by
  cases rc with
  | eintr => exact progress
  | error => exact absurd rfl works
  | ready more =>
      simp only [EsmeLink.fdRead, ReadRc.isReady, if_true]
      split
      · rename_i nothing
        have drained : s.socket = [] := by
          rcases take_eq_nil_iff.mp nothing with none | empty
          · omega
          · exact empty
        exact ⟨.inr (.inl drained), fun _ => .inl drained, fun alive => by cases alive⟩
      · rename_i something
        refine goesOn _ (length_pos_iff.mpr something) ?_
        exact (length_take_le _ _).trans (Nat.min_le_right _ _)

theorem esmeLinkReadCb_progress {n : Nat} {call : ReadCall} (inv : LinkInv stream s)
    (progress : Progress n s) (works : call.Works) :
    Progress (n + if call.rc.isReady then 1 else 0) (esmeLinkReadCb s call) := by
  have count (bytes : List UInt8) (some' : 0 < bytes.length) :
      n + 1 ≤ (s.received ++ bytes).length ∨ s.socket.drop bytes.length = [] ∨ s.rejected := by
    rw [length_append]
    rcases progress.count with read | drained | rejected
    · exact .inl (by omega)
    · exact .inr (.inl (by simp [drained]))
    · exact .inr (.inr rejected)
  obtain ⟨buffer, received, holds⟩ := inv.holds
  unfold esmeLinkReadCb
  cases holds with
  | inLen alive state idx short incomplete valid =>
      have few := progress.room alive state
      simp only [alive, state, Bool.false_eq_true, if_false]
      refine progress.fdRead works.1 (by omega) fun bytes some' _ => ?_
      unfold gotLenBytes EsmeLink.consume
      dsimp only
      split
      · split
        · exact ⟨.inr (.inr ⟨_, mem_append_right _ mem_cons_self⟩),
            fun _ => .inr ⟨_, mem_append_right _ mem_cons_self⟩, fun alive => by cases alive⟩
        · rw [works.2]
          exact ⟨count bytes some', fun dead => by simp [alive] at dead, fun _ inLen => by cases inLen⟩
      · rename_i partly
        exact ⟨count bytes some', fun dead => by simp [alive] at dead,
          fun _ _ => Nat.lt_of_not_le partly⟩
  | inMsg alive state idx msg header long short valid =>
      simp only [alive, state, msg, Bool.false_eq_true, if_false]
      refine progress.fdRead works.1 ?_ fun bytes some' _ => ?_
      · simp only [Msgb.tailroom]
        omega
      · unfold gotMsgBytes EsmeLink.consume
        dsimp only
        split
        · refine ⟨?_, fun dead => by simp [alive] at dead, fun _ _ => by simp⟩
          simpa [EsmeLink.rejected, EsmeLink.emit] using count bytes some'
        · exact ⟨count bytes some', fun dead => by simp [alive] at dead,
            fun _ inLen => by simp [state] at inLen⟩
  | ended dead | rejected dead =>
      simp only [dead, if_true]
      exact ⟨.inr (progress.isOpen dead), progress.isOpen, progress.room⟩

theorem progress_run {calls : List ReadCall} {n : Nat} (inv : LinkInv stream s)
    (progress : Progress n s) (kept : StepsMeet esmeLinkReadCb LengthKept s calls)
    (works : ∀ call ∈ calls, call.Works) :
    Progress (n + calls.countP (·.rc.isReady)) (calls.foldl esmeLinkReadCb s) := by
  induction calls generalizing n s with
  | nil => exact progress
  | cons call calls ih =>
      have step := esmeLinkReadCb_progress inv progress (works call mem_cons_self)
      have rest := ih (esmeLinkReadCb_inv s call inv kept.1) step kept.2
        fun other member => works other (mem_cons_of_mem _ member)
      rwa [countP_cons, Nat.add_comm (countP _ _), ← Nat.add_assoc]

end Reader

/-- However the stream is split into reads, as long as the local variable still holds what was read
of a length field before, the PDUs passed on are those of the stream. -/
theorem esmeRun_splitAtLengths (stream : List UInt8) (calls : List ReadCall)
    (kept : StepsMeet esmeLinkReadCb LengthKept { socket := stream } calls) :
    SplitAtLengths stream calls := by
  have start : LinkInv stream { socket := stream } := by
    refine ⟨rfl, by simp [EsmeLink.pdus], [], rfl, ?_⟩
    exact .inLen rfl rfl rfl (by simp) (.inl (by simp [smppFraming])) (by simp [EsmeLink.rejected])
  have inv : LinkInv stream (esmeRun stream calls) :=
    foldl_invariant esmeLinkReadCb_inv calls _ start kept
  refine ⟨inv.pdus_eq.1, inv.pdus_eq.2, fun works enough => inv.pdus_eq.2 ?_⟩
  have before : Progress 0 { socket := stream } :=
    ⟨.inl (Nat.zero_le _), fun dead => Bool.noConfusion dead, fun _ _ => Nat.zero_lt_succ 3⟩
  have progress : Progress _ (esmeRun stream calls) := progress_run start before kept works
  rcases progress.count with read | done
  · have whole := congrArg length inv.stream_eq
    rw [length_append] at whole
    exact .inl (length_eq_zero_iff.mp (by omega))
  · exact done

/-- An ENQUIRE_LINK of sixteen bytes. -/
def enquireLink : List UInt8 := [0, 0, 0, 16, 0, 0, 0, 21, 0, 0, 0, 0, 0, 0, 0, 1]

/-- The local variable holds the same byte four times. -/
def Word.fill (b : UInt8) : Word := ⟨[b, b, b, b], rfl⟩

/-- Two PDUs that arrive in pieces; no read ends inside a length field. -/
theorem esmeRun_splitAtLengths_enquireLink :
    let stream := enquireLink ++ enquireLink
    let calls := [3, 0, 6, 9, 3, 20].map fun more => ⟨.ready more, .fill 255, true⟩
    SplitAtLengths stream calls ∧ (esmeRun stream calls).pdus = [enquireLink, enquireLink] :=
  ⟨esmeRun_splitAtLengths _ _ (by decide), by decide⟩

/-- The length field arrives in two pieces, and in the second call the local variable holds something
else: the connection is given up although the stream is one good PDU. -/
theorem split_length_field_is_lost :
    ¬ SplitAtLengths enquireLink
      [⟨.ready 0, .fill 0, true⟩, ⟨.ready 99, .fill 255, true⟩] := by
  intro split
  have nothing := split.atEnd (.inr ⟨4278190096, by decide⟩)
  revert nothing
  decide

end OsmoMsc.Smpp
