/-
Module: OsmoMsc.Api.Access
Purpose: Without the token the HTTP interface neither changes nor discloses anything.  That bytes
  carry the token is said of the bytes alone: a line before the first empty line is a header with
  the token in it.  The header the code finds is such a line, also when it has only a part of the
  bytes yet.
Trusted boundary: none
Main exports: HeaderLine, HeaderField, CarriesToken, apiRun_unauthorised
-/
import OsmoMsc.Api.Request

namespace OsmoMsc.Api

open Library Library.CText List

/-! ### Carrying the token -/

/-- A line before the first empty line of a byte sequence. -/
def HeaderLine (bytes line : Text) : Prop :=
  ∃ (earlier : List Text) (after : Text),
    bytes = earlier.flatMap (· ++ crlf) ++ (line ++ crlf ++ after) ∧
    ∀ l ∈ earlier ++ [line], l ≠ [] ∧ ¬ crlf <:+: l

/-- A line is a header with a name, in any case, and a value, without the blanks around it. -/
def HeaderField (line name value : Text) : Prop :=
  ∃ field text, line = field ++ ':' :: text ∧ field.map Char.toLower = name.map Char.toLower ∧
    value = trimValue (text.dropWhile isBlank)

/-- The token stands in a header `X-Api-Token`, or as a bearer token in a header `Authorization`,
before the first empty line. -/
def CarriesToken (token bytes : Text) : Prop :=
  ∃ line, HeaderLine bytes line ∧
    (HeaderField line (ascii "X-Api-Token") token ∨
      ∃ scheme, scheme.map Char.toLower = (ascii "Bearer ").map Char.toLower ∧
        HeaderField line (ascii "Authorization") (scheme ++ token))

theorem HeaderLine.append {bytes line : Text} (header : HeaderLine bytes line) (more : Text) :
    HeaderLine (bytes ++ more) line := by
  obtain ⟨earlier, after, rfl, plain⟩ := header
  exact ⟨earlier, after ++ more, by simp, plain⟩

variable {token bytes : Text}

/-- Bytes that carry the token do so whatever follows. -/
theorem CarriesToken.append (carries : CarriesToken token bytes) (more : Text) :
    CarriesToken token (bytes ++ more) := by
  obtain ⟨line, header, field⟩ := carries
  exact ⟨line, header.append more, field⟩

theorem HeaderField.isInfix {line name value : Text} (field : HeaderField line name value) :
    value <:+: line := by
  obtain ⟨field, text, rfl, -, rfl⟩ := field
  have trimmed : trimValue (text.dropWhile isBlank) <+: text.dropWhile isBlank :=
    (List.rdropWhile_prefix _ _).trans (List.takeWhile_prefix _)
  have skipped : text.dropWhile isBlank <:+ field ++ ':' :: text :=
    (dropWhile_suffix _).trans ((suffix_cons _ _).trans (suffix_append _ _))
  exact trimmed.isInfix.trans skipped.isInfix

/-- What is carried occurs among the bytes. -/
theorem CarriesToken.isInfix (carries : CarriesToken token bytes) : token <:+: bytes := by
  obtain ⟨line, ⟨earlier, after, rfl, -⟩, field⟩ := carries
  have within : token <:+: line := by
    obtain own | ⟨scheme, -, bearer⟩ := field
    · exact own.isInfix
    · exact (suffix_append scheme token).isInfix.trans bearer.isInfix
  exact within.trans ⟨earlier.flatMap (· ++ crlf), crlf ++ after, by simp⟩

/-! ### The headers the code finds -/

/-- A header that is found is a line of the request; `earlier` are the lines before the pointer. -/
theorem apiHeaderValueLoop_line {name : Text} {fuel : Nat} {p value : Text}
    (found : apiHeaderValueLoop name fuel p = some value) (earlier : List Text)
    (plain : ∀ l ∈ earlier, l ≠ [] ∧ ¬ crlf <:+: l) :
    ∃ line, HeaderLine (earlier.flatMap (· ++ crlf) ++ p) line ∧
      HeaderField line name (trimValue value) := by
  induction fuel generalizing p earlier with
  | zero => exact absurd found nofun
  | succ fuel ih =>
      rw [apiHeaderValueLoop] at found
      cases lineEnd_eq : strstr crlf p with
      | none =>
          rw [lineEnd_eq] at found
          exact absurd found nofun
      | some lineEnd =>
          rw [lineEnd_eq] at found
          obtain ⟨line, rfl, ⟨after, rfl⟩, noBreak⟩ :=
            strstr_eq_some (show crlf ≠ [] by decide) lineEnd_eq
          simp only [length_append, Nat.add_sub_cancel] at found
          by_cases empty : line = []
          · rw [if_pos (by simp [empty])] at found
            exact absurd found nofun
          have all : ∀ l ∈ earlier ++ [line], l ≠ [] ∧ ¬ crlf <:+: l := by
            intro l member
            obtain old | rfl := mem_concat.mp member
            · exact plain l old
            · exact ⟨empty, noBreak⟩
          have positive := length_pos_iff.mpr empty
          rw [if_neg (by omega)] at found
          split at found
          · rename_i matched
            obtain ⟨longer, named, colon⟩ := matched
            obtain rfl := Option.some.inj found
            refine ⟨line, ⟨earlier, after, by simp, all⟩, ?_⟩
            -- the colon is a character of the line, so the value begins in it
            have split : line = line.take name.length ++ ':' :: line.drop (name.length + 1) := by
              have first : line.drop name.length = ':' :: line.drop (name.length + 1) := by
                rw [drop_append_of_le_length (Nat.le_of_lt longer)] at colon
                rw [drop_eq_getElem_cons longer] at colon ⊢
                simp only [cons_append, head?_cons, Option.some.injEq] at colon
                rw [colon]
              rw [← first, take_append_drop]
            refine ⟨line.take name.length, line.drop (name.length + 1), split, ?_, ?_⟩
            · rw [startsWithCase, take_append_of_le_length (Nat.le_of_lt longer)] at named
              exact of_decide_eq_true named
            · have dropped : (line ++ (crlf ++ after)).drop (name.length + 1) =
                  line.drop (name.length + 1) ++ '\r' :: '\n' :: after :=
                drop_append_of_le_length longer
              rw [dropped, dropWhile_append_stop (by decide), trimValue, trimValue,
                takeWhile_append_stop (by decide)]
          · have rest : (crlf ++ after).drop 2 = after := rfl
            rw [rest] at found
            obtain ⟨next, header, field⟩ := ih found (earlier ++ [line]) all
            exact ⟨next, by simpa using header, field⟩

theorem apiHeaderValueTrimmed_line {req name value : Text}
    (found : apiHeaderValueTrimmed req name = some value) :
    ∃ line, HeaderLine req line ∧ HeaderField line name value := by
  obtain ⟨raw, raw_eq, rfl⟩ := Option.map_eq_some_iff.mp found
  exact apiHeaderValueLoop_line raw_eq [] (by simp)

/-- A request whose token is valid carries the token. -/
theorem apiTokenValid_carries {token : CArr 128} {req : Text}
    (valid : apiTokenValid token (apiHeaderValueTrimmed req (ascii "Authorization"))
      (apiHeaderValueTrimmed req (ascii "X-Api-Token")) = true) :
    token.val ≠ [] ∧ CarriesToken token.val req := by
  unfold apiTokenValid at valid
  cases shown_eq : shownToken (apiHeaderValueTrimmed req (ascii "Authorization"))
      (apiHeaderValueTrimmed req (ascii "X-Api-Token")) with
  | none =>
      rw [shown_eq] at valid
      exact Bool.noConfusion valid
  | some shown =>
      rw [shown_eq] at valid
      simp only [Bool.and_eq_true, decide_eq_true_eq] at valid
      obtain ⟨configured, rfl⟩ := valid
      refine ⟨configured, ?_⟩
      unfold shownToken at shown_eq
      split at shown_eq
      · rename_i own
        rw [Option.some.inj shown_eq] at own
        obtain ⟨line, header, field⟩ := apiHeaderValueTrimmed_line own
        exact ⟨line, header, .inl field⟩
      · split at shown_eq
        · rename_i auth found
          split at shown_eq
          · rename_i bearer
            obtain ⟨line, header, field⟩ := apiHeaderValueTrimmed_line found
            refine ⟨line, header, .inr ⟨auth.take (ascii "Bearer ").length, ?_, ?_⟩⟩
            · exact of_decide_eq_true bearer
            · rw [← Option.some.inj shown_eq, take_append_drop]
              exact field
          · exact absurd shown_eq nofun
        · exact absurd shown_eq nofun

/-! ### Refused requests -/

section Refused

variable {σ : Type} {handlers : Handlers σ} {token : CArr 128}

/-- A request that does not carry the token gets the same answer in every state of the MSC, and
leaves that as it is. -/
theorem apiHandleRequest_refused {buf : Text}
    (unauthorised : token.val ≠ [] → ¬ CarriesToken token.val buf) (net : σ) :
    apiHandleRequest handlers token net buf =
      (net, apiSendResponse 401 (ascii "Unauthorized")
        (errorJson "invalid or missing API token")) := by
  have invalid : apiTokenValid token
      (apiHeaderValueTrimmed (cString buf) (ascii "Authorization"))
      (apiHeaderValueTrimmed (cString buf) (ascii "X-Api-Token")) = false := by
    by_contra valid
    obtain ⟨configured, carries⟩ := apiTokenValid_carries (Bool.not_eq_false _ ▸ valid)
    refine unauthorised configured ?_
    have whole : cString buf ++ buf.dropWhile (· ≠ '\x00') = buf := takeWhile_append_dropWhile
    exact whole ▸ carries.append _
  simp only [apiHandleRequest, invalid, if_true]

/-- What one read does, as long as the token has not come. -/
theorem apiConnReadCb_refused {buf : Option Text} {data : Option Text}
    (unauthorised : ∀ bytes, buf = some bytes → token.val ≠ [] →
      ¬ CarriesToken token.val (bytes ++ data.getD [])) :
    ∃ (buf' : Option Text) (response : Text),
      (∀ bytes', buf' = some bytes' → ∃ bytes, buf = some bytes ∧ bytes' = bytes ++ data.getD []) ∧
      ∀ (net : σ) (sent : Text),
        apiConnReadCb handlers token { net, buf, sent } data =
          { net, buf := buf', sent := sent ++ response } := by
  cases data with
  | none => exact ⟨none, [], by simp, fun net sent => rfl⟩
  | some data =>
      cases buf with
      | none => exact ⟨none, [], by simp, fun net sent => rfl⟩
      | some bytes =>
          have refused := @apiHandleRequest_refused σ handlers token (bytes ++ data)
            (unauthorised bytes rfl)
          by_cases large : mscApiMaxRequest < bytes.length + data.length
          · refine ⟨none, apiSendResponse 413 (ascii "Payload Too Large")
              (errorJson "request too large"), by simp, fun net sent => ?_⟩
            simp only [apiConnReadCb, if_pos large, ApiConn.close]
          · by_cases incomplete : strstr (crlf ++ crlf) (cString (bytes ++ data)) = none
            · refine ⟨some (bytes ++ data), [], ?_, fun net sent => ?_⟩
              · rintro bytes' rfl'
                exact ⟨bytes, rfl, (Option.some.inj rfl').symm⟩
              · simp only [apiConnReadCb, if_neg large, if_pos incomplete, append_nil]
            · refine ⟨none, apiSendResponse 401 (ascii "Unauthorized")
                (errorJson "invalid or missing API token"), by simp, fun net sent => ?_⟩
              simp only [apiConnReadCb, if_neg large, if_neg incomplete]
              rw [refused net, ApiConn.close]

/-- The bytes that are read. -/
def received (inputs : List (ApiInput σ)) : Text :=
  inputs.flatMap fun
    | .read data => data.getD []
    | .elsewhere _ => []

/-- What the rest of the MSC does in the meantime. -/
def elsewhere (net : σ) (inputs : List (ApiInput σ)) : σ :=
  inputs.foldl (fun net input =>
    match input with
    | .read _ => net
    | .elsewhere change => change net) net

/-- A whole run: what is sent does not depend on the MSC. -/
theorem apiRun_refused {inputs : List (ApiInput σ)} {buf : Option Text}
    (unauthorised : ∀ bytes, buf = some bytes → token.val ≠ [] →
      ¬ CarriesToken token.val (bytes ++ received inputs)) :
    ∃ (buf' : Option Text) (response : Text), ∀ (net : σ) (sent : Text),
      inputs.foldl (apiStep handlers token) { net, buf, sent } =
        { net := elsewhere net inputs, buf := buf', sent := sent ++ response } := by
  induction inputs generalizing buf with
  | nil => exact ⟨buf, [], fun net sent => by simp [elsewhere]⟩
  | cons input inputs ih =>
      cases input with
      | elsewhere change =>
          obtain ⟨buf', response, run⟩ := ih unauthorised
          exact ⟨buf', response, fun net sent => run (change net) sent⟩
      | read data =>
          have split : received (.read data :: inputs) = data.getD [] ++ received inputs := rfl
          rw [split] at unauthorised
          obtain ⟨bufRead, answer, grown, step⟩ := @apiConnReadCb_refused σ handlers token buf data
            (fun bytes present configured carries =>
              unauthorised bytes present configured (by
                rw [← append_assoc]
                exact carries.append _))
          obtain ⟨buf', response, run⟩ := @ih bufRead (by
            intro bytes' present' configured
            obtain ⟨bytes, present, rfl⟩ := grown bytes' present'
            rw [append_assoc]
            exact unauthorised bytes present configured)
          refine ⟨buf', answer ++ response, fun net sent => ?_⟩
          rw [foldl_cons, apiStep, step net sent, run net (sent ++ answer), append_assoc]
          rfl

/-- Bytes that do not carry the configured token before the first empty line, in any split into
reads and with anything the MSC does in between, change nothing in the MSC, and what is sent back is
the same from any two states of it. -/
theorem apiRun_unauthorised (handlers : Handlers σ) (token : CArr 128)
    (inputs : List (ApiInput σ))
    (unauthorised : token.val ≠ [] → ¬ CarriesToken token.val (received inputs)) (net net' : σ) :
    (inputs.foldl (apiStep handlers token) { net }).net = elsewhere net inputs ∧
      (inputs.foldl (apiStep handlers token) { net }).sent =
        (inputs.foldl (apiStep handlers token) { net := net' }).sent := by
  obtain ⟨buf', response, run⟩ := @apiRun_refused σ handlers token inputs (some []) (by
    rintro bytes present configured
    rw [← Option.some.inj present]
    exact unauthorised configured)
  rw [run net [], run net' []]
  exact ⟨rfl, rfl⟩

end Refused

/-- Handlers for an MSC that is the list of its subscribers. -/
def listHandlers : Handlers (List Text) where
  jsonStats := fun net => some (decText net.length)
  countSubscribersOnline := fun net _ => .ofNat net.length
  jsonSubscribersOnline := fun net filter => some (net.filter (filter.getD [] = ·)).flatten
  countActiveCalls := fun _ _ => 0
  jsonActiveCalls := fun _ _ => some []
  countLinks := fun _ => 0
  jsonLinks := fun _ => some []
  subscriberIsOnline := fun net id => id ∈ net
  jsonSubscriberDetail := fun net id => if id ∈ net then some id else none
  disconnectSubscriber := fun net id => if id ∈ net then some (net.erase id) else none
  disconnectCall := fun _ _ => .error true
  jsonTraceList := fun _ => some []
  traceFind := fun _ _ => none
  traceEnable := fun net _ => (net, none)
  traceDisable := fun _ _ => none

/-- A request to delete a subscriber with a wrong token, in two reads. -/
def strangerInputs : List (ApiInput (List Text)) :=
  [.read (some (ascii "DELETE /api/subscribers/00101 HTTP/1.0\r\nX-Api-Tok")),
   .elsewhere (ascii "00102" :: ·),
   .read (some (ascii "en: guess\r\n\r\n"))]

theorem apiRun_unauthorised_stranger :
    ¬ CarriesToken (ascii "secret") (received strangerInputs) ∧
      (strangerInputs.foldl (apiStep listHandlers (strlcpy 128 (ascii "secret")))
        { net := [ascii "00101"] }).net = [ascii "00102", ascii "00101"] := by
  have absent : ¬ CarriesToken (ascii "secret") (received strangerInputs) := fun carries =>
    absurd carries.isInfix (by decide +kernel)
  exact ⟨absent, (apiRun_unauthorised listHandlers (strlcpy 128 (ascii "secret")) strangerInputs
    (fun _ => absent) [ascii "00101"] []).1⟩

end OsmoMsc.Api
