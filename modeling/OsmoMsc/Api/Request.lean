/-
Module: OsmoMsc.Api.Request
Purpose: The HTTP interface of the MSC (msc_api.c): how `api_conn_read_cb()` collects a request, how
  `api_handle_request()` takes it apart, checks the token and chooses a handler, and what is sent
  back.  The rest of the MSC is a type of states; what the handlers read from it and do to it are
  parameters.  A character is a byte, and a C string ends at the first NUL.
Trusted boundary: memory allocation succeeds; the handlers of the network are parameters
Main exports: Handlers, apiHeaderValueTrimmed, apiTokenValid, apiParseRequest, apiPathStripQuery,
  apiSubscriberPathId, apiHandleRequest, apiConnReadCb, ApiInput, apiStep
-/
import Mathlib.Data.List.DropRight
import OsmoMsc.Library.CText
import OsmoMsc.Library.Run

namespace OsmoMsc.Api

open Library Library.CText List

/-! ### What the handlers do -/

/-- What the interface asks of the rest of the MSC: the functions that look something up return
what they print or count, the others also the new state. -/
structure Handlers (σ : Type) where
  /-- `api_json_stats()` -/
  jsonStats : σ → Option Text
  /-- `api_count_subscribers_online()`, for all or for one subscriber -/
  countSubscribersOnline : σ → Option Text → UInt32
  /-- `api_json_subscribers_online()` -/
  jsonSubscribersOnline : σ → Option Text → Option Text
  /-- `api_count_active_calls()` -/
  countActiveCalls : σ → Option Text → UInt32
  /-- `api_json_active_calls()` -/
  jsonActiveCalls : σ → Option Text → Option Text
  /-- `api_count_links()` -/
  countLinks : σ → UInt32
  /-- `api_json_links()` -/
  jsonLinks : σ → Option Text
  /-- `api_subscriber_is_online()` -/
  subscriberIsOnline : σ → Text → Bool
  /-- `api_json_subscriber_detail()` -/
  jsonSubscriberDetail : σ → Text → Option Text
  /-- `api_disconnect_subscriber()`; `none` is `-ENOENT` -/
  disconnectSubscriber : σ → Text → Option σ
  /-- `api_disconnect_call()`: `-EINVAL`, `-ENOENT` or the new state -/
  disconnectCall : σ → Text → Except Bool σ
  /-- `api_json_trace_list()` -/
  jsonTraceList : σ → Option Text
  /-- `api_trace_find()`: the IMSI of the trace -/
  traceFind : σ → Text → Option Text
  /-- `api_trace_enable()`: the IMSI of the trace, or an error -/
  traceEnable : σ → Text → σ × Option Text
  /-- `api_trace_disable()`; `none` is `-ENOENT` -/
  traceDisable : σ → Text → Option σ

/-! ### Answers -/

def crlf : Text := ['\r', '\n']

/-- The header of an answer. -/
def responseHeader (status : Nat) (statusText : Text) (bodyLen : Nat) : Text :=
  ascii "HTTP/1.0 " ++ decText status ++ ' ' :: statusText ++ crlf ++
  ascii "Content-Type: application/json" ++ crlf ++
  ascii "Content-Length: " ++ decText bodyLen ++ crlf ++
  ascii "Connection: close" ++ crlf ++ crlf

/-- `api_send_response()`: what is sent; nothing, if the header is too long for its buffer. -/
def apiSendResponse (status : Nat) (statusText : Text) (json : Option Text) : Text :=
  let body := json.getD []
  let header := responseHeader status statusText body.length
  if 256 ≤ header.length then [] else header ++ body

/-- `{"error":"<text>"}` -/
def errorJson (text : String) : Option Text :=
  some (ascii "\x7b\"error\":\"" ++ ascii text ++ ascii "\"\x7d")

/-- `MSC_API_MAX_JSON_BYTES` -/
def mscApiMaxJsonBytes : Nat := 256 * 1024

/-- `api_reply_json()`. -/
def apiReplyJson (json : Option Text) : Text :=
  if mscApiMaxJsonBytes < (json.getD []).length then
    apiSendResponse 413 (ascii "Payload Too Large")
      (errorJson "response too large; use /api/stats for dashboard polling")
  else apiSendResponse 200 (ascii "OK") json

/-- An answer with status 200. -/
def apiOk (json : Option Text) : Text := apiSendResponse 200 (ascii "OK") json

/-- The answer for what is not found. -/
def apiNotFound (text : String) : Text :=
  apiSendResponse 404 (ascii "Not Found") (errorJson text)

/-- `api_json_count()`. -/
def apiJsonCount (count : UInt32) : Option Text :=
  some (ascii "\x7b\"count\":" ++ decText count.toNat ++ ascii "\x7d")

/-- `json_escape()`. -/
def jsonEscape (s : Text) : Text :=
  s.flatMap fun c =>
    if c = '"' ∨ c = '\\' then ['\\', c]
    else if c.toNat < 0x20 then ascii "\\u" ++ (hexText c.toNat).leftpad 4 '0'
    else [c]

/-- The octets that the first loop of `json_escape()` adds to the length. -/
def escapeExtra (s : Text) : Nat :=
  (s.map fun c => if c = '"' ∨ c = '\\' then 1 else if c.toNat < 0x20 then 5 else 0).sum

/-- The characters that stand for others after a backslash. -/
def jsonEscapes : List (Char × Char) :=
  [('"', '"'), ('\\', '\\'), ('/', '/'), ('b', '\x08'), ('f', '\x0c'), ('n', '\n'), ('r', '\r'),
   ('t', '\t')]

/-- The number that hexadecimal digits stand for. -/
def hexValue (digits : Text) : Option Nat :=
  digits.foldlM (fun n c => ((ascii "0123456789abcdef").idxOf? c.toLower).map (16 * n + ·)) 0

/-- What the inside of a JSON string stands for.  Quotes, control characters and backslashes must be
escaped. -/
def jsonUnescape : Text → Option Text
  | [] => some []
  | c :: s =>
      if c = '\\' then
        match s with
        | 'u' :: s =>
            match s with
            | a :: b :: c :: d :: s => do
                let code ← hexValue [a, b, c, d]
                (.ofNat code :: ·) <$> jsonUnescape s
            | _ => none
        | c :: s => do
            let c ← jsonEscapes.lookup c
            (c :: ·) <$> jsonUnescape s
        | [] => none
      else if c = '"' ∨ c.toNat < 0x20 then none
      else (c :: ·) <$> jsonUnescape s

theorem jsonUnescape_control {n : Nat} (control : n < 0x20) (rest : Text) :
    (ascii "\\u" ++ (hexText n).leftpad 4 '0').length = 6 ∧
    jsonUnescape (ascii "\\u" ++ (hexText n).leftpad 4 '0' ++ rest) =
      (Char.ofNat n :: ·) <$> jsonUnescape rest := by
  have read : ∀ n < 0x20, ((hexText n).leftpad 4 '0').length = 4 ∧
      hexValue ((hexText n).leftpad 4 '0') = some n := by decide
  obtain ⟨four, value⟩ := read n control
  generalize (hexText n).leftpad 4 '0' = digits at four value ⊢
  match digits, four with
  | [a, b, c, d], _ =>
      refine ⟨rfl, ?_⟩
      change (hexValue [a, b, c, d] >>= fun code => (.ofNat code :: ·) <$> jsonUnescape rest) = _
      rw [value]
      rfl

/-- What is escaped fills the buffer that was allocated for it, and is read back. -/
theorem jsonUnescape_jsonEscape (s : Text) :
    (jsonEscape s).length = s.length + escapeExtra s ∧ jsonUnescape (jsonEscape s) = some s := by
  induction s with
  | nil => exact ⟨rfl, rfl⟩
  | cons c s ih =>
      obtain ⟨length, text⟩ := ih
      have extra : escapeExtra (c :: s) =
          (if c = '"' ∨ c = '\\' then 1 else if c.toNat < 0x20 then 5 else 0) + escapeExtra s := rfl
      rw [jsonEscape, flatMap_cons, ← jsonEscape, extra, length_append, length_cons]
      by_cases quoted : c = '"' ∨ c = '\\'
      · rw [if_pos quoted, if_pos quoted]
        refine ⟨by simp only [length_cons, length_nil]; omega, ?_⟩
        rcases quoted with rfl | rfl
        · exact congrArg (('"' :: ·) <$> ·) text
        · exact congrArg (('\\' :: ·) <$> ·) text
      · rw [if_neg quoted, if_neg quoted]
        by_cases control : c.toNat < 0x20
        · obtain ⟨length', back⟩ := jsonUnescape_control control (jsonEscape s)
          rw [if_pos control, if_pos control, back, text, length', Char.ofNat_toNat]
          exact ⟨by omega, rfl⟩
        · rw [not_or] at quoted
          rw [if_neg control, if_neg control, singleton_append]
          unfold jsonUnescape
          rw [if_neg quoted.2, if_neg (not_or.mpr ⟨quoted.1, control⟩), text]
          exact ⟨by rw [length_singleton]; omega, rfl⟩

/-- `api_json_trace()`. -/
def apiJsonTrace (imsi : Text) (status : String) : Option Text :=
  some (ascii "\x7b\"status\":\"" ++ ascii status ++ ascii "\",\"imsi\":\"" ++ jsonEscape imsi ++
    ascii "\",\"output\":\"journal\",\"level\":\"debug\",\"packets\":true,\"ip_packets\":true\x7d")

/-- `{"status":"<status>","<key>":"<value>"}` -/
def statusJson (status key : String) (value : Text) : Option Text :=
  some (ascii "\x7b\"status\":\"" ++ ascii status ++ ascii "\",\"" ++ ascii key ++ ascii "\":\"" ++
    jsonEscape value ++ ascii "\"\x7d")

/-! ### Taking a request apart -/

/-- The C string that begins in a buffer. -/
def cString (bytes : Text) : Text := bytes.takeWhile (· ≠ '\x00')

/-- `strncasecmp(s, pattern, strlen(pattern)) == 0` -/
def startsWithCase (pattern s : Text) : Bool :=
  (s.take pattern.length).map Char.toLower = pattern.map Char.toLower

def isBlank (c : Char) : Bool := c = ' ' || c = '\t'

/-- The loop of `api_header_value()`; each turn moves the pointer beyond a line. -/
def apiHeaderValueLoop (name : Text) : Nat → Text → Option Text
  | 0, _ => none
  | fuel + 1, p =>
      match strstr crlf p with
      | none => none
      | some lineEnd =>
          if lineEnd.length = p.length then none
          else if name.length < p.length - lineEnd.length ∧ startsWithCase name p = true ∧
              (p.drop name.length).head? = some ':' then
            some ((p.drop (name.length + 1)).dropWhile isBlank)
          else apiHeaderValueLoop name fuel (lineEnd.drop 2)

/-- `api_header_value()`. -/
def apiHeaderValue (req name : Text) : Option Text := apiHeaderValueLoop name req.length req

/-- A value is cut at a carriage return, and blanks at its end are taken off. -/
def trimValue (value : Text) : Text := (value.takeWhile (· ≠ '\r')).rdropWhile isBlank

/-- `api_header_value_trimmed()`. -/
def apiHeaderValueTrimmed (req name : Text) : Option Text :=
  (apiHeaderValue req name).map trimValue

/-- The token a request shows. -/
def shownToken (authHdr apiTokenHdr : Option Text) : Option Text :=
  match apiTokenHdr with
  | some (c :: token) => some (c :: token)
  | _ =>
      match authHdr with
      | some auth =>
          if startsWithCase (ascii "Bearer ") auth then some (auth.drop (ascii "Bearer ").length)
          else none
      | none => none

/-- `api_token_valid()`. -/
def apiTokenValid (token : CArr 128) (authHdr apiTokenHdr : Option Text) : Bool :=
  match shownToken authHdr apiTokenHdr with
  | none => false
  | some shown => token.val ≠ [] && shown = token.val

/-- `api_parse_request()`: the method and the path, cut to fit their arrays. -/
def apiParseRequest (req : Text) : CArr 16 × CArr 256 :=
  let empty := (strlcpy 16 [], strlcpy 256 [])
  match strstr crlf req, strchr ' ' req with
  | some lineEnd, some sp1 =>
      if sp1.length ≤ lineEnd.length then empty
      else
        match strchr ' ' sp1.tail with
        | none => empty
        | some sp2 =>
            if sp2.length ≤ lineEnd.length then empty
            else
              (strlcpy 16 (req.take (req.length - sp1.length)),
                strlcpy 256 (sp1.tail.take (sp1.tail.length - sp2.length)))
  | _, _ => empty

/-- `api_path_strip_query()`: the path, and the query after its `?`. -/
def apiPathStripQuery (path : Text) : Text × Text :=
  match strchr '?' path with
  | none => (path, [])
  | some q => (path.take (path.length - q.length), q.tail)

/-- The loop of `api_query_get()` over the segments of a query. -/
def apiQueryGetLoop (key : Text) (valLen : Nat) : List Text → Option Text
  | [] => none
  | segment :: segments =>
      if segment.take (key.length + 1) = key ++ ['='] then
        let value := (segment.drop (key.length + 1)).take (valLen - 1)
        if value = [] then none else some value
      else apiQueryGetLoop key valLen segments

/-- `api_query_get()`, for a key without `=`. -/
def apiQueryGet (query key : Text) (valLen : Nat) : Option Text :=
  if query = [] then none else apiQueryGetLoop key valLen (query.splitOn '&')

/-- `api_valid_subscriber_id()`. -/
def apiValidSubscriberId (id : Text) : Bool :=
  id ≠ [] &&
    id.all fun c =>
      ('0' ≤ c && c ≤ '9') || ('A' ≤ c && c ≤ 'Z') || ('a' ≤ c && c ≤ 'z') || c = '+'

/-- `api_subscriber_path_id()`: the identifier, if the suffix is there. -/
def apiSubscriberPathId (rest suffix : Text) : Option Text :=
  if rest.length ≤ suffix.length + 1 ∨
      (rest.drop (rest.length - suffix.length - 1)).head? ≠ some '/' then none
  else if rest.drop (rest.length - suffix.length) ≠ suffix then none
  else
    let id := rest.take (min 64 (rest.length - suffix.length) - 1)
    if apiValidSubscriberId id then some id else none

/-- `api_valid_imsi()`. -/
def apiValidImsi (imsi : Text) : Bool :=
  imsi.all Char.isDigit && 5 ≤ imsi.length && imsi.length ≤ 15

/-! ### Choosing a handler -/

section Handle

variable {σ : Type} (handlers : Handlers σ)

/-- `api_handle_trace()`: `none` if the path is not that of a trace. -/
def apiHandleTrace (net : σ) (method path : Text) : Option (σ × Text) :=
  if method = ascii "GET" ∧ path = ascii "/api/trace" then
    some (net, apiOk (handlers.jsonTraceList net))
  else if (ascii "/api/trace/").isPrefixOf path = false then none
  else
    let imsi := path.drop (ascii "/api/trace/").length
    if apiValidImsi imsi = false then
      some (net, apiSendResponse 400 (ascii "Bad Request") (errorJson "invalid IMSI"))
    else if method = ascii "POST" ∨ method = ascii "PUT" then
      match handlers.traceEnable net imsi with
      | (net, none) =>
          some (net, apiSendResponse 500 (ascii "Internal Server Error")
            (errorJson "failed to enable trace"))
      | (net, some trace) => some (net, apiOk (apiJsonTrace trace "enabled"))
    else if method = ascii "DELETE" then
      match handlers.traceDisable net imsi with
      | none => some (net, apiNotFound "no active trace for this IMSI")
      | some net => some (net, apiOk (statusJson "disabled" "imsi" imsi))
    else if method = ascii "GET" then
      match handlers.traceFind net imsi with
      | none => some (net, apiNotFound "no active trace for this IMSI")
      | some trace => some (net, apiOk (apiJsonTrace trace "active"))
    else none

/-- The paths under `/api/subscribers/` of `api_handle_request()`, from after that. -/
def apiHandleSubscriber (net : σ) (rest : Text) : Option (σ × Text) :=
  let count := fun n : UInt32 => apiOk (apiJsonCount n)
  let online := fun id => if handlers.subscriberIsOnline net id then 1 else 0
  match apiSubscriberPathId rest (ascii "/calls/active/count") with
  | some id => some (net, count (handlers.countActiveCalls net (some id)))
  | none =>
  match apiSubscriberPathId rest (ascii "/calls/active") with
  | some id => some (net, apiReplyJson (handlers.jsonActiveCalls net (some id)))
  | none =>
  match apiSubscriberPathId rest (ascii "/online/count") with
  | some id => some (net, count (online id))
  | none =>
  match apiSubscriberPathId rest (ascii "/online") with
  | some id => some (net, apiReplyJson (handlers.jsonSubscribersOnline net (some id)))
  | none =>
  match apiSubscriberPathId rest (ascii "/detail/count") with
  | some id => some (net, count (online id))
  | none =>
  match apiSubscriberPathId rest (ascii "/detail") with
  | some id =>
      match handlers.jsonSubscriberDetail net id with
      | none => some (net, apiNotFound "subscriber not found")
      | some json => some (net, apiOk (some json))
  | none => none

/-- The requests to delete a call of `api_handle_request()`, from after `/api/calls/`. -/
def apiHandleCallDisconnect (net : σ) (rest : Text) : σ × Text :=
  let suffix := ascii "/disconnect"
  if rest.length ≤ suffix.length ∨ rest.drop (rest.length - suffix.length) ≠ suffix then
    (net, apiNotFound "not found")
  else
    let callref := rest.take (min 32 (rest.length - suffix.length + 1) - 1)
    match handlers.disconnectCall net callref with
    | .error true => (net, apiNotFound "call not found")
    | .error false =>
        (net, apiSendResponse 400 (ascii "Bad Request") (errorJson "invalid callref"))
    | .ok net => (net, apiOk (statusJson "disconnected" "callref" callref))

/-- What `api_handle_request()` does once the token is checked. -/
def apiDispatch (net : σ) (method path : Text) (filterImsi : Option Text) : σ × Text :=
  let get := fun route : Text => method = ascii "GET" ∧ path = route
  if get (ascii "/api/stats") then (net, apiOk (handlers.jsonStats net))
  else if get (ascii "/api/subscribers/online/count") then
    (net, apiOk (apiJsonCount (handlers.countSubscribersOnline net filterImsi)))
  else if get (ascii "/api/subscribers/online") then
    match filterImsi with
    | none =>
        (net, apiSendResponse 413 (ascii "Payload Too Large")
          (errorJson "response too large; use /api/stats or ?imsi="))
    | some imsi => (net, apiReplyJson (handlers.jsonSubscribersOnline net (some imsi)))
  else if get (ascii "/api/calls/active/count") then
    (net, apiOk (apiJsonCount (handlers.countActiveCalls net filterImsi)))
  else if get (ascii "/api/calls/active") then
    (net, apiReplyJson (handlers.jsonActiveCalls net filterImsi))
  else
    match apiHandleTrace handlers net method path with
    | some answer => answer
    | none =>
        if get (ascii "/api/links/count") then
          (net, apiOk (apiJsonCount (handlers.countLinks net)))
        else if get (ascii "/api/links") then (net, apiReplyJson (handlers.jsonLinks net))
        else
          let prefixLen := (ascii "/api/subscribers/").length
          let subscribers := (ascii "/api/subscribers/").isPrefixOf path
          let answer :=
            if method = ascii "GET" ∧ subscribers = true then
              apiHandleSubscriber handlers net (path.drop prefixLen)
            else none
          match answer with
          | some answer => answer
          | none =>
              if method = ascii "DELETE" ∧ subscribers = true then
                let id := path.drop prefixLen
                if apiValidSubscriberId id = false then
                  (net, apiSendResponse 400 (ascii "Bad Request")
                    (errorJson "invalid subscriber identifier"))
                else
                  match handlers.disconnectSubscriber net id with
                  | none => (net, apiNotFound "subscriber not found")
                  | some net => (net, apiOk (statusJson "disconnected" "id" id))
              else if method = ascii "DELETE" ∧ (ascii "/api/calls/").isPrefixOf path = true then
                apiHandleCallDisconnect handlers net (path.drop (ascii "/api/calls/").length)
              else (net, apiNotFound "not found")

/-- `api_handle_request()`. -/
def apiHandleRequest (token : CArr 128) (net : σ) (buf : Text) : σ × Text :=
  let (method, path) := apiParseRequest (cString buf)
  let (path, query) := apiPathStripQuery path.val
  let filterImsi := apiQueryGet query (ascii "imsi") 64
  let auth := apiHeaderValueTrimmed (cString buf) (ascii "Authorization")
  let apiToken := apiHeaderValueTrimmed (cString buf) (ascii "X-Api-Token")
  if apiTokenValid token auth apiToken = false then
    (net, apiSendResponse 401 (ascii "Unauthorized") (errorJson "invalid or missing API token"))
  else apiDispatch handlers net method.val path filterImsi

/-! ### Connections -/

/-- `MSC_API_MAX_REQUEST` -/
def mscApiMaxRequest : Nat := 8192

/-- The MSC, what one connection has received so far, and what was sent on it; a connection that
was closed has no buffer. -/
structure ApiConn (σ : Type) where
  net : σ
  buf : Option Text := some []
  sent : Text := []

/-- `api_conn_close()`, after sending. -/
def ApiConn.close (s : ApiConn σ) (net : σ) (response : Text) : ApiConn σ where
  net := net
  buf := none
  sent := s.sent ++ response

/-- `api_conn_read_cb()`: what was read, if anything. -/
def apiConnReadCb (token : CArr 128) (s : ApiConn σ) (data : Option Text) : ApiConn σ :=
  match data, s.buf with
  | none, _ | some _, none => s.close s.net []
  | some data, some buf =>
      if mscApiMaxRequest < buf.length + data.length then
        s.close s.net
          (apiSendResponse 413 (ascii "Payload Too Large") (errorJson "request too large"))
      else if strstr (crlf ++ crlf) (cString (buf ++ data)) = none then
        { s with buf := some (buf ++ data) }
      else
        let (net, response) := apiHandleRequest handlers token s.net (buf ++ data)
        s.close net response

/-- What can happen: the connection has data or was closed by the peer, or the MSC does something
else in between. -/
inductive ApiInput (σ : Type) where
  | read (data : Option Text)
  | elsewhere (change : σ → σ)

/-- One input. -/
def apiStep (token : CArr 128) (s : ApiConn σ) : ApiInput σ → ApiConn σ
  | .read data => apiConnReadCb handlers token s data
  | .elsewhere change => { s with net := change s.net }

end Handle

end OsmoMsc.Api
