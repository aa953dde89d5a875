/-
Module: OsmoMsc.Api.Routes
Purpose: How `api_handle_request()` routes the resources of one subscriber.  The suffixes that
  `api_subscriber_path_id()` is called with begin with a slash, and the function wants another slash
  before them, so it finds an identifier only where two slashes follow each other.
Trusted boundary: none
Main exports: Resource, serveResource, apiHandleRequest_subscriberResource
-/
import OsmoMsc.Api.Access

namespace OsmoMsc.Api

open Library Library.CText List

/-! ### The documented resources of a subscriber -/

/-- The resources of a subscriber. -/
inductive Resource where
  | online
  | onlineCount
  | detail
  | detailCount
  | callsActive
  | callsActiveCount
deriving DecidableEq, Repr

/-- Where a resource is found, after `/api/subscribers/<id>/`. -/
def Resource.path : Resource → Text
  | .online => ascii "online"
  | .onlineCount => ascii "online/count"
  | .detail => ascii "detail"
  | .detailCount => ascii "detail/count"
  | .callsActive => ascii "calls/active"
  | .callsActiveCount => ascii "calls/active/count"

section Serve

variable {σ : Type} (handlers : Handlers σ)

/-- What the handler of a resource answers. -/
def serveResource (net : σ) (id : Text) : Resource → σ × Text
  | .online => (net, apiReplyJson (handlers.jsonSubscribersOnline net (some id)))
  | .onlineCount | .detailCount =>
      (net, apiOk (apiJsonCount (if handlers.subscriberIsOnline net id then 1 else 0)))
  | .detail =>
      match handlers.jsonSubscriberDetail net id with
      | none => (net, apiNotFound "subscriber not found")
      | some json => (net, apiOk (some json))
  | .callsActive => (net, apiReplyJson (handlers.jsonActiveCalls net (some id)))
  | .callsActiveCount => (net, apiOk (apiJsonCount (handlers.countActiveCalls net (some id))))

end Serve

/-- An identifier of a subscriber as the interface documents it. -/
structure SubscriberId (id : Text) : Prop where
  nonempty : id ≠ []
  short : id.length ≤ 40
  chars : ∀ c ∈ id, c.isAlphanum = true ∨ c = '+'

theorem SubscriberId.notMem {id : Text} (valid : SubscriberId id) {c : Char}
    (other : c.isAlphanum = false ∧ c ≠ '+') : c ∉ id := by
  intro member
  obtain alphanum | plus := valid.chars c member
  · rw [other.1] at alphanum
    exact Bool.noConfusion alphanum
  · exact other.2 plus

/-! ### Two slashes in a row -/

/-- Without two slashes in a row there is no identifier before any of the suffixes. -/
theorem apiSubscriberPathId_none {rest suffix : Text} (slash : suffix.head? = some '/')
    (single : ¬ ['/', '/'] <:+: rest) : apiSubscriberPathId rest suffix = none := by
  unfold apiSubscriberPathId
  split
  · rfl
  · rename_i found
    rw [not_or, not_not] at found
    obtain ⟨longer, separator⟩ := found
    split
    · rfl
    · rename_i ends
      rw [not_not] at ends
      refine absurd ?_ single
      obtain ⟨name, rfl⟩ : ∃ name, suffix = '/' :: name := by
        cases suffix with
        | nil => exact absurd slash nofun
        | cons c name => exact ⟨name, by rw [Option.some.inj slash]⟩
      have before : rest.drop (rest.length - ('/' :: name).length - 1) =
          '/' :: rest.drop (rest.length - ('/' :: name).length) := by
        have inside : rest.length - ('/' :: name).length - 1 < rest.length := by omega
        rw [drop_eq_getElem_cons inside] at separator ⊢
        rw [Option.some.inj separator,
          show rest.length - ('/' :: name).length - 1 + 1 = rest.length - ('/' :: name).length by
            omega]
      rw [ends] at before
      have twice : ['/', '/'] <+: rest.drop (rest.length - ('/' :: name).length - 1) :=
        before ▸ ⟨name, rfl⟩
      exact twice.isInfix.trans (drop_suffix _ _).isInfix

theorem Resource.path_single (resource : Resource) : ¬ ['/', '/'] <:+: resource.path := by
  cases resource <;> decide

theorem Resource.path_head (resource : Resource) (name : Text) : resource.path ≠ '/' :: name := by
  have first : resource.path.head? ≠ some '/' := by cases resource <;> decide
  intro same
  exact first (congrArg List.head? same)

/-- The path of a resource has no two slashes in a row. -/
theorem single_slashes {id : Text} (noSlash : '/' ∉ id) (resource : Resource) :
    ¬ ['/', '/'] <:+: id ++ '/' :: resource.path := by
  rintro ⟨s, t, doubled⟩
  rw [append_assoc] at doubled
  obtain ⟨a, id_eq, rest⟩ | ⟨a, s_eq, rest⟩ := append_eq_append_iff.mp doubled
  · cases a with
    | nil => exact resource.path_head t (cons.inj rest).2.symm
    | cons c a =>
        obtain rfl : '/' = c := (cons.inj rest).1
        exact noSlash (by simp [id_eq])
  · cases a with
    | nil => exact resource.path_head t (cons.inj rest).2
    | cons c a =>
        have inside := (cons.inj rest).2
        exact resource.path_single ⟨a, t, by simpa using inside.symm⟩

/-! ### Routing -/

section Dispatch

variable {σ : Type} {handlers : Handlers σ}

/-- A path below `/api/subscribers/` without two slashes in a row is not found, unless it is one of
the two that are no subscriber's. -/
theorem apiDispatch_subscriber (net : σ) {rest : Text} (filterImsi : Option Text)
    (online : rest ≠ ascii "online") (onlineCount : rest ≠ ascii "online/count")
    (single : ¬ ['/', '/'] <:+: rest) :
    apiDispatch handlers net (ascii "GET") (ascii "/api/subscribers/" ++ rest) filterImsi =
      (net, apiNotFound "not found") := by
  have other : ∀ route : Text,
      route.take 10 ≠ (ascii "/api/subscribers/").take 10 →
      ascii "/api/subscribers/" ++ rest ≠ route := by
    rintro route differs rfl
    exact differs rfl
  have below : ∀ suffix : Text, rest ≠ suffix →
      ascii "/api/subscribers/" ++ rest ≠ ascii "/api/subscribers/" ++ suffix :=
    fun _ differs same => differs (append_cancel_left same)
  have isOnline : ascii "/api/subscribers/" ++ rest ≠ ascii "/api/subscribers/online" :=
    below _ online
  have isOnlineCount :
      ascii "/api/subscribers/" ++ rest ≠ ascii "/api/subscribers/online/count" :=
    below _ onlineCount
  have trace : apiHandleTrace handlers net (ascii "GET") (ascii "/api/subscribers/" ++ rest) =
      none := by
    have noTrace : (ascii "/api/trace/").isPrefixOf (ascii "/api/subscribers/" ++ rest) = false :=
      rfl
    simp only [apiHandleTrace, noTrace, other _ (show (ascii "/api/trace").take 10 ≠ _ by decide),
      and_false, if_false, if_true]
  have path : (ascii "/api/subscribers/").isPrefixOf (ascii "/api/subscribers/" ++ rest) = true :=
    isPrefixOf_iff_prefix.mpr ⟨rest, rfl⟩
  have found : apiHandleSubscriber handlers net rest = none := by
    simp only [apiHandleSubscriber]
    repeat rw [apiSubscriberPathId_none (by decide) single]
  have delete : ascii "GET" ≠ ascii "DELETE" := by decide
  simp only [apiDispatch, other _ (show (ascii "/api/stats").take 10 ≠ _ by decide),
    other _ (show (ascii "/api/calls/active").take 10 ≠ _ by decide),
    other _ (show (ascii "/api/calls/active/count").take 10 ≠ _ by decide),
    other _ (show (ascii "/api/links").take 10 ≠ _ by decide),
    other _ (show (ascii "/api/links/count").take 10 ≠ _ by decide),
    isOnline, isOnlineCount, trace, path, drop_left, found, delete,
    and_false, and_true, false_and, if_false, if_true]

end Dispatch

/-! ### The request line -/

/-- The first `c` is found after what has none, and the pointers to both give its length. -/
theorem strchr_first {c : Char} {word : Text} (absent : c ∉ word) (rest : Text) :
    strchr c (word ++ c :: rest) = some (c :: rest) ∧
      (word ++ c :: rest).take ((word ++ c :: rest).length - (c :: rest).length) = word := by
  rw [strchr_append absent, length_append, Nat.add_sub_cancel]
  exact ⟨strchr_cons_self _ _, take_left⟩

/-- The method and the path of a request line. -/
theorem apiParseRequest_get {target tail : Text} (plain : ∀ c ∈ target, c ∉ [' ', '\r'])
    (complete : strstr crlf tail ≠ none) :
    apiParseRequest (ascii "GET " ++ target ++ ' ' :: tail) =
      (strlcpy 16 (ascii "GET"), strlcpy 256 target) := by
  have noSpace : ' ' ∉ target := fun member => plain ' ' member (by decide)
  have noCr : '\r' ∉ ascii "GET " ++ target ++ [' '] := by
    have start : '\r' ∉ ascii "GET " := by decide
    have path : '\r' ∉ target := fun member => plain '\r' member (by decide)
    simp [start, path]
  obtain ⟨lineEnd, found⟩ := Option.ne_none_iff_exists'.mp complete
  have line : strstr crlf (ascii "GET " ++ target ++ ' ' :: tail) = some lineEnd := by
    have skipped := @strstr_skip _ '\r' ['\n'] noCr tail
    rw [append_assoc] at skipped
    exact skipped.trans found
  have short := strstr_length_le found
  have get : ascii "GET " ++ target ++ ' ' :: tail =
      ascii "GET" ++ ' ' :: (target ++ ' ' :: tail) := by
    have space : ascii "GET " = ascii "GET" ++ [' '] := by decide
    simp [space]
  obtain ⟨sp1, method⟩ := strchr_first (show ' ' ∉ ascii "GET" by decide) (target ++ ' ' :: tail)
  obtain ⟨sp2, path⟩ := strchr_first noSpace tail
  rw [get] at line ⊢
  simp only [apiParseRequest, line, sp1, tail_cons, sp2, method, path]
  rw [if_neg (by simp only [length_cons, length_append]; omega),
    if_neg (by simp only [length_cons]; omega)]

/-- A query is taken off the path, also where it is cut. -/
theorem apiPathStripQuery_eq {path query : Text} (plain : '?' ∉ path) (short : path.length < 255)
    (isQuery : query = [] ∨ query.head? = some '?') :
    (apiPathStripQuery (strlcpy 256 (path ++ query)).val).1 = path := by
  change (apiPathStripQuery ((path ++ query).take 255)).1 = path
  rw [take_append, take_of_length_le (Nat.le_of_lt short)]
  obtain ⟨room, room_eq⟩ : ∃ room, 255 - path.length = room + 1 :=
    ⟨254 - path.length, by omega⟩
  rw [room_eq]
  cases query with
  | nil =>
      have none : strchr '?' path = none := by
        have skipped := strchr_append plain []
        rwa [append_nil] at skipped
      simp [apiPathStripQuery, none]
  | cons c query =>
      obtain rfl : c = '?' := by simpa using isQuery
      obtain ⟨found, whole⟩ := strchr_first plain (query.take room)
      rw [take_succ_cons]
      simp only [apiPathStripQuery, found, whole]

theorem Resource.path_plain (resource : Resource) :
    (∀ c ∈ resource.path, c ∉ [' ', '\r', '?']) ∧ resource.path.length ≤ 18 := by
  cases resource <;> decide

/-- A request for a resource of a subscriber, with a valid token, is never served: whatever the
identifier and the resource are, it is answered as a path that does not exist. -/
theorem apiHandleRequest_subscriberResource {σ : Type} (handlers : Handlers σ) (token : CArr 128)
    (net : σ) {id : Text} (valid : SubscriberId id) (resource : Resource) {query tail buf : Text}
    (request : cString buf = ascii "GET " ++
      (ascii "/api/subscribers/" ++ (id ++ '/' :: resource.path) ++ query) ++ ' ' :: tail)
    (isQuery : query = [] ∨ query.head? = some '?') (plain : ∀ c ∈ query, c ∉ [' ', '\r'])
    (complete : strstr crlf tail ≠ none)
    (authorised : apiTokenValid token
      (apiHeaderValueTrimmed (cString buf) (ascii "Authorization"))
      (apiHeaderValueTrimmed (cString buf) (ascii "X-Api-Token")) = true) :
    apiHandleRequest handlers token net buf = (net, apiNotFound "not found") ∧
      ¬ (apiHandleRequest handlers token net buf = serveResource handlers net id resource ∧
        (apiHandleRequest handlers token net buf).2 ≠ apiNotFound "not found") := by
  obtain ⟨pathPlain, pathShort⟩ := resource.path_plain
  have restPlain : ∀ c ∈ id ++ '/' :: resource.path, c ∉ [' ', '\r', '?'] := by
    intro c member
    simp only [mem_append, mem_cons] at member
    obtain inId | rfl | inPath := member
    · have others : ∀ c ∈ [' ', '\r', '?'], c.isAlphanum = false ∧ c ≠ '+' := by decide
      intro special
      exact valid.notMem (others c special) inId
    · decide
    · exact pathPlain c inPath
  have targetPlain : ∀ c ∈ ascii "/api/subscribers/" ++ (id ++ '/' :: resource.path) ++ query,
      c ∉ [' ', '\r'] := by
    have start : ∀ c ∈ ascii "/api/subscribers/", c ∉ [' ', '\r'] := by decide
    intro c member
    simp only [mem_append] at member
    obtain (first | second) | third := member
    · exact start c first
    · intro special
      exact restPlain c (by simpa using second) (by
        simp only [mem_cons, not_mem_nil, or_false] at special ⊢
        exact special.imp_right Or.inl)
    · exact plain c third
  have parsed := apiParseRequest_get targetPlain complete
  have path := @apiPathStripQuery_eq (ascii "/api/subscribers/" ++ (id ++ '/' :: resource.path))
    query
    (by
      have start : '?' ∉ ascii "/api/subscribers/" := by decide
      rw [mem_append, not_or]
      exact ⟨start, fun member => restPlain '?' member (by decide)⟩)
    (by
      have bound := valid.short
      have start : (ascii "/api/subscribers/").length = 17 := by decide
      simp only [length_append, length_cons, start]
      omega)
    isQuery
  have noSlash : '/' ∉ id := valid.notMem (by decide)
  have notFound : apiHandleRequest handlers token net buf = (net, apiNotFound "not found") := by
    rw [request] at authorised
    unfold apiHandleRequest
    simp only [request, parsed, authorised]
    rw [path, if_neg (by decide)]
    refine apiDispatch_subscriber net _ ?_ ?_ (single_slashes noSlash resource)
    · intro same
      exact absurd (same ▸ mem_append_right id mem_cons_self : '/' ∈ ascii "online")
        (by decide)
    · intro same
      have names := congrArg (List.takeWhile (· ≠ '/')) same
      rw [takeWhile_append_cons (by
        intro c member
        simp only [ne_eq, decide_not, Bool.not_eq_true', decide_eq_false_iff_not]
        rintro rfl
        exact noSlash member) (by decide)] at names
      rw [names] at same
      have count := append_cancel_left
        (show ascii "online" ++ '/' :: resource.path = ascii "online" ++ ascii "/count" from same)
      exact absurd (cons.inj count).2 (by cases resource <;> decide)
  exact ⟨notFound, fun served => served.2 (by rw [notFound])⟩

/-- A request for the detail of a subscriber, with the token and a query. -/
def detailRequest : Text :=
  ascii "GET /api/subscribers/00101/detail?x=1 HTTP/1.0\r\nX-Api-Token: secret\r\n\r\n"

theorem apiHandleRequest_subscriberResource_detail :
    SubscriberId (ascii "00101") ∧
      apiHandleRequest listHandlers (strlcpy 128 (ascii "secret")) [ascii "00101"] detailRequest =
        ([ascii "00101"], apiNotFound "not found") := by
  have valid : SubscriberId (ascii "00101") := ⟨by decide, by decide, by decide⟩
  exact ⟨valid, (@apiHandleRequest_subscriberResource _ listHandlers
    (strlcpy 128 (ascii "secret")) [ascii "00101"] _ valid .detail (ascii "?x=1")
    (ascii "HTTP/1.0\r\nX-Api-Token: secret\r\n\r\n") detailRequest (by decide +kernel)
    (.inr rfl) (by decide) (by decide +kernel) (by decide +kernel)).1⟩

/-- The subscriber is there, the token is right, and the documented path is not found; with a
second slash it is. -/
theorem subscriber_resource_not_found :
    apiHandleRequest listHandlers (strlcpy 128 (ascii "secret")) [ascii "00101"]
        (ascii "GET /api/subscribers/00101/online/count HTTP/1.0\r\nX-Api-Token: secret\r\n\r\n") =
      ([ascii "00101"], apiNotFound "not found") ∧
    serveResource listHandlers [ascii "00101"] (ascii "00101") .onlineCount =
      ([ascii "00101"], apiOk (apiJsonCount 1)) ∧
    apiHandleRequest listHandlers (strlcpy 128 (ascii "secret")) [ascii "00101"]
        (ascii "GET /api/subscribers/00101//online/count HTTP/1.0\r\nX-Api-Token: secret\r\n\r\n") =
      ([ascii "00101"], apiOk (apiJsonCount 1)) := by
  decide +kernel

end OsmoMsc.Api
