import EquipmentBooking.Http.Library
import EquipmentBooking.Proofs.Config
import EquipmentBooking.Proofs.Http.Requests

/-! What a server finds in the first message of a form. A library only promises to write requests out;
that the fields can be read again, and where, is shown here. -/
namespace EquipmentBooking

namespace Url

variable {url : Url}

/-- A path in written form has no question mark, so the first one in a target begins the query. -/
theorem question_not_mem_readPath {scheme : List Char} (hSpecial : isSpecialScheme scheme = true)
    (hFile : isFileScheme scheme = false) (s : List Char) : '?' ∉ (readPath scheme s).chars := by
  obtain ⟨segments, hSegments, hSettled⟩ := settled_readPath hSpecial hFile s
  rw [hSegments]
  intro hMem
  obtain ⟨segment, hSegment, hChar⟩ := List.mem_flatMap.mp hMem
  rcases List.mem_cons.mp hChar with hSlash | hWritten
  · cases hSlash
  · cases (hSettled segment hSegment).written '?' hWritten

/-- The path holds no question mark, so whoever cuts a target at its first one finds path and query. -/
theorem split_target (h : '?' ∉ url.path.chars) :
    url.target.toList.takeWhile (· != '?') = url.path.chars ∧
      formDecodePairs ((url.target.toList.dropWhile (· != '?')).drop 1) = url.queryPairs := by
  have hPlain : ∀ c ∈ url.path.chars, (c != '?') = true := by
    intro c hc
    rw [bne_iff_ne]
    rintro rfl
    exact h hc
  rw [target, String.toList_ofList, List.takeWhile_append_of_pos hPlain,
    List.dropWhile_append_of_pos hPlain, queryPairs]
  cases url.query with
  | none => exact ⟨List.append_nil _, rfl⟩
  | some query => simp

end Url

namespace Http

variable {Reply σ : Type} {lib : Library Reply} {c : ClientConfig} {form : Submission} {request : Request}

theorem Dealing.exists_sent_run (wire : Wire Reply σ) (dealing : Dealing Reply) (state : σ)
    (sent : List Message) : ∃ later, (dealing.run wire (state, sent)).2.2 = sent ++ later := by
  induction dealing generalizing state sent with
  | done result => exact ⟨[], (List.append_nil sent).symm⟩
  | send message next ih =>
      obtain ⟨later, hLater⟩ := ih (wire message state).1 (wire message state).2 (sent ++ [message])
      refine ⟨message :: later, ?_⟩
      rw [run, hLater, List.append_assoc]
      rfl

/-- A message that asks for a URL, with pairs in the query and nothing else. -/
structure Message.AsksFor (m : Message) (url : Url) (pairs : Pairs) : Prop where
  method_eq : m.method = .get
  server_eq : m.server = url.server
  path_eq : m.path = url.path.chars
  queryPairs_eq : m.queryPairs = pairs
  body_eq : m.body = []

/-- A message to a URL as it is, with pairs in the body. -/
structure Message.Posts (m : Message) (url : Url) (pairs : Pairs) : Prop where
  method_eq : m.method = .post
  server_eq : m.server = url.server
  target_eq : m.target = url.target
  contentType_eq : m.contentType = some "application/x-www-form-urlencoded"
  bodyPairs_eq : (Text.Utf8.decode? m.body).map Url.formDecodePairs = some pairs

/-- What comes of a request: a result and the messages, of which the first is the request as written. -/
structure Library.Sends (lib : Library Reply) (request : Request)
    (outcome : Except ApiError Receipt × σ × List Message) : Prop where
  first : ∀ message, outcome.2.2.head? = some message → message = request.message
  sent : lib.Takes request.asked → outcome.2.2 ≠ []
  unsent : outcome.2.2 = [] → ∃ error, outcome.1 = .error error

theorem Library.Sends.head?_eq {outcome : Except ApiError Receipt × σ × List Message}
    (h : lib.Sends request outcome) (hTakes : lib.Takes request.asked) :
    outcome.2.2.head? = some request.message := by
  obtain ⟨message, hMessage⟩ := Option.isSome_iff_exists.mp (List.isSome_head?.mpr (h.sent hTakes))
  rw [hMessage, h.first message hMessage]

/-- A library that takes a request sends it as written before anything else, and one that turns it down
sends nothing and fails. What comes later cannot undo the first message. -/
theorem Library.Documented.sends (hLib : lib.Documented) (h : c.formRequest form = .ok request)
    (wire : Wire Reply σ) (state : σ) :
    lib.Sends request (sendForm (lib.onWire wire) c form (state, [])) := by
  rw [sendForm, h]
  simp only [send, onWire]
  cases hPerform : lib.perform request with
  | done result =>
      obtain ⟨failure, rfl⟩ := hLib.refused request result hPerform
      refine ⟨nofun, fun hTakes => ?_, fun _ => ⟨_, rfl⟩⟩
      obtain ⟨message, next, hSend⟩ := hLib.taken request hTakes
      rw [hPerform] at hSend
      cases hSend
  | send message next =>
      obtain ⟨later, hLater⟩ := (next (wire message state).1).exists_sent_run wire
        (wire message state).2 [message]
      have hSent : ((Dealing.send message next).run wire (state, [])).2.2 = message :: later := hLater
      constructor <;> simp only [hSent]
      · intro first hFirst
        rw [← Option.some.inj hFirst]
        exact hLib.written request message next hPerform
      · exact fun _ => List.cons_ne_nil _ _
      · nofun

end Http

namespace ClientConfig

variable {c : ClientConfig} {action : String} {endpoint : Url}

theorem exists_endpoint_for_form (h : c.validate = .ok ()) (action : String) :
    ∃ base endpoint, Url.parse c.baseUrl = .ok base ∧ c.endpoint action = .ok endpoint ∧
      endpoint.queryPairs = base.queryPairs ∧ '?' ∉ endpoint.path.chars := by
  obtain ⟨base, hParse, hScheme, -⟩ := validate_eq_ok_iff.mp h
  obtain ⟨hSpecial, hFile⟩ := special_of_scheme hScheme
  exact ⟨base, _, hParse, endpoint_eq_readPath hParse hScheme action, rfl,
    Url.question_not_mem_readPath hSpecial hFile _⟩

theorem formRequest_of_endpoint (h : c.endpoint action = .ok endpoint) (method : FormMethod)
    (fields : Pairs) :
    c.formRequest ⟨method, action, fields⟩ =
      .ok (match method with
        | .get => c.request .get endpoint (.query fields)
        | .post => c.request .post endpoint (.form fields)) := by
  rw [formRequest, requestEndpoint_of_endpoint h]
  rfl

/-- In the query, no pairs at all leave the component out, which reads the same. -/
theorem asked_get (c : ClientConfig) (url : Url) (fields : Pairs) :
    ∃ query, (c.request .get url (.query fields)).asked = { url with query } ∧
      Url.queryPairs { url with query } = url.queryPairs ++ fields := by
  rw [← Url.queryPairs_appendQuery]
  by_cases hEmpty : (url.appendQuery fields).query = some []
  · refine ⟨none, if_pos hEmpty, ?_⟩
    rw [Url.queryPairs, Url.queryPairs, hEmpty]
    rfl
  · exact ⟨_, if_neg hEmpty, rfl⟩

/-- The fields come behind the pairs that the endpoint has of its own, and nothing goes into the body. -/
theorem asksFor_get (h : '?' ∉ endpoint.path.chars) (c : ClientConfig) (fields : Pairs) :
    (c.request .get endpoint (.query fields)).message.AsksFor endpoint
      (endpoint.queryPairs ++ fields) := by
  obtain ⟨query, hAsked, hPairs⟩ := asked_get c endpoint fields
  have hTarget : (c.request .get endpoint (.query fields)).message.target =
      Url.target { endpoint with query } := congrArg Url.target hAsked
  have hPlain : '?' ∉ ({ endpoint with query } : Url).path.chars := h
  obtain ⟨hPath, hQuery⟩ := Url.split_target hPlain
  refine ⟨rfl, rfl, ?_, ?_, rfl⟩
  · rw [Http.Message.path, hTarget, hPath]
  · rw [Http.Message.queryPairs, hTarget, hQuery, hPairs]

theorem posts_form (c : ClientConfig) (endpoint : Url) (fields : Pairs) :
    (c.request .post endpoint (.form fields)).message.Posts endpoint fields := by
  refine ⟨rfl, rfl, rfl, rfl, ?_⟩
  simp [Http.Request.message, Http.Request.body, request]

/-- With a library that keeps its promises, whichever way a form is sent and whatever comes back, the
first message holds the fields of the form, in order. Sent in the query, they stand behind the pairs that
the base URL brings along, and the body is empty; sent in the body, they stand alone, and the URL is the
endpoint. There is a message if the library takes the URL, and without one there is no receipt. -/
theorem sendForm_carries_fields {Reply : Type} {lib : Http.Library Reply} (hLib : lib.Documented)
    (h : c.validate = .ok ()) (action : String) (fields : Pairs) :
    ∃ base endpoint get post,
      Url.parse c.baseUrl = .ok base ∧ c.endpoint action = .ok endpoint ∧
      (∀ (σ : Type) (wire : Http.Wire Reply σ) (state : σ),
        lib.Sends get (Http.sendForm (lib.onWire wire) c ⟨.get, action, fields⟩ (state, [])) ∧
        lib.Sends post (Http.sendForm (lib.onWire wire) c ⟨.post, action, fields⟩ (state, []))) ∧
      (c.formRequest ⟨.get, action, fields⟩ = .ok get ∧ get.url = endpoint ∧
        get.message.AsksFor endpoint (base.queryPairs ++ fields)) ∧
      c.formRequest ⟨.post, action, fields⟩ = .ok post ∧ post.url = endpoint ∧
      post.message.Posts endpoint fields := by
  obtain ⟨base, endpoint, hParse, hEndpoint, hQuery, hPath⟩ := exists_endpoint_for_form h action
  have hGet := formRequest_of_endpoint hEndpoint .get fields
  have hPost := formRequest_of_endpoint hEndpoint .post fields
  refine ⟨base, endpoint, c.request .get endpoint (.query fields),
    c.request .post endpoint (.form fields), hParse, hEndpoint, fun σ wire state => ?_,
    ⟨hGet, rfl, ?_⟩, hPost, rfl, posts_form c endpoint fields⟩
  · exact ⟨hLib.sends hGet wire state, hLib.sends hPost wire state⟩
  · rw [← hQuery]
    exact asksFor_get hPath c fields

/-- A library that turns down URLs beyond a length. What comes back for the one message is the result. -/
def plainLibrary : Http.Library (Except Http.Failure Http.Answer) where
  Takes url := url.chars.length ≤ 65534
  perform r :=
    if r.asked.chars.length ≤ 65534 then .send r.message .done
    else .done (.error { isBuilder := true, text := "builder error: uri too long" })

theorem documented_plainLibrary : plainLibrary.Documented where
  taken r hTakes := ⟨r.message, .done, if_pos hTakes⟩
  written r message next hPerform := by
    simp only [plainLibrary] at hPerform
    split at hPerform
    · cases hPerform
      rfl
    · cases hPerform
  refused r result hPerform := by
    simp only [plainLibrary] at hPerform
    split at hPerform
    · cases hPerform
    · cases hPerform
      exact ⟨_, rfl⟩

def sampleFields : Pairs :=
  [("location", "Lab 3 & 4"), ("note", ""), ("note", "é=1+1")]

theorem taken_sampleFields (method : FormMethod) :
    ∃ request, sampleConfig.formRequest ⟨method, "/book/5/submit", sampleFields⟩ = .ok request ∧
      plainLibrary.Takes request.asked := by
  cases method with
  | get => exact ⟨_, rfl, Nat.le_of_ble_eq_true rfl⟩
  | post => exact ⟨_, rfl, Nat.le_of_ble_eq_true rfl⟩

def silentWire : Http.Wire (Except Http.Failure Http.Answer) Unit :=
  fun _ state => (.error { isTimeout := true, text := "operation timed out" }, state)

theorem sendForm_carries_fields_of_one_name :
    plainLibrary.Documented ∧ sampleConfig.validate = .ok () ∧
      ∃ get post,
        (Http.sendForm (plainLibrary.onWire silentWire) sampleConfig
          ⟨.get, "/book/5/submit", sampleFields⟩ ((), [])).2.2.head? = some get ∧
        (Http.sendForm (plainLibrary.onWire silentWire) sampleConfig
          ⟨.post, "/book/5/submit", sampleFields⟩ ((), [])).2.2.head? = some post ∧
        get.queryPairs = [("site", "a&b"), ("site", "")] ++ sampleFields ∧
        (Text.Utf8.decode? post.body).map Url.formDecodePairs = some sampleFields := by
  have hValid : sampleConfig.validate = .ok () := rfl
  obtain ⟨base, _, get, post, hParse, -, hSends, ⟨hGet, -, hAsks⟩, hPost, -, hPosts⟩ :=
    sendForm_carries_fields documented_plainLibrary hValid "/book/5/submit" sampleFields
  obtain ⟨hSendsGet, hSendsPost⟩ := hSends Unit silentWire ()
  obtain ⟨_, hSample, hOwn⟩ := parse_sampleConfig
  cases hParse.symm.trans hSample
  obtain ⟨_, hSampleGet, hTakesGet⟩ := taken_sampleFields .get
  obtain rfl := Except.ok.inj (hSampleGet.symm.trans hGet)
  obtain ⟨_, hSamplePost, hTakesPost⟩ := taken_sampleFields .post
  obtain rfl := Except.ok.inj (hSamplePost.symm.trans hPost)
  have hPairs := hAsks.queryPairs_eq
  rw [hOwn] at hPairs
  exact ⟨documented_plainLibrary, hValid, _, _, hSendsGet.head?_eq hTakesGet,
    hSendsPost.head?_eq hTakesPost, hPairs, hPosts.bodyPairs_eq⟩

end ClientConfig

end EquipmentBooking
