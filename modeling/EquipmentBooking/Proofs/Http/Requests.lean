import EquipmentBooking.Http.Clients
import EquipmentBooking.Proofs.Url.FormEncoding

/-! What the authority finds in the URL of a query: the pairs of the query as they were, behind those
that the base URL brings along. -/
namespace EquipmentBooking

namespace Url

@[simp]
theorem query_setPath (url : Url) (s : List Char) : (url.setPath s).query = url.query := by
  unfold setPath
  split <;> rfl

/-- URLs that differ in nothing but the query differ in their texts. -/
theorem query_eq_of_text_eq {url : Url} {first second : List Char}
    (h : { url with query := some first }.text = { url with query := some second }.text) :
    first = second := by
  have hChars := String.ofList_injective h
  simp only [chars, tailChars, Option.elim_some, List.cons_append] at hChars
  have hBehind := List.append_cancel_left hChars
  rw [List.cons.injEq] at hBehind
  have hTail := List.append_cancel_left hBehind.2
  rw [List.cons.injEq] at hTail
  exact List.append_cancel_right hTail.2

end Url

namespace ClientConfig

variable {c : ClientConfig}

theorem exists_base (h : c.validate = .ok ()) : ∃ base, Url.parse c.baseUrl = .ok base := by
  rw [validate] at h
  cases hParse : Url.parse c.baseUrl with
  | error issue =>
      rw [hParse] at h
      cases h
  | ok base => exact ⟨base, rfl⟩

/-- An endpoint has the query of the base URL. -/
theorem exists_endpoint {base : Url} (h : Url.parse c.baseUrl = .ok base) (path : String) :
    ∃ endpoint, c.endpoint path = .ok endpoint ∧ endpoint.query = base.query := by
  rw [endpoint, h]
  exact ⟨_, rfl, Url.query_setPath base _⟩

theorem requestEndpoint_of_endpoint {path : String} {endpoint : Url}
    (h : c.endpoint path = .ok endpoint) : c.requestEndpoint path = .ok endpoint := by
  rw [requestEndpoint, h]
  rfl

theorem clashUrl_of_endpoint {endpoint : Url} (h : c.endpoint c.clashPath = .ok endpoint)
    (query : ClashQuery) : c.clashUrl query = .ok (endpoint.appendQuery query.toPairs) := by
  rw [clashUrl, requestEndpoint_of_endpoint h]
  rfl

/-- The URL that puts a query to the authority is the endpoint with another query component. Read back,
that component holds the pairs that the base URL brings along and then those of the query, in order,
whatever characters they have. So the URLs of queries with different pairs have different texts. -/
theorem clashUrl_carries_pairs (query : ClashQuery) (h : c.validate = .ok ()) :
    ∃ base endpoint component,
      Url.parse c.baseUrl = .ok base ∧ c.endpoint c.clashPath = .ok endpoint ∧
      c.clashUrl query = .ok { endpoint with query := some component } ∧
      Url.formDecodePairs component = base.queryPairs ++ query.toPairs ∧
      ∀ other url, c.clashUrl other = .ok url →
        url.text = { endpoint with query := some component }.text →
        other.toPairs = query.toPairs := by
  obtain ⟨base, hParse⟩ := exists_base h
  obtain ⟨endpoint, hEndpoint, hQuery⟩ := exists_endpoint hParse c.clashPath
  have hPairs (q : ClashQuery) :
      (endpoint.appendQuery q.toPairs).queryPairs = base.queryPairs ++ q.toPairs := by
    rw [Url.queryPairs_appendQuery, Url.queryPairs, hQuery]
    rfl
  refine ⟨base, endpoint, _, hParse, hEndpoint, clashUrl_of_endpoint hEndpoint query,
    hPairs query, ?_⟩
  intro other url hOther hText
  rw [clashUrl_of_endpoint hEndpoint, Except.ok.injEq] at hOther
  subst hOther
  have hSame : (endpoint.appendQuery other.toPairs).queryPairs =
      (endpoint.appendQuery query.toPairs).queryPairs :=
    congrArg Url.formDecodePairs (Url.query_eq_of_text_eq hText)
  rw [hPairs, hPairs] at hSame
  exact List.append_cancel_left hSame

/-- A server under a prefix, with pairs and a fragment of its own in the base URL. -/
def sampleConfig : ClientConfig :=
  { baseUrl := "https://lab.example.org/prepper/?site=a%26b&site#top" }

theorem parse_sampleConfig :
    ∃ base, Url.parse sampleConfig.baseUrl = .ok base ∧
      base.queryPairs = [("site", "a&b"), ("site", "")] :=
  ⟨_, rfl, rfl⟩

def sampleQuery : ClashQuery where
  time := .window ⟨2023, 10, 30, by decide, by decide, by decide, by decide, by decide, by decide⟩
    (.ofNumbers 9 15) (.ofNumbers 10 0)
  items := [⟨"eqty_a&b=c", "a&b=c", 3⟩, ⟨"eqty_50% + é#", "50% + é#", 0⟩]

theorem clashUrl_carries_pairs_behind_own_pairs :
    sampleConfig.validate = .ok () ∧
      ∃ url, sampleConfig.clashUrl sampleQuery = .ok url ∧
        url.queryPairs = [("site", "a&b"), ("site", "")] ++ sampleQuery.toPairs := by
  have hValid : sampleConfig.validate = .ok () := rfl
  obtain ⟨base, _, component, hParse, -, hUrl, hPairs, -⟩ := clashUrl_carries_pairs sampleQuery hValid
  obtain ⟨_, hSample, hOwn⟩ := parse_sampleConfig
  cases hParse.symm.trans hSample
  rw [hOwn] at hPairs
  exact ⟨hValid, _, hUrl, hPairs⟩

end ClientConfig

end EquipmentBooking
