import EquipmentBooking.Proofs.Clash.Stats
import EquipmentBooking.Proofs.Http.Requests

/-! Checks put to the authority one after the other. With checked settings every query becomes a request,
so every check is recorded, and the counters give an exact account of what the checks came to. -/
namespace EquipmentBooking

open AuthorityStats (recordAll)

theorem ClientConfig.exists_clashRequest {c : ClientConfig} (h : c.validate = .ok ())
    (query : ClashQuery) : ∃ request, c.clashRequest query = .ok request := by
  obtain ⟨base, hParse⟩ := exists_base h
  obtain ⟨endpoint, hEndpoint, -⟩ := exists_endpoint hParse c.clashPath
  rw [clashRequest, clashUrl_of_endpoint hEndpoint]
  exact ⟨_, rfl⟩

namespace Http

variable {σ : Type} {c : ClientConfig}

/-- Put queries to the authority, each once the one before it has been answered. Gives the results
in order. -/
def checkAll (network : Network σ) (c : ClientConfig) : List ClashQuery → AuthorityStats → σ →
    List AuthorityStats.Result × AuthorityStats × σ
  | [], stats, state => ([], stats, state)
  | query :: queries, stats, state =>
    let (result, stats, state) := check network c query stats state
    let (results, stats, state) := checkAll network c queries stats state
    (result :: results, stats, state)

/-- Whatever a check comes to is recorded. -/
theorem stats_check (h : c.validate = .ok ()) (network : Network σ) (query : ClashQuery)
    (stats : AuthorityStats) (state : σ) :
    (check network c query stats state).2.1 =
      stats.record (check network c query stats state).1 := by
  obtain ⟨request, hRequest⟩ := ClientConfig.exists_clashRequest h query
  rw [check, hRequest]

/-- The counters after checks are those after their results alone have been recorded. -/
theorem stats_checkAll (h : c.validate = .ok ()) (network : Network σ) (queries : List ClashQuery)
    (stats : AuthorityStats) (state : σ) :
    (checkAll network c queries stats state).2.1 =
      recordAll stats (checkAll network c queries stats state).1 := by
  induction queries generalizing stats state with
  | nil => rfl
  | cons query queries ih =>
      simp only [checkAll]
      rw [ih, stats_check h]
      rfl

theorem length_checkAll (network : Network σ) (queries : List ClashQuery) (stats : AuthorityStats)
    (state : σ) : (checkAll network c queries stats state).1.length = queries.length := by
  induction queries generalizing stats state with
  | nil => rfl
  | cons query queries ih => exact congrArg (· + 1) (ih _ _)

/-- Whatever the network does, the counters of an authority that began at zero give an exact account of
the results of its checks, of which there is one for each query. The order in which results are
recorded, of whatever kinds they are, makes no difference. -/
theorem checks_counted_exactly (h : c.validate = .ok ()) :
    (∀ (σ : Type) (network : Network σ) (queries : List ClashQuery) (state : σ),
      let (results, stats, _) := checkAll network c queries {} state
      results.length = queries.length ∧ stats.Tallies results ∧
        ∀ others, others.Perm results → recordAll {} others = stats) ∧
      ∀ results, (recordAll {} results).Tallies results ∧
        ∀ others, others.Perm results → ∀ start, recordAll start others = recordAll start results := by
  constructor
  · intro σ network queries state
    have hStats := stats_checkAll h network queries {} state
    have hLength := length_checkAll (c := c) network queries {} state
    generalize checkAll network c queries {} state = run at hStats hLength
    obtain ⟨results, stats, after⟩ := run
    obtain rfl : stats = recordAll {} results := hStats
    exact ⟨hLength, AuthorityStats.tallies_recordAll results, fun others hPerm =>
      AuthorityStats.recordAll_perm {} hPerm⟩
  · intro results
    exact ⟨AuthorityStats.tallies_recordAll results, fun others hPerm start =>
      AuthorityStats.recordAll_perm start hPerm⟩

def scripted : Network (List (Except Failure Answer)) :=
  fun _ script =>
    match script with
    | [] => (.error { text := "connection closed" }, [])
    | answer :: later => (answer, later)

def plainAnswer (status : UInt16) (text : String) : Except Failure Answer :=
  .ok ⟨status, ⟨"https".toList, none, .segments [], false, none, none⟩,
    .ok (Text.Utf8.encode text.toList)⟩

/-- Two successes and four failures, one of them a timeout and one malformed. -/
def sampleScript : List (Except Failure Answer) :=
  [plainAnswer 200 "null", .error { isTimeout := true, text := "operation timed out" },
    plainAnswer 200 "[1]", .error { text := "connection reset" }, plainAnswer 503 "busy",
    plainAnswer 200 "[[\"\",1,\"\",\"\",\"2024-02-29T09:00:00Z\",\"2024-02-29T10:00:00Z\",1,2,3,-1]]"]

theorem checks_counted_exactly_of_each_kind :
    ClientConfig.sampleConfig.validate = .ok () ∧
      let (results, stats, _) := checkAll scripted ClientConfig.sampleConfig
        (List.replicate 6 ClientConfig.sampleQuery) {} sampleScript
      stats = ⟨6, 2, 4, 1, 1, 1⟩ ∧ stats.Tallies results ∧ recordAll {} results.reverse = stats := by
  have hValid : ClientConfig.sampleConfig.validate = .ok () := rfl
  obtain ⟨hRuns, -⟩ := checks_counted_exactly hValid
  obtain ⟨-, hTallies, hOrder⟩ :=
    hRuns _ scripted (List.replicate 6 ClientConfig.sampleQuery) sampleScript
  exact ⟨hValid, rfl, hTallies, hOrder _ (List.reverse_perm _)⟩

end Http

end EquipmentBooking
