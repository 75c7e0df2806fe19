import EquipmentBooking.Config
import EquipmentBooking.Proofs.Url.PlainPath
import EquipmentBooking.Proofs.Url.Slashes

/-! Where the endpoints of checked settings are: on the server of the base URL, and below its path as long
as their own paths do not lead out of it. Slashes at the end of the base URL's path make no difference. -/
namespace EquipmentBooking.ClientConfig

open Url (StaysBelow)

variable {c : ClientConfig} {base : Url} {path : String}

theorem checkPath_eq_ok_iff : checkPath path = .ok () ↔ path.toList.head? = some '/' := by
  rw [checkPath]
  split
  · next hSlash => exact iff_of_true rfl hSlash
  · next hOther => exact iff_of_false nofun hOther

/-- What the check of settings asks for. The paths need only begin with a slash, whatever follows it. -/
theorem validate_eq_ok_iff :
    c.validate = .ok () ↔
      ∃ base, Url.parse c.baseUrl = .ok base ∧
        (base.scheme = "http".toList ∨ base.scheme = "https".toList) ∧
        c.clashPath.toList.head? = some '/' ∧ c.itemPath.toList.head? = some '/' := by
  simp only [validate, bind_eq_ok, mapError_eq_ok]
  refine exists_congr fun base => and_congr_right fun _ => ?_
  split
  · next hScheme =>
    rw [and_iff_right hScheme, bind_eq_ok, ← checkPath_eq_ok_iff, ← checkPath_eq_ok_iff]
    exact ⟨fun ⟨(), hClash, hItem⟩ => ⟨hClash, hItem⟩, fun ⟨hClash, hItem⟩ => ⟨(), hClash, hItem⟩⟩
  · next hOther => exact iff_of_false nofun fun h => hOther h.1

theorem special_of_scheme (h : base.scheme = "http".toList ∨ base.scheme = "https".toList) :
    Url.isSpecialScheme base.scheme = true ∧ Url.isFileScheme base.scheme = false := by
  rcases h with h | h
  · rw [h]
    decide
  · rw [h]
    decide

theorem endpoint_eq (hParse : Url.parse c.baseUrl = .ok base) (path : String) :
    c.endpoint path =
      .ok (base.setPath (Text.dropTail (· == '/') base.path.chars ++ path.toList)) := by
  rw [endpoint, hParse]
  rfl

/-- An endpoint differs from the base URL in nothing but the path, and it lies below the base URL's path
if its own path stays below where it is put. It is then that path, resolved on its own. -/
theorem endpoint_of_absolute (hParse : Url.parse c.baseUrl = .ok base)
    (hScheme : base.scheme = "http".toList ∨ base.scheme = "https".toList)
    (hPath : path.toList.head? = some '/') :
    ∃ url, c.endpoint path = .ok url ∧ url = { base with path := url.path } ∧
      (StaysBelow 0 (Url.pieces base.scheme (path.toList.drop 1)) →
        ∃ rest, (Url.readPath base.scheme path.toList).chars = '/' :: rest ∧
          url.path.chars = Text.dropTail (· == '/') base.path.chars ++ '/' :: rest) := by
  obtain ⟨hSpecial, hFile⟩ := special_of_scheme hScheme
  obtain ⟨segments, hSegments, hSettled⟩ := Url.settled_of_parse hParse hSpecial hFile
  obtain ⟨s, hChars⟩ := List.head?_eq_some_iff.mp hPath
  have hEndpoint := endpoint_eq hParse path
  rw [hChars] at hEndpoint
  refine ⟨_, hEndpoint, ?_, fun hStays => ?_⟩
  · rw [Url.setPath_of_special hSpecial hFile hSegments]
  · rw [hChars, List.drop_one, List.tail_cons] at hStays
    rw [hChars]
    obtain ⟨rest, hRest⟩ := Url.exists_chars_readPath hSpecial hFile ('/' :: s)
    refine ⟨rest, hRest, ?_⟩
    rw [Url.chars_setPath_behind hSpecial hFile hSegments hSettled hStays, hRest]

/-- Both endpoints of checked settings are on the server of the base URL, with the same user, query and
fragment, and lie below its path unless their own paths lead out of it. -/
theorem endpoint_stays_below (h : c.validate = .ok ()) :
    ∃ base, Url.parse c.baseUrl = .ok base ∧
      ∀ path ∈ [c.clashPath, c.itemPath], ∃ url, c.endpoint path = .ok url ∧
        (url.scheme = base.scheme ∧ url.authority = base.authority ∧ url.query = base.query ∧
          url.fragment = base.fragment) ∧
        (StaysBelow 0 (Url.pieces base.scheme (path.toList.drop 1)) →
          ∃ rest, (Url.readPath base.scheme path.toList).chars = '/' :: rest ∧
            url.path.chars = Text.dropTail (· == '/') base.path.chars ++ '/' :: rest) := by
  obtain ⟨base, hParse, hScheme, hClash, hItem⟩ := validate_eq_ok_iff.mp h
  have hAbsolute : ∀ path ∈ [c.clashPath, c.itemPath], path.toList.head? = some '/' := by
    simp [hClash, hItem]
  refine ⟨base, hParse, fun path hMem => ?_⟩
  obtain ⟨url, hUrl, hSame, hBelow⟩ := endpoint_of_absolute hParse hScheme (hAbsolute path hMem)
  refine ⟨url, hUrl, ?_, hBelow⟩
  rw [hSame]
  exact ⟨rfl, rfl, rfl, rfl⟩

/-- A server under a prefix, with one path that goes up and down below it and one that leaves it. -/
def prefixedConfig : ClientConfig where
  baseUrl := "https://lab.example.org/prepper//"
  clashPath := "/v2/%2e/old\\..\\clashes"
  itemPath := "/../admin"

/-- The endpoint of the path that stays below the prefix is the prefix with that path resolved. -/
theorem endpoint_stays_below_of_prefixed :
    prefixedConfig.validate = .ok () ∧
      StaysBelow 0 (Url.pieces "https".toList (prefixedConfig.clashPath.toList.drop 1)) ∧
      ∃ url, prefixedConfig.endpoint prefixedConfig.clashPath = .ok url ∧
        url.path.chars = "/prepper/v2/clashes".toList := by
  have hValid : prefixedConfig.validate = .ok () := rfl
  have hStays : StaysBelow 0 (Url.pieces "https".toList (prefixedConfig.clashPath.toList.drop 1)) := by
    decide
  obtain ⟨base, hParse, hEndpoint⟩ := endpoint_stays_below hValid
  obtain ⟨url, hUrl, -, hBelow⟩ := hEndpoint _ List.mem_cons_self
  cases hParse
  obtain ⟨rest, hRest, hChars⟩ := hBelow hStays
  cases hRest
  exact ⟨hValid, hStays, url, hUrl, hChars⟩

/-- The endpoint of the other path does not lie below the prefix. -/
theorem endpoint_leaves_prefix :
    prefixedConfig.validate = .ok () ∧
      ∃ base url, Url.parse prefixedConfig.baseUrl = .ok base ∧
        prefixedConfig.endpoint prefixedConfig.itemPath = .ok url ∧
        ¬ ∃ rest, url.path.chars = Text.dropTail (· == '/') base.path.chars ++ '/' :: rest := by
  refine ⟨rfl, _, _, rfl, rfl, ?_⟩
  rintro ⟨rest, hChars⟩
  cases congrArg (·[1]?) hChars

/-- Only the path of the base URL makes way for another one. -/
theorem endpoint_eq_readPath (hParse : Url.parse c.baseUrl = .ok base)
    (hScheme : base.scheme = "http".toList ∨ base.scheme = "https".toList) (path : String) :
    c.endpoint path = .ok { base with
      path := Url.readPath base.scheme (Text.dropTail (· == '/') base.path.chars ++ path.toList) } := by
  obtain ⟨hSpecial, hFile⟩ := special_of_scheme hScheme
  obtain ⟨segments, hSegments, -⟩ := Url.settled_of_parse hParse hSpecial hFile
  rw [endpoint_eq hParse, Url.setPath_of_special hSpecial hFile hSegments]

/-- Slashes that are added to the path of the base URL change neither the check nor an endpoint. -/
theorem endpoint_slashes {longer : String} (h : c.validate = .ok ())
    (hAdds : Url.AddsSlashes c.baseUrl longer) (path : String) :
    { c with baseUrl := longer }.validate = .ok () ∧
      { c with baseUrl := longer }.endpoint path = c.endpoint path := by
  obtain ⟨base, hParse, hScheme, hPaths⟩ := validate_eq_ok_iff.mp h
  obtain ⟨hSpecial, hFile⟩ := special_of_scheme hScheme
  obtain ⟨longerPath, hLonger, hSame⟩ := Url.parse_slashes hParse hSpecial hFile hAdds
  constructor
  · exact validate_eq_ok_iff.mpr ⟨_, hLonger, hScheme, hPaths⟩
  · rw [endpoint_eq_readPath (c := { c with baseUrl := longer }) hLonger hScheme,
      endpoint_eq_readPath hParse hScheme, hSame]

/-- An ordinary path is put, in written form, behind the path of the base URL without the slashes at its
end, however many there are. -/
theorem endpoint_joins_exactly (h : c.validate = .ok ()) (hPath : Url.IsOrdinaryPath path.toList) :
    ∃ base url, Url.parse c.baseUrl = .ok base ∧ c.endpoint path = .ok url ∧
      (url.scheme = base.scheme ∧ url.authority = base.authority ∧ url.query = base.query ∧
        url.fragment = base.fragment) ∧
      url.path.chars = Text.dropTail (· == '/') base.path.chars ++
        Url.percentEncode Url.pathSet path.toList ∧
      ∀ longer, Url.AddsSlashes c.baseUrl longer →
        { c with baseUrl := longer }.validate = .ok () ∧
          { c with baseUrl := longer }.endpoint path = .ok url := by
  obtain ⟨base, hParse, hScheme, -⟩ := validate_eq_ok_iff.mp h
  obtain ⟨hSpecial, hFile⟩ := special_of_scheme hScheme
  obtain ⟨segments, hSegments, hSettled⟩ := Url.settled_of_parse hParse hSpecial hFile
  have hEndpoint := endpoint_eq hParse path
  refine ⟨base, _, hParse, hEndpoint, ?_, ?_, fun longer hAdds => ?_⟩
  · rw [Url.setPath_of_special hSpecial hFile hSegments]
    exact ⟨rfl, rfl, rfl, rfl⟩
  · exact hPath.chars_setPath hSpecial hFile hSegments hSettled
  · rw [← hEndpoint]
    exact endpoint_slashes h hAdds path

def queriedConfig : ClientConfig where
  baseUrl := "https://ana@lab.example.org/prepper/?x=1#top"
  clashPath := "/clashes?#%2fü/..."

/-- The question mark and the hash of the path are no query and no fragment, and the percent sign is
left alone. -/
theorem endpoint_joins_exactly_of_queried :
    queriedConfig.validate = .ok () ∧ Url.IsOrdinaryPath queriedConfig.clashPath.toList ∧
      Url.AddsSlashes queriedConfig.baseUrl " https://ana@lab.example.org/prepper////?x=1#top" ∧
      ∃ url, queriedConfig.endpoint queriedConfig.clashPath = .ok url ∧
        url.path.chars = "/prepper/clashes%3F%23%2f%C3%BC/...".toList ∧
        { queriedConfig with
          baseUrl := " https://ana@lab.example.org/prepper////?x=1#top" }.endpoint
            queriedConfig.clashPath = .ok url := by
  have hValid : queriedConfig.validate = .ok () := rfl
  have hPath : Url.IsOrdinaryPath queriedConfig.clashPath.toList := by decide
  have hAdds : Url.AddsSlashes queriedConfig.baseUrl
      " https://ana@lab.example.org/prepper////?x=1#top" := by
    refine ⟨"https://ana@lab.example.org/prepper/".toList, "?x=1#top".toList, 3, by decide, ?_, rfl, rfl⟩
    intro c hc
    cases hc
    exact .inl rfl
  obtain ⟨base, url, hParse, hUrl, -, hChars, hLonger⟩ := endpoint_joins_exactly hValid hPath
  cases hParse
  exact ⟨hValid, hPath, hAdds, url, hUrl, hChars, (hLonger _ hAdds).2⟩

end EquipmentBooking.ClientConfig
