import Mathlib
import QrBackend.App

/-! # What a search returns — one entry per id, the first hit wins

    `search_fixtures` splits its keywords at `,`, queries the engine keyword
    by keyword, appends the hits, sorts them by id with a stable sort and
    drops repeated ids with `dedup_by_key`.  For an engine that answers every
    query (any function from a keyword to its hits), the response holds:

    * the entries in strictly increasing id order — so no id twice;
    * exactly the ids some keyword hit;
    * for each id, the first hit with that id in the keyword-ordered
      concatenation of the hit lists.

    The route: `search_eq_ok` (the loop's accumulator invariant) reduces the
    handler to `dedupByKey ∘ sortByKey` on the concatenation, and
    `QrBackend.SortDedup` supplies the three properties; the only work left is
    moving between hits and results. -/

namespace QrSearch

open QrModel QrErrorHandling QrSearchEngine SortDedup QrApp

/-- The concatenation of the hit lists of `keywords`, in keyword order. -/
def allHits (hits : String → List (Hit Fixtures)) (keywords : List String) :
    List (SearchResult Fixtures) :=
  keywords.flatMap (fun k => toResults (hits k))

theorem mem_toResults {hs : List (Hit Fixtures)} {r : SearchResult Fixtures} :
    r ∈ toResults hs ↔ ∃ h ∈ hs, r = { data := h.result, ranking := h.rankingScore } := by
  unfold toResults
  rw [List.mem_map]
  constructor
  · rintro ⟨h, hh, rfl⟩
    exact ⟨h, hh, rfl⟩
  · rintro ⟨h, hh, rfl⟩
    exact ⟨h, hh, rfl⟩

/-- An id occurs among all the hits exactly when some keyword hit it. -/
theorem exists_allHits_iff (hits : String → List (Hit Fixtures)) (keywords : List String)
    (id : Uuid) :
    (∃ r ∈ allHits hits keywords, r.data.id = id) ↔
      ∃ k ∈ keywords, ∃ h ∈ hits k, h.result.id = id := by
  unfold allHits
  constructor
  · rintro ⟨r, hr, hid⟩
    obtain ⟨k, hk, hrk⟩ := List.mem_flatMap.mp hr
    obtain ⟨h, hh, rfl⟩ := mem_toResults.mp hrk
    exact ⟨k, hk, h, hh, hid⟩
  · rintro ⟨k, hk, h, hh, hid⟩
    refine ⟨{ data := h.result, ranking := h.rankingScore }, ?_, hid⟩
    exact List.mem_flatMap.mpr ⟨k, hk, mem_toResults.mpr ⟨h, hh, rfl⟩⟩

/-- **SEARCH SPEC**: for every engine that answers and every keyword string,
    `search_fixtures` succeeds with the entries in strictly increasing id
    order, holding exactly the ids the comma-separated keywords hit, each the
    first hit with its id in keyword order. -/
theorem searchFixtures_spec (hits : String → List (Hit Fixtures)) (s : String) :
    ∃ lst, searchFixtures (fun k => some (hits k)) s = resultToHandler (.ok lst) ∧
      lst.Pairwise (fun a b => a.data.id < b.data.id) ∧
      (∀ id, (∃ r ∈ lst, r.data.id = id) ↔
        ∃ k ∈ s.splitOn ",", ∃ h ∈ hits k, h.result.id = id) ∧
      (∀ r ∈ lst, (allHits hits (s.splitOn ",")).find? (fun x => x.data.id = r.data.id) = some r) := by
  let all := allHits hits (s.splitOn ",")
  refine ⟨dedupByKey (fun f => f.data.id) (sortByKey (fun f => f.data.id) all), ?_, ?_, ?_, ?_⟩
  · -- the handler is the sort and dedup of all the hits
    show resultToHandler (SearchFixtures.search _ _) = _
    rw [search_eq_ok]
    rfl
  · exact dedupByKey_sortByKey_pairwise all
  · intro id
    rw [← exists_allHits_iff]
    constructor
    · rintro ⟨r, hr, hid⟩
      exact ⟨r, mem_of_mem_dedupByKey_sortByKey hr, hid⟩
    · rintro ⟨r, hr, hid⟩
      -- the id survives the dedup, on the entry kept for it
      have hkept : ∃ b ∈ dedupByKey (fun f => f.data.id) (sortByKey (fun f => f.data.id) all),
          b.data.id = r.data.id :=
        exists_mem_dedupByKey_sortByKey hr
      obtain ⟨b, hb, hk⟩ := hkept
      exact ⟨b, hb, hk.trans hid⟩
  · intro r hr
    exact find?_of_mem_dedupByKey_sortByKey hr

end QrSearch
