import Mathlib
import QrBackend.SortDedup
import QrBackend.Model
import QrBackend.ErrorHandling

/-! # The search index — `src/search_engine.rs`

    The backend mirrors every item into a Meilisearch index named `fixtures`
    with primary key `id`.  The index is a map from a document's key to the
    document: `add_or_replace_documents` upserts each document by its key and
    `delete_documents` removes keys.

    Each write queues a task (`add_documents`, `delete_documents`) and waits
    for it (`wait_for_task(task, None, None)`: polls every 50 ms, gives up
    with `Err(Timeout)` after 5 s).  The SDK and the service lie outside the
    repository, so what they do enters as two flags of the write:

    * `fail`: the call answers an error, reported as
      `SearchEngineAddOrReplace("fixtures")` or `SearchEngineDelete("fixtures")`
      (the task was refused, or the wait gave up or lost its connection);
    * `taskFails`: the task is not applied to the index (Meilisearch fails
      it, or it was never queued).

    All four combinations happen.  The code drops the `Task` that
    `wait_for_task` returns, so a task that Meilisearch fails answers
    `Ok(())` with the index unchanged; and a wait that times out answers an
    error while its task is still applied, before any task queued after it.

    Queries go to the engine, which ranks documents by its own rules: it is an
    argument `engine` that maps a keyword to its hits, or to `none` when the
    request fails.  `SearchFixtures::search` queries keyword after keyword,
    appending the hits (stopping at the first failure, the `?`), then sorts
    them by id with a stable sort and drops repeated ids with `dedup_by_key`
    (`QrBackend.SortDedup`). -/

namespace QrSearchEngine

open QrModel QrErrorHandling SortDedup

/-- `Context`: the index a client talks to. -/
structure Context where
  index : String
  primaryKey : String

/-- `SearchResult<T>`: a document and its ranking score. -/
structure SearchResult (T : Type) where
  data : T
  ranking : Option Float

/-- A hit of Meilisearch's `execute`: `result` and `ranking_score`. -/
structure Hit (T : Type) where
  result : T
  rankingScore : Option Float

/-- The engine's answer to `search().with_query(keyword).with_limit(1000)`. -/
abbrev Engine (T : Type) := String → Option (List (Hit T))

/-- The documents of an index, by primary key. -/
abbrev Index (T : Type) := Uuid → Option T

variable {T : Type}

/-- `Context::add_or_replace_documents`: its answer, and the index after its
    task, in which an applied task has upserted the documents in order, each
    under its key. -/
def Context.addOrReplaceDocuments (ctx : Context) (fail taskFails : Bool) (key : T → Uuid)
    (documents : List T) (idx : Index T) : Except QrError Unit × Index T :=
  (if fail then .error (.searchEngineAddOrReplace ctx.index) else .ok (),
   if taskFails then idx
   else documents.foldl (fun idx d => Function.update idx (key d) (some d)) idx)

/-- `Context::delete_documents`: its answer, and the index after its task. -/
def Context.deleteDocuments (ctx : Context) (fail taskFails : Bool) (keys : List Uuid)
    (idx : Index T) : Except QrError Unit × Index T :=
  (if fail then .error (.searchEngineDelete ctx.index) else .ok (),
   if taskFails then idx else keys.foldl (fun idx k => Function.update idx k none) idx)

/-- `Context::search`: the hits of one keyword as `SearchResult`s. -/
def Context.search (ctx : Context) (engine : Engine T) (keyword : String) :
    Except QrError (List (SearchResult T)) :=
  match engine keyword with
  | none => .error (.searchEngineSearch ctx.index)
  | some hits => .ok (hits.map fun res => { data := res.result, ranking := res.rankingScore })

/-- The context `SearchFixtures::new` opens: index `fixtures`, primary key `id`. -/
def SearchFixtures.context : Context :=
  { index := "fixtures", primaryKey := "id" }

/-- `SearchFixtures::add_or_replace`. -/
def SearchFixtures.addOrReplace (fail taskFails : Bool) (lst : List Fixtures)
    (idx : Index Fixtures) : Except QrError Unit × Index Fixtures :=
  SearchFixtures.context.addOrReplaceDocuments fail taskFails Fixtures.id lst idx

/-- `SearchFixtures::delete`. -/
def SearchFixtures.delete (fail taskFails : Bool) (keys : List Uuid) (idx : Index Fixtures) :
    Except QrError Unit × Index Fixtures :=
  SearchFixtures.context.deleteDocuments fail taskFails keys idx

/-- The loop of `SearchFixtures::search`: `lst.append(&mut res)` for each
    keyword, the first failed query ending it. -/
def SearchFixtures.searchLoop (engine : Engine Fixtures) :
    List String → List (SearchResult Fixtures) → Except QrError (List (SearchResult Fixtures))
  | [], lst => .ok lst
  | keyword :: keywords, lst =>
      match SearchFixtures.context.search engine keyword with
      | .error e => .error e
      | .ok res => searchLoop engine keywords (lst ++ res)

/-- `SearchFixtures::search`: collect, `sort_by_key` on the id, `dedup_by_key`
    on the id. -/
def SearchFixtures.search (engine : Engine Fixtures) (keywords : List String) :
    Except QrError (List (SearchResult Fixtures)) :=
  match SearchFixtures.searchLoop engine keywords [] with
  | .error e => .error e
  | .ok lst =>
      .ok (dedupByKey (fun f => f.data.id) (sortByKey (fun f => f.data.id) lst))

/-! ## Writes to the index -/

section Writes

variable {fail taskFails : Bool} {idx : Index Fixtures}

/-- An upsert answers `Ok` exactly when the call does not fail, whatever
    becomes of its task. -/
@[simp] theorem addOrReplace_fst (lst : List Fixtures) :
    (SearchFixtures.addOrReplace fail taskFails lst idx).1 =
      if fail then .error (.searchEngineAddOrReplace "fixtures") else .ok () := rfl

/-- A delete answers `Ok` exactly when the call does not fail. -/
@[simp] theorem delete_fst (keys : List Uuid) :
    (SearchFixtures.delete fail taskFails keys idx).1 =
      if fail then .error (.searchEngineDelete "fixtures") else .ok () := rfl

/-- Upserting one document sets its key, when its task is applied, and
    nothing else. -/
@[simp] theorem addOrReplace_singleton_snd (f : Fixtures) :
    (SearchFixtures.addOrReplace fail taskFails [f] idx).2 =
      if taskFails then idx else Function.update idx f.id (some f) := rfl

/-- Deleting one key clears it, when its task is applied, and nothing else. -/
@[simp] theorem delete_singleton_snd (k : Uuid) :
    (SearchFixtures.delete fail taskFails [k] idx).2 =
      if taskFails then idx else Function.update idx k none := rfl

end Writes

/-! ## The search loop -/

/-- The hits of one keyword, as `Context::search` returns them. -/
def toResults (hits : List (Hit Fixtures)) : List (SearchResult Fixtures) :=
  hits.map fun res => { data := res.result, ranking := res.rankingScore }

/-- **LOOP INVARIANT**: when no query fails, the loop returns the accumulator
    followed by the hits of every keyword, in keyword order. -/
theorem searchLoop_eq_ok (hits : String → List (Hit Fixtures)) :
    ∀ (keywords : List String) (lst : List (SearchResult Fixtures)),
      SearchFixtures.searchLoop (fun k => some (hits k)) keywords lst =
        .ok (lst ++ keywords.flatMap (fun k => toResults (hits k))) := by
  intro keywords
  induction keywords with
  | nil =>
      intro lst
      show Except.ok lst = Except.ok (lst ++ [])
      rw [List.append_nil]
  | cons k ks ih =>
      intro lst
      show SearchFixtures.searchLoop (fun k => some (hits k)) ks (lst ++ toResults (hits k)) = _
      rw [ih, List.flatMap_cons, List.append_assoc]

/-- `SearchFixtures::search` when no query fails. -/
theorem search_eq_ok (hits : String → List (Hit Fixtures)) (keywords : List String) :
    SearchFixtures.search (fun k => some (hits k)) keywords =
      .ok (dedupByKey (fun f => f.data.id) (sortByKey (fun f => f.data.id)
        (keywords.flatMap (fun k => toResults (hits k))))) := by
  unfold SearchFixtures.search
  rw [searchLoop_eq_ok, List.nil_append]

end QrSearchEngine
