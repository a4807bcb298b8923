import ContentForms.Proofs.SchemaFiles
import ContentForms.Proofs.Schemas
import ContentForms.Schema.Sharing
import Mathlib.Data.List.Induction

/-!
What a shared cache tells. A cache forgets its history, and nothing that it tells depends on more of
it than this: which schema was last entered under a key, if nothing has dropped it since. Entered is
what is inserted and what a loader gives that is run, and a loader is run only if nothing is there.
Requests may come through any handle on the cache. The invariant of a program is that the cache at
every place has, under every key, what the requests that reached this place leave there; requests
that reach another cache leave it alone.
-/

namespace ContentForms

variable {ε : Type}

/-! ### A loader that acts -/

namespace SchemaCache

variable {m : Type → Type} [Monad m] {cache : SchemaCache} {key : ContentKey}
  {schema : LoadedSchema}

theorem getOrRun_of_get? (h : cache.get? key = some schema) (load : m (Except ε LoadedSchema)) :
    cache.getOrRun key load = pure (.ok schema, cache) := by
  rw [getOrRun, h]

def settle (cache : SchemaCache) (key : ContentKey) :
    Except ε LoadedSchema → Except ε LoadedSchema × SchemaCache
  | .ok schema => (.ok schema, cache.insert key schema)
  | .error e => (.error e, cache)

/-- Without a schema the loader is run once, and nothing else is done that could have an effect. -/
theorem getOrRun_of_get?_eq_none [LawfulMonad m] (h : cache.get? key = none)
    (load : m (Except ε LoadedSchema)) :
    cache.getOrRun key load = cache.settle key <$> load := by
  simp only [getOrRun, h, map_eq_pure_bind]
  refine bind_congr fun loaded => ?_
  cases loaded <;> rfl

/-! ### Answers -/

theorem get?_clear (cache : SchemaCache) (key : ContentKey) : cache.clear.get? key = none := rfl

theorem answer_getOrLoad_of_get? (h : cache.get? key = some schema)
    (loaded : Except ε LoadedSchema) :
    cache.answer (.getOrLoad key loaded) = (.loaded (.ok schema) 0, cache) := by
  rw [answer, getOrRun_of_get? h]
  rfl

theorem answer_getOrLoad_of_get?_eq_none (h : cache.get? key = none)
    (loaded : Except ε LoadedSchema) :
    cache.answer (.getOrLoad key loaded) =
      (.loaded loaded 1, (cache.settle key loaded).2) := by
  rw [answer, getOrRun_of_get?_eq_none h]
  cases loaded <;> rfl

theorem pairwise_keys (cache : SchemaCache) : cache.keys.Pairwise ContentKey.Precedes := by
  have hdistinct : (cache.schemas.keys.map ContentKey.rank).Nodup :=
    List.Nodup.map ContentKey.rank_injective cache.schemas.nodup
  exact (pairwise_lt_mergeSort ContentKey.le_iff_rank_le hdistinct).imp ContentKey.rank_lt_iff.mp

theorem mem_keys_iff {cache : SchemaCache} {key : ContentKey} :
    key ∈ cache.keys ↔ ∃ schema, cache.get? key = some schema := by
  rw [keys, ContentKey.sort, (List.mergeSort_perm _ _).mem_iff, FiniteMap.mem_keys_iff,
    Option.isSome_iff_exists]
  rfl

theorem length_keys (cache : SchemaCache) : cache.keys.length = cache.size := by
  rw [keys, ContentKey.sort, List.length_mergeSort, FiniteMap.keys, List.length_map]
  rfl

/-- A loader that fails changes nothing, whether it is run or not. -/
theorem answer_getOrLoad_error (cache : SchemaCache) (key : ContentKey) (e : ε) :
    (cache.answer (.getOrLoad key (.error e))).2 = cache := by
  cases hget : cache.get? key with
  | some schema => rw [answer_getOrLoad_of_get? hget]
  | none => exact congrArg Prod.snd (answer_getOrLoad_of_get?_eq_none hget _)

end SchemaCache

/-! ### What requests leave -/

namespace CacheEvent

/-- A schema is entered under a key: it is inserted there, or a loader that was run has given it. -/
def Enters (event : CacheEvent ε) (key : ContentKey) (schema : LoadedSchema) : Prop :=
  event.request = .insert key schema ∨
    ∃ loaded, event.request = .getOrLoad key loaded ∧ event.answer = .loaded (.ok schema) 1

def Drops (event : CacheEvent ε) (key : ContentKey) : Prop :=
  event.request = .invalidate key ∨ event.request = .clear

/-- The events of the cache at a place. -/
def reaching (place : Nat) (events : List (CacheEvent ε)) : List (CacheEvent ε) :=
  events.filter fun event => event.place = place

theorem reaching_concat (place : Nat) (events : List (CacheEvent ε)) (event : CacheEvent ε) :
    reaching place (events ++ [event]) =
      if place = event.place then reaching place events ++ [event] else reaching place events := by
  by_cases h : place = event.place <;> simp [reaching, h, eq_comm]

/-- A schema is the latest that events have entered under a key, and none has dropped it since. -/
def Leave (events : List (CacheEvent ε)) (key : ContentKey) (schema : LoadedSchema) : Prop :=
  ∃ before event after, events = before ++ event :: after ∧ event.Enters key schema ∧
    ∀ later ∈ after, ¬later.Drops key ∧ ∀ other, ¬later.Enters key other

/-- What one more event leaves is what it enters, or else what was there if it is not dropped. -/
theorem leave_concat {events : List (CacheEvent ε)} {event : CacheEvent ε} {key : ContentKey}
    {schema : LoadedSchema} :
    Leave (events ++ [event]) key schema ↔ event.Enters key schema ∨
      Leave events key schema ∧ ¬event.Drops key ∧ ∀ other, ¬event.Enters key other := by
  constructor
  · rintro ⟨before, entering, after, hsplit, henters, hafter⟩
    rcases List.eq_nil_or_concat after with rfl | ⟨after, last, rfl⟩
    · obtain ⟨-, hlast⟩ := List.append_inj' hsplit rfl
      cases hlast
      exact .inl henters
    · rw [List.concat_eq_append, ← List.cons_append, ← List.append_assoc] at hsplit
      obtain ⟨rfl, hlast⟩ := List.append_inj' hsplit rfl
      cases hlast
      rw [List.concat_eq_append, List.forall_mem_append, List.forall_mem_singleton] at hafter
      exact .inr ⟨⟨before, entering, after, rfl, henters, hafter.1⟩, hafter.2⟩
  · rintro (henters | ⟨⟨before, entering, after, rfl, henters, hafter⟩, hlast⟩)
    · exact ⟨events, event, [], rfl, henters, by simp⟩
    · refine ⟨before, entering, after ++ [event], by simp, henters, ?_⟩
      rw [List.forall_mem_append, List.forall_mem_singleton]
      exact ⟨hafter, hlast⟩

theorem not_leave_nil (key : ContentKey) (schema : LoadedSchema) :
    ¬Leave ([] : List (CacheEvent ε)) key schema := by
  rintro ⟨before, event, after, hsplit, -⟩
  simp at hsplit

/-- The answer to a request is the one that the events before it on the same cache call for. -/
def Fits (before : List (CacheEvent ε)) (event : CacheEvent ε) : Prop :=
  match event.request with
  | .insert _ schema => event.answer = .inserted schema
  | .get key =>
      ∃ found, event.answer = .found found ∧ ∀ schema, found = some schema ↔ Leave before key schema
  | .getOrLoad key loaded =>
      (∃ schema, Leave before key schema ∧ event.answer = .loaded (.ok schema) 0) ∨
        (∀ schema, ¬Leave before key schema) ∧ event.answer = .loaded loaded 1
  | .invalidate key =>
      ∃ present, event.answer = .dropped present ∧
        (present = true ↔ ∃ schema, Leave before key schema)
  | .clear => event.answer = .cleared

/-- What a cache has is what some events leave, and it is listed and counted. -/
structure AccountFor (events : List (CacheEvent ε)) (cache : SchemaCache) : Prop where
  get?_iff : ∀ key schema, cache.get? key = some schema ↔ Leave events key schema
  mem_keys_iff : ∀ key, key ∈ cache.keys ↔ ∃ schema, Leave events key schema
  ascending : cache.keys.Pairwise ContentKey.Precedes
  size_eq : cache.size = cache.keys.length

variable {cache : SchemaCache} {before : List (CacheEvent ε)}

theorem accountFor_of_get? {events : List (CacheEvent ε)}
    (h : ∀ key schema, cache.get? key = some schema ↔ Leave events key schema) :
    AccountFor events cache where
  get?_iff := h
  mem_keys_iff key := SchemaCache.mem_keys_iff.trans (exists_congr (h key))
  ascending := cache.pairwise_keys
  size_eq := cache.length_keys.symm

theorem get?_answer (cache : SchemaCache) (place : Nat) (request : CacheRequest ε)
    (key : ContentKey) (schema : LoadedSchema) :
    (cache.answer request).2.get? key = some schema ↔
      Enters ⟨place, request, (cache.answer request).1⟩ key schema ∨
        cache.get? key = some schema ∧ ¬Drops ⟨place, request, (cache.answer request).1⟩ key ∧
          ∀ other, ¬Enters ⟨place, request, (cache.answer request).1⟩ key other := by
  cases request with
  | insert other inserted =>
      by_cases hkey : key = other
      · subst hkey
        simp [SchemaCache.answer, Enters, Drops, eq_comm]
      · simp [SchemaCache.answer, Enters, Drops, SchemaCache.get?_insert_of_ne cache hkey,
          Ne.symm hkey]
  | get other => simp [SchemaCache.answer, Enters, Drops]
  | getOrLoad other loaded =>
      cases hget : cache.get? other with
      | some hit =>
          rw [SchemaCache.answer_getOrLoad_of_get? hget]
          simp [Enters, Drops]
      | none =>
          rw [SchemaCache.answer_getOrLoad_of_get?_eq_none hget]
          cases loaded with
          | error e => simp [SchemaCache.settle, Enters, Drops]
          | ok given =>
              by_cases hkey : key = other
              · subst hkey
                simp [SchemaCache.settle, Enters, Drops, eq_comm]
              · simp [SchemaCache.settle, Enters, Drops,
                  SchemaCache.get?_insert_of_ne cache hkey, Ne.symm hkey]
  | invalidate other =>
      by_cases hkey : key = other
      · subst hkey
        simp [SchemaCache.answer, Enters, Drops]
      · simp [SchemaCache.answer, Enters, Drops, SchemaCache.get?_invalidate_of_ne cache hkey,
          Ne.symm hkey]
  | clear => simp [SchemaCache.answer, SchemaCache.get?_clear, Enters, Drops]

theorem fits_answer (hcache : ∀ key schema, cache.get? key = some schema ↔ Leave before key schema)
    (place : Nat) (request : CacheRequest ε) :
    Fits before ⟨place, request, (cache.answer request).1⟩ := by
  cases request with
  | insert key schema => rfl
  | get key => exact ⟨cache.get? key, rfl, hcache key⟩
  | getOrLoad key loaded =>
      cases hget : cache.get? key with
      | some schema =>
          refine .inl ⟨schema, (hcache key schema).mp hget, ?_⟩
          rw [SchemaCache.answer_getOrLoad_of_get? hget]
      | none =>
          refine .inr ⟨fun schema hleave => ?_, ?_⟩
          · rw [(hcache key schema).mpr hleave] at hget
            cases hget
          · rw [SchemaCache.answer_getOrLoad_of_get?_eq_none hget]
  | invalidate key =>
      refine ⟨cache.contains key, rfl, ?_⟩
      rw [show cache.contains key = (cache.get? key).isSome from rfl, Option.isSome_iff_exists]
      exact exists_congr (hcache key)
  | clear => rfl

end CacheEvent

/-! ### Programs -/

namespace Caches

/-- The cache at a place; where there is none, nothing is cached. -/
def cacheAt (caches : Caches) (place : Nat) : SchemaCache :=
  caches.caches[place]?.getD .empty

theorem cacheAt_create (caches : Caches) (place : Nat) :
    caches.create.cacheAt place = caches.cacheAt place := by
  simp only [cacheAt, create, List.getElem?_append]
  split
  · rfl
  · next hplace =>
      rw [List.getElem?_eq_none (Nat.le_of_not_lt hplace)]
      cases place - caches.caches.length <;> rfl

theorem cacheAt_modify {caches : Caches} {place : Nat} (h : place < caches.caches.length)
    (f : SchemaCache → SchemaCache) (other : Nat) :
    (caches.modify place f).cacheAt other =
      if other = place then f (caches.cacheAt place) else caches.cacheAt other := by
  simp only [cacheAt, modify, List.getElem?_modify]
  split
  · next hplace =>
      subst hplace
      simp [h]
  · next hplace => simp [Ne.symm hplace]

theorem modify_of_fixed {caches : Caches} (place : Nat) {f : SchemaCache → SchemaCache}
    (h : ∀ cache, f cache = cache) : caches.modify place f = caches := by
  obtain rfl : f = id := funext h
  simp [modify]

def eventAt (caches : Caches) (place : Nat) (request : CacheRequest ε) : CacheEvent ε :=
  ⟨place, request, ((caches.cacheAt place).answer request).1⟩

theorem place_eventAt (caches : Caches) (place : Nat) (request : CacheRequest ε) :
    (caches.eventAt place request).place = place := rfl

theorem cache?_eq_some {caches : Caches} {handle place : Nat}
    (h : caches.handles[handle]? = some place) :
    caches.cache? handle = some (caches.cacheAt place) := by
  have hplace : place < caches.caches.length := caches.bounded place (List.mem_of_getElem? h)
  rw [cache?, h, Option.bind_some, cacheAt, List.getElem?_eq_getElem hplace]
  rfl

theorem step_request {caches : Caches} {handle place : Nat}
    (h : caches.handles[handle]? = some place) (request : CacheRequest ε) :
    caches.step (.request handle request) =
      (some (caches.eventAt place request),
        caches.modify place fun cache => (cache.answer request).2) := by
  have hcache : caches.caches[place]? = some (caches.cacheAt place) := by
    have hhandle := cache?_eq_some h
    rwa [cache?, h, Option.bind_some] at hhandle
  rw [step, h]
  dsimp only
  rw [hcache]
  rfl

end Caches

namespace CacheRun

/-- A step of a program reaches one cache with a request, which is recorded with its answer, or it
changes no cache. -/
theorem next_cases (run : CacheRun ε) (step : CacheStep ε) :
    ((run.next step).events = run.events ∧
      ∀ place, (run.next step).caches.cacheAt place = run.caches.cacheAt place) ∨
    ∃ place request,
      (run.next step).events = run.events ++ [run.caches.eventAt place request] ∧
      ∀ other, (run.next step).caches.cacheAt other =
        if other = place then ((run.caches.cacheAt place).answer request).2
        else run.caches.cacheAt other := by
  cases step with
  | create => exact .inl ⟨List.append_nil _, run.caches.cacheAt_create⟩
  | clone handle => exact .inl ⟨List.append_nil _, fun _ => rfl⟩
  | request handle request =>
      cases hhandle : run.caches.handles[handle]? with
      | none =>
          have hnext : run.next (.request handle request) = run := by
            rw [next, Caches.step, hhandle]
            dsimp only
            rw [Option.toList_none, List.append_nil]
          rw [hnext]
          exact .inl ⟨rfl, fun _ => rfl⟩
      | some place =>
          have hplace : place < run.caches.caches.length :=
            run.caches.bounded place (List.mem_of_getElem? hhandle)
          refine .inr ⟨place, request, ?_, ?_⟩
          · rw [next, Caches.step_request hhandle]
            rfl
          · intro other
            rw [next, Caches.step_request hhandle]
            exact Caches.cacheAt_modify hplace _ other

theorem of_concat (steps : List (CacheStep ε)) (step : CacheStep ε) :
    of (steps ++ [step]) = (of steps).next step := by
  rw [of, List.foldl_append]
  rfl

open CacheEvent

/-- In a program each cache has what the requests that reached it leave. -/
theorem get?_cacheAt (steps : List (CacheStep ε)) (place : Nat) (key : ContentKey)
    (schema : LoadedSchema) :
    ((of steps).caches.cacheAt place).get? key = some schema ↔
      Leave (reaching place (of steps).events) key schema := by
  induction steps using List.reverseRecOn generalizing key schema with
  | nil =>
      exact iff_of_false (by simp [of, Caches.cacheAt, Caches.empty]) (not_leave_nil key schema)
  | append_singleton steps step ih =>
      rw [of_concat]
      obtain ⟨hevents, hcaches⟩ | ⟨reached, request, hevents, hcaches⟩ :=
        (of steps).next_cases step
      · rw [hevents, hcaches, ih]
      · rw [hevents, hcaches, reaching_concat, Caches.place_eventAt]
        split
        · next hplace =>
            subst hplace
            rw [get?_answer _ place, ih, leave_concat]
            rfl
        · exact ih key schema

theorem fits_of (steps : List (CacheStep ε)) {n : Nat} {event : CacheEvent ε}
    (h : (of steps).events[n]? = some event) :
    event.Fits (reaching event.place ((of steps).events.take n)) := by
  induction steps using List.reverseRecOn with
  | nil => cases h
  | append_singleton steps step ih =>
      rw [of_concat] at h ⊢
      rcases (of steps).next_cases step with ⟨hevents, -⟩ | ⟨place, request, hevents, -⟩
      · rw [hevents] at h ⊢
        exact ih h
      · rw [hevents] at h ⊢
        have hn : n ≤ (of steps).events.length := by
          have hlt := (List.getElem?_eq_some_iff.mp h).1
          rw [List.length_append, List.length_singleton] at hlt
          exact Nat.le_of_lt_succ hlt
        rw [List.take_append_of_le_length hn]
        rcases hn.lt_or_eq with hlt | rfl
        · rw [List.getElem?_append_left hlt] at h
          exact ih h
        · rw [List.getElem?_concat_length] at h
          cases h
          rw [List.take_length]
          exact fits_answer (get?_cacheAt steps place) place request

/-- In any program that makes caches, clones handles on them and sends requests through the handles,
a request is answered as those before it on the same cache call for, whichever handles they came
through: what is found under a key is what was last inserted there, or given by a loader that was
run, unless it was dropped since, and nothing otherwise; a loader is run once if nothing is there,
and else not; and dropping a key tells whether something was there. A handle reaches the cache that
it or the handle it is a clone of was made for. What a cache has, and the number of its keys and
their list, in strictly ascending order, are what those requests leave. A loader that fails leaves
everything as it is. -/
theorem answers_go_by_last_entry (steps : List (CacheStep ε)) :
    let run := of steps
    (∀ n (event : CacheEvent ε), run.events[n]? = some event →
      event.Fits (reaching event.place (run.events.take n))) ∧
    (∀ handle place, run.caches.handles[handle]? = some place →
      (∀ request, ∃ answer, (run.next (.request handle request)).events =
        run.events ++ [⟨place, request, answer⟩]) ∧
      (run.next (.clone handle)).caches.handles = run.caches.handles ++ [place] ∧
      ∃ cache, run.caches.cache? handle = some cache ∧
        AccountFor (reaching place run.events) cache) ∧
    (∃ place, (run.next .create).caches.handles = run.caches.handles ++ [place] ∧
      place ∉ run.caches.handles) ∧
    ∀ handle key (e : ε),
      (run.next (.request handle (.getOrLoad key (.error e)))).caches = run.caches := by
  intro run
  refine ⟨fun n event => fits_of steps, ?_, ?_, ?_⟩
  · intro handle place hhandle
    refine ⟨fun request => ⟨((run.caches.cacheAt place).answer request).1, ?_⟩, ?_,
      run.caches.cacheAt place, Caches.cache?_eq_some hhandle,
      accountFor_of_get? (get?_cacheAt steps place)⟩
    · rw [next, Caches.step_request hhandle]
      rfl
    · show run.caches.handles ++ run.caches.handles[handle]?.toList = _
      rw [hhandle]
      rfl
  · exact ⟨run.caches.caches.length, rfl, fun hmem => (run.caches.bounded _ hmem).false⟩
  · intro handle key e
    cases hhandle : run.caches.handles[handle]? with
    | none => rw [next, Caches.step, hhandle]
    | some place =>
        rw [next, Caches.step_request hhandle]
        exact Caches.modify_of_fixed place (SchemaCache.answer_getOrLoad_error · key e)

/-! ### A clone that drops what was entered -/

def contactKey : ContentKey :=
  ⟨.page, ⟨"contact", by decide⟩⟩

def bareSchema (source : Json) : LoadedSchema :=
  { source, document := .sectioned [], compiled := (SchemaDocument.sectioned []).compile }

/-- A cache, its clone and another cache. A schema is entered through the first handle and asked for
through the clone, which then drops it; after that a loader fails and another one gives a schema. -/
def clonedSteps : List (CacheStep String) :=
  [.create, .clone 0, .create,
    .request 0 (.insert contactKey (bareSchema .null)),
    .request 1 (.getOrLoad contactKey (.ok (bareSchema (.arr [])))),
    .request 1 (.invalidate contactKey),
    .request 0 (.getOrLoad contactKey (.error "absent")),
    .request 2 (.get contactKey),
    .request 1 (.getOrLoad contactKey (.ok (bareSchema (.arr []))))]

/-- The loader of the second request is not run, and what counts in the end is what the last one has
given; the other cache has nothing. -/
theorem answers_go_by_last_entry_clones :
    let run := of clonedSteps
    run.caches.handles = [0, 0, 1] ∧
    run.events[1]? = some ⟨0, .getOrLoad contactKey (.ok (bareSchema (.arr []))),
      .loaded (.ok (bareSchema .null)) 0⟩ ∧
    Leave (reaching 0 (run.events.take 1)) contactKey (bareSchema .null) ∧
    Leave (reaching 0 run.events) contactKey (bareSchema (.arr [])) ∧
    ∀ schema, ¬Leave (reaching 1 run.events) contactKey schema := by
  intro run
  obtain ⟨hfits, hhandles, -, -⟩ := answers_go_by_last_entry clonedSteps
  refine ⟨rfl, rfl, ?_, ?_, ?_⟩
  · rcases hfits 1 _ rfl with ⟨schema, hleave, hanswer⟩ | ⟨-, hanswer⟩
    · cases hanswer
      exact hleave
    · cases hanswer
  · obtain ⟨-, -, cache, hcache, haccount⟩ := hhandles 1 0 rfl
    cases hcache
    exact (haccount.get?_iff _ _).mp rfl
  · obtain ⟨-, -, cache, hcache, haccount⟩ := hhandles 2 1 rfl
    cases hcache
    intro schema hleave
    cases (haccount.get?_iff _ _).mpr hleave

end CacheRun

end ContentForms
