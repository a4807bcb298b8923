import ContentForms.Schema.Cache

/-!
Caches that are shared. A program holds handles on caches, not the caches. A clone of a handle is on
the same cache, and only a cache that is made anew has a handle of its own; so what is entered
through one handle is found through every handle on that cache, and through no other one. The caches
stand in a list, and a handle is known by the place there of the cache that it is on.
-/

namespace ContentForms

/-- What is asked of a cache. A loader is known by what it gives, should it be run. -/
inductive CacheRequest (ε : Type) where
  | insert (key : ContentKey) (schema : LoadedSchema)
  | get (key : ContentKey)
  | getOrLoad (key : ContentKey) (loaded : Except ε LoadedSchema)
  | invalidate (key : ContentKey)
  | clear

inductive CacheAnswer (ε : Type) where
  | inserted (schema : LoadedSchema)
  | found (schema : Option LoadedSchema)
  /-- A schema, or why there is none, and how often the loader was run for it. -/
  | loaded (result : Except ε LoadedSchema) (runs : Nat)
  /-- Whether there was a schema to drop. -/
  | dropped (present : Bool)
  | cleared

def countedLoad (loaded : Except ε LoadedSchema) : StateM Nat (Except ε LoadedSchema) := do
  modify (· + 1)
  pure loaded

def SchemaCache.answer (cache : SchemaCache) : CacheRequest ε → CacheAnswer ε × SchemaCache
  | .insert key schema => (.inserted schema, cache.insert key schema)
  | .get key => (.found (cache.get? key), cache)
  | .getOrLoad key loaded =>
      let ((result, after), runs) := (cache.getOrRun key (countedLoad loaded)).run 0
      (.loaded result runs, after)
  | .invalidate key => (.dropped (cache.contains key), cache.invalidate key)
  | .clear => (.cleared, cache.clear)

structure Caches where
  caches : List SchemaCache
  /-- The place of the cache that each handle is on. -/
  handles : List Nat
  bounded : ∀ place ∈ handles, place < caches.length

/-- A step of a program that works with caches. Handles are numbered as they come about. -/
inductive CacheStep (ε : Type) where
  | create
  | clone (handle : Nat)
  | request (handle : Nat) (request : CacheRequest ε)

/-- A request that reached the cache at a place, with the answer to it. -/
structure CacheEvent (ε : Type) where
  place : Nat
  request : CacheRequest ε
  answer : CacheAnswer ε

namespace Caches

def empty : Caches :=
  ⟨[], [], by simp⟩

def cache? (caches : Caches) (handle : Nat) : Option SchemaCache :=
  caches.handles[handle]?.bind fun place => caches.caches[place]?

def create (caches : Caches) : Caches where
  caches := caches.caches ++ [.empty]
  handles := caches.handles ++ [caches.caches.length]
  bounded := by
    intro place hmem
    rw [List.length_append, List.length_singleton, Nat.lt_succ_iff]
    rcases List.mem_append.mp hmem with hmem | hmem
    · exact Nat.le_of_lt (caches.bounded place hmem)
    · exact Nat.le_of_eq (List.mem_singleton.mp hmem)

def clone (caches : Caches) (handle : Nat) : Caches where
  caches := caches.caches
  handles := caches.handles ++ caches.handles[handle]?.toList
  bounded := by
    intro place hmem
    rcases List.mem_append.mp hmem with hmem | hmem
    · exact caches.bounded place hmem
    · exact caches.bounded place (List.mem_of_getElem? (Option.mem_toList.mp hmem))

def modify (caches : Caches) (place : Nat) (f : SchemaCache → SchemaCache) : Caches where
  caches := caches.caches.modify place f
  handles := caches.handles
  bounded := by simpa using caches.bounded

/-- The event of a step, if it has one, and the caches after it. What is asked through a handle that
does not exist comes to nothing. -/
def step (caches : Caches) : CacheStep ε → Option (CacheEvent ε) × Caches
  | .create => (none, caches.create)
  | .clone handle => (none, caches.clone handle)
  | .request handle request =>
      match caches.handles[handle]? with
      | none => (none, caches)
      | some place =>
          (caches.caches[place]?.map fun cache => ⟨place, request, (cache.answer request).1⟩,
            caches.modify place fun cache => (cache.answer request).2)

end Caches

structure CacheRun (ε : Type) where
  caches : Caches
  events : List (CacheEvent ε)

namespace CacheRun

def next (run : CacheRun ε) (step : CacheStep ε) : CacheRun ε :=
  let (event?, caches) := run.caches.step step
  ⟨caches, run.events ++ event?.toList⟩

/-- A program from its start, when there are no caches. -/
def of (steps : List (CacheStep ε)) : CacheRun ε :=
  steps.foldl next ⟨.empty, []⟩

end CacheRun

end ContentForms
