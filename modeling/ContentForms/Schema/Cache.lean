import ContentForms.Content.Key
import ContentForms.FiniteMap
import ContentForms.Schema.Loaded

/-!
The cache of loaded schemas: a finite map from content keys, in which the latest write counts. A
schema is loaded when it is first asked for and stays until its key is invalidated; a load that
fails leaves nothing behind. No key is in the cache twice, so its size is the number of cached
keys.
-/

namespace ContentForms

structure SchemaCache where
  schemas : FiniteMap ContentKey LoadedSchema

namespace SchemaCache

def empty : SchemaCache :=
  ⟨.empty⟩

def get? (cache : SchemaCache) (key : ContentKey) : Option LoadedSchema :=
  cache.schemas.get? key

def contains (cache : SchemaCache) (key : ContentKey) : Bool :=
  cache.schemas.contains key

def insert (cache : SchemaCache) (key : ContentKey) (schema : LoadedSchema) : SchemaCache :=
  ⟨cache.schemas.insert key schema⟩

def invalidate (cache : SchemaCache) (key : ContentKey) : SchemaCache :=
  ⟨cache.schemas.erase key⟩

/-- The schema under a key. The loader is run if there is none, and otherwise not; what it loads is
entered. -/
def getOrRun [Monad m] (cache : SchemaCache) (key : ContentKey)
    (load : m (Except ε LoadedSchema)) : m (Except ε LoadedSchema × SchemaCache) :=
  match cache.get? key with
  | some schema => pure (.ok schema, cache)
  | none => do
      match ← load with
      | .ok schema => pure (.ok schema, cache.insert key schema)
      | .error e => pure (.error e, cache)

def clear (_ : SchemaCache) : SchemaCache :=
  empty

def size (cache : SchemaCache) : Nat :=
  cache.schemas.size

def isEmpty (cache : SchemaCache) : Bool :=
  cache.schemas.isEmpty

def keys (cache : SchemaCache) : List ContentKey :=
  ContentKey.sort cache.schemas.keys

end SchemaCache

end ContentForms
