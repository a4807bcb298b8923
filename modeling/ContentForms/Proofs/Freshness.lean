import ContentForms.Proofs.ReadAfterWrite
import ContentForms.Proofs.SchemaUse
import Mathlib.Data.List.DropRight

/-!
Which schema is in force. While a service runs, requests come in and files are changed and removed
from outside. To the schema of one key most of that means nothing: what counts are the requests that
drop it, and those that need it while its file holds one. From these marks alone one can tell which
schema is in force, the first one found since it was last dropped, and the invariant of a run is
that this is what the cache has. Changes of the file leave no mark, and neither do requests that
need another key or that find no schema in the file.
-/

namespace ContentForms

open Service

/-- What can happen to a site: a request that arrives at some time, or a change of the disk that is
made from outside. -/
inductive Event where
  | arrival (now : Int) (request : Http.Request)
  | edit (disk : Disk)

namespace Event

def step (config : Config) (site : Site) : Event → Site
  | .arrival now request => (handle config now request site).2
  | .edit disk => { site with disk }

def run (config : Config) (site : Site) (events : List Event) : Site :=
  events.foldl (step config) site

/-! ### Marks -/

/-- What an event means to the schema of a key. -/
inductive Mark where
  /-- The schema is dropped. -/
  | dropped
  /-- A schema is needed, and the file holds one. -/
  | found (schema : LoadedSchema)
  | nothing

namespace Mark

def isDropped : Mark → Bool
  | dropped => true
  | _ => false

def schema? : Mark → Option LoadedSchema
  | found schema => some schema
  | _ => none

def next (inForce : Option LoadedSchema) (mark : Mark) : Option LoadedSchema :=
  if mark.isDropped then none else inForce.or mark.schema?

end Mark

/-- What an event means to the schema of a key, given the disk before it. -/
def mark (config : Config) (disk : Disk) (key : ContentKey) : Event → Mark
  | .arrival _ request =>
      if reloadKey? request = some key then .dropped
      else if schemaKey? config request disk = some key then
        (LoadedSchema.at? disk key).elim .nothing .found
      else .nothing
  | .edit _ => .nothing

/-- The marks that events leave, each with the disk on which it comes about. -/
def marks (config : Config) (key : ContentKey) : Site → List Event → List Mark
  | _, [] => []
  | site, event :: rest =>
      event.mark config site.disk key :: marks config key (event.step config site) rest

variable {config : Config} {key : ContentKey}

end Event

/-! ### The schema in force -/

namespace Service

variable {config : Config} {now : Int} {request : Http.Request} {site : Site} {key : ContentKey}
  {schema : LoadedSchema}

end Service

end ContentForms
