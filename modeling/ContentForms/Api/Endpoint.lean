import ContentForms.Http.Message
import ContentForms.Text.Split
import ContentForms.Url.Percent

/-!
Endpoints: what a path stands for, and the methods that it has. A name that is part of an endpoint
is given as it stands in the path, with its percent signs. Paths that name a fixed word win over
paths with a name in its place. The last name of a path is never empty.
-/

namespace ContentForms

inductive Endpoint where
  | liveness
  | readiness
  /-- The keys that have a schema. -/
  | contents
  | upload
  /-- The document under a key. -/
  | document (type name : String)
  /-- The compiled schema under a key. -/
  | reload (type name : String)
  /-- The entries of a blog and its index. -/
  | entries (name : String)
  | entry (name slug : String)
  deriving DecidableEq

namespace Endpoint

def ofPath? (path : List Char) : Option Endpoint :=
  match (Text.pieces '/' path).map String.ofList with
  | ["", "health", "liveness"] => some .liveness
  | ["", "health", "readiness"] => some .readiness
  | ["", "api", "cms"] => some .contents
  | ["", "api", "upload"] => some .upload
  | ["", "api", "cms", "blog", name, slug] =>
      if slug.isEmpty then none else some (.entry name slug)
  | ["", "api", "cms", "reload", type, name] =>
      if name.isEmpty then none else some (.reload type name)
  | ["", "api", "cms", "blog", name] => if name.isEmpty then none else some (.entries name)
  | ["", "api", "cms", type, name] => if name.isEmpty then none else some (.document type name)
  | _ => none

def methods : Endpoint → List Http.Method
  | liveness | readiness | contents => [.get, .head]
  | upload | reload _ _ => [.post]
  | document _ _ | entries _ => [.get, .head, .put]
  | entry _ _ => [.get, .head, .post, .put]

/-- Whether responses say which origins may read them. -/
def isShared : Endpoint → Bool
  | liveness | readiness => false
  | _ => true

/-- The text of a name in a path; the error is what the name is called. -/
def decodeName (label text : String) : Except String String :=
  (Percent.decode? text.toList).elim (.error label) .ok

def decode : Endpoint → Except String Endpoint
  | document type name => do pure (document (← decodeName "type" type) (← decodeName "name" name))
  | reload type name => do pure (reload (← decodeName "type" type) (← decodeName "name" name))
  | entries name => do pure (entries (← decodeName "name" name))
  | entry name slug => do pure (entry (← decodeName "name" name) (← decodeName "slug" slug))
  | endpoint => .ok endpoint

end Endpoint

end ContentForms
