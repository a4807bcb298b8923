import ContentForms.Api.Endpoint
import ContentForms.Api.Site
import ContentForms.Api.Submission
import ContentForms.Store.Uploads

/-!
The service: from a request and a site to a response and the site after it. The endpoint of the path
comes first, then its methods, then the names in the path; what the endpoint does after that is one
action on the site, and its failure is the response if it fails. Before all that, a page of another
origin may ask whether it may send a request, which has no effect.
-/

namespace ContentForms.Service

open Site

def success (body : Json) : Http.Response :=
  .json 200 body.compact

/-- A schema as it was written and the document that is stored for it. -/
def form (schema : LoadedSchema) (data : Json) : Http.Response :=
  success (.obj [("schema", schema.source), ("data", data)])

/-- That a document was saved, in the form in which it was accepted. -/
def saved (data : Json) : Http.Response :=
  success (.obj [("success", .bool true), ("data", data)])

def savedEntry (data : Json) (slug : Slug) : Http.Response :=
  success (.obj [("success", .bool true), ("data", data), ("slug", .str slug.text)])

def reloaded (present : Bool) : Http.Response :=
  success (.obj [("success", .bool true), ("reloaded", .bool present)])

def uploaded (fileName : String) : Http.Response :=
  success (.obj [("success", .bool true), ("url", .str ("/uploads/" ++ fileName)),
    ("filename", .str fileName)])

/-- The entry that a form is shown for, which is empty while the entry is new. -/
def entryDocument (blog : ContentName) (slug : String) (faults : Faults := .none) :
    Action Json := do
  if slug = newSlug then pure (.obj [])
  else documentAt (Layout.entry blog (← check .ofName (Slug.ofText slug))) faults

def upload (now : Int) (image : Image) (faults : Faults := .none) : Action String :=
  changing .ofStore (Store.saveUpload · now image.extension image.content faults)

/-- What an endpoint does on a request that arrives at the given time. -/
def perform (config : Config) (now : Int) (request : Http.Request) (endpoint : Endpoint)
    (faults : Faults := .none) : Action Http.Response :=
  match endpoint with
  | .liveness => pure (.text 200 "ok")
  | .readiness => pure (.text 200 "ready")
  | .contents => do
      pure (success (.arr ((← reading (Store.keys · faults)).map ContentKey.toJson)))
  | .upload => do
      let image ← check id (Image.ofRequest request config.maxBodyBytes)
      pure (uploaded (← upload now image faults))
  | .document type name => do
      let key ← check .ofName (ContentKey.ofTexts type name)
      if request.method = .put then
        let document ← check id (request.document config.maxBodyBytes)
        pure (saved (← save key document faults))
      else
        let schema ← schema key faults
        pure (form schema (← documentAt (Layout.document key) faults))
  | .reload type name => do
      pure (reloaded (← reload (← check .ofName (ContentKey.ofTexts type name))))
  | .entries name => do
      let blog ← check .ofName (ContentName.ofText name)
      if request.method = .put then
        let document ← check id (request.document config.maxBodyBytes)
        pure (saved (← save ⟨.blog, blog⟩ document faults))
      else
        pure (success (.arr ((← reading (Store.entries · blog faults)).map Entry.toJson)))
  | .entry name slug => do
      let blog ← check .ofName (ContentName.ofText name)
      if request.method = .put || request.method = .post then
        let document ← check id (request.document config.maxBodyBytes)
        let (data, slug) ← saveEntry blog slug document (request.method = .post) faults
        pure (savedEntry data slug)
      else
        let schema ← schema ⟨.blog, blog⟩ faults
        pure (form schema (← entryDocument blog slug faults))

def run (action : Action Http.Response) (site : Site) : Http.Response × Site :=
  match (ExceptT.run action).run site with
  | (.ok response, site) => (response, site)
  | (.error failure, site) => (failure.response, site)

def illegible (label : String) : Http.Response :=
  .text 400 ("Invalid URL: Invalid UTF-8 in \x60" ++ label ++ "\x60")

def respond (config : Config) (now : Int) (request : Http.Request) (endpoint : Endpoint)
    (site : Site) (faults : Faults := .none) : Http.Response × Site :=
  if !endpoint.methods.contains request.method then
    ({ Http.Response.bare 405 with allow := some endpoint.methods }, site)
  else
    match endpoint.decode with
    | .error label => (illegible label, site)
    | .ok endpoint => run (perform config now request endpoint faults) site

/-- Whether a request only asks, on behalf of a page, what the page may do at a path. -/
def isPreflight (request : Http.Request) (endpoint : Option Endpoint) : Bool :=
  request.method = .options && endpoint.all Endpoint.isShared

/-- The response as it is sent: it says who may read it, and has no body if only the head was asked
for. -/
def finish (config : Config) (request : Http.Request) (endpoint : Option Endpoint)
    (response : Http.Response) : Http.Response :=
  let origin :=
    if endpoint.all Endpoint.isShared then config.allowedOrigin (request.header? "origin") else none
  let response := { response with allowOrigin := origin }
  if request.method = .head then response.headOnly else response

/-- The response to a request that arrives at the given time and meets the given faults, and the
site after it. -/
def handle (config : Config) (now : Int) (request : Http.Request) (site : Site)
    (faults : Faults := .none) : Http.Response × Site :=
  let endpoint := Endpoint.ofPath? request.path
  let (response, site) :=
    if isPreflight request endpoint then (.bare 200, site)
    else
      match endpoint with
      | none => (.bare 404, site)
      | some endpoint => respond config now request endpoint site faults
  (finish config request endpoint response, site)

end ContentForms.Service
