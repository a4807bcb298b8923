import ContentForms.Proofs.Requests
import Mathlib.Tactic.Choose

/-!
Which schema a request uses. Of all that a request does, one step alone has to do with the cache:
getting the schema of a key, if it gets that far. What comes before that step and after it depends
on the disk and on the request, and would be the same with any other cache. So a request is
described by the key whose schema it needs, if there is one, and by the key that it drops, if it is
a request to reload.
-/

namespace ContentForms

def LoadedSchema.at? (disk : Disk) (key : ContentKey) : Option LoadedSchema :=
  match Store.schemaText? disk key with
  | .ok (some text) => (LoadedSchema.read text key.fileName).toOption
  | _ => none

namespace Site

variable {α β : Type} {disk : Disk}

/-! ### Actions on the disk alone -/

/-- The action neither reads the cache nor changes it. -/
def OnDisk (action : Action α) : Prop :=
  ∀ disk, ∃ result disk', ∀ schemas, run ⟨disk, schemas⟩ action = (result, ⟨disk', schemas⟩)

/-- How an action on a disk has to do with the cache: not at all, or by getting the schema of one
key and then going on with it on the disk alone. -/
def Needs (disk : Disk) (action : Action α) : Option ContentKey → Prop
  | none => ∃ result disk', ∀ schemas, run ⟨disk, schemas⟩ action = (result, ⟨disk', schemas⟩)
  | some key => ∃ go : LoadedSchema → Action α, (∀ schema, OnDisk (go schema)) ∧
      ∀ schemas, run ⟨disk, schemas⟩ action = run ⟨disk, schemas⟩ (schema key >>= go)

theorem Needs.congr {action action' : Action α} {key? : Option ContentKey}
    (h : Needs disk action key?)
    (hrun : ∀ schemas, run ⟨disk, schemas⟩ action' = run ⟨disk, schemas⟩ action) :
    Needs disk action' key? := by
  cases key? with
  | none =>
      obtain ⟨result, disk', hresult⟩ := h
      exact ⟨result, disk', fun schemas => (hrun schemas).trans (hresult schemas)⟩
  | some key =>
      obtain ⟨go, hgo, hsame⟩ := h
      exact ⟨go, hgo, fun schemas => (hrun schemas).trans (hsame schemas)⟩

end Site

namespace Service

open Site

/-! ### Endpoints -/

/-- The key whose schema a saved entry needs: none, if the slug is refused or taken. -/
def entryKey? (disk : Disk) (blog : ContentName) (created : Bool) (slug : Slug) :
    Option ContentKey :=
  if created then
    match disk.holds (Layout.entry blog slug) with
    | .ok false => some ⟨.blog, blog⟩
    | _ => none
  else some ⟨.blog, blog⟩

/-- The key whose schema an endpoint needs for a request. Names, slugs and a submitted document are
read before that, and if one of them cannot be read no schema is needed. -/
def endpointKey? (config : Config) (request : Http.Request) (disk : Disk) :
    Endpoint → Option ContentKey
  | .document type name =>
      (ContentKey.ofTexts type name).toOption.bind fun key =>
        if request.method = .put then
          (request.document config.maxBodyBytes).toOption.bind fun _ => some key
        else some key
  | .entries name =>
      (ContentName.ofText name).toOption.bind fun blog =>
        if request.method = .put then
          (request.document config.maxBodyBytes).toOption.bind fun _ => some ⟨.blog, blog⟩
        else none
  | .entry name slug =>
      (ContentName.ofText name).toOption.bind fun blog =>
        if request.method = .put || request.method = .post then
          (request.document config.maxBodyBytes).toOption.bind fun document =>
            (entrySlug slug document).toOption.bind
              (entryKey? disk blog (request.method = .post))
        else some ⟨.blog, blog⟩
  | _ => none

def schemaKey? (config : Config) (request : Http.Request) (disk : Disk) : Option ContentKey :=
  request.endpoint?.bind fun endpoint =>
    if request.method ∈ endpoint.methods then endpointKey? config request disk endpoint else none

def reloadKey? (request : Http.Request) : Option ContentKey :=
  match request.endpoint? with
  | some (.reload type name) =>
      if request.method = .post then (ContentKey.ofTexts type name).toOption else none
  | _ => none

variable {config : Config} {request : Http.Request} {disk : Disk} {key : ContentKey}

end Service

end ContentForms
