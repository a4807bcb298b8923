import ContentForms.Api.Service
import ContentForms.Proofs.Addresses

/-!
What a request does to a site. `Effect` lists all that can come of an endpoint that is asked,
whichever calls to the file system fail: it fails, and leaves no more than it may; it reads, and
then schemas may have been loaded; it drops a compiled schema; it saves a document that was
accepted; or it stores an upload. Every endpoint has one of these effects, and what is proved of
requests goes by the effects and not by the endpoints. A request that is about no endpoint, or for
which its endpoint has no method, has no effect at all.
-/

namespace ContentForms

namespace StorageAddress

/-- The key whose schema a document at the address has to follow. -/
def key : StorageAddress → ContentKey
  | page name => ⟨.page, name⟩
  | index blog | entry blog _ => ⟨.blog, blog⟩

def ofKey : ContentKey → StorageAddress
  | ⟨.page, name⟩ => .page name
  | ⟨.blog, name⟩ => .index name

theorem path_ofKey (key : ContentKey) : (ofKey key).path = Layout.document key := by
  obtain ⟨type, name⟩ := key
  cases type <;> rfl

theorem key_ofKey (key : ContentKey) : (ofKey key).key = key := by
  obtain ⟨type, name⟩ := key
  cases type <;> rfl

end StorageAddress

/-! ### What responses say -/

/-- The response tells of success, with a body in JSON. -/
structure Http.Response.Carries (response : Http.Response) (body : Json) : Prop where
  status : response.status = 200
  contentType : response.contentType = some "application/json"
  body : response.body = body.compact

def formBody (source data : Json) : Json :=
  .obj [("schema", source), ("data", data)]

def savedBody (value : Json) : Json :=
  .obj [("success", .bool true), ("data", value)]

def savedEntryBody (data : Json) (slug : Slug) : Json :=
  .obj [("success", .bool true), ("data", data), ("slug", .str slug.text)]

/-- What an image that is stored was in a form: the content of a part, declared as an image, under a
file name that has its extension. -/
structure Image.SentIn (image : Image) (part : Http.Part) (fileName : String) : Prop where
  named : part.fileName? = some fileName
  declared : part.mediaType?.any isImageType
  extended : extension? fileName = some image.extension
  complete : ∃ bytes, part.content = some bytes ∧ image.content = bytes.toByteArray

theorem Image.ofRequest_ok {request : Http.Request} {maxBytes : Nat} {image : Image}
    (h : ofRequest request maxBytes = .ok image) :
    ∃ part fileName, request.firstPart? maxBytes = some part ∧ image.SentIn part fileName := by
  unfold ofRequest at h
  split at h
  · cases h
  · next part hpart =>
      unfold ofPart at h
      split at h
      · cases h
      · next fileName hname =>
          split at h
          · cases h
          · next hdeclared =>
              split at h
              · next extension b rest hextension hcontent =>
                  cases h
                  have htype : part.mediaType?.any isImageType := by simpa using hdeclared
                  exact ⟨part, fileName, hpart, hname, htype, hextension, b :: rest, hcontent, rfl⟩
              · cases h

def Http.Request.Submits (request : Http.Request) : Prop :=
  request.method = .put ∨ request.method = .post

/-- The endpoint that a request is about, with its names as they are meant. -/
def Http.Request.endpoint? (request : Http.Request) : Option Endpoint :=
  (Endpoint.ofPath? request.path).bind fun raw => raw.decode.toOption

namespace Service

open Site

variable {config : Config} {now : Int} {request : Http.Request} {site site' : Site}
  {faults : Faults}

theorem run_upload (now : Int) (image : Image) (faults : Faults) :
    site.run (upload now image faults) =
      ((Store.saveUpload site.disk now image.extension image.content faults).1.mapError .ofStore,
        { site with
          disk := (Store.saveUpload site.disk now image.extension image.content faults).2 }) :=
  run_changing _ _

theorem run_upload_ok {image : Image} {fileName : String}
    (h : site.run (upload now image faults) = (.ok fileName, site')) :
    site.disk.content? (Layout.upload fileName) = none ∧
      site.disk.Written (Layout.upload fileName) image.content site'.disk ∧
      site'.schemas = site.schemas := by
  have huploading := Store.uploading_saveFrom site.disk image.extension image.content faults
    Store.uploadTries now
  rw [run_upload, Store.saveUpload] at h
  generalize Store.saveFrom _ _ _ _ _ _ = outcome at h huploading
  cases huploading with
  | fails => cases h
  | @done name mid disk' sameFiles _ created =>
      cases h
      have hpath : Layout.upload fileName ≠ [] := List.cons_ne_nil _ _
      refine ⟨(sameFiles _).symm.trans (Disk.content?_eq_none_of_createFile created), ?_, rfl⟩
      intro other
      rw [Disk.content?_createFile hpath created, sameFiles]

theorem atomic_upload (now : Int) (image : Image) (faults : Faults) :
    Atomic faults True (upload now image faults) := by
  refine atomic_changing ?_ _
  intro disk disk' e hsave
  have huploading := Store.uploading_saveFrom disk image.extension image.content faults
    Store.uploadTries now
  rw [show Store.saveFrom disk _ _ _ _ _ = _ from hsave] at huploading
  cases huploading with
  | fails spared => exact spared

/-! ### What an endpoint does -/

/-- What an endpoint saves: the address of the document, and the reply. -/
inductive Saves (request : Http.Request) (before : Disk) (document data : Json) :
    Endpoint → StorageAddress → Http.Response → Prop
  | document {type name : String} {key : ContentKey}
      (named : ContentKey.ofTexts type name = .ok key) :
      Saves request before document data (.document type name) (.ofKey key) (saved data)
  | index {name : String} {blog : ContentName} (named : ContentName.ofText name = .ok blog) :
      Saves request before document data (.entries name) (.index blog) (saved data)
  | entry {name pathSlug : String} {blog : ContentName} {slug : Slug}
      (named : ContentName.ofText name = .ok blog)
      (resolved : Site.entrySlug pathSlug document = .ok slug)
      (free : request.method = .post →
        before.content? (StorageAddress.entry blog slug).path = none) :
      Saves request before document data (.entry name pathSlug) (.entry blog slug)
        (savedEntry data slug)

/-- All that can come of an endpoint. -/
inductive Effect (config : Config) (request : Http.Request) (faults : Faults) (site : Site) :
    Endpoint → Except Failure Http.Response → Site → Prop
  | fails {endpoint : Endpoint} {failure : Failure} {site' : Site}
      (aborted : Aborted faults (request.method = .post) site site') :
      Effect config request faults site endpoint (.error failure) site'
  | reads {endpoint : Endpoint} {reply : Http.Response} {site' : Site}
      (asks : ¬ request.Submits) (loaded : Loaded site site') :
      Effect config request faults site endpoint (.ok reply) site'
  | reloads {type name : String} {key : ContentKey}
      (named : ContentKey.ofTexts type name = .ok key) :
      Effect config request faults site (.reload type name)
        (.ok (reloaded (site.schemas.contains key)))
        { site with schemas := site.schemas.invalidate key }
  | saves {endpoint : Endpoint} {address : StorageAddress} {document data : Json}
      {schema : LoadedSchema} {reply : Http.Response} {mid site' : Site}
      (submits : request.Submits)
      (submitted : request.document config.maxBodyBytes = .ok document)
      (saved : Saves request site.disk document data endpoint address reply)
      (got : site.run (Site.schema address.key faults) = (.ok schema, mid))
      (accepted : schema.compiled.validate document = .accepted data)
      (written : site.disk.Written address.path data.pretty.toUTF8 site'.disk)
      (schemas : site'.schemas = mid.schemas) :
      Effect config request faults site endpoint (.ok reply) site'
  | uploads {image : Image} {fileName : String} {site' : Site}
      (submits : request.Submits)
      (submitted : Image.ofRequest request config.maxBodyBytes = .ok image)
      (free : site.disk.content? (Layout.upload fileName) = none)
      (written : site.disk.Written (Layout.upload fileName) image.content site'.disk)
      (schemas : site'.schemas = site.schemas) :
      Effect config request faults site .upload (.ok (uploaded fileName)) site'

def HasEffect (config : Config) (request : Http.Request) (faults : Faults) (site : Site)
    (endpoint : Endpoint) (action : Action Http.Response) : Prop :=
  Effect config request faults site endpoint (site.run action).1 (site.run action).2

variable {endpoint : Endpoint}

theorem hasEffect_of_loads {action : Action Http.Response} (h : Loads action)
    (asks : ¬ request.Submits) : HasEffect config request faults site endpoint action := by
  have hsite := h site
  unfold HasEffect
  cases hrun : site.run action with
  | mk result site' =>
      rw [hrun] at hsite
      cases result with
      | error failure => exact .fails (hsite.aborted _ _)
      | ok reply => exact .reads asks hsite

theorem hasEffect_check {ε α : Type} {refuse : ε → Failure} {value : Except ε α}
    {f : α → Action Http.Response}
    (h : ∀ a, value = .ok a → HasEffect config request faults site endpoint (f a)) :
    HasEffect config request faults site endpoint (check refuse value >>= f) := by
  unfold HasEffect
  rw [run_bind, run_check]
  cases value with
  | error e => exact .fails ((Loaded.refl site).aborted _ _)
  | ok a => exact h a rfl

theorem hasEffect_of_atomic {α : Type} {action : Action α} {f : α → Http.Response}
    (hatomic : Atomic faults (request.method = .post) action)
    (h : ∀ {a site'}, site.run action = (.ok a, site') →
      Effect config request faults site endpoint (.ok (f a)) site') :
    HasEffect config request faults site endpoint (do let a ← action; pure (f a)) := by
  unfold HasEffect
  rw [run_bind]
  cases hrun : site.run action with
  | mk result site' =>
      cases result with
      | error failure => exact .fails (hatomic hrun)
      | ok a => exact h hrun

theorem atomic_save (key : ContentKey) (document : Json) (faults : Faults) :
    Atomic faults False (save key document faults) := by
  rw [save_eq_storing]
  exact atomic_storing _ _ _ fun data => sparesFiles_writeDocument _ data faults

/-- A document that is saved under a key is the effect of an endpoint that replies with it. -/
theorem effect_save {key : ContentKey} {document data : Json} {reply : Http.Response}
    (submits : request.Submits)
    (submitted : request.document config.maxBodyBytes = .ok document)
    (saved : Saves request site.disk document data endpoint (.ofKey key) reply)
    (h : site.run (save key document faults) = (.ok data, site')) :
    Effect config request faults site endpoint (.ok reply) site' := by
  rw [save_eq_storing] at h
  obtain ⟨hwrite, schema, mid, hschema, haccepted, hschemas⟩ := storing_ok h
  rw [← StorageAddress.key_ofKey key] at hschema
  refine .saves submits submitted saved hschema haccepted ?_ hschemas
  have hpath : Layout.document key ≠ [] := by
    obtain ⟨type, name⟩ := key
    cases type <;> simp [Layout.document, Layout.blog]
  rw [StorageAddress.path_ofKey]
  exact (writeDocument_ok hpath hwrite)

theorem effect_saveEntry {name pathSlug : String} {blog : ContentName} {slug : Slug}
    {document data : Json} (submits : request.Submits)
    (named : ContentName.ofText name = .ok blog)
    (submitted : request.document config.maxBodyBytes = .ok document)
    (h : site.run (saveEntry blog pathSlug document (request.method = .post) faults) =
      (.ok (data, slug), site')) :
    Effect config request faults site (.entry name pathSlug) (.ok (savedEntry data slug))
      site' := by
  obtain ⟨hslug, hchange, schema, mid, hschema, haccepted, hschemas⟩ := saveEntry_ok h
  obtain ⟨hwritten, hfree⟩ := entryChange_ok hchange
  exact .saves submits submitted (.entry named hslug fun hpost => hfree (decide_eq_true hpost))
    hschema haccepted hwritten hschemas

theorem loads_documentAt (path : DiskPath) (faults : Faults) : Loads (documentAt path faults) :=
  loads_bind (loads_reading _) fun _ => loads_pure _

theorem loads_entryDocument (blog : ContentName) (slug : String) (faults : Faults) :
    Loads (entryDocument blog slug faults) := by
  unfold entryDocument
  split
  · exact loads_pure _
  · exact loads_bind (loads_check _ _) fun slug => loads_documentAt _ _

theorem loads_form {key : ContentKey} {document : Action Json} (h : Loads document) :
    Loads (do let schema ← schema key faults; pure (form schema (← document))) :=
  loads_bind (loads_schema key faults) fun _ => loads_bind h fun _ => loads_pure _

theorem asks_of_mem (h : request.method ∈ [Http.Method.get, .head]) : ¬ request.Submits := by
  simp only [List.mem_cons, List.not_mem_nil, or_false] at h
  rcases h with h | h <;> simp [Http.Request.Submits, h]

/-- Every endpoint has an effect, if it has the method of the request. -/
theorem hasEffect_perform (config : Config) (now : Int) (request : Http.Request) (faults : Faults)
    (site : Site) (endpoint : Endpoint) (hmethod : request.method ∈ endpoint.methods) :
    HasEffect config request faults site endpoint
      (perform config now request endpoint faults) := by
  cases endpoint with
  | liveness | readiness => exact hasEffect_of_loads (loads_pure _) (asks_of_mem hmethod)
  | contents =>
      refine hasEffect_of_loads ?_ (asks_of_mem hmethod)
      exact loads_bind (loads_reading _) fun _ => loads_pure _
  | upload =>
      refine hasEffect_check fun image himage => ?_
      have hpost : request.method = .post := by simpa [Endpoint.methods] using hmethod
      have hatomic := (atomic_upload now image faults).mono fun _ => hpost
      refine hasEffect_of_atomic hatomic fun {fileName site'} hrun => ?_
      obtain ⟨hfree, hwritten, hschemas⟩ := run_upload_ok hrun
      exact .uploads (.inr hpost) himage hfree hwritten hschemas
  | document type name =>
      refine hasEffect_check fun key hkey => ?_
      split
      · next hput =>
          refine hasEffect_check fun document hdocument => ?_
          have hatomic := atomic_save key document faults
          refine hasEffect_of_atomic (hatomic.mono False.elim) fun {data site'} hrun => ?_
          exact effect_save (.inl hput) hdocument (.document hkey) hrun
      · next hput =>
          refine hasEffect_of_loads (loads_form (loads_documentAt _ _)) (asks_of_mem ?_)
          simpa [Endpoint.methods, hput] using hmethod
  | reload type name =>
      refine hasEffect_check fun key hkey => ?_
      exact .reloads hkey
  | entries name =>
      refine hasEffect_check fun blog hblog => ?_
      split
      · next hput =>
          refine hasEffect_check fun document hdocument => ?_
          have hatomic := atomic_save ⟨.blog, blog⟩ document faults
          refine hasEffect_of_atomic (hatomic.mono False.elim) fun {data site'} hrun => ?_
          exact effect_save (.inl hput) hdocument (.index hblog) hrun
      · next hput =>
          refine hasEffect_of_loads ?_ (asks_of_mem ?_)
          · exact loads_bind (loads_reading _) fun _ => loads_pure _
          · simpa [Endpoint.methods, hput] using hmethod
  | entry name pathSlug =>
      refine hasEffect_check fun blog hblog => ?_
      split
      · next hsubmits =>
          refine hasEffect_check fun document hdocument => ?_
          have hatomic := atomic_saveEntry blog pathSlug document (request.method = .post) faults
          refine hasEffect_of_atomic (hatomic.mono of_decide_eq_true) fun {saved site'} hrun => ?_
          have hmeant : request.Submits := by simpa [Http.Request.Submits] using hsubmits
          exact effect_saveEntry hmeant hblog hdocument hrun
      · next hasks =>
          refine hasEffect_of_loads (loads_form (loads_entryDocument blog pathSlug faults)) ?_
          simpa [Http.Request.Submits] using hasks

/-! ### Requests -/

/-- The answer to a request whose endpoint has done what it does. -/
def reply : Except Failure Http.Response → Http.Response
  | .ok reply => reply
  | .error failure => failure.response

theorem service_run_eq (action : Action Http.Response) (site : Site) :
    run action site = (reply (site.run action).1, (site.run action).2) := by
  unfold run Site.run reply
  rcases (ExceptT.run action).run site with ⟨_ | _, _⟩ <;> rfl

theorem status_finish (config : Config) (request : Http.Request) (endpoint : Option Endpoint)
    (response : Http.Response) :
    (finish config request endpoint response).status = response.status := by
  by_cases hhead : request.method = .head <;> simp [finish, hhead, Http.Response.headOnly]

/-- What a response says is sent, unless only the head was asked for. -/
theorem carries_finish {response : Http.Response} {body : Json} (h : response.Carries body)
    (hhead : request.method ≠ .head) (config : Config) (endpoint : Option Endpoint) :
    (finish config request endpoint response).Carries body := by
  rw [finish, if_neg hhead]
  exact ⟨h.status, h.contentType, h.body⟩

theorem Failure.status_ne_ok (failure : Failure) : failure.response.status ≠ 200 := by
  cases failure <;> simp [Failure.response, Failure.status, Http.Response.json]

theorem methods_decode {raw endpoint : Endpoint} (h : raw.decode = .ok endpoint) :
    endpoint.methods = raw.methods ∧ endpoint.isShared = raw.isShared := by
  cases raw with
  | document type name | reload type name | entry type name =>
      obtain ⟨_, -, hrest⟩ := bind_eq_ok_iff.mp h
      obtain ⟨_, -, hdone⟩ := bind_eq_ok_iff.mp hrest
      cases hdone
      exact ⟨rfl, rfl⟩
  | entries name =>
      obtain ⟨_, -, hdone⟩ := bind_eq_ok_iff.mp h
      cases hdone
      exact ⟨rfl, rfl⟩
  | liveness | readiness | contents | upload =>
      cases h
      exact ⟨rfl, rfl⟩

theorem options_notMem_methods (endpoint : Endpoint) : Http.Method.options ∉ endpoint.methods := by
  cases endpoint <;> simp [Endpoint.methods]

theorem endpoint?_eq_some_iff :
    request.endpoint? = some endpoint ↔
      ∃ raw, Endpoint.ofPath? request.path = some raw ∧ raw.decode = .ok endpoint := by
  unfold Http.Request.endpoint?
  rw [Option.bind_eq_some_iff]
  refine exists_congr fun raw => and_congr_right fun _ => ?_
  cases raw.decode <;> simp [Except.toOption]

theorem handle_eq (config : Config) (now : Int) (site : Site) (faults : Faults)
    (hendpoint : request.endpoint? = some endpoint) (hmethod : request.method ∈ endpoint.methods) :
    handle config now request site faults =
      (finish config request (some endpoint)
        (reply (site.run (perform config now request endpoint faults)).1),
        (site.run (perform config now request endpoint faults)).2) := by
  obtain ⟨raw, hraw, hdecode⟩ := endpoint?_eq_some_iff.mp hendpoint
  obtain ⟨hmethods, hshared⟩ := methods_decode hdecode
  have hoptions : request.method ≠ .options := by
    intro h
    exact options_notMem_methods endpoint (h ▸ hmethod)
  rw [hmethods] at hmethod
  have hfinish (response : Http.Response) :
      finish config request (some raw) response =
        finish config request (some endpoint) response := by
    simp only [finish, Option.all_some, hshared]
  simp [handle, hraw, isPreflight, hoptions, respond, hmethod, hdecode, service_run_eq, hfinish]

/-- Any other request leaves the site as it is, and if it succeeds it was a question about what may
be sent. -/
theorem handle_idle (config : Config) (now : Int) (site : Site) (faults : Faults)
    (h : ∀ endpoint, request.endpoint? = some endpoint → request.method ∉ endpoint.methods) :
    (handle config now request site faults).2 = site ∧
      ((handle config now request site faults).1.status = 200 → request.method = .options) := by
  by_cases hpreflight : isPreflight request (Endpoint.ofPath? request.path)
  · have hoptions : request.method = .options := by simp_all [isPreflight]
    simp [handle, hpreflight, hoptions]
  · cases hraw : Endpoint.ofPath? request.path with
    | none =>
        rw [hraw] at hpreflight
        simp [handle, hraw, hpreflight, status_finish, Http.Response.bare]
    | some raw =>
        rw [hraw] at hpreflight
        by_cases hallowed : request.method ∈ raw.methods
        · cases hdecode : raw.decode with
          | error label =>
              simp [handle, hraw, hpreflight, respond, hallowed, hdecode, status_finish, illegible,
                Http.Response.text]
          | ok endpoint =>
              have hmethod := h endpoint (endpoint?_eq_some_iff.mpr ⟨raw, hraw, hdecode⟩)
              rw [(methods_decode hdecode).1] at hmethod
              exact absurd hallowed hmethod
        · simp [handle, hraw, hpreflight, respond, hallowed, status_finish, Http.Response.bare]

/-- What a request does to a site: nothing, or what the effect of its endpoint is. -/
theorem handle_effect (config : Config) (now : Int) (request : Http.Request) (site : Site)
    (faults : Faults) :
    (handle config now request site faults).2 = site ∨
      ∃ endpoint result, Effect config request faults site endpoint result
        (handle config now request site faults).2 := by
  by_cases hasked :
      ∃ endpoint, request.endpoint? = some endpoint ∧ request.method ∈ endpoint.methods
  · obtain ⟨endpoint, hendpoint, hmethod⟩ := hasked
    rw [handle_eq config now site faults hendpoint hmethod]
    exact .inr ⟨endpoint, _, hasEffect_perform config now request faults site endpoint hmethod⟩
  · exact .inl (handle_idle config now site faults fun endpoint hendpoint hmethod =>
      hasked ⟨endpoint, hendpoint, hmethod⟩).1

end Service

end ContentForms
