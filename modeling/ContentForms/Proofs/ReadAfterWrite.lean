import ContentForms.Proofs.Conforming
import ContentForms.Proofs.ReadBack
import ContentForms.Proofs.Targets

/-!
Reading what was written. A request that saves a document leaves two things behind: the text of the
document, at the place where requests that read it look for it, and the schema that accepted it, in
the cache. So the requests after it are answered with that schema and with what is read of that
text. For the text to be read, only the nesting of the document has to be within the limit of the
reader; and what is read is the document itself, but for floats that the reader gives as a
neighbour.
-/

namespace ContentForms

theorem Store.document?_of_content? {disk : Disk} {path : DiskPath} {data again : Json}
    (hcontent : disk.content? path = some data.pretty.toUTF8)
    (hread : Json.read? data.pretty = some again) : document? disk path = .ok (some again) := by
  have htext : text? disk path = .ok (some data.pretty) := by
    refine text?_eq_some_iff.mpr ⟨_, hcontent, ?_⟩
    rw [textOf, String.toUTF8_eq_toByteArray, fromUTF8?_toByteArray]
    rfl
  refine bind_eq_ok_iff.mpr ⟨some data.pretty, htext, ?_⟩
  dsimp only
  rw [hread]
  rfl

theorem Http.Request.read?_of_document {request : Http.Request} {maxBytes : Nat} {document : Json}
    (h : request.document maxBytes = .ok document) : ∃ text, Json.read? text = some document := by
  unfold Http.Request.document at h
  split at h
  · cases h
  · split at h
    · cases h
    · split at h
      · next hread =>
          cases h
          obtain ⟨text, -, htext⟩ := Option.bind_eq_some_iff.mp hread
          exact ⟨text, htext⟩
      · cases h

/-- What a site has ready for the requests that read at an address. -/
structure Site.Shows (site : Site) (address : StorageAddress) (schema : LoadedSchema)
    (data : Json) : Prop where
  cached : site.schemas.get? address.key = some schema
  stored : Store.document? site.disk address.path = .ok (some data)

namespace Service

open Site

variable {config : Config} {now : Int} {request : Http.Request} {site site' : Site}

/-- A document is in the body of a request, and the schema that a site has under a key accepts it in
a form. -/
structure Accepts (config : Config) (site : Site) (key : ContentKey) (request : Http.Request)
    (schema : LoadedSchema) (data : Json) : Prop where
  got : (site.run (Site.schema key)).1 = .ok schema
  accepted : ∃ document, request.document config.maxBodyBytes = .ok document ∧
    schema.compiled.validate document = .accepted data

/-! ### What a saving request leaves behind -/

/-- An endpoint that succeeds in saving a document shows it from then on. -/
theorem Effect.shows {endpoint : Endpoint} {result : Except Failure Http.Response}
    (h : Effect config request .none site endpoint result site')
    (hstatus : (reply result).status = 200)
    (hsubmits : request.Submits) (hupload : endpoint ≠ .upload)
    (hreload : ∀ type name, endpoint ≠ .reload type name) :
    ∃ response address schema document data, result = .ok response ∧
      Saves request site.disk document data endpoint address response ∧
      Accepts config site address.key request schema data ∧
      (data.depth ≤ Json.Reader.maxDepth →
        ∃ again, Json.read? data.pretty = some again ∧ site'.Shows address schema again) := by
  cases h with
  | fails => exact absurd hstatus (Failure.status_ne_ok _)
  | reads asks => exact absurd hsubmits asks
  | reloads => exact absurd rfl (hreload _ _)
  | uploads => exact absurd rfl hupload
  | saves _ submitted saved got accepted written schemas =>
      refine ⟨_, _, _, _, _, rfl, saved, ⟨by rw [got], _, submitted, accepted⟩, ?_⟩
      intro hdepth
      obtain ⟨text, htext⟩ := Http.Request.read?_of_document submitted
      obtain ⟨again, hread⟩ :=
        CompiledSchema.exists_read?_pretty_of_accepted htext accepted hdepth
      refine ⟨again, hread, schemas ▸ (schema_ok got).1, Store.document?_of_content? ?_ hread⟩
      rw [written, if_pos rfl]

theorem handle_shows {endpoint : Endpoint} (hendpoint : request.endpoint? = some endpoint)
    (hsubmits : request.Submits) (hupload : endpoint ≠ .upload)
    (hreload : ∀ type name, endpoint ≠ .reload type name)
    (hstatus : (handle config now request site).1.status = 200) :
    ∃ response address schema document data,
      (handle config now request site).1 = finish config request (some endpoint) response ∧
      Saves request site.disk document data endpoint address response ∧
      Accepts config site address.key request schema data ∧
      (data.depth ≤ Json.Reader.maxDepth → ∃ again, Json.read? data.pretty = some again ∧
        (handle config now request site).2.Shows address schema again) := by
  by_cases hmethod : request.method ∈ endpoint.methods
  · rw [handle_eq config now site .none hendpoint hmethod] at hstatus ⊢
    rw [status_finish] at hstatus
    have heffect := hasEffect_perform config now request .none site endpoint hmethod
    obtain ⟨response, address, schema, document, data, hresult, hsaves, haccepts, hshows⟩ :=
      heffect.shows hstatus hsubmits hupload hreload
    rw [hresult]
    exact ⟨response, address, schema, document, data, rfl, hsaves, haccepts, hshows⟩
  · -- Without the method nothing is saved, and only a question about methods succeeds.
    have hidle : ∀ other, request.endpoint? = some other → request.method ∉ other.methods := by
      rintro other hother
      rw [hendpoint] at hother
      cases hother
      exact hmethod
    have hoptions := (handle_idle config now site .none hidle).2 hstatus
    rcases hsubmits with h | h <;> simp [hoptions] at h

/-! ### What is read then -/

theorem run_form {key : ContentKey} {path : DiskPath} {schema : LoadedSchema} {data : Json}
    (hcached : site.schemas.get? key = some schema)
    (hstored : Store.document? site.disk path = .ok (some data)) :
    site.run (do let schema ← Site.schema key; pure (form schema (← documentAt path))) =
      (.ok (form schema data), site) := by
  have hschema : site.run (Site.schema key) = (.ok schema, site) := by
    rw [run_schema, hcached]
  have hdocument : site.run (documentAt path) = (.ok data, site) := by
    rw [documentAt, run_bind, run_reading, hstored]
    rfl
  rw [run_bind, hschema]
  simp only [run_bind, hdocument]
  rfl

theorem run_check_bind {ε α β : Type} {refuse : ε → Failure} {value : Except ε α} {a : α}
    (h : value = .ok a) (f : α → Action β) :
    site.run (check refuse value >>= f) = site.run (f a) := by
  rw [run_bind, run_check, h]
  rfl

theorem ofTexts_page (page : ContentName) :
    ContentKey.ofTexts "page" page.text = .ok ⟨.page, page⟩ := by
  rw [ContentKey.ofTexts, ContentName.ofText_text]
  rfl

theorem perform_page (hget : request.method = .get) {page : ContentName} {schema : LoadedSchema}
    {data : Json} (h : site.Shows (.page page) schema data) :
    site.run (perform config now request (.document "page" page.text)) =
      (.ok (form schema data), site) := by
  refine (run_check_bind (ofTexts_page page) _).trans ?_
  split
  · next hput => simp [hget] at hput
  · exact run_form h.cached h.stored

theorem perform_entry (hget : request.method = .get) {blog : ContentName} {slug : Slug}
    {schema : LoadedSchema} {data : Json} (h : site.Shows (.entry blog slug) schema data) :
    site.run (perform config now request (.entry blog.text slug.text)) =
      (.ok (form schema data), site) := by
  have hdocument : entryDocument blog slug.text = documentAt (Layout.entry blog slug) := by
    rw [entryDocument, if_neg slug.notNew, Slug.ofText_text]
    rfl
  refine (run_check_bind (ContentName.ofText_text blog) _).trans ?_
  split
  · next hsubmits => simp [hget] at hsubmits
  · rw [hdocument]
    exact run_form h.cached h.stored

/-! ### Reading after writing -/

/-- Whenever a target is asked for, the answer is the source of a schema and a document. -/
def Answers (config : Config) (site : Site) (target : String) (schema : LoadedSchema)
    (data : Json) : Prop :=
  ∀ (now : Int) (read : Http.Request), read.method = .get → read.target = target →
    (handle config now read site).1.Carries (formBody schema.source data)

theorem carries_form (hget : request.method = .get) (config : Config) (endpoint : Endpoint)
    (schema : LoadedSchema) (data : Json) :
    (finish config request (some endpoint) (form schema data)).Carries
      (formBody schema.source data) :=
  carries_finish ⟨rfl, rfl, rfl⟩ (by simp [hget]) config _

theorem answers_page {page : ContentName} {schema : LoadedSchema} {data : Json}
    (h : site.Shows (.page page) schema data) :
    Answers config site ("/api/cms/page/" ++ page.text) schema data := by
  intro now read hget htarget
  have hmethod : read.method ∈ (Endpoint.document "page" page.text).methods := by
    simp [Endpoint.methods, hget]
  rw [handle_eq config now site .none (Http.Request.endpoint?_page htarget) hmethod,
    perform_page hget h]
  exact carries_form hget _ _ _ _

theorem answers_entry {blog : ContentName} {slug : Slug} {schema : LoadedSchema} {data : Json}
    (h : site.Shows (.entry blog slug) schema data) :
    Answers config site ("/api/cms/blog/" ++ blog.text ++ "/" ++ slug.text) schema data := by
  intro now read hget htarget
  have hmethod : read.method ∈ (Endpoint.entry blog.text slug.text).methods := by
    simp [Endpoint.methods, hget]
  rw [handle_eq config now site .none (Http.Request.endpoint?_entry htarget) hmethod,
    perform_entry hget h]
  exact carries_form hget _ _ _ _

theorem carries_answer {answer response : Http.Response} {body : Json} {endpoint : Endpoint}
    (h : answer = finish config request (some endpoint) response) (hbody : response.Carries body)
    (hsubmits : request.Submits) : answer.Carries body := by
  rw [h]
  refine carries_finish hbody ?_ config _
  rcases hsubmits with hput | hpost <;> simp [*]

/-- A page or an entry that was saved is read back with the source of the schema that accepted it: a
page at its name, and an entry at the slug of the answer to the saving request, which may be another
than that of the path and is never `new`. What is read is what the printed document is read as,
which is the document of that answer wherever reading undoes printing. -/
theorem read_after_write (config : Config) (now : Int) (write : Http.Request) (site : Site) :
    let answer := handle config now write site
    answer.1.status = 200 →
      (∀ name, write.method = .put → write.endpoint? = some (.document "page" name) →
        ∃ page schema data, ContentName.ofText name = .ok page ∧
          Accepts config site ⟨.page, page⟩ write schema data ∧
          answer.1.Carries (savedBody data) ∧
          (data.depth ≤ Json.Reader.maxDepth → ∃ again, Json.read? data.pretty = some again ∧
            Answers config answer.2 ("/api/cms/page/" ++ name) schema again)) ∧
      ∀ name pathSlug, write.Submits → write.endpoint? = some (.entry name pathSlug) →
        ∃ blog slug schema data, ContentName.ofText name = .ok blog ∧ slug.text ≠ "new" ∧
          Accepts config site ⟨.blog, blog⟩ write schema data ∧
          answer.1.Carries (savedEntryBody data slug) ∧
          (data.depth ≤ Json.Reader.maxDepth → ∃ again, Json.read? data.pretty = some again ∧
            Answers config answer.2 ("/api/cms/blog/" ++ name ++ "/" ++ slug.text) schema
              again) := by
  intro answer hstatus
  constructor
  · intro name hput hendpoint
    obtain ⟨response, address, schema, document, data, hanswer, hsaves, haccepts, hshows⟩ :=
      handle_shows hendpoint (.inl hput) (by simp) (by simp) hstatus
    cases hsaves with
    | @document _ _ key named =>
        -- The type in the path makes the address that of a page.
        obtain ⟨type, page⟩ := key
        obtain ⟨htype, rfl⟩ := ContentKey.texts_of_ofTexts named
        cases type with
        | blog => simp [ContentType.text] at htype
        | page =>
            have hcarries := carries_answer hanswer ⟨rfl, rfl, rfl⟩ (.inl hput)
            refine ⟨page, schema, data, ContentName.ofText_text page, haccepts, hcarries, ?_⟩
            intro hdepth
            obtain ⟨again, hread, hshown⟩ := hshows hdepth
            exact ⟨again, hread, answers_page hshown⟩
  · intro name pathSlug hsubmits hendpoint
    obtain ⟨response, address, schema, document, data, hanswer, hsaves, haccepts, hshows⟩ :=
      handle_shows hendpoint hsubmits (by simp) (by simp) hstatus
    cases hsaves with
    | @entry _ _ blog slug named =>
        -- The slug is the one that the document was stored under, whatever the path said.
        cases ContentName.text_of_ofText named
        have hcarries := carries_answer hanswer ⟨rfl, rfl, rfl⟩ hsubmits
        refine ⟨blog, slug, schema, data, named, slug.notNew, haccepts, hcarries, ?_⟩
        intro hdepth
        obtain ⟨again, hread, hshown⟩ := hshows hdepth
        exact ⟨again, hread, answers_entry hshown⟩

/-! ### A page and an entry of prices -/

def shopDisk : Disk :=
  pricesDisk.put (Layout.schemaFile ⟨.page, StorageAddress.news⟩)
    (.file "[\x7bid: price, label: Precio, type: number\x7d]".toUTF8)

def priceSource (kind : String) : Json :=
  .arr [.obj [("id", .str "price"), ("label", .str "Precio"), ("type", .str kind)]]

theorem Accepts.source {key : ContentKey} {schema : LoadedSchema} {data source : Json}
    (h : Accepts config site key request schema data)
    (hsource : (site.run (Site.schema key)).1.toOption.map LoadedSchema.source = some source) :
    schema.source = source := by
  rw [h.got] at hsource
  exact Option.some.inj hsource

/-- The form in which the document in the body of a request is accepted. -/
def acceptedForm? (config : Config) (site : Site) (key : ContentKey) (request : Http.Request) :
    Option Json :=
  match (site.run (Site.schema key)).1, request.document config.maxBodyBytes with
  | .ok schema, .ok document =>
      match schema.compiled.validate document with
      | .accepted data => some data
      | .rejected _ => none
  | _, _ => none

theorem Accepts.acceptedForm? {key : ContentKey} {schema : LoadedSchema} {data : Json}
    (h : Accepts config site key request schema data) :
    acceptedForm? config site key request = some data := by
  obtain ⟨document, hdocument, haccepted⟩ := h.accepted
  rw [Service.acceptedForm?, h.got, hdocument]
  dsimp only
  rw [haccepted]

/-- A page, and an entry that is submitted at `new` and has its slug in its document. -/
theorem read_after_write_shop :
    let page := putJson "/api/cms/page/news" "\x7b\"price\": 3\x7d"
    let entry := putJson "/api/cms/blog/news/new"
      "\x7b\"meta\": \x7b\"slug\": \" hola \"\x7d, \"price\": \" 12 \"\x7d"
    let storedPage := Json.obj [("price", .num (.int 3))]
    let storedEntry :=
      Json.obj [("meta", .obj [("slug", .str " hola ")]), ("price", .num (.int 12))]
    let site := Site.ofDisk shopDisk
    (handle .default 0 page site).1.status = 200 ∧ (handle .default 0 entry site).1.status = 200 ∧
      (∃ schema, schema.source = priceSource "number" ∧
        Answers .default (handle .default 0 page site).2 "/api/cms/page/news" schema storedPage) ∧
      ∃ slug schema, slug.text ≠ "new" ∧ schema.source = priceSource "number" ∧
        (handle .default 0 entry site).1.Carries (savedEntryBody storedEntry slug) ∧
        Answers .default (handle .default 0 entry site).2 ("/api/cms/blog/news/" ++ slug.text)
          schema storedEntry := by
  intro page entry storedPage storedEntry site
  have hpage : (handle .default 0 page site).1.status = 200 := by decide +kernel
  have hentry : (handle .default 0 entry site).1.status = 200 := by decide +kernel
  refine ⟨hpage, hentry, ?_, ?_⟩
  · have hendpoint : page.endpoint? = some (.document "page" "news") := by decide +kernel
    obtain ⟨name, schema, data, hname, haccepts, -, hanswers⟩ :=
      (read_after_write .default 0 page site hpage).1 "news" rfl hendpoint
    cases (ContentName.ofText_text StorageAddress.news).symm.trans hname
    have hform : acceptedForm? .default site ⟨.page, StorageAddress.news⟩ page =
        some storedPage := by
      decide +kernel
    cases haccepts.acceptedForm?.symm.trans hform
    obtain ⟨again, hread, hagain⟩ := hanswers (by decide)
    have hsame : Json.read? storedPage.pretty = some storedPage := by decide +kernel
    cases hsame.symm.trans hread
    exact ⟨schema, haccepts.source (by decide +kernel), hagain⟩
  · have hendpoint : entry.endpoint? = some (.entry "news" "new") := by decide +kernel
    obtain ⟨name, slug, schema, data, hname, hslug, haccepts, hanswer, hanswers⟩ :=
      (read_after_write .default 0 entry site hentry).2 "news" "new" (.inl rfl) hendpoint
    cases (ContentName.ofText_text StorageAddress.news).symm.trans hname
    have hform : acceptedForm? .default site ⟨.blog, StorageAddress.news⟩ entry =
        some storedEntry := by
      decide +kernel
    cases haccepts.acceptedForm?.symm.trans hform
    obtain ⟨again, hread, hagain⟩ := hanswers (by decide)
    have hsame : Json.read? storedEntry.pretty = some storedEntry := by decide +kernel
    cases hsame.symm.trans hread
    exact ⟨slug, schema, hslug, haccepts.source (by decide +kernel), hanswer, hagain⟩

end Service

end ContentForms
