import ContentForms.Proofs.Normalization
import ContentForms.Proofs.Requests

/-!
What the data directory holds after any requests. A site that starts without stored documents and
with nothing compiled stays sound: its schema files are as they were, every cached schema is the one
in its file, and every stored document is in the form in which the schema of its address accepts
it. Each effect of a request keeps this, and so does a run of requests. That a document is stored
under the right schema does not depend on which address it was saved at: the two addresses that can
share a file have the same schema.
-/

namespace ContentForms

namespace StorageAddress

theorem key_eq_of_path_eq {a b : StorageAddress} (h : a.path = b.path) : a.key = b.key := by
  rcases (path_eq_iff a b).mp h with rfl | hoverlaps
  · rfl
  · cases hoverlaps <;> rfl

theorem path_eq_data_cons (address : StorageAddress) :
    ∃ rest, rest ≠ [] ∧ address.path = "data" :: rest := by
  cases address with
  | page name => exact ⟨_, by simp, path_page name⟩
  | index blog => exact ⟨_, by simp, path_index blog⟩
  | entry blog slug => exact ⟨_, by simp, path_entry blog slug⟩

theorem path_ne_schemaFile (address : StorageAddress) (key : ContentKey) :
    address.path ≠ Layout.schemaFile key := by
  obtain ⟨rest, -, hpath⟩ := path_eq_data_cons address
  simp [hpath, Layout.schemaFile]

end StorageAddress

/-- A content is a document as it is written, and the schema of the key accepts the document in
just this form. -/
def Conforms (disk : Disk) (key : ContentKey) (content : ByteArray) : Prop :=
  ∃ (schema : LoadedSchema) (document : Json), schema.IsAt disk key ∧
    schema.compiled.validate document = .accepted document ∧
    content = document.pretty.toUTF8

namespace Site

/-- What holds of a site whose schema files were those of a disk from the start. -/
structure Sound (start : Disk) (site : Site) : Prop where
  schemaFiles : ∀ key, site.disk.content? (Layout.schemaFile key) =
    start.content? (Layout.schemaFile key)
  cached : ∀ {key schema}, site.schemas.get? key = some schema → schema.IsAt start key
  /-- Below the data directory there are documents and nothing else. -/
  addressed : ∀ {rest content}, rest ≠ [] → site.disk.content? ("data" :: rest) = some content →
    ∃ address : StorageAddress, address.path = "data" :: rest
  conforming : ∀ {address : StorageAddress} {content},
    site.disk.content? address.path = some content → Conforms start address.key content

namespace Sound

variable {start : Disk} {site site' : Site}

theorem ofDisk (hempty : ∀ rest, rest ≠ [] → start.content? ("data" :: rest) = none) :
    Sound start (Site.ofDisk start) where
  schemaFiles _ := rfl
  cached h := by cases h
  addressed hrest h := by
    rw [Site.ofDisk, hempty _ hrest] at h
    cases h
  conforming {address _} h := by
    obtain ⟨rest, hrest, hpath⟩ := address.path_eq_data_cons
    rw [Site.ofDisk, hpath, hempty rest hrest] at h
    cases h

theorem isAt_start (h : Sound start site) {schema : LoadedSchema} {key : ContentKey}
    (hfile : schema.IsAt site.disk key) : schema.IsAt start key :=
  hfile.of_content? (h.schemaFiles key).symm

theorem loaded (h : Sound start site) (hloaded : Loaded site site') : Sound start site' where
  schemaFiles key := by rw [hloaded.disk, h.schemaFiles key]
  cached hget := by
    rcases hloaded.fresh hget with hcached | hfile
    · exact h.cached hcached
    · exact h.isAt_start hfile
  addressed hrest hcontent := h.addressed hrest (hloaded.disk ▸ hcontent)
  conforming hcontent := h.conforming (hloaded.disk ▸ hcontent)

theorem reloaded (h : Sound start site) (key : ContentKey) :
    Sound start { site with schemas := site.schemas.invalidate key } where
  schemaFiles := h.schemaFiles
  cached hget := h.cached (SchemaCache.get?_of_get?_invalidate hget)
  addressed := h.addressed
  conforming := h.conforming

theorem saved (h : Sound start site) {address : StorageAddress} {content : ByteArray}
    (hconforms : Conforms start address.key content)
    (hwritten : site.disk.Written address.path content site'.disk)
    (hschemas : site'.schemas = site.schemas) : Sound start site' where
  schemaFiles key := by
    rw [hwritten, if_neg (address.path_ne_schemaFile key).symm, h.schemaFiles key]
  cached hget := h.cached (hschemas ▸ hget)
  addressed {rest _} hrest hcontent := by
    rw [hwritten] at hcontent
    split at hcontent
    · next hpath => exact ⟨address, hpath.symm⟩
    · exact h.addressed hrest hcontent
  conforming {other _} hcontent := by
    rw [hwritten] at hcontent
    split at hcontent
    · next hpath =>
        cases hcontent
        rwa [StorageAddress.key_eq_of_path_eq hpath]
    · exact h.conforming hcontent

theorem uploaded (h : Sound start site) {fileName : String} {content : ByteArray}
    (hwritten : site.disk.Written (Layout.upload fileName) content site'.disk)
    (hschemas : site'.schemas = site.schemas) : Sound start site' where
  schemaFiles key := by
    rw [hwritten, if_neg (by simp [Layout.schemaFile, Layout.upload, Layout.uploads]),
      h.schemaFiles key]
  cached hget := h.cached (hschemas ▸ hget)
  addressed hrest hcontent := by
    rw [hwritten, if_neg (by simp [Layout.upload, Layout.uploads])] at hcontent
    exact h.addressed hrest hcontent
  conforming {address _} hcontent := by
    obtain ⟨rest, -, hpath⟩ := address.path_eq_data_cons
    rw [hwritten, if_neg (by simp [hpath, Layout.upload, Layout.uploads])] at hcontent
    exact h.conforming hcontent

theorem effect (h : Sound start site) {config : Config} {request : Http.Request}
    {endpoint : Endpoint} {result : Except Failure Http.Response}
    (heffect : Service.Effect config request .none site endpoint result site') :
    Sound start site' := by
  cases heffect with
  | fails aborted => exact h.loaded aborted.loaded_of_none
  | reads _ hloaded => exact h.loaded hloaded
  | reloads => exact h.reloaded _
  | @saves _ address document data schema _ mid _ _ _ _ got accepted written schemas =>
      obtain ⟨hcached, -⟩ := schema_ok got
      have hloaded := loads_schema address.key .none site
      rw [got] at hloaded
      have hmid : Sound start mid := h.loaded hloaded
      have hschema : schema.IsAt start address.key := hmid.cached hcached
      have hconforms : Conforms start address.key data.pretty.toUTF8 := by
        refine ⟨schema, data, hschema, ?_, rfl⟩
        refine CompiledSchema.validate_of_accepted ?_ accepted
        rw [schema.compiled_eq]
        exact SchemaDocument.wellFormed_root hschema.keyed
      exact hmid.saved hconforms (hloaded.disk ▸ written) schemas
  | uploads _ _ _ written schemas => exact h.uploaded written schemas

end Sound

end Site

namespace Service

/-- The site after a run of requests, each with the time at which it arrives. -/
def after (config : Config) (site : Site) (requests : List (Int × Http.Request)) : Site :=
  requests.foldl (fun site (now, request) => (handle config now request site).2) site

theorem sound_handle {start : Disk} {site : Site} (h : site.Sound start) (config : Config)
    (now : Int) (request : Http.Request) : (handle config now request site).2.Sound start := by
  rcases handle_effect config now request site .none with hidle | ⟨endpoint, result, heffect⟩
  · rwa [hidle]
  · exact h.effect heffect

theorem sound_after {start : Disk} {site : Site} (h : site.Sound start) (config : Config)
    (requests : List (Int × Http.Request)) : (after config site requests).Sound start := by
  induction requests generalizing site with
  | nil => exact h
  | cons arrival rest ih => exact ih (sound_handle h config arrival.1 arrival.2)

/-- Whatever is requested of a site that starts without documents, its schema files stay as they
are, its data directory holds documents and nothing else, and each of them is in the form in which
the schema of its address accepts it. -/
theorem stored_documents_conform (config : Config) (disk : Disk)
    (hempty : ∀ rest, rest ≠ [] → disk.content? ("data" :: rest) = none)
    (requests : List (Int × Http.Request)) :
    let disk' := (after config (Site.ofDisk disk) requests).disk
    (∀ key, disk'.content? (Layout.schemaFile key) = disk.content? (Layout.schemaFile key)) ∧
      (∀ rest content, rest ≠ [] → disk'.content? ("data" :: rest) = some content →
        ∃ address : StorageAddress, address.path = "data" :: rest) ∧
      ∀ (address : StorageAddress) (content : ByteArray),
        disk'.content? address.path = some content → Conforms disk' address.key content := by
  have hsound := sound_after (.ofDisk hempty) config requests
  refine ⟨hsound.schemaFiles, fun _ _ => hsound.addressed, ?_⟩
  intro address content hcontent
  obtain ⟨schema, document, hschema, haccepted, hdocument⟩ := hsound.conforming hcontent
  exact ⟨schema, document, hschema.of_content? (hsound.schemaFiles _), haccepted, hdocument⟩

/-! ### A run on a blog of prices -/

def pricesDisk : Disk :=
  Disk.empty.put (Layout.schemaFile ⟨.blog, StorageAddress.news⟩)
    (.file "[\x7bid: price, label: Precio, type: number\x7d]".toUTF8)

def putJson (target body : String) : Http.Request :=
  ⟨.put, target, [("content-type", "application/json")], body.toUTF8⟩

/-- An entry that is saved where the index stands, an index that is refused, and a reload. -/
def pricesRequests : List (Int × Http.Request) :=
  [(0, putJson "/api/cms/blog/news/index" "\x7b\"price\": \" 12 \"\x7d"),
    (1, putJson "/api/cms/blog/news" "\x7b\"price\": true\x7d"),
    (2, ⟨.post, "/api/cms/reload/blog/news", [], .empty⟩)]

theorem stored_documents_conform_prices :
    (∀ rest, rest ≠ [] → pricesDisk.content? ("data" :: rest) = none) ∧
      (after .default (Site.ofDisk pricesDisk) pricesRequests).disk.content?
          (StorageAddress.index StorageAddress.news).path =
        some (Json.obj [("price", .num (.int 12))]).pretty.toUTF8 ∧
      Conforms (after .default (Site.ofDisk pricesDisk) pricesRequests).disk
        ⟨.blog, StorageAddress.news⟩
        (Json.obj [("price", .num (.int 12))]).pretty.toUTF8 := by
  have hempty (rest : List String) (_ : rest ≠ []) :
      pricesDisk.content? ("data" :: rest) = none := by
    rw [pricesDisk, Disk.content?_put_file (by simp [Layout.schemaFile]),
      if_neg (by simp [Layout.schemaFile])]
    rfl
  have hstored : (after .default (Site.ofDisk pricesDisk) pricesRequests).disk.content?
      (StorageAddress.index StorageAddress.news).path =
        some (Json.obj [("price", .num (.int 12))]).pretty.toUTF8 := by
    decide +kernel
  obtain ⟨-, -, hconform⟩ :=
    stored_documents_conform .default pricesDisk hempty pricesRequests
  exact ⟨hempty, hstored, hconform (.index StorageAddress.news) _ hstored⟩

end Service

end ContentForms
