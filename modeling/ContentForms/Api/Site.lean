import ContentForms.Api.Failure
import ContentForms.Schema.Cache
import ContentForms.Store.Entries

/-!
A site: the disk below its content root and the schemas that have been compiled so far. A step of
the service changes the site and gives a value or fails; what it has changed until it fails stays
changed.

A schema is read from the disk when it is first used and from then on taken from the cache, until
it is reloaded. A document is stored only in the form in which its schema accepts it.

What uses the disk takes the faults that its calls meet; none are met unless they are given.
-/

namespace ContentForms

structure Site where
  disk : Disk
  schemas : SchemaCache

def Site.ofDisk (disk : Disk) : Site :=
  ⟨disk, .empty⟩

abbrev Action (α : Type) := ExceptT Failure (StateM Site) α

namespace Site

def check (refuse : ε → Failure) (value : Except ε α) : Action α :=
  match value with
  | .ok value => pure value
  | .error e => throw (refuse e)

def reading (read : Disk → Except StoreError α) : Action α := do
  check .ofStore (read (← get).disk)

def schema (key : ContentKey) (faults : Faults := .none) : Action LoadedSchema := do
  match (← get).schemas.get? key with
  | some schema => pure schema
  | none =>
      match ← reading (Store.schemaText? · key faults) with
      | none => throw (.notFound ("schema not found: " ++ key.text))
      | some text =>
          let schema ← check (.internal ∘ .schema) (LoadedSchema.read text key.fileName)
          modify fun site => { site with schemas := site.schemas.insert key schema }
          pure schema

/-- Drops the compiled schema under a key; gives whether there was one. -/
def reload (key : ContentKey) : Action Bool := do
  let site ← get
  set { site with schemas := site.schemas.invalidate key }
  pure (site.schemas.contains key)

def accept (schema : LoadedSchema) (document : Json) : Action Json :=
  match schema.compiled.validate document with
  | .accepted value => pure value
  | .rejected issues => throw (.rejected (.ofIssues issues))

/-- The document at a path, which is an empty object if there is none. -/
def documentAt (path : DiskPath) (faults : Faults := .none) : Action Json := do
  pure ((← reading (Store.document? · path faults)).getD (.obj []))

/-- Leaves the disk as an operation leaves it; `refuse` says how the errors of the operation
fail. -/
def changing (refuse : StoreError → Failure) (change : Disk → Except StoreError α × Disk) :
    Action α := do
  let (result, disk) := change (← get).disk
  modify fun site => { site with disk }
  check refuse result

/-- Checks a document by the schema of a key and writes it to the place of that key. -/
def save (key : ContentKey) (document : Json) (faults : Faults := .none) : Action Json := do
  let data ← accept (← schema key faults) document
  changing .ofStore (Store.writeDocument · (Layout.document key) data faults)
  pure data

/-- The slug under which an entry is saved: the one that its document has, without blanks around it,
or else that of its path. -/
def entrySlug (pathSlug : String) (document : Json) : Except Failure Slug :=
  let own := (((document.at? ["meta", "slug"]).bind Json.text?).map Text.trim).filter (!·.isEmpty)
  let text := own.getD pathSlug
  if text = newSlug then .error (.invalid "Valid slug is required")
  else (Slug.ofText text).mapError fun e => .invalid e.message

def slugTaken (slug : Slug) : Failure :=
  .conflict ("Entry with slug \"" ++ slug.text ++ "\" already exists")

def refuseEntry (slug : Slug) : StoreError → Failure
  | .alreadyExists _ => slugTaken slug
  | e => .ofStore e

/-- Checks an entry by the schema of its blog and writes it; where it is to be `created`, it may
not be there yet, neither before it is checked nor when it is written. -/
def saveEntry (blog : ContentName) (pathSlug : String) (document : Json) (created : Bool)
    (faults : Faults := .none) : Action (Json × Slug) := do
  let slug ← check id (entrySlug pathSlug document)
  let path := Layout.entry blog slug
  if created then
    if ← reading fun disk => (disk.holds path faults).mapError .disk then throw (slugTaken slug)
  let data ← accept (← schema ⟨.blog, blog⟩ faults) document
  changing (refuseEntry slug) fun disk =>
    if created then Store.createDocument disk path data faults
    else Store.writeDocument disk path data faults
  pure (data, slug)

end Site

end ContentForms
