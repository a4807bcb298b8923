import ContentForms.Api.Site
import ContentForms.Proofs.Schemas
import ContentForms.Proofs.Writes

/-!
Actions on a site, run from a given one. An action reads before it writes, so it is a part that only
reads followed by one change of the disk. Reading can load schemas into the cache and does nothing
else: `Loaded` says so and is kept by sequence. `Aborted` says what an action leaves that fails, of
its own or because a call to the file system fails; without such a call it has loaded schemas at
most. What the change does is said by the inversion lemmas of the saving actions, with all the
conditions under which they get that far.
-/

namespace ContentForms

namespace Site

variable {α β : Type} {site site' : Site} {faults : Faults}

def run (site : Site) (action : Action α) : Except Failure α × Site :=
  (ExceptT.run action).run site

/-! ### Sequences -/

@[simp] theorem run_pure (a : α) : site.run (pure a) = (.ok a, site) := rfl

@[simp] theorem run_throw (e : Failure) : site.run (throw e : Action α) = (.error e, site) := rfl

@[simp] theorem run_get : site.run (get : Action Site) = (.ok site, site) := rfl

theorem run_bind (x : Action α) (f : α → Action β) :
    site.run (x >>= f) = match site.run x with
      | (.ok a, mid) => mid.run (f a)
      | (.error e, mid) => (.error e, mid) := by
  unfold run
  rw [ExceptT.run_bind, StateT.run_bind]
  rcases (ExceptT.run x).run site with ⟨_ | _, _⟩ <;> rfl

theorem run_bind_ok {x : Action α} {f : α → Action β} {b : β}
    (h : site.run (x >>= f) = (.ok b, site')) :
    ∃ a mid, site.run x = (.ok a, mid) ∧ mid.run (f a) = (.ok b, site') := by
  rw [run_bind] at h
  split at h
  · next a mid hx => exact ⟨a, mid, hx, h⟩
  · cases h

theorem run_bind_error {x : Action α} {f : α → Action β} {e : Failure}
    (h : site.run (x >>= f) = (.error e, site')) :
    site.run x = (.error e, site') ∨
      ∃ a mid, site.run x = (.ok a, mid) ∧ mid.run (f a) = (.error e, site') := by
  rw [run_bind] at h
  split at h
  · next a mid hx => exact .inr ⟨a, mid, hx, h⟩
  · next mid hx =>
      cases h
      exact .inl hx

/-! ### Reading -/

/-- What reading does to a site: schemas may enter the cache, each as its file has it. -/
structure Loaded (site site' : Site) : Prop where
  disk : site'.disk = site.disk
  kept : ∀ {key schema}, site.schemas.get? key = some schema →
    site'.schemas.get? key = some schema
  fresh : ∀ {key schema}, site'.schemas.get? key = some schema →
    site.schemas.get? key = some schema ∨ schema.IsAt site.disk key

theorem Loaded.refl (site : Site) : Loaded site site :=
  ⟨rfl, id, .inl⟩

theorem Loaded.trans {first mid last : Site} (h : Loaded first mid) (h' : Loaded mid last) :
    Loaded first last where
  disk := h'.disk.trans h.disk
  kept hget := h'.kept (h.kept hget)
  fresh hget := by
    rcases h'.fresh hget with hmid | hfile
    · exact h.fresh hmid
    · exact .inr (h.disk ▸ hfile)

def Loads (action : Action α) : Prop :=
  ∀ site : Site, Loaded site (site.run action).2

theorem loads_pure (a : α) : Loads (pure a) :=
  Loaded.refl

theorem loads_bind {x : Action α} {f : α → Action β} (hx : Loads x) (hf : ∀ a, Loads (f a)) :
    Loads (x >>= f) := by
  intro site
  have hsite := hx site
  rw [run_bind]
  split
  · next a mid hrun =>
      rw [hrun] at hsite
      exact hsite.trans (hf a mid)
  · next e mid hrun => rwa [hrun] at hsite

theorem run_check (refuse : ε → Failure) (value : Except ε α) :
    site.run (check refuse value) = (value.mapError refuse, site) := by
  cases value <;> rfl

theorem loads_check (refuse : ε → Failure) (value : Except ε α) : Loads (check refuse value) := by
  intro site
  rw [run_check]
  exact .refl site

theorem run_reading (read : Disk → Except StoreError α) :
    site.run (reading read) = ((read site.disk).mapError .ofStore, site) := by
  rw [reading, run_bind, run_get]
  exact run_check _ _

theorem loads_reading (read : Disk → Except StoreError α) : Loads (reading read) := by
  intro site
  rw [run_reading]
  exact .refl site

theorem run_schema (site : Site) (key : ContentKey) (faults : Faults) :
    site.run (schema key faults) = match site.schemas.get? key with
      | some schema => (.ok schema, site)
      | none =>
          match Store.schemaText? site.disk key faults with
          | .error e => (.error (.ofStore e), site)
          | .ok none => (.error (.notFound ("schema not found: " ++ key.text)), site)
          | .ok (some text) =>
              match LoadedSchema.read text key.fileName with
              | .error e => (.error (.internal (.schema e)), site)
              | .ok schema =>
                  (.ok schema, { site with schemas := site.schemas.insert key schema }) := by
  unfold schema
  rw [run_bind, run_get]
  dsimp only
  cases site.schemas.get? key with
  | some schema => rfl
  | none =>
      simp only [run_bind, run_reading]
      cases Store.schemaText? site.disk key faults with
      | error e => rfl
      | ok found =>
          cases found with
          | none => rfl
          | some text =>
              show site.run (check _ (LoadedSchema.read text key.fileName) >>= _) = _
              rw [run_bind, run_check]
              dsimp only
              cases LoadedSchema.read text key.fileName <;> rfl

/-- A schema that is got is in the cache from then on, and was there or comes from its file. -/
theorem schema_ok {key : ContentKey} {loaded : LoadedSchema}
    (h : site.run (schema key faults) = (.ok loaded, site')) :
    site'.schemas.get? key = some loaded ∧
      (site.schemas.get? key = some loaded ∨ loaded.IsAt site.disk key) := by
  rw [run_schema] at h
  split at h
  · next hcached =>
      cases h
      exact ⟨hcached, .inl hcached⟩
  · split at h
    · cases h
    · cases h
    · next text htext =>
        split at h
        · cases h
        · next hread =>
            cases h
            exact ⟨SchemaCache.get?_insert_self _ _ _,
              .inr ⟨text, Store.text?_of_faults htext, hread⟩⟩

theorem loaded_insert {key : ContentKey} {schema : LoadedSchema}
    (hnew : site.schemas.get? key = none) (hfile : schema.IsAt site.disk key) :
    Loaded site { site with schemas := site.schemas.insert key schema } where
  disk := rfl
  kept {other _} hget := by
    have hother : other ≠ key := by
      rintro rfl
      rw [hnew] at hget
      cases hget
    exact (SchemaCache.get?_insert_of_ne _ hother _).trans hget
  fresh {other _} hget := by
    by_cases hother : other = key
    · subst hother
      rw [SchemaCache.get?_insert_self] at hget
      cases hget
      exact .inr hfile
    · exact .inl ((SchemaCache.get?_insert_of_ne _ hother _).symm.trans hget)

theorem loads_schema (key : ContentKey) (faults : Faults) : Loads (schema key faults) := by
  intro site
  rw [run_schema]
  split
  · exact .refl site
  · next hnew =>
      split
      · exact .refl site
      · exact .refl site
      · next text htext =>
          split
          · exact .refl site
          · next hread => exact loaded_insert hnew ⟨text, Store.text?_of_faults htext, hread⟩

theorem run_accept (schema : LoadedSchema) (document : Json) :
    site.run (accept schema document) = (match schema.compiled.validate document with
      | .accepted value => .ok value
      | .rejected issues => .error (.rejected (.ofIssues issues)), site) := by
  unfold accept
  cases schema.compiled.validate document <;> rfl

theorem loads_accept (schema : LoadedSchema) (document : Json) :
    Loads (accept schema document) := by
  intro site
  rw [run_accept]
  exact .refl site

theorem run_accept_ok {schema : LoadedSchema} {document value : Json}
    (h : site.run (accept schema document) = (.ok value, site')) :
    schema.compiled.validate document = .accepted value ∧ site' = site := by
  rw [run_accept] at h
  split at h
  · next hvalidate =>
      cases h
      exact ⟨hvalidate, rfl⟩
  · cases h

/-! ### Changing -/

theorem run_changing (refuse : StoreError → Failure) (change : Disk → Except StoreError α × Disk) :
    site.run (changing refuse change) =
      ((change site.disk).1.mapError refuse, { site with disk := (change site.disk).2 }) := by
  rw [changing, run_bind, run_get]
  dsimp only
  rcases change site.disk with ⟨_ | _, disk⟩ <;> rfl

/-- What an action leaves of a site when it fails, if it creates files or not. -/
structure Aborted (faults : Faults) (creates : Prop) (site site' : Site) : Prop where
  loaded : Loaded site { site' with disk := site.disk }
  spared : site.disk.Spared faults creates site'.disk

theorem Aborted.loaded_of_none {creates : Prop} (h : Aborted .none creates site site') :
    Loaded site site' := by
  have hloaded := h.loaded
  rwa [← h.spared.of_none] at hloaded

theorem Loaded.aborted (h : Loaded site site') (faults : Faults) (creates : Prop) :
    Aborted faults creates site site' where
  loaded := by
    rw [← h.disk]
    exact h
  spared := by
    rw [h.disk]
    exact .refl _ _ _

theorem Aborted.mono {creates creates' : Prop} (h : Aborted faults creates site site')
    (himp : creates → creates') : Aborted faults creates' site site' :=
  ⟨h.loaded, h.spared.mono himp⟩

theorem Aborted.after {creates : Prop} {mid : Site} (h : Aborted faults creates mid site')
    (hmid : Loaded site mid) : Aborted faults creates site site' where
  loaded := by
    rw [← hmid.disk]
    exact hmid.trans h.loaded
  spared := hmid.disk ▸ h.spared

/-- An action that can fail half way leaves no more than it may. -/
def Atomic (faults : Faults) (creates : Prop) (action : Action α) : Prop :=
  ∀ ⦃site site' : Site⦄ ⦃e : Failure⦄, site.run action = (.error e, site') →
    Aborted faults creates site site'

variable {creates : Prop}

theorem Loads.atomic {action : Action α} (h : Loads action) : Atomic faults creates action := by
  intro site site' e hrun
  have hsite := h site
  rw [hrun] at hsite
  exact hsite.aborted _ _

theorem Atomic.mono {creates' : Prop} {action : Action α} (h : Atomic faults creates action)
    (himp : creates → creates') : Atomic faults creates' action :=
  fun _ _ _ hrun => (h hrun).mono himp

theorem atomic_bind {x : Action α} {f : α → Action β} (hx : Loads x)
    (hf : ∀ a, Atomic faults creates (f a)) : Atomic faults creates (x >>= f) := by
  intro site site' e hrun
  rcases run_bind_error hrun with hrun | ⟨a, mid, hrun, hrest⟩
  · exact hx.atomic hrun
  · have hsite := hx site
    rw [hrun] at hsite
    exact (hf a hrest).after hsite

theorem atomic_bind_pure {x : Action α} (hx : Atomic faults creates x) (f : α → β) :
    Atomic faults creates (do let a ← x; pure (f a)) := by
  intro site site' e hrun
  rcases run_bind_error hrun with hrun | ⟨a, mid, -, hrest⟩
  · exact hx hrun
  · cases hrest

def SparesFiles (faults : Faults) (creates : Prop)
    (change : Disk → Except StoreError α × Disk) : Prop :=
  ∀ ⦃disk disk' : Disk⦄ ⦃e : StoreError⦄, change disk = (.error e, disk') →
    disk.Spared faults creates disk'

theorem atomic_changing {change : Disk → Except StoreError α × Disk}
    (h : SparesFiles faults creates change) (refuse : StoreError → Failure) :
    Atomic faults creates (changing refuse change) := by
  intro site site' e hrun
  rw [run_changing] at hrun
  rcases hchange : change site.disk with ⟨cause | value, disk⟩
  · rw [hchange] at hrun
    cases hrun
    exact ⟨.refl site, h hchange⟩
  · rw [hchange] at hrun
    cases hrun

theorem sparesFiles_writeDocument (path : DiskPath) (document : Json) (faults : Faults) :
    SparesFiles faults False fun disk => Store.writeDocument disk path document faults := by
  intro disk disk' e hwrite
  have hwriting := Store.writing_writeContent disk path document.pretty.toUTF8 faults
  rw [show Store.writeContent disk path _ faults = _ from hwrite] at hwriting
  cases hwriting with
  | fails spared => exact spared

theorem writeDocument_ok {path : DiskPath} (hpath : path ≠ []) {document : Json}
    {disk disk' : Disk} (h : Store.writeDocument disk path document faults = (.ok (), disk')) :
    disk.Written path document.pretty.toUTF8 disk' := by
  have hwriting := Store.writing_writeContent disk path document.pretty.toUTF8 faults
  rw [show Store.writeContent disk path _ faults = _ from h] at hwriting
  cases hwriting with
  | done written => exact Disk.content?_writeFile hpath written

theorem sparesFiles_createDocument {path : DiskPath} (hpath : path ≠ []) (document : Json)
    (faults : Faults) :
    SparesFiles faults True fun disk => Store.createDocument disk path document faults := by
  intro disk disk' e hcreate
  have hcreating := Store.creating_createContent hpath disk document.pretty.toUTF8 faults
  rw [show Store.createContent disk path _ faults = _ from hcreate] at hcreating
  cases hcreating with
  | fails spared => exact spared
  | taken sameFiles undisturbed => exact ⟨undisturbed, .inl sameFiles⟩

/-! ### Saving a document -/

/-- Checks a document by the schema of a key and makes the change that its accepted form asks
for. -/
def storing (key : ContentKey) (document : Json) (faults : Faults) (refuse : StoreError → Failure)
    (change : Json → Disk → Except StoreError Unit × Disk) : Action Json := do
  let data ← accept (← schema key faults) document
  changing refuse (change data)
  pure data

theorem save_eq_storing (key : ContentKey) (document : Json) (faults : Faults) :
    save key document faults = storing key document faults .ofStore fun data disk =>
      Store.writeDocument disk (Layout.document key) data faults := rfl

theorem run_storing (site : Site) (key : ContentKey) (document : Json) (faults : Faults)
    (refuse : StoreError → Failure) (change : Json → Disk → Except StoreError Unit × Disk) :
    site.run (storing key document faults refuse change) =
      match site.run (schema key faults) with
      | (.error e, mid) => (.error e, mid)
      | (.ok loaded, mid) =>
          match loaded.compiled.validate document with
          | .rejected issues => (.error (.rejected (.ofIssues issues)), mid)
          | .accepted data =>
              (((change data mid.disk).1.mapError refuse).map fun _ => data,
                { mid with disk := (change data mid.disk).2 }) := by
  rw [storing, run_bind]
  rcases site.run (schema key faults) with ⟨_ | loaded, mid⟩
  · rfl
  · dsimp only
    rw [run_bind, run_accept]
    cases loaded.compiled.validate document with
    | rejected issues => rfl
    | accepted data =>
        dsimp only
        rw [run_bind, run_changing]
        cases (change data mid.disk).1 <;> rfl

/-- A document that is not stored leaves the files that the change leaves. -/
theorem atomic_storing (key : ContentKey) (document : Json) (refuse : StoreError → Failure)
    {change : Json → Disk → Except StoreError Unit × Disk}
    (h : ∀ data, SparesFiles faults creates (change data)) :
    Atomic faults creates (storing key document faults refuse change) := by
  refine atomic_bind (loads_schema _ _) ?_
  intro loaded
  refine atomic_bind (loads_accept loaded document) ?_
  intro data
  exact atomic_bind_pure (atomic_changing (h data) _) fun _ => data

/-- A stored document: the schema that accepted it and the one change of the disk. -/
theorem storing_ok {key : ContentKey} {document data : Json} {refuse : StoreError → Failure}
    {change : Json → Disk → Except StoreError Unit × Disk}
    (h : site.run (storing key document faults refuse change) = (.ok data, site')) :
    change data site.disk = (.ok (), site'.disk) ∧
      ∃ loaded mid, site.run (schema key faults) = (.ok loaded, mid) ∧
        loaded.compiled.validate document = .accepted data ∧ site'.schemas = mid.schemas := by
  obtain ⟨loaded, mid, hschema, hrest⟩ := run_bind_ok h
  obtain ⟨value, _, haccept, hwrite⟩ := run_bind_ok hrest
  obtain ⟨hvalidate, rfl⟩ := run_accept_ok haccept
  obtain ⟨_, _, hchange, hdone⟩ := run_bind_ok hwrite
  rw [run_pure] at hdone
  cases hdone
  -- The change is made on the disk as it was before the schema was loaded.
  have hloaded := loads_schema key faults site
  rw [hschema] at hloaded
  rw [run_changing, hloaded.disk] at hchange
  rcases hdisk : change data site.disk with ⟨_ | _, disk⟩
  · rw [hdisk] at hchange
    cases hchange
  · rw [hdisk] at hchange
    cases hchange
    exact ⟨rfl, loaded, _, hschema, hvalidate, rfl⟩

/-! ### Saving an entry -/

def entryChange (blog : ContentName) (slug : Slug) (created : Bool) (faults : Faults) (data : Json)
    (disk : Disk) : Except StoreError Unit × Disk :=
  if created then Store.createDocument disk (Layout.entry blog slug) data faults
  else Store.writeDocument disk (Layout.entry blog slug) data faults

theorem entry_ne_nil (blog : ContentName) (slug : Slug) : Layout.entry blog slug ≠ [] := by
  simp [Layout.entry]

theorem sparesFiles_entryChange (blog : ContentName) (slug : Slug) (created : Bool)
    (faults : Faults) (data : Json) :
    SparesFiles faults (created = true) (entryChange blog slug created faults data) := by
  intro disk disk' e hchange
  cases created with
  | true =>
      exact (sparesFiles_createDocument (entry_ne_nil blog slug) data faults hchange).mono
        fun _ => rfl
  | false => exact (sparesFiles_writeDocument _ data faults hchange).mono False.elim

/-- The part of `saveEntry` that follows when the slug is known to be free, or need not be. -/
def storeEntry (blog : ContentName) (slug : Slug) (document : Json) (created : Bool)
    (faults : Faults) : Action (Json × Slug) := do
  let data ← accept (← schema ⟨.blog, blog⟩ faults) document
  changing (refuseEntry slug) (entryChange blog slug created faults data)
  pure (data, slug)

theorem storeEntry_eq_storing (blog : ContentName) (slug : Slug) (document : Json)
    (created : Bool) (faults : Faults) :
    storeEntry blog slug document created faults = (do
      let data ← storing ⟨.blog, blog⟩ document faults (refuseEntry slug)
        (entryChange blog slug created faults)
      pure (data, slug)) := by
  simp only [storeEntry, storing, bind_assoc, pure_bind]

theorem run_saveEntry (blog : ContentName) (pathSlug : String) (document : Json) (created : Bool)
    (faults : Faults) :
    site.run (saveEntry blog pathSlug document created faults) =
      match entrySlug pathSlug document with
      | .error e => (.error e, site)
      | .ok slug =>
          if created then
            match site.disk.holds (Layout.entry blog slug) faults with
            | .error e => (.error (.ofStore (.disk e)), site)
            | .ok true => (.error (slugTaken slug), site)
            | .ok false => site.run (storeEntry blog slug document created faults)
          else site.run (storeEntry blog slug document created faults) := by
  unfold saveEntry
  rw [run_bind, run_check]
  cases entrySlug pathSlug document with
  | error e => rfl
  | ok slug =>
      cases created with
      | false => rfl
      | true =>
          -- Whether the slug is taken is read from the disk, and the site stays for what follows.
          show site.run (reading _ >>= _) = _
          rw [run_bind, run_reading]
          simp only [if_true]
          cases site.disk.holds (Layout.entry blog slug) faults with
          | error e => rfl
          | ok taken => cases taken <;> rfl

theorem atomic_storeEntry (blog : ContentName) (slug : Slug) (document : Json) (created : Bool)
    (faults : Faults) :
    Atomic faults (created = true) (storeEntry blog slug document created faults) := by
  rw [storeEntry_eq_storing]
  refine atomic_bind_pure (atomic_storing _ _ _ ?_) fun data => (data, slug)
  exact sparesFiles_entryChange blog slug created faults

theorem atomic_saveEntry (blog : ContentName) (pathSlug : String) (document : Json)
    (created : Bool) (faults : Faults) :
    Atomic faults (created = true) (saveEntry blog pathSlug document created faults) := by
  intro site site' e hrun
  have hidle : Aborted faults (created = true) site site := (Loaded.refl site).aborted _ _
  rw [run_saveEntry] at hrun
  split at hrun
  · cases hrun
    exact hidle
  · split at hrun
    · split at hrun
      · cases hrun
        exact hidle
      · cases hrun
        exact hidle
      · exact atomic_storeEntry _ _ _ _ _ hrun
    · exact atomic_storeEntry _ _ _ _ _ hrun

theorem storeEntry_ok {blog : ContentName} {slug slug' : Slug} {document data : Json}
    {created : Bool}
    (h : site.run (storeEntry blog slug document created faults) = (.ok (data, slug'), site')) :
    slug' = slug ∧ entryChange blog slug created faults data site.disk = (.ok (), site'.disk) ∧
      ∃ loaded mid, site.run (schema ⟨.blog, blog⟩ faults) = (.ok loaded, mid) ∧
        loaded.compiled.validate document = .accepted data ∧ site'.schemas = mid.schemas := by
  rw [storeEntry_eq_storing] at h
  obtain ⟨value, mid, hstored, hdone⟩ := run_bind_ok h
  rw [run_pure] at hdone
  cases hdone
  exact ⟨rfl, storing_ok hstored⟩

/-- A saved entry: its slug, that it was free if it had to be, the schema that accepted it, and the
one change of the disk. -/
theorem saveEntry_ok {blog : ContentName} {pathSlug : String} {document data : Json} {slug : Slug}
    {created : Bool}
    (h : site.run (saveEntry blog pathSlug document created faults) = (.ok (data, slug), site')) :
    entrySlug pathSlug document = .ok slug ∧
      entryChange blog slug created faults data site.disk = (.ok (), site'.disk) ∧
      ∃ loaded mid, site.run (schema ⟨.blog, blog⟩ faults) = (.ok loaded, mid) ∧
        loaded.compiled.validate document = .accepted data ∧ site'.schemas = mid.schemas := by
  rw [run_saveEntry] at h
  split at h
  · cases h
  · next own hown =>
      split at h
      · split at h
        · cases h
        · cases h
        · obtain ⟨rfl, hstored⟩ := storeEntry_ok h
          exact ⟨hown, hstored⟩
      · obtain ⟨rfl, hstored⟩ := storeEntry_ok h
        exact ⟨hown, hstored⟩

/-- The change that saves an entry writes its document, and creates it where it has to. -/
theorem entryChange_ok {blog : ContentName} {slug : Slug} {created : Bool} {data : Json}
    {disk disk' : Disk} (h : entryChange blog slug created faults data disk = (.ok (), disk')) :
    disk.Written (Layout.entry blog slug) data.pretty.toUTF8 disk' ∧
      (created → disk.content? (Layout.entry blog slug) = none) := by
  have hpath := entry_ne_nil blog slug
  cases created with
  | true =>
      have hcreating := Store.creating_createContent hpath disk data.pretty.toUTF8 faults
      rw [show Store.createContent disk _ _ faults = _ from h] at hcreating
      cases hcreating with
      | done hdone =>
          exact ⟨Disk.content?_createFile hpath hdone,
            fun _ => Disk.content?_eq_none_of_createFile hdone⟩
  | false => exact ⟨writeDocument_ok hpath h, fun hcreated => absurd hcreated (by decide)⟩

/-- An entry that is saved has its document, and no other file changes. -/
theorem content?_saveEntry (site : Site) (blog : ContentName) (pathSlug : String)
    (document : Json) (created : Bool) (path : DiskPath) :
    (site.run (saveEntry blog pathSlug document created)).2.disk.content? path =
      match (site.run (saveEntry blog pathSlug document created)).1 with
      | .ok (data, slug) =>
          if path = Layout.entry blog slug then some data.pretty.toUTF8
          else site.disk.content? path
      | .error _ => site.disk.content? path := by
  rcases hrun : site.run (saveEntry blog pathSlug document created) with ⟨_ | ⟨data, slug⟩, site'⟩
  · show site'.disk.content? path = site.disk.content? path
    rw [(atomic_saveEntry blog pathSlug document created .none hrun).loaded_of_none.disk]
  · obtain ⟨-, hchange, -⟩ := saveEntry_ok hrun
    exact (entryChange_ok hchange).1 path

end Site

end ContentForms
