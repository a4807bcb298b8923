import ContentForms.Proofs.Paths
import ContentForms.Proofs.Site

/-!
Which stored documents share a file. Pages, blogs and entries are stored below one directory, and
their paths keep them apart with one exception: the index of a blog has the file name that an entry
with the slug `index` has. That slug is not refused, as `new` is, so the two documents overwrite
each other. Everything else that is saved as an entry leaves all documents but its own as they are.
-/

namespace ContentForms

/-- What has a document of its own: a page, a blog as a whole, and an entry of a blog. -/
inductive StorageAddress where
  | page (name : ContentName)
  | index (blog : ContentName)
  | entry (blog : ContentName) (slug : Slug)
  deriving DecidableEq

namespace StorageAddress

def path : StorageAddress → DiskPath
  | page name => Layout.document ⟨.page, name⟩
  | index blog => Layout.document ⟨.blog, blog⟩
  | entry blog slug => Layout.entry blog slug

/-- Two addresses of one file: the index of a blog, and the entry that is called `index`. -/
inductive Overlaps : StorageAddress → StorageAddress → Prop
  | indexEntry (blog : ContentName) {slug : Slug} (h : slug.text = "index") :
      Overlaps (.index blog) (.entry blog slug)
  | entryIndex (blog : ContentName) {slug : Slug} (h : slug.text = "index") :
      Overlaps (.entry blog slug) (.index blog)

theorem path_page (name : ContentName) : (page name).path = ["data", name.text ++ ".json"] := rfl

theorem path_index (blog : ContentName) :
    (index blog).path = ["data", blog.text, "index.json"] := rfl

theorem path_entry (blog : ContentName) (slug : Slug) :
    (entry blog slug).path = ["data", blog.text, slug.text ++ ".json"] := rfl

theorem append_json_inj {a b : String} : a ++ ".json" = b ++ ".json" ↔ a = b := by
  rw [← String.toList_inj, ← String.toList_inj]
  simp

theorem append_json_eq_index_iff {a : String} : a ++ ".json" = "index.json" ↔ a = "index" := by
  have hindex : "index.json" = "index" ++ ".json" := rfl
  rw [hindex, append_json_inj]

theorem contentName_text_inj {a b : ContentName} : a.text = b.text ↔ a = b := by
  cases a
  cases b
  simp

theorem slug_text_inj {a b : Slug} : a.text = b.text ↔ a = b := by
  cases a
  cases b
  simp

theorem Overlaps.symm {a b : StorageAddress} (h : a.Overlaps b) : b.Overlaps a := by
  cases h with
  | indexEntry blog h => exact .entryIndex blog h
  | entryIndex blog h => exact .indexEntry blog h

theorem overlaps_index_entry_iff {blog other : ContentName} {slug : Slug} :
    (index blog).Overlaps (entry other slug) ↔ blog = other ∧ slug.text = "index" := by
  constructor
  · rintro ⟨⟩
    exact ⟨rfl, ‹_›⟩
  · rintro ⟨rfl, h⟩
    exact .indexEntry blog h

instance : (a b : StorageAddress) → Decidable (a.Overlaps b)
  | .index _, .entry _ _ => decidable_of_iff _ overlaps_index_entry_iff.symm
  | .entry _ _, .index _ =>
      decidable_of_iff _ (overlaps_index_entry_iff.symm.trans ⟨Overlaps.symm, Overlaps.symm⟩)
  | .page _, _ | _, .page _ | .index _, .index _ | .entry _ _, .entry _ _ =>
      .isFalse (by rintro ⟨⟩)

theorem path_index_eq_path_entry_iff {blog other : ContentName} {slug : Slug} :
    (index blog).path = (entry other slug).path ↔ (index blog).Overlaps (entry other slug) := by
  rw [overlaps_index_entry_iff, path_index, path_entry, ← append_json_eq_index_iff]
  simp [contentName_text_inj, eq_comm]

theorem path_eq_iff (a b : StorageAddress) : a.path = b.path ↔ a = b ∨ a.Overlaps b := by
  by_cases hoverlaps : a.Overlaps b
  · simp only [hoverlaps, or_true, iff_true]
    cases hoverlaps with
    | indexEntry blog h => exact path_index_eq_path_entry_iff.mpr (.indexEntry blog h)
    | entryIndex blog h => exact (path_index_eq_path_entry_iff.mpr (.indexEntry blog h)).symm
  · simp only [hoverlaps, or_false]
    refine ⟨fun hpath => ?_, congrArg path⟩
    -- Pages stand directly below the data directory, and the others one level deeper.
    cases a with
    | page name =>
        cases b with
        | page other => simpa [path_page, append_json_inj, contentName_text_inj] using hpath
        | index other => simp [path_page, path_index] at hpath
        | entry other slug => simp [path_page, path_entry] at hpath
    | index blog =>
        cases b with
        | page other => simp [path_page, path_index] at hpath
        | index other => simpa [path_index, contentName_text_inj] using hpath
        | entry other slug => exact absurd (path_index_eq_path_entry_iff.mp hpath) hoverlaps
    | entry blog slug =>
        cases b with
        | page other => simp [path_page, path_entry] at hpath
        | index other =>
            exact absurd (path_index_eq_path_entry_iff.mp hpath.symm).symm hoverlaps
        | entry other slug' =>
            simpa [path_entry, append_json_inj, contentName_text_inj, slug_text_inj] using hpath

theorem isComponent_of_mem_path {a : StorageAddress} {name : String} (h : name ∈ a.path) :
    PathText.IsComponent name := by
  have hdata : PathText.IsComponent "data" := isComponent_of_isSafeName (by decide)
  have hindex : PathText.IsComponent "index.json" :=
    isComponent_json (by decide : isSafeName "index")
  cases a with
  | page page =>
      rw [path_page] at h
      simp only [List.mem_cons, List.not_mem_nil, or_false] at h
      rcases h with rfl | rfl
      · exact hdata
      · exact isComponent_json page.safe
  | index blog =>
      rw [path_index] at h
      simp only [List.mem_cons, List.not_mem_nil, or_false] at h
      rcases h with rfl | rfl | rfl
      · exact hdata
      · exact isComponent_of_isSafeName blog.safe
      · exact hindex
  | entry blog slug =>
      rw [path_entry] at h
      simp only [List.mem_cons, List.not_mem_nil, or_false] at h
      rcases h with rfl | rfl | rfl
      · exact hdata
      · exact isComponent_of_isSafeName blog.safe
      · exact isComponent_json slug.safe

/-- Below one root, however it is spelled, two addresses lead through the same names only if they
have the same path. -/
theorem components_eq_iff (root : String) (a b : StorageAddress) :
    PathText.components (Layout.pathText root a.path) =
        PathText.components (Layout.pathText root b.path) ↔ a.path = b.path := by
  rw [Layout.components_pathText root fun _ => isComponent_of_mem_path,
    Layout.components_pathText root fun _ => isComponent_of_mem_path]
  exact List.append_right_inj _

theorem pathText_eq_iff (root : String) (a b : StorageAddress) :
    Layout.pathText root a.path = Layout.pathText root b.path ↔ a.path = b.path := by
  constructor
  · intro htext
    exact (components_eq_iff root a b).mp (congrArg PathText.components htext)
  · exact congrArg (Layout.pathText root)

/-- Below any root, two documents share a file exactly if their addresses are the same or overlap,
and so an entry that is saved overwrites the documents at its own address and at one that overlaps
it; a save that fails overwrites nothing. -/
theorem shares_file_iff_overlaps (root : String) (a b : StorageAddress) (site : Site)
    (blog : ContentName) (pathSlug : String) (document : Json) (created : Bool) :
    (Layout.pathText root a.path = Layout.pathText root b.path ↔ a = b ∨ a.Overlaps b) ∧
      (PathText.components (Layout.pathText root a.path) =
        PathText.components (Layout.pathText root b.path) ↔ a = b ∨ a.Overlaps b) ∧
      (site.run (Site.saveEntry blog pathSlug document created)).2.disk.content? a.path =
        match (site.run (Site.saveEntry blog pathSlug document created)).1 with
        | .ok (data, slug) =>
            if a = .entry blog slug ∨ a.Overlaps (.entry blog slug) then
              some data.pretty.toUTF8
            else site.disk.content? a.path
        | .error _ => site.disk.content? a.path := by
  rw [pathText_eq_iff, components_eq_iff, path_eq_iff]
  refine ⟨Iff.rfl, Iff.rfl, ?_⟩
  have hpath (slug : Slug) : a.path = Layout.entry blog slug ↔
      a = .entry blog slug ∨ a.Overlaps (.entry blog slug) :=
    path_eq_iff a (.entry blog slug)
  rw [Site.content?_saveEntry]
  cases (site.run (Site.saveEntry blog pathSlug document created)).1 with
  | error e => rfl
  | ok saved => simp only [hpath]

/-! ### A blog with an index -/

def news : ContentName := ⟨"news", by decide⟩

def indexSlug : Slug := ⟨"index", by decide, by decide⟩

def newsIndex : Json := .obj [("title", .str "News")]

def newsSite : Site where
  disk := Disk.empty.put (index news).path (.file newsIndex.pretty.toUTF8)
  schemas := SchemaCache.empty.insert ⟨.blog, news⟩
    { source := .arr [], document := .flat [], compiled := SchemaDocument.compile (.flat []) }

/-- The slug `index` is accepted, and an empty entry that is saved under it replaces the index. -/
theorem saveEntry_overwrites_index :
    Slug.ofText "index" = .ok indexSlug ∧ index news ≠ entry news indexSlug ∧
      (∀ root : String, Layout.pathText root (index news).path =
        Layout.pathText root (entry news indexSlug).path) ∧
      newsSite.disk.content? (index news).path = some newsIndex.pretty.toUTF8 ∧
      (newsSite.run (Site.saveEntry news "index" (.obj []) false)).2.disk.content?
        (index news).path = some (Json.obj []).pretty.toUTF8 := by
  refine ⟨Slug.ofText_text indexSlug, by decide, fun _ => rfl, ?_, ?_⟩
  · decide +kernel
  · decide +kernel

end StorageAddress

end ContentForms
