import ContentForms.Proofs.ByteOrder
import ContentForms.Proofs.Listings
import ContentForms.Store.Documents
import Mathlib.Data.Prod.Lex

/-!
Schema files and content keys. The name of a schema file says its key, and no other name does: a
type has no dot, so the first dot of a name ends the type, and what is between it and the extension
is a name or the file is none of a schema. Names that are near such a form, with a dot too many or
another kind in front, are passed over. A list of keys is therefore neither more nor less than the
directory holds, and since keys are ranked by type and name, it is the same however the directory is
read.
-/

namespace ContentForms

namespace ContentKey

theorem fileName_toList (key : ContentKey) :
    key.fileName.toList =
      key.type.text.toList ++ '.' :: key.name.text.toList ++ ".yaml".toList := by
  rw [fileName, text, String.toList_append, String.toList_append, String.toList_append,
    List.append_assoc key.type.text.toList]
  rfl

/-- The file of a key has its name, and any other name stands for another key or for none. -/
theorem ofFileName?_eq_some_iff {fileName : String} {key : ContentKey} :
    ofFileName? fileName = some key ↔ fileName = key.fileName := by
  rw [← String.toList_inj, fileName_toList]
  constructor
  · intro h
    obtain ⟨stem, hstem, hcut⟩ := Option.bind_eq_some_iff.mp h
    obtain ⟨⟨type, name⟩, hsides, hkey⟩ := Option.bind_eq_some_iff.mp hcut
    obtain ⟨rfl, -⟩ := Text.splitFirst?_eq_some_iff.mp hsides
    obtain ⟨htype, hname⟩ := ofTexts_eq_ok_iff.mp (toOption_eq_some_iff.mp hkey)
    rw [Text.dropEnd?_eq_some_iff.mp hstem, ← htype, ← hname]
    simp only [String.toList_ofList]
  · intro h
    have hdot : '.' ∉ key.type.text.toList := by
      cases key.type <;> decide
    have hstem : Text.dropEnd? ".yaml" fileName.toList =
        some (key.type.text.toList ++ '.' :: key.name.text.toList) :=
      Text.dropEnd?_eq_some_iff.mpr h
    have hsides : Text.splitFirst? '.' (key.type.text.toList ++ '.' :: key.name.text.toList) =
        some (key.type.text.toList, key.name.text.toList) :=
      Text.splitFirst?_eq_some_iff.mpr ⟨rfl, hdot⟩
    refine Option.bind_eq_some_iff.mpr ⟨_, hstem, Option.bind_eq_some_iff.mpr ⟨_, hsides, ?_⟩⟩
    exact toOption_eq_some_iff.mpr
      (ofTexts_eq_ok_iff.mpr ⟨String.ofList_toList, String.ofList_toList⟩)

/-! ### The order of keys -/

/-- Pages come before blogs, and keys of one type in the order of the bytes of their names. -/
def Precedes (a b : ContentKey) : Prop :=
  a.type = .page ∧ b.type = .blog ∨
    a.type = b.type ∧ Text.bytes a.name.text < Text.bytes b.name.text

def rank (key : ContentKey) : Bool ×ₗ String :=
  toLex (decide (key.type = .blog), key.name.text)

theorem rank_injective : Function.Injective rank := by
  rintro ⟨type, name⟩ ⟨type', name'⟩ h
  have hpair : decide (type = .blog) = decide (type' = .blog) ∧ name.text = name'.text :=
    Prod.mk.inj (toLex.injective h)
  cases name
  cases name'
  cases type <;> cases type' <;> simp_all

theorem le_iff_rank_le (a b : ContentKey) : a.le b = true ↔ a.rank ≤ b.rank := by
  rw [rank, rank, Prod.Lex.toLex_le_toLex]
  obtain ⟨type, name⟩ := a
  obtain ⟨type', name'⟩ := b
  cases type <;> cases type' <;> simp [le]

theorem rank_lt_iff {a b : ContentKey} : a.rank < b.rank ↔ a.Precedes b := by
  rw [rank, rank, Prod.Lex.toLex_lt_toLex, Precedes, Text.bytes_lt_iff]
  obtain ⟨type, name⟩ := a
  obtain ⟨type', name'⟩ := b
  cases type <;> cases type' <;> simp

end ContentKey

/-! ### The keys that have a schema -/

namespace Store

theorem mem_keysOf_iff {names : List String} {key : ContentKey} :
    key ∈ keysOf names ↔ key.fileName ∈ names := by
  rw [keysOf, ContentKey.sort, (List.mergeSort_perm _ _).mem_iff, List.mem_filterMap]
  simp only [ContentKey.ofFileName?_eq_some_iff, exists_eq_right]

theorem nodup_rank_keys {names : List String} (h : names.Nodup) :
    ((names.filterMap ContentKey.ofFileName?).map ContentKey.rank).Nodup := by
  refine List.Nodup.map ContentKey.rank_injective (List.Nodup.filterMap ?_ h)
  intro fileName fileName' key hkey hkey'
  rw [ContentKey.ofFileName?_eq_some_iff.mp hkey, ContentKey.ofFileName?_eq_some_iff.mp hkey']

theorem pairwise_keysOf {names : List String} (h : names.Nodup) :
    (keysOf names).Pairwise ContentKey.Precedes :=
  (pairwise_lt_mergeSort ContentKey.le_iff_rank_le (nodup_rank_keys h)).imp
    ContentKey.rank_lt_iff.mp

theorem keysOf_eq_of_perm {names names' : List String} (h : names.Nodup)
    (hperm : names.Perm names') : keysOf names = keysOf names' :=
  mergeSort_eq_of_perm ContentKey.le_iff_rank_le (nodup_rank_keys h)
    (hperm.filterMap ContentKey.ofFileName?)

end Store

/-- A file name stands for a key exactly if it is that of the key's schema. So of a directory of
schemas, in whatever order it yields its names, the list of keys has those whose schema file is
there, in strictly ascending order. -/
theorem ContentKey.listed_by_fileName :
    (∀ fileName key, ofFileName? fileName = some key ↔ fileName = key.fileName) ∧
      ∀ (disk : Disk) (names : List String), disk.Yields Layout.schemas names →
        Store.keys disk = .ok (Store.keysOf names) ∧
        (Store.keysOf names).Pairwise Precedes ∧
        ∀ key, key ∈ Store.keysOf names ↔ (disk.node? (Layout.schemaFile key)).isSome := by
  refine ⟨fun _ _ => ofFileName?_eq_some_iff, fun disk names h => ⟨?_, ?_, ?_⟩⟩
  · obtain ⟨listed, hlisted, hperm⟩ := h.exists_names
    rw [Store.keys, Faults.none_on, hlisted, Store.keysOf_eq_of_perm h.nodup hperm.symm]
  · exact Store.pairwise_keysOf h.nodup
  · intro key
    rw [Store.mem_keysOf_iff, h.mem_iff]
    rfl

/-- A directory of schemas with two pages, a blog, and a file whose name has a dot too many. -/
def mixedSchemas : Disk :=
  ["page.home.yaml", "page.a.b.yaml", "blog.diary.yaml", "page.about.yaml"].foldl
    (fun disk name => disk.put (Layout.schemas ++ [name]) (.file ByteArray.empty))
    (Disk.empty.put Layout.schemas .directory)

def mixedKeys : List ContentKey :=
  [⟨.page, ⟨"about", by decide⟩⟩, ⟨.page, ⟨"home", by decide⟩⟩, ⟨.blog, ⟨"diary", by decide⟩⟩]

theorem ContentKey.listed_by_fileName_mixedSchemas :
    mixedSchemas.Yields Layout.schemas
        ["page.a.b.yaml", "page.about.yaml", "page.home.yaml", "blog.diary.yaml"] ∧
      Store.keys mixedSchemas = .ok mixedKeys := by
  have hyields : mixedSchemas.Yields Layout.schemas
      ["page.a.b.yaml", "page.about.yaml", "page.home.yaml", "blog.diary.yaml"] := by
    have hnames : mixedSchemas.names Layout.schemas =
        .ok ["page.about.yaml", "blog.diary.yaml", "page.a.b.yaml", "page.home.yaml"] := by
      decide +kernel
    exact (Disk.yields_of_names hnames).of_perm (by decide)
  have hkeys : ["page.a.b.yaml", "page.about.yaml", "page.home.yaml", "blog.diary.yaml"].filterMap
      ofFileName? = mixedKeys := by
    decide +kernel
  refine ⟨hyields, ?_⟩
  rw [(listed_by_fileName.2 mixedSchemas _ hyields).1, Store.keysOf, hkeys, sort,
    List.mergeSort_of_pairwise (by decide +kernel)]

end ContentForms
