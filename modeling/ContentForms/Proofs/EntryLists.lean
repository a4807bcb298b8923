import ContentForms.Proofs.Addresses
import ContentForms.Proofs.ByteOrder
import ContentForms.Proofs.Listings
import ContentForms.Proofs.Numerals
import ContentForms.Store.Entries
import Mathlib.Data.Prod.Lex

/-!
The list of the entries of a blog. Every file in the directory of a blog that is called like a
document is an entry, the index apart, and a list of entries has an item for each of them. Its order
is that of a rank: the date, if there is one, and then the slug, which no two files share; so
neither the directory nor the sort decides where an item stands. A date counts in whole
milliseconds, whence two entries of one millisecond are in the order of their slugs, whichever of
them is later.
-/

namespace ContentForms

/-! ### Dates -/

namespace Calendar.Instant

open Text

/-- The fraction of a second counts in whole milliseconds, however far its digits go. -/
theorem readFraction?_point {digits rest : List Char} (hsome : digits ≠ [])
    (hdigits : ∀ c ∈ digits, c.isDigit) (hrest : ∀ c ∈ rest.head?, c.isDigit = false) :
    readFraction? ('.' :: (digits ++ rest)) =
      some (ofDigits 10 digits * 1000 / 10 ^ digits.length, rest) := by
  have hpadded : ∀ c ∈ digits ++ ['0', '0'], c.isDigit := by
    intro c hc
    rcases List.mem_append.mp hc with hc | hc
    · exact hdigits c hc
    · have hzero : c = '0' := by simpa using hc
      rw [hzero]
      decide
  have hpower : 10 ^ digits.length = 10 ^ (digits.length - 1) * 10 := by
    rw [← Nat.pow_succ, Nat.succ_eq_add_one,
      Nat.sub_add_cancel (List.length_pos_of_ne_nil hsome)]
  have hmillis : ofDigits 10 ((digits ++ ['0', '0']).take 3) =
      ofDigits 10 digits * 1000 / 10 ^ digits.length := by
    calc ofDigits 10 ((digits ++ ['0', '0']).take 3)
        = ofDigits 10 (digits ++ ['0', '0']) / 10 ^ ((digits ++ ['0', '0']).length - 3) :=
          ofDigits_take hpadded 3
      _ = ofDigits 10 digits * 10 ^ 2 / 10 ^ (digits.length - 1) := by
          rw [List.length_append]
          exact congrArg (· / _) (ofDigits_append_zeros digits 2)
      _ = ofDigits 10 digits * 10 ^ 2 * 10 / (10 ^ (digits.length - 1) * 10) :=
          (Nat.mul_div_mul_right _ _ (by decide)).symm
      _ = ofDigits 10 digits * 1000 / 10 ^ digits.length := by
          rw [hpower, Nat.mul_assoc]
          rfl
  rw [readFraction?, Number.takeWhile_digits hdigits hrest, Number.dropWhile_digits hdigits hrest,
    if_neg (by simpa using hsome), hmillis]

end Calendar.Instant

/-! ### Files and entries -/

/-- The file of an entry, whatever its slug. -/
def Layout.entryFile (blog : ContentName) (slug : String) : DiskPath :=
  Layout.blog blog ++ [slug ++ ".json"]

namespace Entry

theorem slugOfFileName?_eq_some_iff {fileName slug : String} :
    slugOfFileName? fileName = some slug ↔ fileName = slug ++ ".json" ∧ slug ≠ "index" := by
  unfold slugOfFileName?
  by_cases hindex : fileName = Layout.indexFile
  · rw [if_pos hindex]
    refine iff_of_false (by simp) ?_
    rintro ⟨rfl, hne⟩
    exact hne (StorageAddress.append_json_eq_index_iff.mp hindex)
  · rw [if_neg hindex, Option.map_eq_some_iff]
    simp only [Text.dropEnd?_eq_some_iff]
    constructor
    · rintro ⟨stem, hstem, rfl⟩
      have hname : fileName = String.ofList stem ++ ".json" := by
        rw [← String.toList_inj, String.toList_append, String.toList_ofList]
        exact hstem
      refine ⟨hname, fun heq => hindex ?_⟩
      rw [hname, heq]
      rfl
    · rintro ⟨rfl, -⟩
      exact ⟨slug.toList, String.toList_append, String.ofList_toList⟩

/-! ### The order of entries -/

/-- Dated entries come before others and later ones before earlier ones; otherwise the bytes of the
slugs decide. -/
def Precedes (a b : Entry) : Prop :=
  match a.instant?, b.instant? with
  | some x, some y => y < x ∨ x = y ∧ Text.bytes a.slug < Text.bytes b.slug
  | some _, none => True
  | none, some _ => False
  | none, none => Text.bytes a.slug < Text.bytes b.slug

def rank (entry : Entry) : Bool ×ₗ ℤ ×ₗ String :=
  toLex (entry.instant?.isNone, toLex (-(entry.instant?.getD 0), entry.slug))

theorem le_iff_rank_le (a b : Entry) : a.le b = true ↔ a.rank ≤ b.rank := by
  unfold le rank
  cases a.instant? <;> cases b.instant? <;>
    simp [Prod.Lex.toLex_le_toLex]

theorem rank_lt_iff {a b : Entry} : a.rank < b.rank ↔ a.Precedes b := by
  unfold Precedes rank
  simp only [Text.bytes_lt_iff]
  cases a.instant? <;> cases b.instant? <;>
    simp [Prod.Lex.toLex_lt_toLex]

theorem nodup_rank {entries : List Entry} (h : (entries.map slug).Nodup) :
    (entries.map rank).Nodup := by
  have hslug : (entries.map rank).map (fun r => (ofLex (ofLex r).2).2) = entries.map slug := by
    rw [List.map_map]
    rfl
  exact List.Nodup.of_map _ (hslug ▸ h)

/-! ### The items of a list -/

/-- What a list shows for an entry. An object has the slug of its file, in place of any other slug,
and its other members as they are; any other document is shown whole beside the slug. -/
def IsShownAs (entry : Entry) (item : Json) : Prop :=
  match entry.document with
  | .obj members => ∃ shown, item = .obj shown ∧ ∀ key,
      Assoc.get? key shown = if key = "slug" then some (.str entry.slug) else Assoc.get? key members
  | document => item = .obj [("data", document), ("slug", .str entry.slug)]

theorem object_slug_data (slug data : Json) :
    Json.object [("slug", slug), ("data", data)] = .obj [("data", data), ("slug", slug)] := by
  have hlt : "data" < "slug" := by decide
  simp [Json.object, Assoc.ofList, Assoc.insert, Assoc.contains, Assoc.get?, Assoc.place, hlt]

theorem isShownAs_toJson (entry : Entry) : entry.IsShownAs entry.toJson := by
  obtain ⟨slug, document⟩ := entry
  cases document with
  | obj members =>
      refine ⟨_, rfl, fun key => ?_⟩
      split
      · next hkey =>
          rw [hkey]
          exact Assoc.get?_insert_self _ _ _
      · next hkey => exact Assoc.get?_insert_of_ne hkey _ _
  | null | bool _ | num _ | str _ | arr _ => exact object_slug_data _ _

end Entry

/-! ### The entries in a directory -/

namespace Store

variable {disk : Disk} {blog : ContentName} {names : List String}

theorem mapM_eq_ok_map {ε α β : Type} {f : α → Except ε β} {g : α → β} {xs : List α}
    (h : ∀ x ∈ xs, f x = .ok (g x)) : xs.mapM f = .ok (xs.map g) := by
  induction xs with
  | nil => rfl
  | cons x rest ih =>
      obtain ⟨hx, hrest⟩ := List.forall_mem_cons.mp h
      rw [List.mapM_cons, hx, ih hrest]
      rfl

/-- The entries of a blog whose directory yields these names in this order. -/
def entriesOf (disk : Disk) (blog : ContentName) (names : List String) :
    Except StoreError (List Entry) :=
  (names.mapM (entryAt? disk blog ·)).map fun found => Entry.sort (found.filterMap id)

theorem entries_eq_entriesOf (h : disk.names (Layout.blog blog) = .ok names) :
    entries disk blog = entriesOf disk blog names := by
  rw [entries, Faults.none_on, h]
  rfl

def EntriesReadable (disk : Disk) (blog : ContentName) (names : List String) : Prop :=
  ∀ slug, slug ≠ "index" → slug ++ ".json" ∈ names →
    ∃ found, document? disk (Layout.entryFile blog slug) = .ok found

theorem entriesReadable_iff : EntriesReadable disk blog names ↔
    ∀ fileName ∈ names, ∃ found, entryAt? disk blog fileName = .ok found := by
  constructor
  · intro h fileName hmem
    unfold entryAt?
    split
    · exact ⟨none, rfl⟩
    · next slug hslug =>
        obtain ⟨rfl, hindex⟩ := Entry.slugOfFileName?_eq_some_iff.mp hslug
        obtain ⟨found, hfound⟩ := h slug hindex hmem
        exact ⟨_, map_eq_ok_iff.mpr ⟨found, hfound, rfl⟩⟩
  · intro h slug hindex hmem
    obtain ⟨found, hfound⟩ := h _ hmem
    rw [entryAt?, Entry.slugOfFileName?_eq_some_iff.mpr ⟨rfl, hindex⟩] at hfound
    obtain ⟨document, hdocument, -⟩ := map_eq_ok_iff.mp hfound
    exact ⟨document, hdocument⟩

theorem entriesReadable_of_isSome
    (h : ∀ fileName ∈ names, (entryAt? disk blog fileName).toOption.isSome) :
    EntriesReadable disk blog names := by
  refine entriesReadable_iff.mpr fun fileName hmem => ?_
  obtain ⟨found, hfound⟩ := Option.isSome_iff_exists.mp (h fileName hmem)
  exact ⟨found, toOption_eq_some_iff.mp hfound⟩

theorem document?_ne_none {path : DiskPath} (h : (disk.node? path).isSome) :
    document? disk path ≠ .ok none := by
  obtain ⟨node, hnode⟩ := Option.isSome_iff_exists.mp h
  have htext : text? disk path ≠ .ok none := by
    unfold text? Disk.readText Disk.lookup
    rw [hnode]
    cases node with
    | directory => simp
    | file content =>
        cases hof : String.fromUTF8? content <;> simp [textOf, hof]
  intro hnone
  obtain ⟨text, hread, hrest⟩ := bind_eq_ok_iff.mp hnone
  cases text with
  | none => exact htext hread
  | some text =>
      dsimp only at hrest
      split at hrest <;> cases hrest

def entryOf? (disk : Disk) (blog : ContentName) (fileName : String) : Option Entry :=
  (entryAt? disk blog fileName).toOption.join

theorem entryOf?_eq_some_iff {fileName : String} {entry : Entry} :
    entryOf? disk blog fileName = some entry ↔ fileName = entry.slug ++ ".json" ∧
      entry.slug ≠ "index" ∧
      document? disk (Layout.entryFile blog entry.slug) = .ok (some entry.document) := by
  rw [entryOf?, Option.join_eq_some_iff, toOption_eq_some_iff]
  constructor
  · intro h
    unfold entryAt? at h
    split at h
    · cases h
    · next slug hslug =>
        obtain ⟨rfl, hindex⟩ := Entry.slugOfFileName?_eq_some_iff.mp hslug
        obtain ⟨found, hfound, hentry⟩ := map_eq_ok_iff.mp h
        obtain ⟨document, rfl, rfl⟩ := Option.map_eq_some_iff.mp hentry
        exact ⟨rfl, hindex, hfound⟩
  · rintro ⟨rfl, hindex, hfound⟩
    rw [entryAt?, Entry.slugOfFileName?_eq_some_iff.mpr ⟨rfl, hindex⟩]
    exact map_eq_ok_iff.mpr ⟨_, hfound, rfl⟩

def listed (disk : Disk) (blog : ContentName) (names : List String) : List Entry :=
  Entry.sort (names.filterMap (entryOf? disk blog))

theorem mem_listed_iff {entry : Entry} :
    entry ∈ listed disk blog names ↔ entry.slug ++ ".json" ∈ names ∧ entry.slug ≠ "index" ∧
      document? disk (Layout.entryFile blog entry.slug) = .ok (some entry.document) := by
  rw [listed, Entry.sort, (List.mergeSort_perm _ _).mem_iff, List.mem_filterMap]
  simp only [entryOf?_eq_some_iff]
  constructor
  · rintro ⟨_, hmem, rfl, hentry⟩
    exact ⟨hmem, hentry⟩
  · rintro ⟨hmem, hentry⟩
    exact ⟨_, hmem, rfl, hentry⟩

theorem nodup_slugs (h : names.Nodup) :
    ((names.filterMap (entryOf? disk blog)).map Entry.slug).Nodup := by
  rw [List.map_filterMap]
  refine List.Nodup.filterMap ?_ h
  intro fileName fileName' slug hslug hslug'
  obtain ⟨entry, hentry, rfl⟩ := Option.map_eq_some_iff.mp hslug
  obtain ⟨entry', hentry', hsame⟩ := Option.map_eq_some_iff.mp hslug'
  rw [(entryOf?_eq_some_iff.mp hentry).1, (entryOf?_eq_some_iff.mp hentry').1, hsame]

theorem nodup_slugs_listed (h : names.Nodup) : ((listed disk blog names).map Entry.slug).Nodup :=
  ((List.mergeSort_perm _ _).map Entry.slug).nodup_iff.mpr (nodup_slugs h)

theorem pairwise_listed (h : names.Nodup) : (listed disk blog names).Pairwise Entry.Precedes :=
  (pairwise_lt_mergeSort Entry.le_iff_rank_le (Entry.nodup_rank (nodup_slugs h))).imp
    Entry.rank_lt_iff.mp

theorem listed_eq_of_perm {names' : List String} (h : names.Nodup) (hperm : names.Perm names') :
    listed disk blog names = listed disk blog names' :=
  mergeSort_eq_of_perm Entry.le_iff_rank_le (Entry.nodup_rank (nodup_slugs h))
    (hperm.filterMap _)

theorem listed_eq_of_pairwise {found : List Entry}
    (h : names.filterMap (entryOf? disk blog) = found)
    (hsorted : found.Pairwise fun a b => a.le b = true) : listed disk blog names = found := by
  rw [listed, h, Entry.sort, List.mergeSort_of_pairwise hsorted]

theorem entriesOf_eq (hread : EntriesReadable disk blog names) :
    entriesOf disk blog names = .ok (listed disk blog names) := by
  have hfound : names.mapM (entryAt? disk blog ·) = .ok (names.map (entryOf? disk blog)) := by
    apply mapM_eq_ok_map
    intro fileName hmem
    obtain ⟨found, hfound⟩ := entriesReadable_iff.mp hread fileName hmem
    rw [entryOf?, hfound]
    cases found <;> rfl
  rw [entriesOf, hfound, listed]
  change Except.ok (Entry.sort ((names.map (entryOf? disk blog)).filterMap id)) = _
  rw [List.filterMap_map]
  rfl

theorem entries_eq_listed (h : disk.Yields (Layout.blog blog) names)
    (hread : EntriesReadable disk blog names) :
    entries disk blog = .ok (listed disk blog names) := by
  obtain ⟨yielded, hyielded, hperm⟩ := h.exists_names
  have hread' : EntriesReadable disk blog yielded :=
    fun slug hindex hmem => hread slug hindex (hperm.mem_iff.mp hmem)
  rw [entries_eq_entriesOf hyielded, entriesOf_eq hread', listed_eq_of_perm h.nodup hperm.symm]

/-- Whatever the order in which the directory of a blog yields its names, if the documents in it can
be read, the list of entries is the same: it has each file that is called like a document once, the
index apart, in strictly ascending order, and shows the document that the file holds. -/
theorem entries_listed (h : disk.Yields (Layout.blog blog) names)
    (hread : EntriesReadable disk blog names) :
    ∃ listed, entries disk blog = .ok listed ∧ entriesOf disk blog names = .ok listed ∧
      listed.Pairwise Entry.Precedes ∧ (listed.map Entry.slug).Nodup ∧
      (∀ slug, slug ∈ listed.map Entry.slug ↔ slug ≠ "index" ∧ slug ++ ".json" ∈ names) ∧
      ∀ entry ∈ listed,
        document? disk (Layout.entryFile blog entry.slug) = .ok (some entry.document) ∧
          entry.IsShownAs entry.toJson := by
  refine ⟨listed disk blog names, entries_eq_listed h hread, entriesOf_eq hread,
    pairwise_listed h.nodup, nodup_slugs_listed h.nodup, fun slug => ?_, fun entry hmem => ?_⟩
  · rw [List.mem_map]
    constructor
    · rintro ⟨entry, hmem, rfl⟩
      obtain ⟨hname, hindex, -⟩ := mem_listed_iff.mp hmem
      exact ⟨hindex, hname⟩
    · rintro ⟨hindex, hname⟩
      obtain ⟨found, hfound⟩ := hread slug hindex hname
      cases found with
      | none => exact absurd hfound (document?_ne_none ((h.mem_iff _).mp hname))
      | some document => exact ⟨⟨slug, document⟩, mem_listed_iff.mpr ⟨hname, hindex, hfound⟩, rfl⟩
  · obtain ⟨-, -, hfound⟩ := mem_listed_iff.mp hmem
    exact ⟨hfound, entry.isShownAs_toJson⟩

open StorageAddress (news)

/-- A disk with one blog, whose files have these names and hold these documents. -/
def blogDisk (blog : ContentName) (files : List (String × Json)) : Disk :=
  files.foldl
    (fun disk (name, document) =>
      disk.put (Layout.blog blog ++ [name]) (.file document.pretty.toUTF8))
    ((Disk.empty.put ["data"] .directory).put (Layout.blog blog) .directory)

def dated (date : String) (others : List (String × Json)) : Json :=
  .obj (("meta", .obj [("date", .str date)]) :: others)

/-- Entries dated by a day, by an earlier time with an offset, and not at all, beside two files that
hold none. -/
def datedPosts : Disk := blogDisk news
  [("bare.json", .arr [.num (.int 1)]), ("old.json", dated "2024-01-01" [("slug", .str "x")]),
    ("index.json", .obj []), ("east.json", dated "2024-01-01T00:00:00+01:00" []),
    ("notes.txt", .null)]

theorem entries_listed_datedPosts :
    let names := ["notes.txt", "old.json", "index.json", "east.json", "bare.json"]
    datedPosts.Yields (Layout.blog news) names ∧ EntriesReadable datedPosts news names ∧
      entries datedPosts news = .ok [⟨"old", dated "2024-01-01" [("slug", .str "x")]⟩,
        ⟨"east", dated "2024-01-01T00:00:00+01:00" []⟩, ⟨"bare", .arr [.num (.int 1)]⟩] := by
  intro names
  have hyields : datedPosts.Yields (Layout.blog news) names := by
    have hnames : datedPosts.names (Layout.blog news) =
        .ok ["notes.txt", "east.json", "index.json", "old.json", "bare.json"] := by
      decide +kernel
    exact (Disk.yields_of_names hnames).of_perm (by decide)
  have hread : EntriesReadable datedPosts news names :=
    entriesReadable_of_isSome (by decide +kernel)
  have hfound : names.filterMap (entryOf? datedPosts news) =
      [⟨"old", dated "2024-01-01" [("slug", .str "x")]⟩,
        ⟨"east", dated "2024-01-01T00:00:00+01:00" []⟩, ⟨"bare", .arr [.num (.int 1)]⟩] := by
    decide +kernel
  refine ⟨hyields, hread, ?_⟩
  obtain ⟨found, hentries, hof, -⟩ := entries_listed hyields hread
  rw [hentries, ← hof, entriesOf_eq hread, listed_eq_of_pairwise hfound (by decide +kernel)]

def oneMillisecond : Disk := blogDisk news
  [("a.json", dated "2024-01-01T00:00:00.0001Z" []),
    ("b.json", dated "2024-01-01T00:00:00.0002Z" [])]

/-- Of two entries within one millisecond, the earlier one may stand first. -/
theorem entries_oneMillisecond :
    entries oneMillisecond news = .ok [⟨"a", dated "2024-01-01T00:00:00.0001Z" []⟩,
        ⟨"b", dated "2024-01-01T00:00:00.0002Z" []⟩] ∧
      Text.ofDigits 10 "0001".toList < Text.ofDigits 10 "0002".toList := by
  have hnames : oneMillisecond.names (Layout.blog news) = .ok ["b.json", "a.json"] := by
    decide +kernel
  have hyields : oneMillisecond.Yields (Layout.blog news) ["a.json", "b.json"] :=
    (Disk.yields_of_names hnames).of_perm (by decide)
  have hread : EntriesReadable oneMillisecond news ["a.json", "b.json"] :=
    entriesReadable_of_isSome (by decide +kernel)
  have hfound : ["a.json", "b.json"].filterMap (entryOf? oneMillisecond news) =
      [⟨"a", dated "2024-01-01T00:00:00.0001Z" []⟩,
        ⟨"b", dated "2024-01-01T00:00:00.0002Z" []⟩] := by
    decide +kernel
  refine ⟨?_, by decide⟩
  rw [entries_eq_listed hyields hread, listed_eq_of_pairwise hfound (by decide +kernel)]

end Store

end ContentForms
