import ContentForms.Proofs.Conforming
import ContentForms.Proofs.Listings
import ContentForms.Proofs.Places

/-!
What requests can reach. Nothing that is sent to the service, whatever texts stand for a type, a
name, a slug or a file name, makes it look beyond the places of stored content or write beside them.
Two things are said of each action on a site, and both are kept when actions follow each other. The
disk only grows at places, by files there and by the directories above them; and the action does not
depend on the rest of the disk: on two disks that are alike at the places, above them, and in the
directories that are listed, it has the same result and leaves disks that are alike again. The
second is what it means not to read anything else, for an action whose result is the same whatever
stands elsewhere has not looked there.
-/

namespace ContentForms

namespace Layout

/-! ### What can be seen -/

/-- What requests look at: a place, a file in the directory of a blog, since these are listed and
read, or what is above. -/
def Seen (path : DiskPath) : Prop :=
  ∃ last, (Place last ∨ ∃ name file, IsNameText name ∧ last = ["data", name, file]) ∧ path <+: last

/-- The directories whose names are listed: that of the schemas and those of blogs. -/
inductive Listed : DiskPath → Prop
  | schemas : Listed schemas
  | blog {name : String} (named : IsNameText name) : Listed ["data", name]

def Above (path : DiskPath) : Prop :=
  path ≠ [] ∧ ∃ place, Place place ∧ path <+: place.dropLast

theorem Place.seen {path : DiskPath} (h : Place path) : Seen path :=
  ⟨path, .inl h, List.prefix_refl path⟩

theorem Above.seen {path : DiskPath} (h : Above path) : Seen path := by
  obtain ⟨-, place, hplace, hprefix⟩ := h
  exact ⟨place, .inl hplace, hprefix.trans (List.dropLast_prefix place)⟩

theorem seen_file {name : String} (h : IsNameText name) (file : String) :
    Seen ["data", name, file] :=
  ⟨_, .inr ⟨name, file, h, rfl⟩, List.prefix_refl _⟩

theorem Listed.seen {directory : DiskPath} (h : Listed directory) : Seen directory := by
  cases h with
  | schemas =>
      have hname : IsNameText "a" := isNameText_iff.mpr (by decide)
      exact ⟨_, .inl (.schema .page hname), [_], rfl⟩
  | @blog name named => exact ⟨["data", name, ""], .inr ⟨name, "", named, rfl⟩, [""], rfl⟩

theorem prefix_of_mem_waysTo {path way : DiskPath} (h : way ∈ Disk.waysTo path) :
    way ≠ [] ∧ way <+: path := by
  obtain ⟨n, hn, rfl⟩ := List.mem_map.mp h
  refine ⟨?_, List.take_prefix _ _⟩
  have hlength : n < path.length := List.mem_range.mp hn
  intro hnil
  have hzero := congrArg List.length hnil
  simp only [List.length_take, List.length_nil] at hzero
  omega

theorem Seen.way {path way : DiskPath} (h : Seen path) (hway : way ∈ Disk.waysTo path) :
    Seen way := by
  obtain ⟨last, hlast, hprefix⟩ := h
  exact ⟨last, hlast, (prefix_of_mem_waysTo hway).2.trans hprefix⟩

theorem Place.above {path way : DiskPath} (h : Place path)
    (hway : way ∈ Disk.waysTo path.dropLast) : Above way := by
  obtain ⟨hne, hprefix⟩ := prefix_of_mem_waysTo hway
  exact ⟨hne, path, h, hprefix⟩

theorem Place.ne_nil {path : DiskPath} (h : Place path) : path ≠ [] := by
  cases h <;> simp

end Layout

/-! ### Disks that are alike -/

namespace Disk

def listing (disk : Disk) (directory : DiskPath) : List String :=
  disk.nodes.keys.filterMap (nameIn? directory)

/-- Two disks that requests cannot tell apart. -/
structure Alike (a b : Disk) : Prop where
  node : ∀ {path}, Layout.Seen path → a.node? path = b.node? path
  listing : ∀ {directory}, Layout.Listed directory → a.listing directory = b.listing directory

/-- Afterwards there are new files at places and new directories above places, and nothing else has
changed. -/
def Grown (before after : Disk) : Prop :=
  ∀ path, after.node? path = before.node? path ∨
    (Layout.Place path ∧ ∃ content, after.node? path = some (.file content)) ∨
    (Layout.Above path ∧ before.node? path = none ∧ after.node? path = some .directory)

theorem Grown.refl (disk : Disk) : disk.Grown disk :=
  fun _ => .inl rfl

theorem Grown.trans {a b c : Disk} (h : a.Grown b) (h' : b.Grown c) : a.Grown c := by
  intro path
  rcases h' path with hsame | hfile | ⟨habove, hnone, hdirectory⟩
  · rw [hsame]
    exact h path
  · exact .inr (.inl hfile)
  · -- Nothing was there in between, so nothing had been put there before.
    rcases h path with hsame | ⟨-, content, hfile⟩ | ⟨-, -, hthere⟩
    · exact .inr (.inr ⟨habove, hsame.symm.trans hnone, hdirectory⟩)
    · rw [hnone] at hfile
      cases hfile
    · rw [hnone] at hthere
      cases hthere

variable {a b : Disk} {path : DiskPath}

/-! #### Reading -/

theorem Alike.isFile (h : a.Alike b) (hseen : Layout.Seen path) :
    a.isFile path = b.isFile path := by
  rw [Disk.isFile, Disk.isFile, h.node hseen]

theorem Alike.isDirectory (h : a.Alike b) (hseen : Layout.Seen path) :
    a.isDirectory path = b.isDirectory path := by
  rw [Disk.isDirectory, Disk.isDirectory, h.node hseen]

theorem Alike.anyFile (h : a.Alike b) (hseen : Layout.Seen path) :
    (waysTo path).any a.isFile = (waysTo path).any b.isFile := by
  rw [Bool.eq_iff_iff, List.any_eq_true, List.any_eq_true]
  refine exists_congr fun way => and_congr_right fun hway => ?_
  rw [h.isFile (hseen.way hway)]

theorem Alike.lookup (h : a.Alike b) (hseen : Layout.Seen path) :
    a.lookup path = b.lookup path := by
  rw [Disk.lookup, Disk.lookup, h.node hseen, h.anyFile hseen]

theorem Alike.holds (h : a.Alike b) (hseen : Layout.Seen path) : a.holds path = b.holds path := by
  rw [Disk.holds, Disk.holds, h.lookup hseen]

theorem Alike.readText (h : a.Alike b) (hseen : Layout.Seen path) :
    a.readText path = b.readText path := by
  rw [Disk.readText, Disk.readText, h.lookup hseen]

theorem Alike.names (h : a.Alike b) {directory : DiskPath} (hlisted : Layout.Listed directory) :
    a.names directory = b.names directory := by
  have hnames : a.nodes.keys.filterMap (nameIn? directory) =
      b.nodes.keys.filterMap (nameIn? directory) := h.listing hlisted
  rw [Disk.names, Disk.names, h.lookup hlisted.seen, hnames]

/-! #### Writing -/

theorem listing_put (disk : Disk) (path directory : DiskPath) (node : DiskNode) :
    (disk.put path node).listing directory = (nameIn? directory path).toList ++
      (disk.listing directory).filter fun name => directory ++ [name] ≠ path := by
  have hkeys : (disk.put path node).nodes.keys =
      path :: disk.nodes.keys.filter fun other => other ≠ path := by
    rw [FiniteMap.keys, FiniteMap.keys, List.filter_map]
    rfl
  have hrest : (disk.nodes.keys.filter fun other => other ≠ path).filterMap (nameIn? directory) =
      (disk.listing directory).filter fun name => directory ++ [name] ≠ path := by
    rw [listing, List.filterMap_filter, List.filter_filterMap]
    refine List.filterMap_congr fun other _ => ?_
    cases hname : nameIn? directory other with
    | none => simp
    | some name =>
        rw [eq_append_of_nameIn? hname]
        rfl
  rw [← hrest, listing, hkeys, List.filterMap_cons]
  cases nameIn? directory path <;> rfl

theorem Alike.put (h : a.Alike b) (path : DiskPath) (node : DiskNode) :
    (a.put path node).Alike (b.put path node) where
  node {other} hseen := by
    by_cases hother : other = path
    · by_cases hroot : path = []
      · rw [hother, hroot]
        rfl
      · rw [hother, node?_put_self hroot, node?_put_self hroot]
    · rw [node?_put_of_ne hother, node?_put_of_ne hother, h.node hseen]
  listing hlisted := by
    rw [listing_put, listing_put, h.listing hlisted]

theorem alike_put_elsewhere (disk : Disk) (hunseen : ¬Layout.Seen path)
    (hunlisted : ∀ directory name, Layout.Listed directory → directory ++ [name] ≠ path)
    (node : DiskNode) : disk.Alike (disk.put path node) where
  node {other} hseen := by
    have hother : other ≠ path := by
      rintro rfl
      exact hunseen hseen
    exact (node?_put_of_ne hother node).symm
  listing {directory} hlisted := by
    have hnone : nameIn? directory path = none := by
      cases hname : nameIn? directory path with
      | none => rfl
      | some name => exact absurd (eq_append_of_nameIn? hname).symm (hunlisted _ _ hlisted)
    rw [listing_put, hnone, Option.toList_none, List.nil_append]
    refine (List.filter_eq_self.mpr fun name _ => ?_).symm
    exact decide_eq_true (hunlisted directory name hlisted)

theorem grown_put_file (disk : Disk) (h : Layout.Place path) (content : ByteArray) :
    disk.Grown (disk.put path (.file content)) := by
  intro other
  by_cases hother : other = path
  · subst hother
    exact .inr (.inl ⟨h, content, node?_put_self h.ne_nil _⟩)
  · exact .inl (node?_put_of_ne hother _)

theorem grown_addDirectory (disk : Disk) (h : Layout.Above path) :
    disk.Grown (disk.addDirectory path) := by
  intro other
  unfold addDirectory
  split
  · exact .inl rfl
  · next hfree =>
      by_cases hother : other = path
      · subst hother
        exact .inr (.inr ⟨h, by simpa using hfree, node?_put_self h.1 _⟩)
      · exact .inl (node?_put_of_ne hother _)

theorem Alike.addDirectory (h : a.Alike b) (hseen : Layout.Seen path) :
    (a.addDirectory path).Alike (b.addDirectory path) := by
  unfold Disk.addDirectory
  rw [h.node hseen]
  split
  · exact h
  · exact h.put path .directory

/-- A change of the disk that stays among the places: on disks that are alike it fails alike, or
makes them grow and leaves them alike. -/
def Confined (change : Disk → Except DiskError Disk) : Prop :=
  ∀ ⦃a b : Disk⦄, a.Alike b → (∃ e, change a = .error e ∧ change b = .error e) ∨
    ∃ a' b', change a = .ok a' ∧ change b = .ok b' ∧ a'.Alike b' ∧ a.Grown a'

theorem foldl_addDirectory_confined {ways : List DiskPath}
    (habove : ∀ way ∈ ways, Layout.Above way) (h : a.Alike b) :
    (ways.foldl addDirectory a).Alike (ways.foldl addDirectory b) ∧
      a.Grown (ways.foldl addDirectory a) := by
  induction ways generalizing a b with
  | nil => exact ⟨h, .refl a⟩
  | cons way rest ih =>
      obtain ⟨hway, hrest⟩ := List.forall_mem_cons.mp habove
      obtain ⟨halike, hgrown⟩ := ih hrest (h.addDirectory hway.seen)
      exact ⟨halike, (grown_addDirectory a hway).trans hgrown⟩

theorem confined_addDirectories (h : Layout.Place path) :
    Confined fun disk => disk.addDirectories path.dropLast := by
  intro a b halike
  have hseen : Layout.Seen path.dropLast := ⟨path, .inl h, List.dropLast_prefix path⟩
  obtain ⟨halike', hgrown⟩ :=
    foldl_addDirectory_confined (fun way hway => h.above hway) halike
  simp only [addDirectories, halike.anyFile hseen]
  split
  · exact .inl ⟨_, rfl, rfl⟩
  · exact .inr ⟨_, _, rfl, rfl, halike', hgrown⟩

theorem confined_writing (h : Layout.Place path) (content : ByteArray) {refuses : Disk → Bool}
    (hrefuses : ∀ {a b : Disk}, a.Alike b → refuses a = refuses b) (e : DiskError) :
    Confined fun disk => (do
      let disk ← disk.addDirectories path.dropLast
      if refuses disk then throw e
      pure (disk.put path (.file content))) := by
  intro a b halike
  rcases confined_addDirectories h halike with ⟨e, ha, hb⟩ | ⟨a', b', ha, hb, halike', hgrown⟩
  · beta_reduce at ha hb ⊢
    rw [ha, hb]
    exact .inl ⟨e, rfl, rfl⟩
  · beta_reduce at ha hb ⊢
    rw [ha, hb]
    show (∃ e', (if refuses a' then _ else _) = _ ∧ (if refuses b' then _ else _) = _) ∨
      ∃ a'' b'', (if refuses a' then _ else _) = _ ∧ (if refuses b' then _ else _) = _ ∧ _
    rw [hrefuses halike']
    split
    · exact .inl ⟨e, rfl, rfl⟩
    · exact .inr ⟨_, _, rfl, rfl, halike'.put path _, hgrown.trans (grown_put_file a' h content)⟩

theorem confined_writeFile (h : Layout.Place path) (content : ByteArray) :
    Confined fun disk => disk.writeFile path content :=
  confined_writing h content (fun halike => halike.isDirectory h.seen) .isDirectory

theorem confined_createFile (h : Layout.Place path) (content : ByteArray) :
    Confined fun disk => disk.createFile path content :=
  confined_writing h content (fun halike => congrArg Option.isSome (halike.node h.seen))
    .alreadyExists

/-- A change that gives something and leaves a disk whether it fails or not: on disks that are alike
it gives the same, makes them grow and leaves them alike. -/
structure SameChange (before : Disk) (left right : Except StoreError α × Disk) : Prop where
  result : left.1 = right.1
  alike : left.2.Alike right.2
  grown : before.Grown left.2

theorem Confined.sameChange {operation : Disk → Except DiskError Disk} (h : Confined operation)
    (halike : a.Alike b) {refuse : DiskError → StoreError}
    {change : Disk → Except StoreError Unit × Disk}
    (hchange : ∀ disk, change disk = match operation disk with
      | .ok disk' => (.ok (), disk')
      | .error e => (.error (refuse e), disk)) : SameChange a (change a) (change b) := by
  rw [hchange, hchange]
  rcases h halike with ⟨e, ha, hb⟩ | ⟨a', b', ha, hb, halike', hgrown⟩
  · rw [ha, hb]
    exact ⟨rfl, halike, .refl a⟩
  · rw [ha, hb]
    exact ⟨rfl, halike', hgrown⟩

end Disk

/-! ### What is stored -/

namespace Store

variable {a b : Disk} {path : DiskPath}

theorem text?_congr (h : a.Alike b) (hseen : Layout.Seen path) : text? a path = text? b path := by
  rw [text?, text?, h.readText hseen]

theorem schemaText?_congr (h : a.Alike b) (key : ContentKey) :
    schemaText? a key = schemaText? b key :=
  text?_congr h (Layout.place_schemaFile key).seen

theorem document?_congr (h : a.Alike b) (hseen : Layout.Seen path) :
    document? a path = document? b path := by
  rw [document?, document?, text?_congr h hseen]

theorem keys_congr (h : a.Alike b) : keys a = keys b := by
  rw [keys, keys, h.names .schemas]

/-- The entries of a blog are in the files that are listed, whatever these are called. -/
theorem entries_congr (h : a.Alike b) (blog : ContentName) : entries a blog = entries b blog := by
  have hname : IsNameText blog.text := isNameText_iff.mpr blog.safe
  have hlisted : Layout.Listed (Layout.blog blog) := .blog hname
  have hentry : entryAt? a blog = entryAt? b blog := by
    funext file
    have hseen : Layout.Seen (Layout.blog blog ++ [file]) := Layout.seen_file hname file
    rw [entryAt?, entryAt?, document?_congr h hseen]
  rw [entries, entries, h.names hlisted, hentry]

theorem sameChange_writeContent (h : a.Alike b) (hplace : Layout.Place path)
    (content : ByteArray) :
    a.SameChange (writeContent a path content) (writeContent b path content) :=
  (Disk.confined_writeFile hplace content).sameChange h fun disk => writeContent_none disk _ _

theorem sameChange_createContent (h : a.Alike b) (hplace : Layout.Place path)
    (content : ByteArray) :
    a.SameChange (createContent a path content) (createContent b path content) :=
  (Disk.confined_createFile hplace content).sameChange h fun disk => createContent_none disk _ _

/-- An upload takes the first name that is free, and that is the same name on both disks. -/
theorem sameChange_saveFrom (h : a.Alike b) {extension : String}
    (hextension : IsExtensionText extension) (content : ByteArray) (tries : Nat) (stamp : Int) :
    a.SameChange (saveFrom a extension content .none tries stamp)
      (saveFrom b extension content .none tries stamp) := by
  induction tries generalizing a b stamp with
  | zero => exact ⟨rfl, h, .refl a⟩
  | succ tries ih =>
      have hplace := Layout.place_upload stamp hextension
      have hcreated := sameChange_createContent h hplace content
      rw [saveFrom, saveFrom]
      generalize createContent a (Layout.upload (uploadName stamp extension)) content .none =
        left at hcreated ⊢
      generalize createContent b (Layout.upload (uploadName stamp extension)) content .none =
        right at hcreated ⊢
      obtain ⟨result, a'⟩ := left
      obtain ⟨result', b'⟩ := right
      obtain ⟨hresult, halike, hgrown⟩ := hcreated
      cases hresult
      rcases result with (_ | _ | _ | _) | _
      case error.alreadyExists =>
        -- The name is taken on both disks, and both go on to the next stamp.
        obtain ⟨hrest, halike', hgrown'⟩ := ih halike (stamp + 1)
        exact ⟨hrest, halike', hgrown.trans hgrown'⟩
      all_goals exact ⟨rfl, halike, hgrown⟩

end Store

theorem Image.isExtensionText_of_ofRequest {request : Http.Request} {maxBytes : Nat} {image : Image}
    (h : ofRequest request maxBytes = .ok image) : IsExtensionText image.extension := by
  obtain ⟨_, _, -, hsent⟩ := ofRequest_ok h
  exact Image.isExtensionText hsent.extended

namespace Site

variable {α β : Type} {a b : Site}

/-! ### Actions -/

structure Alike (a b : Site) : Prop where
  disk : a.disk.Alike b.disk
  schemas : a.schemas = b.schemas

/-- What is done on two sites that are alike: it has one result, leaves sites that are alike, and
has made the disk of the first grow. -/
structure SameOutcome (before : Disk) (left right : β × Site) : Prop where
  result : left.1 = right.1
  alike : left.2.Alike right.2
  grown : before.Grown left.2.disk

theorem SameOutcome.idle (h : a.Alike b) (result : β) :
    SameOutcome a.disk (result, a) (result, b) :=
  ⟨rfl, h, .refl _⟩

/-- The action looks at nothing but what can be seen, and writes at places alone. -/
def Confined (action : Action α) : Prop :=
  ∀ ⦃a b : Site⦄, a.Alike b → SameOutcome a.disk (a.run action) (b.run action)

theorem confined_pure (value : α) : Confined (pure value) :=
  fun _ _ h => .idle h _

theorem confined_bind {x : Action α} {f : α → Action β} (hx : Confined x)
    (hf : ∀ value, Confined (f value)) : Confined (x >>= f) := by
  intro a b h
  have hfirst := hx h
  rw [run_bind, run_bind]
  generalize a.run x = left at hfirst ⊢
  generalize b.run x = right at hfirst ⊢
  obtain ⟨result, a'⟩ := left
  obtain ⟨result', b'⟩ := right
  obtain ⟨hresult, hmid, hgrown⟩ := hfirst
  -- The results agree, so either both stop here or both go on, and with the same value.
  cases hresult
  cases result with
  | error e => exact ⟨rfl, hmid, hgrown⟩
  | ok value =>
      obtain ⟨hresult, halike, hgrown'⟩ := hf value hmid
      exact ⟨hresult, halike, hgrown.trans hgrown'⟩

theorem confined_check {refuse : ε → Failure} {value : Except ε α} {f : α → Action β}
    (h : ∀ accepted, value = .ok accepted → Confined (f accepted)) :
    Confined (check refuse value >>= f) := by
  intro a b halike
  rw [run_bind, run_bind, run_check, run_check]
  cases value with
  | error e => exact .idle halike _
  | ok accepted => exact h accepted rfl halike

theorem confined_reading {read : Disk → Except StoreError α}
    (h : ∀ {a b : Disk}, a.Alike b → read a = read b) : Confined (reading read) := by
  intro a b halike
  rw [run_reading, run_reading, h halike.disk]
  exact .idle halike _

/-- The schemas at hand are the same on both sides, so a file is read on both or on neither. -/
theorem confined_schema (key : ContentKey) : Confined (schema key) := by
  intro a b halike
  rw [run_schema, run_schema, halike.schemas, Store.schemaText?_congr halike.disk key]
  cases b.schemas.get? key with
  | some schema => exact .idle halike _
  | none =>
      cases Store.schemaText? b.disk key with
      | error e => exact .idle halike _
      | ok found =>
          cases found with
          | none => exact .idle halike _
          | some text =>
              dsimp only
              cases LoadedSchema.read text key.fileName with
              | error e => exact .idle halike _
              | ok schema => exact ⟨rfl, ⟨halike.disk, rfl⟩, .refl _⟩

theorem confined_accept (schema : LoadedSchema) (document : Json) :
    Confined (accept schema document) := by
  intro a b halike
  rw [run_accept, run_accept]
  exact .idle halike _

theorem confined_changing (refuse : StoreError → Failure)
    {change : Disk → Except StoreError α × Disk}
    (h : ∀ ⦃a b : Disk⦄, a.Alike b → a.SameChange (change a) (change b)) :
    Confined (changing refuse change) := by
  intro a b halike
  obtain ⟨hresult, halike', hgrown⟩ := h halike.disk
  rw [run_changing, run_changing, hresult]
  exact ⟨rfl, ⟨halike', halike.schemas⟩, hgrown⟩

theorem confined_reload (key : ContentKey) : Confined (reload key) := by
  intro a b halike
  have hrun (site : Site) : site.run (reload key) =
      (.ok (site.schemas.contains key), { site with schemas := site.schemas.invalidate key }) := rfl
  rw [hrun, hrun, halike.schemas]
  exact ⟨rfl, ⟨halike.disk, rfl⟩, .refl _⟩

theorem confined_documentAt {path : DiskPath} (h : Layout.Seen path) :
    Confined (documentAt path) :=
  confined_bind (confined_reading fun halike => Store.document?_congr halike h) fun _ =>
    confined_pure _

theorem confined_storing (key : ContentKey) (document : Json) (refuse : StoreError → Failure)
    {change : Json → Disk → Except StoreError Unit × Disk}
    (h : ∀ data ⦃a b : Disk⦄, a.Alike b → a.SameChange (change data a) (change data b)) :
    Confined (storing key document .none refuse change) :=
  confined_bind (confined_schema key) fun schema =>
    confined_bind (confined_accept schema document) fun data =>
      confined_bind (confined_changing refuse (h data)) fun _ => confined_pure data

theorem confined_save (key : ContentKey) (document : Json) : Confined (save key document) := by
  rw [save_eq_storing]
  apply confined_storing
  intro data a b halike
  exact Store.sameChange_writeContent halike (Layout.place_document key) _

theorem confined_storeEntry (blog : ContentName) (slug : Slug) (document : Json) (created : Bool) :
    Confined (storeEntry blog slug document created .none) := by
  rw [storeEntry_eq_storing]
  refine confined_bind (confined_storing _ _ _ fun data a b halike => ?_) fun _ => confined_pure _
  have hplace : Layout.Place (Layout.entry blog slug) := Layout.place_entry blog slug
  cases created with
  | true => exact Store.sameChange_createContent halike hplace _
  | false => exact Store.sameChange_writeContent halike hplace _

theorem confined_saveEntry (blog : ContentName) (pathSlug : String) (document : Json)
    (created : Bool) : Confined (saveEntry blog pathSlug document created) := by
  intro a b halike
  rw [run_saveEntry, run_saveEntry]
  cases entrySlug pathSlug document with
  | error e => exact .idle halike _
  | ok slug =>
      have hseen : Layout.Seen (Layout.entry blog slug) := (Layout.place_entry blog slug).seen
      cases created with
      | false => exact confined_storeEntry blog slug document false halike
      | true =>
          dsimp only
          rw [halike.disk.holds hseen]
          cases b.disk.holds (Layout.entry blog slug) with
          | error e => exact .idle halike _
          | ok taken =>
              cases taken with
              | true => exact .idle halike _
              | false => exact confined_storeEntry blog slug document true halike

end Site

namespace Service

open Site

variable {a b : Site}

theorem confined_upload (now : Int) {image : Image} (h : IsExtensionText image.extension) :
    Confined (upload now image) :=
  confined_changing _ fun _ _ halike =>
    Store.sameChange_saveFrom halike h image.content Store.uploadTries now

theorem confined_entryDocument (blog : ContentName) (slug : String) :
    Confined (entryDocument blog slug) := by
  unfold entryDocument
  split
  · exact confined_pure _
  · exact confined_check fun slug _ => confined_documentAt (Layout.place_entry blog slug).seen

theorem confined_perform (config : Config) (now : Int) (request : Http.Request)
    (endpoint : Endpoint) : Confined (perform config now request endpoint) := by
  cases endpoint with
  | liveness | readiness => exact confined_pure _
  | contents => exact confined_bind (confined_reading Store.keys_congr) fun _ => confined_pure _
  | upload =>
      refine confined_check fun image himage => ?_
      have hextension := Image.isExtensionText_of_ofRequest himage
      exact confined_bind (confined_upload now hextension) fun _ => confined_pure _
  | document type name =>
      refine confined_check fun key _ => ?_
      split
      · refine confined_check fun document _ => ?_
        exact confined_bind (confined_save key document) fun _ => confined_pure _
      · refine confined_bind (confined_schema key) fun _ => ?_
        exact confined_bind (confined_documentAt (Layout.place_document key).seen) fun _ =>
          confined_pure _
  | reload type name =>
      refine confined_check fun key _ => ?_
      exact confined_bind (confined_reload key) fun _ => confined_pure _
  | entries name =>
      refine confined_check fun blog _ => ?_
      split
      · refine confined_check fun document _ => ?_
        exact confined_bind (confined_save _ document) fun _ => confined_pure _
      · refine confined_bind (confined_reading fun halike => ?_) fun _ => confined_pure _
        exact Store.entries_congr halike blog
  | entry name slug =>
      refine confined_check fun blog _ => ?_
      split
      · refine confined_check fun document _ => ?_
        exact confined_bind (confined_saveEntry blog slug document _) fun _ => confined_pure _
      · refine confined_bind (confined_schema _) fun _ => ?_
        exact confined_bind (confined_entryDocument blog slug) fun _ => confined_pure _

/-! ### Requests -/

theorem sameOutcome_respond (config : Config) (now : Int) (request : Http.Request)
    (endpoint : Endpoint) (h : a.Alike b) :
    SameOutcome a.disk (respond config now request endpoint a)
      (respond config now request endpoint b) := by
  unfold respond
  split
  · exact .idle h _
  · cases endpoint.decode with
    | error label => exact .idle h _
    | ok endpoint =>
        obtain ⟨hresult, halike, hgrown⟩ := confined_perform config now request endpoint h
        dsimp only
        rw [service_run_eq, service_run_eq]
        exact ⟨congrArg reply hresult, halike, hgrown⟩

/-- The step lemma: one request. -/
theorem sameOutcome_handle (config : Config) (now : Int) (request : Http.Request)
    (h : a.Alike b) :
    SameOutcome a.disk (handle config now request a) (handle config now request b) := by
  unfold handle
  dsimp only
  split
  · exact .idle h _
  · cases Endpoint.ofPath? request.path with
    | none => exact .idle h _
    | some endpoint =>
        obtain ⟨hresponse, halike, hgrown⟩ := sameOutcome_respond config now request endpoint h
        exact ⟨congrArg (finish config request (some endpoint)) hresponse, halike, hgrown⟩

/-- The responses to a run of requests, each with the time at which it arrives. -/
def responses (config : Config) : Site → List (Int × Http.Request) → List Http.Response
  | _, [] => []
  | site, (now, request) :: rest =>
      (handle config now request site).1 ::
        responses config (handle config now request site).2 rest

/-- The run lemma. -/
theorem sameOutcome_run (config : Config) (requests : List (Int × Http.Request)) (h : a.Alike b) :
    SameOutcome a.disk (responses config a requests, after config a requests)
      (responses config b requests, after config b requests) := by
  induction requests generalizing a b with
  | nil => exact .idle h _
  | cons arrival rest ih =>
      obtain ⟨now, request⟩ := arrival
      obtain ⟨hresponse, hmid, hgrown⟩ := sameOutcome_handle config now request h
      obtain ⟨hrest, halike, hgrown'⟩ := ih hmid
      exact ⟨congrArg₂ List.cons hresponse hrest, halike, hgrown.trans hgrown'⟩

/-- Whatever texts are accepted as type, name, slug or file name, the paths that are built from them
are places, and a place is below whatever root just where its names say. In any run of requests the
disk grows at places and nowhere else; and two sites that are alike at the places and above them
give the same responses and stay alike, whatever else is on their disks. -/
theorem paths_confined (config : Config) {a b : Site} (h : a.Alike b)
    (requests : List (Int × Http.Request)) :
    (∀ type name key, ContentKey.ofTexts type name = .ok key →
        Layout.schemaFile key = ["cms", type ++ "." ++ name ++ ".yaml"] ∧
        Layout.Place (Layout.schemaFile key) ∧ Layout.Place (Layout.document key)) ∧
      (∀ name text blog slug, ContentName.ofText name = .ok blog →
        (Slug.ofText text = .ok slug ∨ ∃ document, entrySlug text document = .ok slug) →
          Layout.entry blog slug = ["data", name, slug.text ++ ".json"] ∧
          Layout.Place (Layout.entry blog slug)) ∧
      (∀ fileName extension stamp, Image.extension? fileName = some extension →
        Layout.Place (Layout.upload (Store.uploadName stamp extension))) ∧
      (∀ path, Layout.Place path → (∀ name ∈ path, PathText.IsHarmless name) ∧
        ∀ root, PathText.components (Layout.pathText root path) =
          PathText.components root ++ path) ∧
      a.disk.Grown (after config a requests).disk ∧
      responses config a requests = responses config b requests ∧
      (after config a requests).Alike (after config b requests) := by
  obtain ⟨hresponses, halike, hgrown⟩ := sameOutcome_run config requests h
  refine ⟨?_, ?_, ?_, ?_, hgrown, hresponses, halike⟩
  · intro type name key hkey
    obtain ⟨rfl, rfl⟩ := ContentKey.texts_of_ofTexts hkey
    exact ⟨rfl, Layout.place_schemaFile key, Layout.place_document key⟩
  · intro name text blog slug hblog _
    cases ContentName.text_of_ofText hblog
    exact ⟨rfl, Layout.place_entry blog slug⟩
  · intro fileName extension stamp hextension
    exact Layout.place_upload stamp (Image.isExtensionText hextension)
  · intro path hplace
    refine ⟨hplace.isHarmless, fun root => ?_⟩
    exact Layout.components_pathText root fun name hmem =>
      (hplace.isHarmless name hmem).toIsComponent

def sharedDisk : Disk :=
  pricesDisk.put ["etc", "passwd"] (.file "root".toUTF8)

/-- A schema and an entry that are asked for or saved by way of names that lead up, and an entry
that is saved. -/
def climbingRequests : List (Int × Http.Request) :=
  [(0, ⟨.get, "/api/cms/page/..%2F..%2Fetc%2Fpasswd", [], .empty⟩),
    (1, putJson "/api/cms/blog/news/first"
      "\x7b\"meta\": \x7b\"slug\": \"../../../etc/passwd\"\x7d, \"price\": 1\x7d"),
    (2, putJson "/api/cms/blog/news/first" "\x7b\"price\": 1\x7d")]

theorem alike_sharedDisk : (Site.ofDisk pricesDisk).Alike (Site.ofDisk sharedDisk) := by
  refine ⟨Disk.alike_put_elsewhere pricesDisk ?_ ?_ _, rfl⟩
  · rintro ⟨last, hplace | ⟨name, file, -, rfl⟩, hprefix⟩
    · cases hplace <;> simp [List.cons_prefix_cons] at hprefix
    · simp [List.cons_prefix_cons] at hprefix
  · rintro directory name ⟨⟩ <;> simp [Layout.schemas]

theorem paths_confined_climbing :
    (Site.ofDisk pricesDisk).Alike (Site.ofDisk sharedDisk) ∧
      (responses .default (Site.ofDisk pricesDisk) climbingRequests).map Http.Response.status =
        [400, 422, 200] ∧
      responses .default (Site.ofDisk pricesDisk) climbingRequests =
        responses .default (Site.ofDisk sharedDisk) climbingRequests ∧
      pricesDisk.Grown (after .default (Site.ofDisk pricesDisk) climbingRequests).disk := by
  have hstatus : (responses .default (Site.ofDisk pricesDisk) climbingRequests).map
      Http.Response.status = [400, 422, 200] := by decide +kernel
  obtain ⟨-, -, -, -, hgrown, hresponses, -⟩ :=
    paths_confined .default alike_sharedDisk climbingRequests
  exact ⟨alike_sharedDisk, hstatus, hresponses, hgrown⟩

end Service

end ContentForms
