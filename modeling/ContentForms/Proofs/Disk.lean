import ContentForms.Store.Disk

/-!
What operations on a disk do to the contents of its files. A content is read at one path and needs
no directory listing, so each operation has one law of what is read afterwards at any path: adding
directories changes no content, and writing a file changes the content at its own path.
-/

namespace ContentForms

theorem bind_eq_ok_iff {ε α β : Type} {x : Except ε α} {f : α → Except ε β} {b : β} :
    (x >>= f) = .ok b ↔ ∃ a, x = .ok a ∧ f a = .ok b := by
  cases x with
  | error e => simp [bind, Except.bind]
  | ok a => simp [bind, Except.bind]

theorem map_eq_ok_iff {ε α β : Type} {x : Except ε α} {f : α → β} {b : β} :
    x.map f = .ok b ↔ ∃ a, x = .ok a ∧ f a = b := by
  cases x <;> simp [Except.map]

theorem toOption_eq_some_iff {ε α : Type} {x : Except ε α} {a : α} :
    x.toOption = some a ↔ x = .ok a := by
  cases x <;> simp [Except.toOption]

namespace Disk

variable {disk disk' : Disk} {path : DiskPath} {content : ByteArray}

def content? (disk : Disk) (path : DiskPath) : Option ByteArray :=
  match disk.node? path with
  | some (.file content) => some content
  | _ => none

/-- Afterwards a file has a content, and otherwise there are the same files as before. -/
def Written (disk : Disk) (path : DiskPath) (content : ByteArray) (disk' : Disk) : Prop :=
  ∀ other, disk'.content? other = if other = path then some content else disk.content? other

theorem content?_of_node? (h : disk.node? path = disk'.node? path) :
    disk.content? path = disk'.content? path := by
  rw [content?, content?, h]

theorem node?_put_self (hpath : path ≠ []) (node : DiskNode) :
    (disk.put path node).node? path = some node := by
  simp [node?, put, hpath]

theorem node?_put_of_ne {other : DiskPath} (h : other ≠ path) (node : DiskNode) :
    (disk.put path node).node? other = disk.node? other := by
  by_cases hroot : other = []
  · simp [node?, hroot]
  · simp [node?, put, hroot, FiniteMap.get?_insert_of_ne _ h]

/-! ### Directories -/

theorem content?_addDirectory (disk : Disk) (path other : DiskPath) :
    (disk.addDirectory path).content? other = disk.content? other := by
  unfold addDirectory
  split
  · rfl
  · next hfree =>
      by_cases hother : other = path
      · have hroot : path ≠ [] := by
          rintro rfl
          exact hfree rfl
        have hnone : disk.node? path = none := by simpa using hfree
        rw [hother, content?, node?_put_self hroot, content?, hnone]
      · exact content?_of_node? (node?_put_of_ne hother _)

theorem content?_foldl_addDirectory (paths : List DiskPath) (disk : Disk) (other : DiskPath) :
    (paths.foldl addDirectory disk).content? other = disk.content? other := by
  induction paths generalizing disk with
  | nil => rfl
  | cons path rest ih => rw [List.foldl_cons, ih, content?_addDirectory]

theorem content?_addDirectories (h : disk.addDirectories path = .ok disk') (other : DiskPath) :
    disk'.content? other = disk.content? other := by
  unfold addDirectories at h
  split at h
  · cases h
  · cases h
    exact content?_foldl_addDirectory _ disk other

/-! ### Files -/

theorem content?_put_file (hpath : path ≠ []) (content : ByteArray) (other : DiskPath) :
    (disk.put path (.file content)).content? other =
      if other = path then some content else disk.content? other := by
  split
  · next hother => rw [hother, content?, node?_put_self hpath]
  · next hother => exact content?_of_node? (node?_put_of_ne hother _)

theorem writeFile_eq_ok_iff :
    disk.writeFile path content = .ok disk' ↔
      ∃ base, disk.addDirectories path.dropLast = .ok base ∧ base.isDirectory path = false ∧
        disk' = base.put path (.file content) := by
  rw [writeFile, bind_eq_ok_iff]
  refine exists_congr fun base => and_congr_right fun _ => ?_
  cases base.isDirectory path with
  | true => simp [bind, Except.bind, throw, throwThe, MonadExceptOf.throw]
  | false => simp [pure, Except.pure, eq_comm]

theorem content?_writeFile (hpath : path ≠ []) (h : disk.writeFile path content = .ok disk')
    (other : DiskPath) :
    disk'.content? other = if other = path then some content else disk.content? other := by
  obtain ⟨base, hadd, -, rfl⟩ := writeFile_eq_ok_iff.mp h
  rw [content?_put_file hpath, content?_addDirectories hadd]

theorem createFile_eq_ok (h : disk.createFile path content = .ok disk') :
    ∃ base, disk.addDirectories path.dropLast = .ok base ∧ base.node? path = none ∧
      disk' = base.put path (.file content) := by
  obtain ⟨base, hadd, hwrite⟩ := bind_eq_ok_iff.mp h
  refine ⟨base, hadd, ?_⟩
  cases hnode : base.node? path with
  | some node => simp [hnode, bind, Except.bind, throw, throwThe, MonadExceptOf.throw] at hwrite
  | none => simpa [hnode, pure, Except.pure, eq_comm] using hwrite

theorem content?_createFile (hpath : path ≠ []) (h : disk.createFile path content = .ok disk')
    (other : DiskPath) :
    disk'.content? other = if other = path then some content else disk.content? other := by
  obtain ⟨base, hadd, -, rfl⟩ := createFile_eq_ok h
  rw [content?_put_file hpath, content?_addDirectories hadd]

theorem content?_eq_none_of_createFile (h : disk.createFile path content = .ok disk') :
    disk.content? path = none := by
  obtain ⟨base, hadd, hnode, -⟩ := createFile_eq_ok h
  rw [← content?_addDirectories hadd path, content?, hnode]

/-! ### Places that can be written -/

/-- Nothing on the way to a path keeps a file from being written there, and there is no directory in
its place. -/
structure Writable (disk : Disk) (path : DiskPath) : Prop where
  free : ∀ way ∈ waysTo path.dropLast, disk.isFile way = false
  noDirectory : disk.isDirectory path = false

theorem length_lt_of_mem_waysTo_dropLast {way : DiskPath} (hpath : path ≠ [])
    (h : way ∈ waysTo path.dropLast) : way.length < path.length := by
  obtain ⟨n, hn, rfl⟩ := List.mem_map.mp h
  have hlength : 0 < path.length := List.length_pos_iff.mpr hpath
  simp only [List.mem_range, List.length_dropLast] at hn
  simp only [List.length_take, List.length_dropLast]
  omega

theorem node?_foldl_addDirectory {ways : List DiskPath} (h : path ∉ ways) (disk : Disk) :
    (ways.foldl addDirectory disk).node? path = disk.node? path := by
  induction ways generalizing disk with
  | nil => rfl
  | cons way rest ih =>
      obtain ⟨hway, hrest⟩ := List.ne_and_not_mem_of_not_mem_cons h
      rw [List.foldl_cons, ih hrest, addDirectory]
      split
      · rfl
      · exact node?_put_of_ne hway _

theorem Writable.writeFile (h : disk.Writable path) (content : ByteArray) :
    ∃ disk', disk.writeFile path content = .ok disk' := by
  have hpath : path ≠ [] := by
    rintro rfl
    have hroot := h.noDirectory
    simp [isDirectory, node?] at hroot
  have hfree : ¬(waysTo path.dropLast).any disk.isFile := by
    rw [List.any_eq_true]
    rintro ⟨way, hmem, hfile⟩
    rw [h.free way hmem] at hfile
    cases hfile
  have hself : path ∉ waysTo path.dropLast :=
    fun hmem => Nat.lt_irrefl _ (length_lt_of_mem_waysTo_dropLast hpath hmem)
  have hdirectory : ((waysTo path.dropLast).foldl addDirectory disk).isDirectory path = false := by
    rw [isDirectory, node?_foldl_addDirectory hself]
    exact h.noDirectory
  exact ⟨_, writeFile_eq_ok_iff.mpr ⟨_, if_neg hfree, hdirectory, rfl⟩⟩

/-- Where no file is in the way, a file is created exactly if nothing has its place. -/
theorem createFile_eq (hpath : path ≠ [])
    (hfree : ∀ way ∈ waysTo path.dropLast, disk.isFile way = false) (content : ByteArray) :
    disk.createFile path content =
      if (disk.node? path).isSome then .error .alreadyExists
      else .ok (((waysTo path.dropLast).foldl addDirectory disk).put path (.file content)) := by
  have hadd : disk.addDirectories path.dropLast =
      .ok ((waysTo path.dropLast).foldl addDirectory disk) := by
    rw [addDirectories, if_neg]
    rw [List.any_eq_true]
    rintro ⟨way, hway, hfile⟩
    rw [hfree way hway] at hfile
    cases hfile
  have hself : path ∉ waysTo path.dropLast :=
    fun hmem => Nat.lt_irrefl _ (length_lt_of_mem_waysTo_dropLast hpath hmem)
  rw [← node?_foldl_addDirectory hself disk, createFile, hadd]
  cases hnode : ((waysTo path.dropLast).foldl addDirectory disk).node? path <;>
    simp [bind, Except.bind, hnode, throw, throwThe, MonadExceptOf.throw, pure, Except.pure]

theorem isFile_eq (disk : Disk) (path : DiskPath) :
    disk.isFile path = (disk.content? path).isSome := by
  rw [isFile, content?]
  rcases disk.node? path with _ | _ | _ <;> rfl

/-! ### What stays -/

/-- Whatever is on the first disk is in the same place on the second one. -/
def Extends (before after : Disk) : Prop :=
  ∀ path node, before.node? path = some node → after.node? path = some node

theorem Extends.refl (disk : Disk) : disk.Extends disk :=
  fun _ _ hnode => hnode

theorem Extends.trans {first mid last : Disk} (h : first.Extends mid) (h' : mid.Extends last) :
    first.Extends last :=
  fun path node hnode => h' path node (h path node hnode)

theorem Extends.content? {before after : Disk} (h : before.Extends after)
    (hcontent : before.content? path = some content) : after.content? path = some content := by
  unfold Disk.content? at hcontent
  split at hcontent
  · next hnode =>
      cases hcontent
      rw [Disk.content?, h _ _ hnode]
  · cases hcontent

theorem extends_put (hfree : disk.node? path = none) (node : DiskNode) :
    disk.Extends (disk.put path node) := by
  intro other there hother
  rw [node?_put_of_ne, hother]
  rintro rfl
  rw [hfree] at hother
  cases hother

theorem extends_addDirectory (disk : Disk) (path : DiskPath) :
    disk.Extends (disk.addDirectory path) := by
  unfold addDirectory
  split
  · exact .refl disk
  · next hfree => exact extends_put (by simpa using hfree) _

theorem extends_foldl_addDirectory (ways : List DiskPath) (disk : Disk) :
    disk.Extends (ways.foldl addDirectory disk) := by
  induction ways generalizing disk with
  | nil => exact .refl disk
  | cons way rest ih => exact (extends_addDirectory disk way).trans (ih _)

theorem extends_addDirectories (h : disk.addDirectories path = .ok disk') :
    disk.Extends disk' := by
  unfold addDirectories at h
  split at h
  · cases h
  · cases h
    exact extends_foldl_addDirectory _ disk

theorem extends_createFile (h : disk.createFile path content = .ok disk') :
    disk.Extends disk' := by
  obtain ⟨base, hadd, hfree, rfl⟩ := createFile_eq_ok h
  exact (extends_addDirectories hadd).trans (extends_put hfree _)

end Disk

end ContentForms
