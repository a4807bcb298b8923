import ContentForms.Proofs.Disk
import ContentForms.Store.Uploads

/-!
What a write does to a disk, whichever of its calls fail. One that succeeds has done what the disk
does in a single operation. One that fails leaves every file as it was, with one exception: a new
file that was created and then could not be filled or flushed stays where it is, in the first case
without content. If no call fails of its own account, a write that fails leaves the disk as it was.
-/

namespace ContentForms

namespace Disk

variable {disk disk' : Disk} {path : DiskPath} {content : ByteArray}

theorem put_put (disk : Disk) (path : DiskPath) (first last : DiskNode) :
    (disk.put path first).put path last = disk.put path last := by
  simp only [put, FiniteMap.insert_insert]

def SameFiles (before after : Disk) : Prop :=
  ∀ path, after.content? path = before.content? path

theorem SameFiles.trans {first mid last : Disk} (h : first.SameFiles mid)
    (h' : mid.SameFiles last) : first.SameFiles last :=
  fun path => (h' path).trans (h path)

/-- There is a new file that could not be filled or flushed, and otherwise the same files as
before. -/
def GainsUnfinished (faults : Faults) (before after : Disk) : Prop :=
  ∃ path content,
    ((faults.error? (.fill path)).isSome ∧ content = .empty ∨
      (faults.error? (.flush path)).isSome) ∧
    before.content? path = none ∧ before.Written path content after

/-- What may be left by a change that fails, if the change creates files or not. -/
structure Spared (faults : Faults) (creates : Prop) (before after : Disk) : Prop where
  undisturbed : (∀ call, faults.error? call = none) → after = before
  files : before.SameFiles after ∨ creates ∧ before.GainsUnfinished faults after

namespace Spared

variable {faults : Faults} {creates creates' : Prop} {before after : Disk}

theorem refl (faults : Faults) (creates : Prop) (disk : Disk) : disk.Spared faults creates disk :=
  ⟨fun _ => rfl, .inl fun _ => rfl⟩

theorem mono (h : before.Spared faults creates after) (himp : creates → creates') :
    before.Spared faults creates' after :=
  ⟨h.undisturbed, h.files.imp_right (And.imp_left himp)⟩

theorem of_none (h : before.Spared .none creates after) : after = before :=
  h.undisturbed fun _ => rfl

theorem trans {mid : Disk} (hsame : before.SameFiles mid)
    (hmid : (∀ call, faults.error? call = none) → mid = before)
    (h : mid.Spared faults creates after) : before.Spared faults creates after where
  undisturbed hnone := (h.undisturbed hnone).trans (hmid hnone)
  files := by
    rcases h.files with hfiles | ⟨hcreates, path, content, hfault, hfree, hwritten⟩
    · exact .inl (hsame.trans hfiles)
    · refine .inr ⟨hcreates, path, content, hfault, (hsame path).symm.trans hfree, fun other => ?_⟩
      rw [hwritten, hsame]

theorem unfinished {path : DiskPath} {content : ByteArray} (hpath : path ≠ [])
    (h : before.createFile path content = .ok after)
    (hfault : (faults.error? (.fill path)).isSome ∧ content = .empty ∨
      (faults.error? (.flush path)).isSome)
    (hnever : ¬ ∀ call, faults.error? call = none) : before.Spared faults True after where
  undisturbed hnone := absurd hnone hnever
  files := .inr ⟨trivial, path, content, hfault, content?_eq_none_of_createFile h,
    content?_createFile hpath h⟩

end Spared

theorem sameFiles_addDirectories (h : disk.addDirectories path = .ok disk') :
    disk.SameFiles disk' :=
  content?_addDirectories h

end Disk

namespace Store

variable {disk disk' : Disk} {path : DiskPath} {content : ByteArray} {faults : Faults}

/-! ### Writing a file -/

inductive Writing (disk : Disk) (path : DiskPath) (content : ByteArray) (faults : Faults) :
    Except StoreError Unit × Disk → Prop
  | done {disk' : Disk} (written : disk.writeFile path content = .ok disk') :
      Writing disk path content faults (.ok (), disk')
  | fails {e : StoreError} {disk' : Disk} (spared : disk.Spared faults False disk') :
      Writing disk path content faults (.error e, disk')

theorem writing_writeContent (disk : Disk) (path : DiskPath) (content : ByteArray)
    (faults : Faults) :
    Writing disk path content faults (writeContent disk path content faults) := by
  unfold writeContent
  split
  · exact .fails (.refl _ _ _)
  · next base hbase =>
      have hadd := (Faults.on_eq_ok hbase).2
      split
      · next e _ hfault =>
          -- The directories are there, and the file is not written.
          refine .fails ⟨fun hnone => ?_, .inl (Disk.sameFiles_addDirectories hadd)⟩
          rw [hnone] at hfault
          cases hfault
      · next written hwritten => exact .done hwritten
      · exact .fails (.refl _ _ _)

/-- Without a fault a write is one operation of the disk. -/
theorem writeContent_none (disk : Disk) (path : DiskPath) (content : ByteArray) :
    writeContent disk path content =
      match disk.writeFile path content with
      | .ok written => (.ok (), written)
      | .error e => (.error (.disk e), disk) := by
  unfold writeContent
  cases hadd : disk.addDirectories path.dropLast with
  | error e =>
      have hwrite : disk.writeFile path content = .error e := by
        rw [Disk.writeFile, hadd]
        rfl
      rw [hwrite]
      rfl
  | ok base => cases disk.writeFile path content <;> rfl

/-! ### Creating a file -/

inductive Creating (disk : Disk) (path : DiskPath) (content : ByteArray) (faults : Faults) :
    Except StoreError Unit × Disk → Prop
  | done {disk' : Disk} (created : disk.createFile path content = .ok disk') :
      Creating disk path content faults (.ok (), disk')
  | taken {disk' : Disk} (sameFiles : disk.SameFiles disk')
      (undisturbed : (∀ call, faults.error? call = none) → disk' = disk) :
      Creating disk path content faults (.error (.alreadyExists path), disk')
  | fails {cause : DiskError} {disk' : Disk} (spared : disk.Spared faults True disk') :
      Creating disk path content faults (.error (.disk cause), disk')

theorem createFile_of_addDirectories {base : Disk}
    (h : disk.addDirectories path.dropLast = .ok base) (content : ByteArray) :
    disk.createFile path content =
      if (base.node? path).isSome then .error .alreadyExists
      else .ok (base.put path (.file content)) := by
  rw [Disk.createFile, h]
  show (if (base.node? path).isSome then _ else _) = _
  split <;> rfl

theorem createFile_of_empty {created : Disk} (h : disk.createFile path .empty = .ok created)
    (content : ByteArray) :
    disk.createFile path content = .ok (created.put path (.file content)) := by
  obtain ⟨base, hadd, hfree, rfl⟩ := Disk.createFile_eq_ok h
  rw [createFile_of_addDirectories hadd, hfree, Disk.put_put]
  rfl

theorem creating_createContent (hpath : path ≠ []) (disk : Disk) (content : ByteArray)
    (faults : Faults) :
    Creating disk path content faults (createContent disk path content faults) := by
  unfold createContent
  split
  · exact .fails (.refl _ _ _)
  · next base hbase =>
      have hsame := Disk.sameFiles_addDirectories (Faults.on_eq_ok hbase).2
      split
      · next hfault =>
          refine .taken hsame fun hnone => ?_
          rw [hnone] at hfault
          cases hfault
      · next e _ _ hfault =>
          refine .fails ⟨fun hnone => ?_, .inl hsame⟩
          rw [hnone] at hfault
          cases hfault
      · exact .taken (fun _ => rfl) fun _ => rfl
      · exact .fails (.refl _ _ _)
      · next created hcreated =>
          split
          · next e hfault =>
              -- The file was created, and stays without content.
              have hsome : (faults.error? (.fill path)).isSome := by rw [hfault]; rfl
              refine .fails (.unfinished hpath hcreated (.inl ⟨hsome, rfl⟩) fun hnone => ?_)
              rw [hnone] at hfault
              cases hfault
          · have hfilled := createFile_of_empty hcreated content
            split
            · next e hfault =>
                -- The file was created and filled, and stays with its content.
                have hsome : (faults.error? (.flush path)).isSome := by rw [hfault]; rfl
                refine .fails (.unfinished hpath hfilled (.inr hsome) fun hnone => ?_)
                rw [hnone] at hfault
                cases hfault
            · exact .done hfilled

/-- How a creation fails that the disk refuses. -/
def refusal (path : DiskPath) : DiskError → StoreError
  | .alreadyExists => .alreadyExists path
  | e => .disk e

theorem addDirectories_eq_error {e : DiskError} (h : disk.addDirectories path = .error e) :
    e = .notDirectory := by
  unfold Disk.addDirectories at h
  split at h <;> cases h
  rfl

theorem createContent_none (disk : Disk) (path : DiskPath) (content : ByteArray) :
    createContent disk path content =
      match disk.createFile path content with
      | .ok created => (.ok (), created)
      | .error e => (.error (refusal path e), disk) := by
  unfold createContent
  cases hadd : disk.addDirectories path.dropLast with
  | error e =>
      cases addDirectories_eq_error hadd
      have hcreate : disk.createFile path content = .error .notDirectory := by
        rw [Disk.createFile, hadd]
        rfl
      rw [hcreate]
      rfl
  | ok base =>
      simp only [createFile_of_addDirectories hadd]
      by_cases htaken : (base.node? path).isSome
      · simp only [htaken]
        rfl
      · simp only [htaken]
        rw [Faults.none_on]
        simp [Faults.none, Disk.put_put]

/-! ### Storing an upload -/

/-- What comes of an upload. The directories may have been added before the file is created. -/
inductive Uploading (disk : Disk) (content : ByteArray) (faults : Faults) :
    Except StoreError String × Disk → Prop
  | done {fileName : String} {mid disk' : Disk} (sameFiles : disk.SameFiles mid)
      (undisturbed : (∀ call, faults.error? call = none) → mid = disk)
      (created : mid.createFile (Layout.upload fileName) content = .ok disk') :
      Uploading disk content faults (.ok fileName, disk')
  | fails {e : StoreError} {disk' : Disk} (spared : disk.Spared faults True disk') :
      Uploading disk content faults (.error e, disk')

theorem uploading_saveFrom (disk : Disk) (extension : String) (content : ByteArray)
    (faults : Faults) (tries : Nat) (stamp : Int) :
    Uploading disk content faults (saveFrom disk extension content faults tries stamp) := by
  induction tries generalizing disk stamp with
  | zero => exact .fails (.refl _ _ _)
  | succ tries ih =>
      have hpath : Layout.upload (uploadName stamp extension) ≠ [] := List.cons_ne_nil _ _
      have hcreating := creating_createContent hpath disk content faults
      rw [saveFrom]
      generalize createContent disk (Layout.upload (uploadName stamp extension)) content faults =
        outcome at hcreating ⊢
      cases hcreating with
      | done created => exact .done (fun _ => rfl) (fun _ => rfl) created
      | fails spared => exact .fails spared
      | @taken mid sameFiles undisturbed =>
          -- What the attempt under this name leaves has the same files.
          dsimp only
          have hrest := ih mid (stamp + 1)
          generalize saveFrom mid extension content faults tries (stamp + 1) = rest at hrest ⊢
          cases hrest with
          | done sameFiles' undisturbed' created =>
              exact .done (sameFiles.trans sameFiles')
                (fun hnone => (undisturbed' hnone).trans (undisturbed hnone)) created
          | fails spared => exact .fails (.trans sameFiles undisturbed spared)

theorem saveFrom_none (disk : Disk) (extension : String) (content : ByteArray) (tries : Nat)
    (stamp : Int) :
    saveFrom disk extension content .none (tries + 1) stamp =
      match disk.createFile (Layout.upload (uploadName stamp extension)) content with
      | .ok disk' => (.ok (uploadName stamp extension), disk')
      | .error .alreadyExists => saveFrom disk extension content .none tries (stamp + 1)
      | .error e => (.error (.disk e), disk) := by
  rw [saveFrom, createContent_none]
  cases disk.createFile (Layout.upload (uploadName stamp extension)) content with
  | ok disk' => rfl
  | error e => cases e <;> rfl

end Store

end ContentForms
