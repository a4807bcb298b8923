import ContentForms.Proofs.Confinement

/-!
The names of uploads. An upload takes the first of sixty-four names that nothing has yet, and since
what is in the directory of uploads stays there, a name that was given is never free again. This
carries a whole run: whatever the clock shows, the names given in it differ, and each file holds
what was uploaded under its name. An upload for which no name is left changes nothing.

The extension of a name is that of the file name that came with the upload, of which nothing is
asked but letters and digits. The declared type, which has to be one of an image, does not enter
into it, so what is declared and what the name says can differ.
-/

namespace ContentForms

namespace Store

variable {disk : Disk} {extension : String} {content : ByteArray} {stamp : Int} {tries k : Nat}

/-- Something has the name already that an upload at this time would get. -/
def IsTaken (disk : Disk) (extension : String) (stamp : Int) : Prop :=
  (disk.node? (Layout.upload (uploadName stamp extension))).isSome

instance (disk : Disk) (extension : String) (stamp : Int) :
    Decidable (IsTaken disk extension stamp) :=
  inferInstanceAs (Decidable (_ = true))

/-- Of so many stamps in succession, the first whose name is free, by its distance from the first
of them. -/
structure FirstFree (disk : Disk) (extension : String) (stamp : Int) (tries k : Nat) : Prop where
  within : k < tries
  free : ¬IsTaken disk extension (stamp + k)
  passed : ∀ j < k, IsTaken disk extension (stamp + j)

theorem FirstFree.not_all_taken (h : FirstFree disk extension stamp tries k) :
    ¬∀ j < tries, IsTaken disk extension (stamp + j) :=
  fun htaken => h.free (htaken k h.within)

theorem FirstFree.unique {k' : Nat} (h : FirstFree disk extension stamp tries k)
    (h' : FirstFree disk extension stamp tries k') : k = k' := by
  rcases Nat.lt_trichotomy k k' with hlt | heq | hlt
  · exact absurd (h'.passed k hlt) h.free
  · exact heq
  · exact absurd (h.passed k' hlt) h'.free

theorem next_stamp (stamp : Int) (k : Nat) : stamp + 1 + k = stamp + (k + 1 : Nat) := by
  push_cast
  ring

theorem FirstFree.succ (htaken : IsTaken disk extension stamp)
    (h : FirstFree disk extension (stamp + 1) tries k) :
    FirstFree disk extension stamp (tries + 1) (k + 1) where
  within := Nat.succ_lt_succ h.within
  free := by
    rw [← next_stamp]
    exact h.free
  passed j hj := by
    cases j with
    | zero => rwa [Nat.cast_zero, add_zero]
    | succ j =>
        rw [← next_stamp]
        exact h.passed j (Nat.lt_of_succ_lt_succ hj)

/-- As long as no file stands in place of their directory, uploads fail for want of names only. -/
theorem createFile_upload (hopen : disk.isFile Layout.uploads = false) (fileName : String)
    (content : ByteArray) :
    disk.createFile (Layout.upload fileName) content =
      if (disk.node? (Layout.upload fileName)).isSome then .error .alreadyExists
      else .ok ((disk.addDirectory Layout.uploads).put (Layout.upload fileName)
        (.file content)) := by
  have hpath : Layout.upload fileName ≠ [] := List.cons_ne_nil _ _
  have hways : Disk.waysTo (Layout.upload fileName).dropLast = [Layout.uploads] := rfl
  rw [Disk.createFile_eq hpath (by simpa [hways] using hopen), hways]
  rfl

theorem saveFrom_of_taken (hopen : disk.isFile Layout.uploads = false)
    (h : IsTaken disk extension stamp) (content : ByteArray) (tries : Nat) :
    saveFrom disk extension content .none (tries + 1) stamp =
      saveFrom disk extension content .none tries (stamp + 1) := by
  rw [IsTaken] at h
  rw [saveFrom_none, createFile_upload hopen, if_pos h]

theorem saveFrom_of_free (hopen : disk.isFile Layout.uploads = false)
    (h : ¬IsTaken disk extension stamp) (content : ByteArray) (tries : Nat) :
    ∃ disk', disk.createFile (Layout.upload (uploadName stamp extension)) content = .ok disk' ∧
      saveFrom disk extension content .none (tries + 1) stamp =
        (.ok (uploadName stamp extension), disk') := by
  rw [IsTaken] at h
  rw [saveFrom_none, createFile_upload hopen, if_neg h]
  exact ⟨_, rfl, rfl⟩

/-- Either all the names are taken, or the upload gets the first free one. -/
theorem saveFrom_cases (hopen : disk.isFile Layout.uploads = false) (extension : String)
    (content : ByteArray) (tries : Nat) (stamp : Int) :
    (∀ k < tries, IsTaken disk extension (stamp + k)) ∧
        saveFrom disk extension content .none tries stamp = (.error .noUploadName, disk) ∨
      ∃ k disk', FirstFree disk extension stamp tries k ∧
        disk.createFile (Layout.upload (uploadName (stamp + k) extension)) content = .ok disk' ∧
        saveFrom disk extension content .none tries stamp =
          (.ok (uploadName (stamp + k) extension), disk') := by
  induction tries generalizing stamp with
  | zero => exact .inl ⟨fun k hk => absurd hk (Nat.not_lt_zero k), rfl⟩
  | succ tries ih =>
      by_cases htaken : IsTaken disk extension stamp
      · rw [saveFrom_of_taken hopen htaken]
        rcases ih (stamp + 1) with ⟨hall, hfails⟩ | ⟨k, disk', hfirst, hcreated, hsaved⟩
        · refine .inl ⟨fun k hk => ?_, hfails⟩
          cases k with
          | zero => rwa [Nat.cast_zero, add_zero]
          | succ k =>
              rw [← next_stamp]
              exact hall k (Nat.lt_of_succ_lt_succ hk)
        · rw [next_stamp] at hcreated hsaved
          exact .inr ⟨k + 1, disk', hfirst.succ htaken, hcreated, hsaved⟩
      · obtain ⟨disk', hcreated, hsaved⟩ := saveFrom_of_free hopen htaken content tries
        have hhere : stamp + (0 : Nat) = stamp := by rw [Nat.cast_zero, add_zero]
        refine .inr ⟨0, disk', ⟨Nat.succ_pos tries, ?_, fun j hj => ?_⟩, ?_, ?_⟩
        · rwa [hhere]
        · exact absurd hj (Nat.not_lt_zero j)
        · rwa [hhere]
        · rwa [hhere]

end Store

namespace Service

open Site Store

variable {site : Site} {now : Int} {image : Image}

/-- What comes of an upload: it fails for want of a name and leaves the site as it is, or it is
stored as a new file under the first name that is free. -/
inductive Storing (site : Site) (now : Int) (image : Image) : Except Failure String → Site → Prop
  | exhausted (taken : ∀ k < uploadTries, IsTaken site.disk image.extension (now + k)) :
      Storing site now image (.error (.ofStore .noUploadName)) site
  | stored {k : Nat} {disk : Disk}
      (first : FirstFree site.disk image.extension now uploadTries k)
      (created : site.disk.createFile (Layout.upload (uploadName (now + k) image.extension))
        image.content = .ok disk) :
      Storing site now image (.ok (uploadName (now + k) image.extension)) { site with disk }

theorem storing_upload (hopen : site.disk.isFile Layout.uploads = false) (now : Int)
    (image : Image) :
    Storing site now image (site.run (upload now image)).1 (site.run (upload now image)).2 := by
  rw [run_upload, saveUpload]
  rcases saveFrom_cases hopen image.extension image.content uploadTries now with
    ⟨htaken, hfails⟩ | ⟨k, disk', hfirst, hcreated, hsaved⟩
  · rw [hfails]
    exact .exhausted htaken
  · rw [hsaved]
    exact .stored hfirst hcreated

namespace Storing

variable {site' : Site} {result : Except Failure String} {fileName : String}

theorem keeps (h : Storing site now image result site') : site.disk.Extends site'.disk := by
  cases h with
  | exhausted => exact .refl _
  | stored _ created => exact Disk.extends_createFile created

theorem isFile_uploads (h : Storing site now image result site')
    (hopen : site.disk.isFile Layout.uploads = false) :
    site'.disk.isFile Layout.uploads = false := by
  cases h with
  | exhausted => exact hopen
  | stored _ created =>
      rwa [Disk.isFile_eq, Disk.content?_createFile (List.cons_ne_nil _ _) created,
        if_neg (by simp [Layout.uploads]), ← Disk.isFile_eq]

theorem error_iff (h : Storing site now image result site') :
    (∃ failure, result = .error failure) ↔
      ∀ k < uploadTries, IsTaken site.disk image.extension (now + k) := by
  cases h with
  | exhausted taken => exact iff_of_true ⟨_, rfl⟩ taken
  | stored first => exact iff_of_false (by simp) first.not_all_taken

theorem of_error {failure : Failure} (h : Storing site now image (.error failure) site') :
    failure = .ofStore .noUploadName ∧ site' = site := by
  cases h with
  | exhausted => exact ⟨rfl, rfl⟩

theorem ok_iff (h : Storing site now image result site') :
    result = .ok fileName ↔ ∃ k, FirstFree site.disk image.extension now uploadTries k ∧
      fileName = uploadName (now + k) image.extension := by
  cases h with
  | exhausted taken =>
      refine iff_of_false (by simp) ?_
      rintro ⟨k, hfirst, -⟩
      exact hfirst.not_all_taken taken
  | @stored k _ first =>
      constructor
      · intro hname
        cases hname
        exact ⟨k, first, rfl⟩
      · rintro ⟨k', hfirst, rfl⟩
        rw [first.unique hfirst]

theorem written (h : Storing site now image (.ok fileName) site') :
    site.disk.Written (Layout.upload fileName) image.content site'.disk := by
  cases h with
  | stored _ created => exact Disk.content?_createFile (List.cons_ne_nil _ _) created

theorem node? (h : Storing site now image (.ok fileName) site') :
    site.disk.node? (Layout.upload fileName) = none ∧
      site'.disk.node? (Layout.upload fileName) = some (.file image.content) := by
  cases h with
  | stored first created =>
      obtain ⟨base, -, -, hput⟩ := Disk.createFile_eq_ok created
      refine ⟨by simpa [IsTaken] using first.free, ?_⟩
      rw [hput]
      exact Disk.node?_put_self (List.cons_ne_nil _ _) _

end Storing

/-! ### Runs of uploads -/

/-- The site after uploads in succession, each with the time of its arrival. -/
def afterUploads (site : Site) (arrivals : List (Int × Image)) : Site :=
  arrivals.foldl (fun site arrival => (site.run (upload arrival.1 arrival.2)).2) site

/-- The names that uploads in succession are given. Those that fail are given none. -/
def namesGiven (site : Site) : List (Int × Image) → List String
  | [] => []
  | (now, image) :: rest =>
      (site.run (upload now image)).1.toOption.toList ++
        namesGiven (site.run (upload now image)).2 rest

/-- A run keeps what is there, and no file comes in the way of the uploads after it. -/
theorem afterUploads_keeps (hopen : site.disk.isFile Layout.uploads = false)
    (arrivals : List (Int × Image)) :
    site.disk.Extends (afterUploads site arrivals).disk ∧
      (afterUploads site arrivals).disk.isFile Layout.uploads = false := by
  induction arrivals generalizing site with
  | nil => exact ⟨.refl _, hopen⟩
  | cons arrival rest ih =>
      have hstep := storing_upload hopen arrival.1 arrival.2
      obtain ⟨hrest, hlast⟩ := ih (hstep.isFile_uploads hopen)
      exact ⟨hstep.keeps.trans hrest, hlast⟩

theorem mem_toList_toOption {ε α : Type} {result : Except ε α} {a : α} :
    a ∈ result.toOption.toList ↔ result = .ok a := by
  rw [Option.mem_toList, toOption_eq_some_iff]

theorem node?_of_mem_namesGiven (hopen : site.disk.isFile Layout.uploads = false)
    {arrivals : List (Int × Image)} {fileName : String} (h : fileName ∈ namesGiven site arrivals) :
    site.disk.node? (Layout.upload fileName) = none := by
  induction arrivals generalizing site with
  | nil => cases h
  | cons arrival rest ih =>
      have hstep := storing_upload hopen arrival.1 arrival.2
      rcases List.mem_append.mp h with hhere | hlater
      · rw [mem_toList_toOption] at hhere
        rw [hhere] at hstep
        exact hstep.node?.1
      · have hfree := ih (hstep.isFile_uploads hopen) hlater
        cases hnode : site.disk.node? (Layout.upload fileName) with
        | none => rfl
        | some node =>
            rw [hstep.keeps _ _ hnode] at hfree
            cases hfree

theorem nodup_namesGiven (hopen : site.disk.isFile Layout.uploads = false)
    (arrivals : List (Int × Image)) : (namesGiven site arrivals).Nodup := by
  induction arrivals generalizing site with
  | nil => exact .nil
  | cons arrival rest ih =>
      have hstep := storing_upload hopen arrival.1 arrival.2
      have hrest := hstep.isFile_uploads hopen
      refine List.nodup_append.mpr ⟨Option.toList_nodup _, ih hrest, ?_⟩
      rintro fileName hhere other hlater rfl
      rw [mem_toList_toOption] at hhere
      rw [hhere] at hstep
      -- The name that is given here is taken from now on.
      have htaken := hstep.node?.2
      rw [node?_of_mem_namesGiven hrest hlater] at htaken
      cases htaken

theorem afterUploads_append (site : Site) (before rest : List (Int × Image)) :
    afterUploads site (before ++ rest) = afterUploads (afterUploads site before) rest :=
  List.foldl_append

/-- In every run of uploads, whatever the clock shows at each of them, the names given differ. An
upload gets the first name that is free, changes no other file, and has its content under that name
however the run goes on. It fails exactly if all sixty-four names are taken, and then leaves the
site as it is. -/
theorem uploads_never_overwrite (site : Site)
    (hopen : site.disk.isFile Layout.uploads = false) :
    (∀ arrivals, (namesGiven site arrivals).Nodup) ∧
      ∀ (before : List (Int × Image)) (now : Int) (image : Image),
        let mid := afterUploads site before
        let answer := mid.run (upload now image)
        ((∃ failure, answer.1 = .error failure) ↔
          ∀ k < 64, IsTaken mid.disk image.extension (now + (k : Nat))) ∧
        (∀ failure, answer.1 = .error failure →
          failure = .ofStore .noUploadName ∧ answer.2 = mid) ∧
        (∀ fileName, answer.1 = .ok fileName ↔
          ∃ k, FirstFree mid.disk image.extension now 64 k ∧
            fileName = uploadName (now + k) image.extension) ∧
        ∀ fileName, answer.1 = .ok fileName →
          mid.disk.Written (Layout.upload fileName) image.content answer.2.disk ∧
          ∀ rest, (afterUploads site (before ++ (now, image) :: rest)).disk.content?
            (Layout.upload fileName) = some image.content := by
  refine ⟨nodup_namesGiven hopen, fun before now image => ?_⟩
  have hmid := (afterUploads_keeps hopen before).2
  have hstep := storing_upload hmid now image
  have hafter (rest : List (Int × Image)) :
      afterUploads site (before ++ (now, image) :: rest) =
        afterUploads ((afterUploads site before).run (upload now image)).2 rest :=
    afterUploads_append site before _
  simp only [hafter]
  generalize (afterUploads site before).run (upload now image) = answer at hstep ⊢
  refine ⟨hstep.error_iff, ?_, fun fileName => hstep.ok_iff, ?_⟩
  · intro failure hfails
    rw [hfails] at hstep
    exact hstep.of_error
  · intro fileName hstored
    have hrest (rest : List (Int × Image)) :=
      (afterUploads_keeps (hstep.isFile_uploads hmid) rest).1
    rw [hstored] at hstep
    refine ⟨hstep.written, fun rest => (hrest rest).content? ?_⟩
    rw [Disk.content?, hstep.node?.2]

/-- Three uploads of one kind, two at the same moment and one when the clock has gone back. -/
def hastyUploads : List (Int × Image) :=
  [(5, ⟨"png", "a".toUTF8⟩), (5, ⟨"png", "b".toUTF8⟩), (4, ⟨"png", "c".toUTF8⟩)]

theorem uploads_never_overwrite_hasty :
    (Site.ofDisk .empty).disk.isFile Layout.uploads = false ∧
      namesGiven (.ofDisk .empty) hastyUploads = ["5.png", "6.png", "4.png"] ∧
      (namesGiven (.ofDisk .empty) hastyUploads).Nodup ∧
      (afterUploads (.ofDisk .empty) hastyUploads).disk.content? (Layout.upload "5.png") =
        some "a".toUTF8 := by
  have hopen : (Site.ofDisk .empty).disk.isFile Layout.uploads = false := rfl
  obtain ⟨hnodup, hruns⟩ := uploads_never_overwrite (.ofDisk .empty) hopen
  obtain ⟨-, -, hname, hkept⟩ := hruns [] 5 ⟨"png", "a".toUTF8⟩
  have hfirst : FirstFree Disk.empty "png" 5 64 0 :=
    ⟨by decide, by decide, fun j hj => absurd hj (Nat.not_lt_zero j)⟩
  have hstored := (hname "5.png").mpr ⟨0, hfirst, by decide⟩
  exact ⟨hopen, by decide +kernel, hnodup _, (hkept "5.png" hstored).2 _⟩

end Service

/-! ### Where uploads come from -/

theorem Store.name_of_saveFrom {disk disk' : Disk} {extension fileName : String}
    {content : ByteArray} {tries : Nat} {stamp : Int}
    (h : saveFrom disk extension content .none tries stamp = (.ok fileName, disk')) :
    ∃ k < tries, fileName = uploadName (stamp + (k : Nat)) extension := by
  induction tries generalizing stamp with
  | zero => cases h
  | succ tries ih =>
      rw [saveFrom_none] at h
      split at h
      · cases h
        exact ⟨0, Nat.succ_pos tries, by rw [Nat.cast_zero, add_zero]⟩
      · obtain ⟨k, hk, hname⟩ := ih h
        exact ⟨k + 1, Nat.succ_lt_succ hk, by rw [hname, next_stamp]⟩
      · cases h

theorem Char.toLower_eq_self {c : Char} (h : 'a' ≤ c ∧ c ≤ 'z' ∨ '0' ≤ c ∧ c ≤ '9') :
    c.toLower = c := by
  unfold Char.toLower
  split
  · next hupper =>
      obtain ⟨hlow, hhigh⟩ := hupper
      change 65 ≤ c.val.toNat at hlow
      change c.val.toNat ≤ 90 at hhigh
      rcases h with ⟨hletter, -⟩ | ⟨-, hdigit⟩
      · change 97 ≤ c.val.toNat at hletter
        omega
      · change c.val.toNat ≤ 57 at hdigit
        omega
  · rfl

/-- In the name of a stored file the extension is found again. -/
theorem Image.extension?_uploadName (stamp : Int) {extension : String}
    (h : IsExtensionText extension) :
    extension? (Store.uploadName stamp extension) = some extension := by
  have hname : (Store.uploadName stamp extension).toList =
      Text.decimalInt stamp ++ '.' :: extension.toList := by
    simp [Store.uploadName]
  have hdot : '.' ∉ extension.toList := fun hmem => absurd (h.plain '.' hmem) (by decide)
  have hlower : extension.toList.map Char.toLower = extension.toList :=
    (List.map_congr_left fun c hc => Char.toLower_eq_self (h.plain c hc)).trans (List.map_id _)
  have hplain : extension.toList.all Char.isAlphanum :=
    List.all_eq_true.mpr fun c hc => isAlphanum_iff.mpr (.inr (h.plain c hc))
  have hsome : extension.toList.isEmpty = false :=
    List.isEmpty_eq_false_iff.mpr (List.length_pos_iff.mp h.notEmpty)
  have hshort : ¬maxExtensionLength < extension.toList.length := Nat.not_lt.mpr h.short
  rw [extension?, hname, Text.splitLast?_append hdot]
  simp [hsome, hshort, hplain, hlower]

namespace Service

open Site Store

variable {config : Config} {site : Site}

/-- The files that a request can leave in the directory of uploads, by the file name under which
their content was sent. -/
inductive Leaves (config : Config) : Int × Http.Request → String → String → ByteArray → Prop
  | upload {now : Int} {request : Http.Request} {part : Http.Part} {image : Image}
      {sentAs : String} {k : Nat}
      (first : request.firstPart? config.maxBodyBytes = some part)
      (sent : image.SentIn part sentAs) (within : k < 64) :
      Leaves config (now, request) sentAs (uploadName (now + k) image.extension) image.content

theorem Leaves.extension?_eq {arrival : Int × Http.Request} {sentAs fileName : String}
    {content : ByteArray} (h : Leaves config arrival sentAs fileName content) :
    Image.extension? fileName = Image.extension? sentAs := by
  cases h with
  | upload first sent within =>
      rw [sent.extended, Image.extension?_uploadName _ (Image.isExtensionText sent.extended)]

theorem name_of_run_upload {now : Int} {image : Image} {fileName : String} {site' : Site}
    (h : site.run (upload now image) = (.ok fileName, site')) :
    ∃ k < 64, fileName = uploadName (now + (k : Nat)) image.extension := by
  rw [run_upload] at h
  rcases hsave : saveUpload site.disk now image.extension image.content with ⟨_ | name, disk⟩
  · rw [hsave] at h
    cases h
  · rw [hsave] at h
    cases h
    exact name_of_saveFrom hsave

theorem perform_upload_leaves {now : Int} {request : Http.Request} {site' : Site}
    {result : Except Failure Http.Response}
    (h : site.run (perform config now request .upload) = (result, site')) :
    site'.disk = site.disk ∨
      ∃ sentAs fileName content, Leaves config (now, request) sentAs fileName content ∧
        site.disk.Written (Layout.upload fileName) content site'.disk := by
  unfold perform at h
  rw [run_bind, run_check] at h
  cases himage : Image.ofRequest request config.maxBodyBytes with
  | error failure =>
      rw [himage] at h
      cases h
      exact .inl rfl
  | ok image =>
      rw [himage] at h
      simp only [Except.mapError, run_bind] at h
      rcases hupload : site.run (upload now image) with ⟨failure | fileName, mid⟩
      · rw [hupload] at h
        cases h
        exact .inl (atomic_upload now image .none hupload).loaded_of_none.disk
      · rw [hupload] at h
        cases h
        obtain ⟨part, sentAs, hpart, hsent⟩ := Image.ofRequest_ok himage
        obtain ⟨-, hwritten, -⟩ := run_upload_ok hupload
        obtain ⟨k, hk, rfl⟩ := name_of_run_upload hupload
        exact .inr ⟨sentAs, _, _, .upload hpart hsent hk, hwritten⟩

/-- What a request does to the directory of uploads: nothing, or it leaves one new file. -/
theorem handle_uploads (config : Config) (now : Int) (request : Http.Request) (site : Site) :
    (∀ rest, (handle config now request site).2.disk.content? ("uploads" :: rest) =
        site.disk.content? ("uploads" :: rest)) ∨
      ∃ sentAs fileName content, Leaves config (now, request) sentAs fileName content ∧
        site.disk.Written (Layout.upload fileName) content
          (handle config now request site).2.disk := by
  by_cases hasked :
      ∃ endpoint, request.endpoint? = some endpoint ∧ request.method ∈ endpoint.methods
  · obtain ⟨endpoint, hendpoint, hmethod⟩ := hasked
    have heffect := hasEffect_perform config now request .none site endpoint hmethod
    rw [handle_eq config now site .none hendpoint hmethod]
    unfold HasEffect at heffect
    cases hrun : site.run (perform config now request endpoint) with
    | mk result site' =>
        rw [hrun] at heffect
        cases heffect with
        | fails aborted => exact .inl fun rest => by rw [aborted.loaded_of_none.disk]
        | reads _ loaded => exact .inl fun rest => by rw [loaded.disk]
        | reloads => exact .inl fun rest => rfl
        | @saves _ address _ _ _ _ _ _ _ _ _ _ _ written =>
            obtain ⟨names, -, hpath⟩ := address.path_eq_data_cons
            exact .inl fun rest => by rw [written, if_neg (by simp [hpath])]
        | uploads =>
            exact (perform_upload_leaves hrun).imp_left fun hdisk rest => by rw [hdisk]
  · refine .inl fun rest => ?_
    rw [(handle_idle config now site .none fun endpoint hendpoint hmethod =>
      hasked ⟨endpoint, hendpoint, hmethod⟩).1]

/-- Whatever is requested, each file that is in the directory of uploads afterwards was there before
or has been left by one of the requests: it holds what was sent with it, declared as an image, and
its extension is that of the file name under which it was sent. -/
theorem uploads_named_by_sender (config : Config) (site : Site)
    (requests : List (Int × Http.Request)) (rest : List String) (content : ByteArray)
    (h : (after config site requests).disk.content? ("uploads" :: rest) = some content) :
    site.disk.content? ("uploads" :: rest) = some content ∨
      ∃ arrival ∈ requests, ∃ sentAs fileName, rest = [fileName] ∧
        Leaves config arrival sentAs fileName content ∧
        Image.extension? fileName = Image.extension? sentAs := by
  induction requests generalizing site with
  | nil => exact .inl h
  | cons arrival later ih =>
      obtain ⟨now, request⟩ := arrival
      rcases ih _ h with hbefore | ⟨arrival, hmem, hleft⟩
      · rcases handle_uploads config now request site with
          hsame | ⟨sentAs, fileName, stored, hleaves, hwritten⟩
        · rw [hsame] at hbefore
          exact .inl hbefore
        · rw [hwritten] at hbefore
          split at hbefore
          · next hpath =>
              cases hbefore
              have hrest : rest = [fileName] := (List.cons.inj hpath).2
              exact .inr ⟨_, List.mem_cons_self, sentAs, fileName, hrest, hleaves,
                hleaves.extension?_eq⟩
          · exact .inl hbefore
      · exact .inr ⟨arrival, List.mem_cons_of_mem _ hmem, hleft⟩

def pageAsImage : Http.Request :=
  ⟨.post, "/api/upload", [("content-type", "multipart/form-data; boundary=B")],
    ("--B\r\ncontent-disposition: form-data; filename=page.HTML\r\n" ++
      "content-type: image/png\r\n\r\n<p>\r\n--B--").toUTF8⟩

theorem content?_pageAsImage :
    (after .default (.ofDisk .empty) [(5, pageAsImage)]).disk.content? ["uploads", "5.html"] =
      some "<p>".toUTF8 := by
  decide +kernel

theorem uploads_named_by_sender_page :
    (after .default (.ofDisk .empty) [(5, pageAsImage)]).disk.content? ["uploads", "5.html"] =
        some "<p>".toUTF8 ∧
      ∃ arrival ∈ [(5, pageAsImage)], ∃ sentAs fileName, ["5.html"] = [fileName] ∧
        Leaves .default arrival sentAs fileName "<p>".toUTF8 ∧
        Image.extension? fileName = Image.extension? sentAs := by
  have hleft := uploads_named_by_sender .default (.ofDisk .empty) _ _ _ content?_pageAsImage
  exact ⟨content?_pageAsImage, hleft.resolve_left fun hthere => nomatch hthere⟩

/-- The extension of a stored file need not be that of an image. -/
theorem page_is_stored_as_image :
    ¬∀ (config : Config) (site : Site) (requests : List (Int × Http.Request)) (fileName : String)
      (content : ByteArray), site.disk.content? (Layout.upload fileName) = none →
        (after config site requests).disk.content? (Layout.upload fileName) = some content →
        ∃ extension ∈ Image.subtypes, Image.extension? fileName = some extension := by
  intro hall
  have himage := hall .default (.ofDisk .empty) [(5, pageAsImage)] "5.html" _ rfl
    content?_pageAsImage
  revert himage
  decide +kernel

end Service

end ContentForms
