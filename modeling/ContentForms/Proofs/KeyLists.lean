import ContentForms.Command.Contents
import ContentForms.Proofs.Requests
import ContentForms.Proofs.SchemaFiles

/-!
The list of keys as a command prints it and as a service sends it. Both read the names in the
directory of schemas, and since a list of keys does not show the order of the names, both list the
same keys in the same order. Without such a directory there are no keys. They part in one case: a
file in its place is an error for the service, which reads it, and no directory for the command,
which passes over it.
-/

namespace ContentForms

/-- A directory has been listed twice, in orders that may differ, or neither time. -/
inductive SameNames : Except DiskError (List String) → Except DiskError (List String) → Prop
  | listed {names names' : List String} (perm : names.Perm names') :
      SameNames (.ok names) (.ok names')
  | failed (cause : DiskError) : SameNames (.error cause) (.error cause)

namespace SameNames

variable {found : Except DiskError (List String)}

theorem refl (found : Except DiskError (List String)) : SameNames found found := by
  cases found with
  | ok names => exact .listed (.refl names)
  | error cause => exact .failed cause

theorem ok {names : List String} (h : SameNames found (.ok names)) :
    ∃ names', found = .ok names' ∧ names.Perm names' := by
  cases h with
  | listed perm => exact ⟨_, rfl, perm.symm⟩

theorem error {cause : DiskError} (h : SameNames found (.error cause)) : found = .error cause := by
  cases h
  rfl

end SameNames

/-! ### The directory of schemas -/

theorem Store.keysOf_nil : keysOf [] = [] := by
  simp [keysOf, ContentKey.sort]

namespace Disk

variable {disk : Disk}

theorem names_of_file (h : disk.isFile Layout.schemas = true) :
    disk.names Layout.schemas = .error .notDirectory := by
  unfold isFile at h
  split at h
  · next hnode => simp [names, lookup, hnode]
  · cases h

theorem names_of_no_file (h : disk.isFile Layout.schemas = false) :
    (∃ names, disk.names Layout.schemas = .ok names) ∨
      disk.names Layout.schemas = .error .notFound := by
  have hways : (waysTo Layout.schemas).any disk.isFile = false := by
    change (disk.isFile Layout.schemas || false) = false
    rw [h, Bool.or_false]
  cases hnode : disk.node? Layout.schemas with
  | none => exact .inr (by simp [names, lookup, hnode, hways])
  | some node =>
      cases node with
      | directory => exact .inl ⟨_, by rw [names, lookup, hnode]⟩
      | file content =>
          rw [isFile, hnode] at h
          cases h

end Disk

/-- In the current directory a command lists what is there. -/
theorem PathText.directoryNames_here (disk : Disk) :
    directoryNames disk (join "." "cms") = disk.names Layout.schemas := by
  have hpath : join "." "cms" = "./cms" := by decide +kernel
  have hnames : names "./cms" = [".", "cms"] := by decide +kernel
  have hroot : disk.lookup [] = .ok .directory := rfl
  have hlocate : locate disk "./cms" = .ok Layout.schemas := by
    rw [locate, if_neg (by decide +kernel), hnames]
    simp [Disk.follow, hroot, Layout.schemas]
  rw [directoryNames, hpath, hlocate]
  rfl

/-! ### The two lists -/

namespace Command

variable {list : String → Except DiskError (List String)} {root : String}

def listing (keys : List ContentKey) : String :=
  String.join (keys.map keyLine)

theorem contents_of_names {names : List String}
    (h : directoryNames (list (PathText.join root "cms")) = .ok names) :
    contents list root = .finished 0 (listing (Store.keysOf names)) := by
  rw [contents, h]
  rfl

theorem contents_of_absent {cause : DiskError}
    (h : list (PathText.join root "cms") = .error cause)
    (habsent : cause = .notFound ∨ cause = .notDirectory) :
    contents list root = .finished 0 "" := by
  have hnames : directoryNames (list (PathText.join root "cms")) = .ok [] := by
    rw [h]
    rcases habsent with rfl | rfl <;> rfl
  rw [contents_of_names hnames, Store.keysOf_nil]
  rfl

variable {disk : Disk}

/-- The keys that a command lists are those of a disk on which it would find the same names. -/
theorem contents_of_no_file
    (hsame : SameNames (list (PathText.join root "cms")) (disk.names Layout.schemas))
    (hfree : disk.isFile Layout.schemas = false) :
    ∃ keys, Store.keys disk = .ok keys ∧ contents list root = .finished 0 (listing keys) := by
  rcases Disk.names_of_no_file hfree with ⟨names, hnames⟩ | habsent
  · rw [hnames] at hsame
    obtain ⟨found, hfound, hperm⟩ := hsame.ok
    refine ⟨Store.keysOf names, by rw [Store.keys, Faults.none_on, hnames], ?_⟩
    rw [Store.keysOf_eq_of_perm (Disk.yields_of_names hnames).nodup hperm]
    exact contents_of_names (by rw [hfound]; rfl)
  · rw [habsent] at hsame
    have hkeys : Store.keys disk .none = .ok [] := by rw [Store.keys, Faults.none_on, habsent]
    exact ⟨[], hkeys, contents_of_absent hsame.error (.inl rfl)⟩

theorem contents_of_file
    (hsame : SameNames (list (PathText.join root "cms")) (disk.names Layout.schemas))
    (hfile : disk.isFile Layout.schemas = true) : contents list root = .finished 0 "" := by
  rw [Disk.names_of_file hfile] at hsame
  exact contents_of_absent hsame.error (.inr rfl)

end Command

namespace Service

variable {config : Config} {now : Int} {request : Http.Request} {site : Site}

def keysBody (keys : List ContentKey) : Json :=
  .arr (keys.map ContentKey.toJson)

structure AsksForKeys (request : Http.Request) : Prop where
  get : request.method = .get
  target : request.endpoint? = some .contents

/-- The answer depends on the keys that there are, and the site stays as it is. -/
theorem AsksForKeys.handle_eq (h : AsksForKeys request) (config : Config) (now : Int)
    (site : Site) :
    handle config now request site =
      (finish config request (some .contents)
        (reply (((Store.keys site.disk).map (success ∘ keysBody)).mapError .ofStore)), site) := by
  have hmethod : request.method ∈ Endpoint.contents.methods := by
    simp [h.get, Endpoint.methods]
  rw [Service.handle_eq config now site .none h.target hmethod, perform, Site.run_bind,
    Site.run_reading]
  cases Store.keys site.disk <;> rfl

theorem AsksForKeys.answer_of_ok (h : AsksForKeys request) {keys : List ContentKey}
    (hkeys : Store.keys site.disk = .ok keys) :
    (handle config now request site).1.status = 200 ∧
      (handle config now request site).1.body = (keysBody keys).compact := by
  rw [h.handle_eq, hkeys, status_finish]
  exact ⟨rfl, by simp [finish, h.get]; rfl⟩

theorem AsksForKeys.status_of_error (h : AsksForKeys request) {cause : StoreError}
    (hkeys : Store.keys site.disk = .error cause) :
    (handle config now request site).1.status = 500 := by
  rw [h.handle_eq, hkeys, status_finish]
  rfl

end Service

/-- A command and a service list the same keys in the same order, or both fail. -/
inductive ListAlike (outcome : Command.Outcome) (response : Http.Response) : Prop
  | listed (keys : List ContentKey) (exit : outcome.exitCode = 0)
      (printed : outcome.output = Command.listing keys) (status : response.status = 200)
      (answered : response.body = (Service.keysBody keys).compact)
  | failed (exit : outcome.exitCode = 1) (status : response.status = 500)

/-- A command that lists the keys below a content root, and a service that is asked for those of the
same root, list the same ones in the same order unless a file stands in place of the directory of
schemas: then the command lists nothing and succeeds, and the service fails. In the order of the
keys nothing is left of that in which either of them found the names of the schema files. -/
theorem listings_agree {list : String → Except DiskError (List String)} {root : String}
    {request : Http.Request} {site : Site} (config : Config) (now : Int)
    (hsame : SameNames (list (PathText.join root "cms")) (site.disk.names Layout.schemas))
    (hasks : Service.AsksForKeys request) :
    let outcome := Command.contents list root
    let answer := Service.handle config now request site
    answer.2 = site ∧
      (ListAlike outcome answer.1 ↔ site.disk.isFile Layout.schemas = false) ∧
      (site.disk.isFile Layout.schemas = false → ∃ keys, Store.keys site.disk = .ok keys ∧
        outcome = .finished 0 (Command.listing keys) ∧ answer.1.status = 200 ∧
        answer.1.body = (Service.keysBody keys).compact) ∧
      (site.disk.isFile Layout.schemas = true →
        outcome = .finished 0 "" ∧ answer.1.status = 500) := by
  intro outcome answer
  have hlisted (hfree : site.disk.isFile Layout.schemas = false) :
      ∃ keys, Store.keys site.disk = .ok keys ∧ outcome = .finished 0 (Command.listing keys) ∧
        answer.1.status = 200 ∧ answer.1.body = (Service.keysBody keys).compact := by
    obtain ⟨keys, hkeys, houtcome⟩ := Command.contents_of_no_file hsame hfree
    exact ⟨keys, hkeys, houtcome, hasks.answer_of_ok hkeys⟩
  have hparted (hfile : site.disk.isFile Layout.schemas = true) :
      outcome = .finished 0 "" ∧ answer.1.status = 500 :=
    ⟨Command.contents_of_file hsame hfile,
      hasks.status_of_error (by rw [Store.keys, Faults.none_on, Disk.names_of_file hfile])⟩
  have hsite : answer.2 = site := congrArg Prod.snd (hasks.handle_eq config now site)
  refine ⟨hsite, ⟨fun halike => ?_, fun hfree => ?_⟩, hlisted, hparted⟩
  · cases hfile : site.disk.isFile Layout.schemas with
    | false => rfl
    | true =>
        obtain ⟨houtcome, hstatus⟩ := hparted hfile
        cases halike with
        | listed _ _ _ status =>
            rw [hstatus] at status
            cases status
        | failed exit =>
            rw [houtcome] at exit
            cases exit
  · obtain ⟨keys, -, houtcome, hstatus, hbody⟩ := hlisted hfree
    exact .listed keys (by rw [houtcome]; rfl) (by rw [houtcome]; rfl) hstatus hbody

/-! ### Two content roots -/

def Service.getKeys : Http.Request :=
  ⟨.get, "/api/cms", [], ByteArray.empty⟩

theorem Service.asksForKeys_getKeys : AsksForKeys getKeys where
  get := rfl
  target := by decide +kernel

def fileForSchemas : Disk :=
  Disk.empty.put Layout.schemas (.file "x".toUTF8)

/-- Schemas are listed alike; a file in their place is not. -/
theorem listings_agree_mixedSchemas :
    let outcome := fun disk => Command.contents (PathText.directoryNames disk) "."
    let answer := fun disk => (Service.handle .default 0 Service.getKeys (.ofDisk disk)).1
    ListAlike (outcome mixedSchemas) (answer mixedSchemas) ∧
      outcome fileForSchemas = .finished 0 "" ∧ (answer fileForSchemas).status = 500 := by
  intro outcome answer
  have hsame (site : Site) :
      SameNames (PathText.directoryNames site.disk (PathText.join "." "cms"))
        (site.disk.names Layout.schemas) := by
    rw [PathText.directoryNames_here]
    exact .refl _
  have hagree (disk : Disk) :=
    listings_agree .default 0 (hsame (.ofDisk disk)) Service.asksForKeys_getKeys
  have hfree : mixedSchemas.isFile Layout.schemas = false := by decide +kernel
  have hfile : fileForSchemas.isFile Layout.schemas = true := by decide +kernel
  exact ⟨(hagree mixedSchemas).2.1.mpr hfree, (hagree fileForSchemas).2.2.2 hfile⟩

/-- So it is not the case that both list the same or both fail. -/
theorem listings_part_at_file :
    ¬∀ (disk : Disk) (request : Http.Request), Service.AsksForKeys request →
      ListAlike (Command.contents (PathText.directoryNames disk) ".")
        (Service.handle .default 0 request (.ofDisk disk)).1 := by
  intro hall
  have hexit : (Command.contents (PathText.directoryNames fileForSchemas) ".").exitCode = 0 := by
    rw [Command.contents, PathText.directoryNames_here,
      Disk.names_of_file (by decide +kernel : fileForSchemas.isFile Layout.schemas = true)]
    rfl
  have hstatus : (Service.handle .default 0 Service.getKeys (.ofDisk fileForSchemas)).1.status =
      500 := by
    decide +kernel
  cases hall fileForSchemas Service.getKeys Service.asksForKeys_getKeys with
  | listed _ _ _ status =>
      rw [hstatus] at status
      cases status
  | failed exit =>
      rw [hexit] at exit
      cases exit

end ContentForms
