import ContentForms.Store.Documents

/-!
Uploaded images. An upload is stored under the time of its arrival in milliseconds; while that name
is taken, the next number is tried, up to a limit. No upload overwrites a file.
-/

namespace ContentForms.Store

def uploadTries : Nat := 64

def uploadName (stamp : Int) (extension : String) : String :=
  String.ofList (Text.decimalInt stamp) ++ "." ++ extension

/-- Stores an upload under the first free one of so many names. -/
def saveFrom (disk : Disk) (extension : String) (content : ByteArray) (faults : Faults) :
    (tries : Nat) → (stamp : Int) → Except StoreError String × Disk
  | 0, _ => (.error .noUploadName, disk)
  | tries + 1, stamp =>
      let name := uploadName stamp extension
      match createContent disk (Layout.upload name) content faults with
      | (.ok (), disk) => (.ok name, disk)
      | (.error (.alreadyExists _), disk) =>
          saveFrom disk extension content faults tries (stamp + 1)
      | (.error e, disk) => (.error e, disk)

/-- Stores an upload that arrives at the given time; gives the name of its file. -/
def saveUpload (disk : Disk) (now : Int) (extension : String) (content : ByteArray)
    (faults : Faults := .none) : Except StoreError String × Disk :=
  saveFrom disk extension content faults uploadTries now

end ContentForms.Store
