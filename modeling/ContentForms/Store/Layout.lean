import ContentForms.Content.Key
import ContentForms.Store.PathText

/-!
Where content is stored. Below the content root, `cms` holds one schema file for each content key,
`data` holds a document for each page and a directory for each blog, and `uploads` holds the
uploaded images. Every name in these paths is a content name, a slug or a generated name, so all
paths stay below the root.
-/

namespace ContentForms.Layout

def schemas : DiskPath := ["cms"]

def schemaFile (key : ContentKey) : DiskPath :=
  ["cms", key.fileName]

def blog (name : ContentName) : DiskPath :=
  ["data", name.text]

/-- The name of the document that describes a blog as a whole. -/
def indexFile : String := "index.json"

/-- The document under a key: that of a page, or the index of a blog. -/
def document (key : ContentKey) : DiskPath :=
  match key.type with
  | .page => ["data", key.name.text ++ ".json"]
  | .blog => blog key.name ++ [indexFile]

def entry (name : ContentName) (slug : Slug) : DiskPath :=
  blog name ++ [slug.text ++ ".json"]

def uploads : DiskPath := ["uploads"]

def upload (fileName : String) : DiskPath :=
  uploads ++ [fileName]

/-- A path below a content root as a text. -/
def pathText (root : String) (path : DiskPath) : String :=
  path.foldl PathText.join root

end ContentForms.Layout
