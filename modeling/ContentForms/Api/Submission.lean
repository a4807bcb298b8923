import ContentForms.Api.Config
import ContentForms.Api.Failure
import ContentForms.Http.Form

/-!
What a request submits: a document, as JSON, or an image, as the first part of a form. Both come
in the body, whose size is limited.
-/

namespace ContentForms

namespace Http.Request

def mediaType? (request : Request) : Option MediaType :=
  (request.header? "content-type").bind MediaType.read?

def document (request : Request) (maxBytes : Nat) : Except Failure Json :=
  if !request.mediaType?.any MediaType.isJson then
    .error (.badRequest "Expected request with \x60Content-Type: application/json\x60")
  else if maxBytes < request.body.size then
    .error (.badRequest "Failed to buffer the request body: length limit exceeded")
  else
    match (String.fromUTF8? request.body).bind Json.read? with
    | some document => .ok document
    | none => .error (.badRequest "Failed to parse the request body as JSON")

def firstPart? (request : Request) (maxBytes : Nat) : Option Part := do
  let boundary ← request.mediaType?.bind MediaType.formBoundary?
  if maxBytes < request.body.size then none
  else Part.first? boundary request.body.toList

end Http.Request

/-- An image to be stored, with the extension of its file. -/
structure Image where
  extension : String
  content : ByteArray

namespace Image

def subtypes : List String := ["jpeg", "jpg", "png", "webp", "gif"]

def isImageType (m : Http.MediaType) : Bool :=
  m.type = "image" && subtypes.contains m.subtype && m.suffix.isNone && m.parameters.isEmpty

def maxExtensionLength : Nat := 10

/-- The extension of a file name in lower case, if it is short and has only letters and digits. -/
def extension? (fileName : String) : Option String :=
  match Text.splitLast? '.' fileName.toList with
  | none => none
  | some (_, extension) =>
      if extension.isEmpty || maxExtensionLength < extension.length ||
          !extension.all Char.isAlphanum then none
      else some (String.ofList (extension.map Char.toLower))

def missing : Failure :=
  .badRequest "No se recibió ningún archivo"

def unusable : Failure :=
  .badRequest "Archivo inválido"

def wrongType : Failure :=
  .badRequest "Solo se permiten imágenes (JPEG, PNG, WebP, GIF)"

/-- The image in a part: that there is a file name is looked at first, then its declared type, its
extension and its content. -/
def ofPart (part : Http.Part) : Except Failure Image :=
  match part.fileName? with
  | none => .error unusable
  | some fileName =>
      if !part.mediaType?.any isImageType then .error wrongType
      else
        match extension? fileName, part.content with
        | some extension, some (b :: rest) => .ok ⟨extension, (b :: rest).toByteArray⟩
        | _, _ => .error unusable

def ofRequest (request : Http.Request) (maxBytes : Nat) : Except Failure Image :=
  match request.firstPart? maxBytes with
  | none => .error missing
  | some part => ofPart part

end Image

end ContentForms
