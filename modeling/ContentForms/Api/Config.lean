import ContentForms.Text.Blank
import ContentForms.Text.Digits
import ContentForms.Text.Split

/-!
Settings of the service, as the environment gives them. A variable that is unset, or whose value
cannot be used, leaves the default.
-/

namespace ContentForms

structure Config where
  port : Nat
  /-- The directory that holds schemas, documents and uploads. -/
  contentRoot : String
  /-- How many bytes the body of a request may have. -/
  maxBodyBytes : Nat
  /-- The origins whose pages may read responses; with none, all of them may. -/
  origins : List String
  deriving DecidableEq

namespace Config

def default : Config :=
  ⟨3000, "./public", 10 * 1024 * 1024, []⟩

/-- A number in decimal that may have a plus sign and is less than a bound. -/
def readNat? (bound : Nat) (s : String) : Option Nat :=
  let digits := match s.toList with
    | '+' :: rest => rest
    | cs => cs
  (Text.readNat? 10 digits).filter (· < bound)

def readOrigins (s : String) : List String :=
  ((Text.pieces ',' s.toList).map Text.trimChars).filterMap fun piece =>
    if piece.isEmpty then none else some (String.ofList piece)

def ofEnvironment (lookup : String → Option String) : Config where
  port := ((lookup "PORT").bind (readNat? (Nat.pow 2 16))).getD default.port
  contentRoot :=
    ((lookup "CMS_CONTENT_ROOT").filter fun s => !(Text.trimChars s.toList).isEmpty).getD
      default.contentRoot
  maxBodyBytes :=
    (((lookup "CMS_MAX_UPLOAD_BYTES").bind (readNat? (Nat.pow 2 64))).filter (0 < ·)).getD
      default.maxBodyBytes
  origins := ((lookup "CMS_CORS_ORIGINS").map readOrigins).getD default.origins

def isHeaderValue (s : String) : Bool :=
  s.toList.all fun c => (' ' ≤ c && c ≠ '\x7f') || c = '\t'

/-- The origin that a response to a request from an origin names. -/
def allowedOrigin (config : Config) (origin : Option String) : Option String :=
  if config.origins.isEmpty then some "*"
  else origin.filter fun o => (config.origins.filter isHeaderValue).contains o

end Config

end ContentForms
