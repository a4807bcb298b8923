/-!
Requests and responses. The name of a header does not depend on case, and of several headers with
one name the first counts.
-/

namespace ContentForms.Http

inductive Method where
  | get
  | head
  | options
  | post
  | put
  | other (name : String)
  deriving DecidableEq

namespace Method

def text : Method → String
  | get => "GET"
  | head => "HEAD"
  | options => "OPTIONS"
  | post => "POST"
  | put => "PUT"
  | other name => name

def ofText (name : String) : Method :=
  ([get, head, options, post, put].find? fun method => method.text = name).getD (other name)

end Method

structure Request where
  method : Method
  /-- The path with the query that may follow it. -/
  target : String
  headers : List (String × String)
  body : ByteArray

namespace Request

/-- The path, still with its percent signs. -/
def path (request : Request) : List Char :=
  request.target.toList.takeWhile fun c => c ≠ '?' && c ≠ '#'

def header? (request : Request) (name : String) : Option String :=
  (request.headers.find? fun header => header.1.toLower = name.toLower).map Prod.snd

end Request

structure Response where
  status : Nat
  contentType : Option String
  /-- The methods that a path has, where the one asked for is not among them. -/
  allow : Option (List Method)
  /-- The origin whose pages may read the response. -/
  allowOrigin : Option String
  body : String

namespace Response

def bare (status : Nat) : Response :=
  ⟨status, none, none, none, ""⟩

def text (status : Nat) (body : String) : Response :=
  ⟨status, some "text/plain; charset=utf-8", none, none, body⟩

def json (status : Nat) (body : String) : Response :=
  ⟨status, some "application/json", none, none, body⟩

def headOnly (response : Response) : Response :=
  { response with body := "" }

end Response

end ContentForms.Http
