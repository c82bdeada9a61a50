import ThreatGraph.Client

/-!
# Uploads

Sending a file as a form of several parts. The content of the file comes from a path or is given as
bytes, and never from both. An upload is sent once: it may have been accepted in part, and is not
repeated. It waits for the throttle of its client like any other request, but not before its content
is there.
-/

set_option autoImplicit false

namespace ThreatGraph

/-- A file to send, with fields beside it. -/
structure Upload where
  path : Option String := none
  content : Option (List UInt8) := none
  fileName : Option String := none
  fields : Params := .empty
  deriving DecidableEq, Repr, Inhabited

namespace Upload

/-! ## Making an upload -/

/-- One choice in the making of an upload. -/
inductive Setting where
  | path (path : String)
  | content (bytes : List UInt8)
  | fileName (name : String)
  | field (key : String) (value : ParamValue)
  deriving DecidableEq, Repr, Inhabited

/-- The upload after one more choice. The last choice of a kind counts, for fields that of a key. -/
def set (u : Upload) : Setting → Upload
  | .path path => { u with path := some path }
  | .content bytes => { u with content := some bytes }
  | .fileName name => { u with fileName := some name }
  | .field key value => { u with fields := u.fields.insert key value }

/-- The upload that some choices make, one after the other. -/
def build (settings : List Setting) : Upload := settings.foldl set {}

/-! ## The file -/

/-- The last name in a path, unless the path ends in the parent of a directory. A dot and slashes at
the end of a path name nothing. -/
def lastName? (path : String) : Option String :=
  let names := (splitOn '/' path.toList).filter fun name => name ≠ [] ∧ name ≠ ['.']
  match names.getLast? with
  | some name => if name = ['.', '.'] then none else some (String.ofList name)
  | none => none

/-- The name that is sent with the file: the one that is given, or that of the path. -/
def name? (u : Upload) : Option String :=
  match u.fileName with
  | some name => some name
  | none => u.path.bind lastName?

/-- The content of the file. -/
def load (u : Upload) (w : World) : Except Failure (List UInt8) :=
  match u.path, u.content with
  | some path, none => (w.files path).mapError .io
  | none, some content => .ok content
  | none, none => .error (.ofMessage "Upload requires a file path or in-memory content")
  | some _, some _ =>
    .error (.ofMessage "Upload accepts a file path or in-memory content, not both")

/-! ## Parts -/

/-- The field that carries the file. -/
def fileField : String := "file"

/-- Whether a character of a field name is percent-encoded. -/
def escapesInName (c : Char) : Bool :=
  c.toNat < 0x20 || c.toNat == 0x7f || " \"#<>\x60?\x7b\x7d/%".toList.contains c

/-- The name of a field in the head of a part. A name that has to be encoded says so. -/
def nameText (name : String) : String :=
  let encoded := String.ofList (percentEncode escapesInName name.toList)
  if encoded = name then "name=\"" ++ name ++ "\"" else "name*=utf-8''" ++ encoded

/-- A character of a file name in the head of a part. -/
def escapeFileChar (c : Char) : List Char :=
  if "\\\"\r\n".toList.contains c then ['\\', c] else [c]

/-- The head of a part. -/
def partHead (name : String) (fileName : Option String) : String :=
  "Content-Disposition: form-data; " ++ nameText name
    ++ (match fileName with
      | some file => "; filename=\"" ++ String.ofList (file.toList.flatMap escapeFileChar) ++ "\""
      | none => "")

/-- The parts of an upload: its fields with the token among them, and the file. -/
def parts (token : String) (content : List UInt8) (u : Upload) : List Part :=
  (u.fields.insertText Client.tokenParam token).pairs.map
      (fun pair => ⟨partHead pair.1 none, utf8Bytes pair.2.toList⟩)
    ++ [⟨partHead fileField u.name?, content⟩]

end Upload

namespace Client

/-- Sends a file to an endpoint, once. -/
def upload (c : Client) (endpoint : String) (u : Upload) : Call Json := fun w =>
  match u.load w with
  | .error failure => (.error failure, w)
  | .ok content =>
    let address := c.resolve endpoint
    let w := (c.acquire w).note .debug .upload ("POST " ++ address ++ " (multipart)")
    match locate? address [] with
    | none => (.error (.ofTransport (locateError address [])), w)
    | some url =>
      deliver
        ⟨Method.post.text, url, c.config.userAgent,
          .parts (u.parts c.credentials.accessToken content)⟩ w

end Client

end ThreatGraph
