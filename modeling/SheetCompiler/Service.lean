import SheetCompiler.Compilation
import SheetCompiler.Files.Host
import SheetCompiler.Files.Path
import SheetCompiler.Json
import SheetCompiler.Text.Blank

/-!
# The compiler as a service

The answers to HTTP requests. A form with a spreadsheet is answered by the class compiled from it;
the other routes tell about the service itself.
-/

namespace SheetCompiler.Service

open Files (File)

/-- A field of a form. -/
structure Field where
  name : Option String
  fileName : Option String := none
  content : File

/-- A request. -/
structure Request where
  method : String
  /-- The path, perhaps with a query and a fragment. -/
  path : String
  /-- The fields of the form in the body; absent when the body is no form. -/
  form : Option (List Field) := none
  /-- A fresh identifier for the answer. -/
  id : String

/-- What an answer holds. -/
inductive Body where
  | empty
  | text (s : String)
  | json (value : Json)

/-- An answer. -/
structure Response where
  status : Nat
  contentType : Option String := none
  disposition : Option String := none
  body : Body := .empty

/-- The version of the service. -/
def version : String := "0.4.0"

/-- The type of plain texts. -/
def plainText : String := "text/plain; charset=utf-8"

/-- An answer in JSON. -/
def jsonResponse (status : Nat) (value : Json) : Response :=
  { status, contentType := some "application/json", body := .json value }

/-- A successful answer with data. -/
def success (id : String) (data : Json) : Response :=
  jsonResponse 200
    (.object [("success", .boolean true), ("request_id", .text id), ("data", data)])

/-- An answer that tells what went wrong. -/
def failure (id : String) (status : Nat) (message : String) : Response :=
  jsonResponse status
    (.object [("success", .boolean false), ("request_id", .text id), ("error", .text message)])

/-- A route in the overview. -/
def endpoint (path method description : String) : Json :=
  .object [("path", .text path), ("method", .text method), ("description", .text description)]

/-- What the service is and offers. -/
def overview : Json :=
  .object [
    ("name", .text "CellForge API Server"),
    ("version", .text version),
    ("description", .text "Compiles uploaded spreadsheet workbooks into C# classes"),
    ("endpoints", .array [
      endpoint "/health" "GET" "Health check endpoint",
      endpoint "/version" "GET" "Get server version",
      endpoint "/api/v1/generate" "POST"
        ("Upload a workbook (multipart field 'file', optional 'cell_address') "
          ++ "and download the generated C# source")])]

/-- That the service is running. -/
def health : Json :=
  .object [("status", .text "healthy"), ("uptime_message", .text "Server is running")]

/-- The version and the features of the service. -/
def versionInfo : Json :=
  .object [
    ("version", .text version),
    ("features", .array [.text "generate", .text "evaluate"])]

/-- What a form uploads. -/
structure Upload where
  fileName : Option String := none
  file : Option File := none
  /-- The cell to evaluate. -/
  cell : Option String := none

/-- The characters of a file; what is no text has none that could be read. -/
def textOf : File → String
  | .text s => s
  | _ => ""

/-- The upload with one more field: of several files the last one counts, of several cells the last
one that is not blank. -/
def Upload.add (upload : Upload) (field : Field) : Upload :=
  if field.name == some "file" then
    { upload with fileName := field.fileName, file := some field.content }
  else if field.name == some "cell_address" then
    let text := Text.trim (textOf field.content)
    if text.isEmpty then upload else { upload with cell := some text }
  else upload

/-- The workbook of an uploaded file, named after it. -/
def Upload.workbook (upload : Upload) (file : File) : Except CompileError Workbook :=
  match file with
  | .spreadsheet book => book.toWorkbook ((upload.fileName.bind Path.stem?).getD "Workbook")
  | _ => .error (.unreadableWorkbook "not a spreadsheet")

/-- The class compiled from an upload. -/
def Upload.compile (upload : Upload) (file : File) : Except CompileError Compilation := do
  SheetCompiler.compile (← upload.workbook file) { cell := upload.cell }

/-- The answer to a form. -/
def generate (id : String) (fields : List Field) : Response :=
  let upload := fields.foldl Upload.add {}
  match upload.file with
  | none => failure id 400 "missing multipart field 'file'"
  | some file =>
    match upload.compile file with
    | .ok c =>
      { status := 200, contentType := some plainText,
        disposition := some "attachment; filename=\"GeneratedCode.cs\"", body := .text c.source }
    | .error e => failure id 422 e.message

/-- The answer to a body that should have been a form. -/
def noForm : Response :=
  { status := 400, contentType := some plainText,
    body := .text "Invalid `boundary` for `multipart/form-data` request" }

/-- The path alone: a query or a fragment ends it. -/
def Request.route (request : Request) : String :=
  String.ofList (request.path.toList.takeWhile fun c => c != '?' && c != '#')

/-- What is served at a path: a method and its answer. -/
def route? (request : Request) : Option (String × Response) :=
  match request.route with
  | "/" => some ("GET", success request.id overview)
  | "/health" => some ("GET", success request.id health)
  | "/version" => some ("GET", success request.id versionInfo)
  | "/api/v1/generate" =>
    some ("POST", match request.form with
      | some fields => generate request.id fields
      | none => noForm)
  | _ => none

/-- The answer to a request. Any path may be asked for its options, and whatever can be got can be
asked for without its body. -/
def respond (request : Request) : Response :=
  if request.method == "OPTIONS" then { status := 200 }
  else match route? request with
    | none => { status := 404 }
    | some (method, response) =>
      if request.method == method then response
      else if request.method == "HEAD" && method == "GET" then { response with body := .empty }
      else { status := 405 }

end SheetCompiler.Service
