import CompletionClient.Metadata
/-!
# Requests to the language server

The client sends four requests, each a JSON body posted to the path of its
method under the language server's service:

* `Heartbeat`: metadata only, sent once per launch to show that the client lives;
* `GetCompletions`: the document under the cursor with the cursor, the
  editor's indentation and the other open documents as context;
* `CancelRequest`: the id of a completion request that is no longer wanted and
  the session, without metadata;
* `AcceptCompletion`: the id of a suggestion that the user took.

The fields of a request hold values as they were given, whatever they are;
the body writes them as they stand.  A cursor is passed on as the editor
gives it; in a body it is written with the keys `row` and `col`.
-/

namespace CompletionClient

/-- A cursor position as the editor gives it: line and character, both as is. -/
structure Cursor where
  /-- The line, counted from zero. -/
  line : Value
  /-- The character in the line, counted from zero. -/
  character : Value
  deriving Inhabited

/-- The cursor as an object with the keys `line` and `character`. -/
def Cursor.toValue (c : Cursor) : Value := .obj [("line", c.line), ("character", c.character)]

/-- A document sent with a completion request. -/
structure DocumentPayload where
  /-- The document's path. -/
  absolutePath : Value
  /-- Its path relative to the project root. -/
  relativePath : Value
  /-- Its full text. -/
  text : Value
  /-- The editor's language identifier. -/
  editorLanguage : Value
  /-- The server's language number. -/
  language : Value
  /-- The cursor, only on the document under it. -/
  cursor : Option Cursor := none
  deriving Inhabited

/-- A document as a wire object; the cursor is written as `row` and `col`. -/
def DocumentPayload.toValue (d : DocumentPayload) : Value :=
  .obj ([("absolute_path", d.absolutePath), ("relative_path", d.relativePath),
         ("text", d.text), ("editor_language", d.editorLanguage),
         ("language", d.language)] ++
        match d.cursor with
        | some c => [("cursor_position", .obj [("row", c.line), ("col", c.character)])]
        | none => [])

/-- The editor's indentation. -/
structure EditorOptions where
  /-- The width of one indentation step. -/
  tabSize : Value
  /-- Whether the editor indents with spaces. -/
  insertSpaces : Value
  deriving Inhabited

/-- The indentation as a wire object. -/
def EditorOptions.toValue (o : EditorOptions) : Value :=
  .obj [("tab_size", o.tabSize), ("insert_spaces", o.insertSpaces)]

/-- A request for completions at a cursor. -/
structure CompletionRequest where
  /-- The request's metadata. -/
  metadata : Metadata
  /-- The document under the cursor. -/
  document : DocumentPayload
  /-- The editor's indentation. -/
  options : EditorOptions
  /-- The other open documents. -/
  others : List DocumentPayload := []
  deriving Inhabited

/-- A request to the language server. -/
inductive Request where
  /-- The client is alive. -/
  | heartbeat (metadata : Metadata)
  /-- Completions are wanted. -/
  | completions (request : CompletionRequest)
  /-- A completion request is no longer wanted. -/
  | cancel (requestId sessionId : Value)
  /-- The user took a suggestion. -/
  | accept (metadata : Metadata) (completionId : Value)
  deriving Inhabited

namespace Request

/-- The path under which the language server's methods are posted. -/
def servicePath : String := "/exa.language_server_pb.LanguageServerService"

/-- The name of a request's method. -/
def method : Request → String
  | heartbeat _ => "Heartbeat"
  | completions _ => "GetCompletions"
  | cancel .. => "CancelRequest"
  | accept .. => "AcceptCompletion"

/-- The path that a request is posted to. -/
def path (r : Request) : String := servicePath ++ "/" ++ r.method

/-- The body of a request. -/
def body : Request → Value
  | heartbeat m => .obj [("metadata", m.toValue)]
  | completions r =>
    .obj [("metadata", r.metadata.toValue), ("document", r.document.toValue),
          ("editor_options", r.options.toValue),
          ("other_documents", .list (r.others.map DocumentPayload.toValue))]
  | cancel id session => .obj [("request_id", id), ("session_id", session)]
  | accept m id => .obj [("metadata", m.toValue), ("completion_id", id)]

/-- The id in the metadata of a request, if it has metadata. -/
def requestId? : Request → Option Value
  | heartbeat m | accept m _ => some m.requestId
  | completions r => some r.metadata.requestId
  | cancel .. => none

end Request

end CompletionClient
