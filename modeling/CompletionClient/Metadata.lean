import CompletionClient.Version
/-!
# Request metadata

Every request but a cancel notice carries metadata: the editor's name and
version, the version of the language server, the user's API key, the session
and the request's id.

`Credentials` hold the API key that the user signed in with.  Any value can
be stored as the key; one that counts as false (`Value.truthy`) means that the
user is signed out.

`MetadataSource` builds the metadata of one request.  It fails with
`Fault.notSignedIn` without a key, before it looks at the IDE version.  The
IDE version is the one that the editor reports, or the fallback when the
editor reports a value that counts as false, normalised to three pieces.
Every other field is passed on as it was configured or given, whatever it is.
-/

namespace CompletionClient

/-- The API key that the user signed in with. -/
structure Credentials where
  /-- The stored key; a value that counts as false stands for none. -/
  stored : Value := .null
  deriving Inhabited

namespace Credentials

/-- The key, if the user is signed in. -/
def key? (c : Credentials) : Option Value := if c.stored.truthy then some c.stored else none

/-- Signs in with a key. -/
def signIn (_c : Credentials) (k : Value) : Credentials := ⟨k⟩

/-- Signs out. -/
def signOut (_c : Credentials) : Credentials := ⟨.null⟩

end Credentials

/-- The metadata of one request, each field as it was given. -/
structure Metadata where
  /-- The editor's name. -/
  ideName : Value
  /-- The editor's version, normally in three pieces. -/
  ideVersion : Value
  /-- The version of the language server. -/
  extensionVersion : Value
  /-- The user's API key. -/
  apiKey : Value
  /-- The session. -/
  sessionId : Value
  /-- The request's id. -/
  requestId : Value
  deriving Inhabited

namespace Metadata

/-- Metadata as a wire object. -/
def toValue (m : Metadata) : Value :=
  .obj [("ide_name", m.ideName), ("ide_version", m.ideVersion),
        ("extension_version", m.extensionVersion), ("api_key", m.apiKey),
        ("session_id", m.sessionId), ("request_id", m.requestId)]

end Metadata

/-- What metadata is built from, besides the key, the id and the server version. -/
structure MetadataSource where
  /-- The editor's name. -/
  ideName : Value
  /-- The IDE version used when the editor reports none. -/
  fallbackIdeVersion : Value
  /-- What the editor reports as its version, if it is asked at all. -/
  reportedIdeVersion : Option Value
  /-- The session. -/
  sessionId : Value
  deriving Inhabited

namespace MetadataSource

/-- The IDE version: the reported one, or the fallback when the reported one
counts as false, normalised. -/
def ideVersion (s : MetadataSource) : Except Fault String :=
  let reported := s.reportedIdeVersion.getD .null
  let chosen := if reported.truthy then reported else s.fallbackIdeVersion
  (Version.textOf chosen).map Version.normalize

/-- The metadata of a request. -/
def build (s : MetadataSource) (creds : Credentials) (requestId extensionVersion : Value) :
    Except Fault Metadata := do
  let some key := creds.key? | throw .notSignedIn
  let ideVersion ← s.ideVersion
  pure { ideName := s.ideName, ideVersion := .str ideVersion, extensionVersion, apiKey := key,
         sessionId := s.sessionId, requestId }

end MetadataSource

end CompletionClient
