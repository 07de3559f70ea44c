import CompletionClient.Numeral.Integer
import CompletionClient.Path.Posix
import CompletionClient.Data.Access
/-!
# The language server process

The language server runs as a process with a private manager folder.  It is
started by `Server.command`: an optional prefix (such as an interpreter), the
binary, then the API server, the manager folder and the database folder as
options.  The prefix and the API server are passed on as configured, whatever
they are; a configured prefix is walked (`Value.elements`), and one that counts
as false is no prefix.  Once it listens, it announces its port by a file in the manager
folder named by the port's digits; `Server.findPort` reads the first such
name in code-point order.  A name of digits in the wide sense that are not
decimal digits (such as `²`) is no number, a fault.
-/

namespace CompletionClient.Server

/-- The command line that starts the language server. -/
def command (commandPrefix : List Value) (binary : PosixPath) (apiServerUrl : Value)
    (managerFolder databaseFolder : PosixPath) : List Value :=
  commandPrefix ++ [.str binary.toText, .str "--api_server_url", apiServerUrl,
    .str "--manager_dir", .str managerFolder.toText, .str "--database_dir",
    .str databaseFolder.toText]

/-- The prefix of the command as configured: none for a value that counts as
false, else the members of the value. -/
def commandPrefix (v : Value) : Except Fault (List Value) :=
  if v.truthy then v.elements else .ok []

/-- Whether a name is made of digits only, and not empty. -/
def isDigits (name : String) : Bool := !name.isEmpty && name.toList.all Text.isDigit

/-- Sorts names by code point. -/
def sortNames (names : List String) : List String := names.mergeSort fun a b => decide (a ≤ b)

/-- The port announced among the names of a manager folder, if the folder
exists and holds a name of digits. -/
def findPort (names : Option (List String)) : Except Fault (Option Int) :=
  match names with
  | none => .ok none
  | some names =>
    match (sortNames names).find? isDigits with
    | some name => (Integer.read name).map some
    | none => .ok none

/-- The fault of a request sent to a server that was not started. -/
def notStarted : Fault := .transport (.str "Language server is not started")

end CompletionClient.Server
