import CompletionClient.Data.Display
/-!
# Faults

Every way an operation of the client can fail, as a cause with the data that
its message needs.  The first group are the client's own failures, which a
caller is meant to handle or show to the user; the second are faults of data
handed to the client, named by what was wrong with it.  `Fault.message` gives
the text of each.  A fault may carry values as it got them, such as the
versions of an outdated server; a message that is a value is shown by its
display (`Value.display`).
-/

namespace CompletionClient

/-- Why an operation failed. -/
inductive Fault where
  /-- No language server is installed. -/
  | notInstalled
  /-- The installed language server is older than the oldest supported one: the
  version found and the version required, as the installation reported them. -/
  | outdated (version required : Value)
  /-- An installation of the language server is in progress. -/
  | installing
  /-- No API key is available. -/
  | notSignedIn
  /-- A newer completion request superseded this one. -/
  | superseded
  /-- Talking to the language server failed; a message that counts as false stands
  for the default one. -/
  | transport (message : Value)
  /-- A value of the kind `kind` has no member `member`. -/
  | noMember (kind member : String)
  /-- A value of the kind `kind` cannot be walked through. -/
  | notIterable (kind : String)
  /-- A value of the kind `kind` cannot be searched for a member. -/
  | notSearchable (kind : String)
  /-- A value of the kind `container`, a list or a text, indexed by a value of the
  kind `index`, which is no integer. -/
  | badIndex (container index : String)
  /-- A list indexed past its end. -/
  | indexOutOfRange
  /-- A list indexed by an integer that does not fit in a signed 64-bit word. -/
  | indexTooLarge
  /-- A value of the kind `kind`, a list or an object, cannot be hashed, so it
  cannot be a member of a set or a key. -/
  | unhashable (kind : String)
  /-- A value of the kind `kind` is no path. -/
  | notPathLike (kind : String)
  /-- A text that is no decimal integer; `quoted` is its quoted form. -/
  | notAnInteger (quoted : String)
  /-- A decimal integer with more digits than are read. -/
  | tooManyDigits (limit count : Nat)
  /-- An infinity has no integer part. -/
  | infiniteInteger
  /-- A NaN has no integer part. -/
  | nanInteger
  /-- Bytes that are not UTF-8: the first bad byte (or the span from
  `start` to `stop`, exclusive) and the reason. -/
  | notUtf8 (byte : Nat) (start stop : Nat) (reason : String)
  /-- A URL whose host has an opening or a closing bracket without the other, or
  a bracket where none may stand. -/
  | badBrackets
  /-- A URL whose bracketed host is no address; the message says why. -/
  | badHost (message : String)
  /-- A URL whose host changes into a delimiter under compatibility normalisation. -/
  | unsafeHost (netloc : String)
  /-- A path under the home folder of a user whose home is not known. -/
  | noHome
  /-- A name for the operating system whose code points from `start` to `stop`
  (exclusive), a run of surrogates beginning with the code point `point`, make
  no bytes. -/
  | unencodable (point start stop : Nat)
  /-- A name for the operating system that holds a NUL. -/
  | nullByte
  /-- The operating system refused a request: `kind` is the class of its error, such as
  `PermissionError`, and `message` its text. -/
  | system (kind message : String)
  /-- The script of a scripted session asks for something it does not define;
  this ends the whole session. -/
  | scriptError (message : String)
  deriving Inhabited

namespace Fault

/-- `n` in lowercase hexadecimal with two digits. -/
def hexByte (n : Nat) : String :=
  let d (k : Nat) : Char := if k < 10 then Char.ofNat (48 + k) else Char.ofNat (87 + k)
  String.ofList [d (n / 16 % 16), d (n % 16)]

/-- The text of a fault. -/
def message : Fault → String
  | notInstalled => "Language server is not installed. Please install it in the host app."
  | outdated .. =>
    "Language server is outdated. Please update it in the host app or update the extension."
  | installing => "Language service is installing, please try again later."
  | notSignedIn => "Codeium not signed in."
  | superseded => "Completion request was superseded by a newer request."
  | transport m => if m.truthy then m.display else "Language server request failed."
  | noMember kind member => "'" ++ kind ++ "' object has no attribute '" ++ member ++ "'"
  | notIterable kind => "'" ++ kind ++ "' object is not iterable"
  | notSearchable kind => "argument of type '" ++ kind ++ "' is not iterable"
  | badIndex container index =>
    if container = "str" then "string indices must be integers, not '" ++ index ++ "'"
    else container ++ " indices must be integers or slices, not " ++ index
  | indexOutOfRange => "list index out of range"
  | indexTooLarge => "cannot fit 'int' into an index-sized integer"
  | unhashable kind => "unhashable type: '" ++ kind ++ "'"
  | notPathLike kind => "expected str, bytes or os.PathLike object, not " ++ kind
  | notAnInteger quoted => "invalid literal for int() with base 10: " ++ quoted
  | tooManyDigits limit count =>
    "Exceeds the limit (" ++ toString limit ++ " digits) for integer string conversion: " ++
      "value has " ++ toString count ++ " digits; use sys.set_int_max_str_digits() " ++
      "to increase the limit"
  | infiniteInteger => "cannot convert float infinity to integer"
  | nanInteger => "cannot convert float NaN to integer"
  | notUtf8 byte start stop reason =>
    if stop = start + 1 then
      "'utf-8' codec can't decode byte 0x" ++ hexByte byte ++ " in position " ++
        toString start ++ ": " ++ reason
    else
      "'utf-8' codec can't decode bytes in position " ++ toString start ++ "-" ++
        toString (stop - 1) ++ ": " ++ reason
  | badBrackets => "Invalid IPv6 URL"
  | badHost m => m
  | unsafeHost netloc =>
    "netloc '" ++ netloc ++ "' contains invalid characters under NFKC normalization"
  | noHome => "Could not determine home directory."
  | unencodable point start stop =>
    if stop = start + 1 then
      "'utf-8' codec can't encode character '" ++ Text.escapePoint '\'' point ++
        "' in position " ++ toString start ++ ": surrogates not allowed"
    else
      "'utf-8' codec can't encode characters in position " ++ toString start ++ "-" ++
        toString (stop - 1) ++ ": surrogates not allowed"
  | nullByte => "embedded null byte"
  | system _ m => m
  | scriptError m => m

/-- The name of the kind of a fault, as error reports show it. -/
def kind : Fault → String
  | notInstalled => "NotInstalled"
  | outdated .. => "Outdated"
  | installing => "ServiceInstalling"
  | notSignedIn => "NotSignedIn"
  | superseded => "RequestCancelled"
  | transport _ => "TransportFailure"
  | noMember .. => "AttributeError"
  | notIterable _ | notSearchable _ | notPathLike _ | badIndex .. | unhashable _ => "TypeError"
  | indexOutOfRange | indexTooLarge => "IndexError"
  | notAnInteger _ | tooManyDigits .. | nanInteger => "ValueError"
  | infiniteInteger => "OverflowError"
  | notUtf8 .. => "UnicodeDecodeError"
  | badBrackets | badHost _ | unsafeHost _ => "ValueError"
  | noHome => "RuntimeError"
  | unencodable .. => "UnicodeEncodeError"
  | nullByte => "ValueError"
  | system k _ => k
  | scriptError _ => "ScriptError"

/-- Whether the fault is one of the setup faults that a user has to resolve:
no server installed, an outdated one, an installation in progress, or no key. -/
def isSetup : Fault → Bool
  | notInstalled | outdated .. | installing | notSignedIn => true
  | _ => false

end Fault

end CompletionClient
