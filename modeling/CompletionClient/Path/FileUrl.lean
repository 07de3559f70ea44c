import CompletionClient.Path.Host
import CompletionClient.Text.Utf8
import CompletionClient.Data.Json
/-!
# File URLs

The path of a `file://` URL.  Tabs, carriage returns and line feeds are
removed from the whole URL first.  After the scheme and `//` comes the host,
up to the first `/`, `?` or `#`; the path runs from there to the first `?` or
`#`.  The host part must pass two checks (`CompletionClient.Host`).

* Brackets: an opening bracket needs a closing one and the other way round.
  When both stand in it, the host is read from the part after the last `@`:
  a bracket there must open that part, the host is what the brackets enclose,
  and only a port after `:` may follow them; without a bracket there, the
  host runs to the first `:`.  Either host must be an address that may stand
  between brackets (`Host.checkBracketed`).
* No character may turn into a delimiter under compatibility normalisation.

The path is then percent-decoded (`FileUrl.unquote`): `%` and two hexadecimal
digits of either case stand for a byte, and each maximal run of ASCII
characters is read as UTF-8 with replacement; characters outside ASCII stay as
they are.
-/

namespace CompletionClient.FileUrl

/-- The scheme and separator that mark a file URL. -/
def prefixText : String := "file://"

/-- Whether a text is a file URL. -/
def isFileUrl (s : String) : Bool := s.startsWith prefixText

/-- The bytes of a run of ASCII characters with its percent escapes decoded. -/
def percentBytes : List Char → List UInt8
  | '%' :: a :: b :: rest =>
    match Json.hexValue? a, Json.hexValue? b with
    | some x, some y => (x * 16 + y).toUInt8 :: percentBytes rest
    | _, _ => 37 :: percentBytes (a :: b :: rest)
  | c :: rest => c.toNat.toUInt8 :: percentBytes rest
  | [] => []

/-- Splits a text into maximal runs of ASCII and of other characters, with a
flag that tells which is which. -/
def runs (cs : List Char) : List (Bool × List Char) :=
  cs.foldr (fun c acc =>
    let ascii := c.toNat < 128
    match acc with
    | (a, r) :: rest => if a = ascii then (a, c :: r) :: rest else (ascii, [c]) :: acc
    | [] => [(ascii, [c])]) []

/-- Percent-decoding of a text; a text without `%` is kept as it is. -/
def unquote (s : String) : String :=
  if !s.toList.contains '%' then s
  else String.join ((runs s.toList).map fun (ascii, r) =>
    if ascii then Utf8.decodeLossy [] (percentBytes r) else String.ofList r)

/-- The characters after the last `c`, or all of them without a `c`. -/
def afterLast (c : Char) (cs : List Char) : List Char :=
  (cs.reverse.takeWhile (· != c)).reverse

/-- Checks the host of a netloc that holds both brackets. -/
def checkBracketedHost (netloc : List Char) : Except Fault Unit :=
  let hostPort := afterLast '@' netloc
  if hostPort.contains '[' then
    let inside := (hostPort.dropWhile (· != '[')).drop 1
    let port := (inside.dropWhile (· != ']')).drop 1
    if hostPort.head? != some '[' then .error .badBrackets
    else if !port.isEmpty && port.head? != some ':' then .error .badBrackets
    else Host.checkBracketed (String.ofList (inside.takeWhile (· != ']')))
  else Host.checkBracketed (String.ofList (hostPort.takeWhile (· != ':')))

/-- Checks the host part of a URL. -/
def checkHost (netloc : String) : Except Fault Unit := do
  let cs := netloc.toList
  let opens := cs.contains '['
  let closes := cs.contains ']'
  if opens != closes then throw .badBrackets
  if opens && closes then checkBracketedHost cs
  if cs.any (·.toNat ≥ 128) then
    Host.checkNormalized (String.ofList (cs.filter fun c => c ∉ ['@', ':', '#', '?']))
      |>.mapError fun _ => .unsafeHost netloc

/-- The percent-decoded path of a file URL. -/
def path (url : String) : Except Fault String := do
  let cs := (url.toList.filter fun c => c ∉ ['\t', '\r', '\n']).drop prefixText.length
  let netloc := cs.takeWhile (· ∉ ['/', '?', '#'])
  let rest := cs.dropWhile (· ∉ ['/', '?', '#'])
  checkHost (String.ofList netloc)
  pure (unquote (String.ofList (rest.takeWhile (· ∉ ['?', '#']))))

end CompletionClient.FileUrl
