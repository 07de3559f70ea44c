import CompletionClient.Fault
import CompletionClient.Text.Quoted
/-!
# Hosts between brackets

A URL may write its host between brackets; the text inside must then be an
IPv6 address or a future address form (`v`, hexadecimal digits, a dot and at
least one more character).  An IPv4 address is refused there.

The address forms are the usual ones.  IPv4: four decimal numbers up to 255
separated by dots, without leading zeros.  IPv6: eight groups of up to four
hexadecimal digits separated by colons, where one `::` may stand for one or
more groups of zeros, the last two groups may be written as an IPv4 address,
and a zone may follow after `%`.

A host may also hold characters that turn into a delimiter of the URL under
compatibility normalisation (such as the fullwidth solidus); those make the
URL unsafe.
-/

namespace CompletionClient.Host

/-- Whether a text is a decimal IPv4 part: one to three ASCII digits, no
leading zero, at most 255. -/
def isOctet (s : String) : Bool :=
  let cs := s.toList
  !cs.isEmpty && cs.length ≤ 3 && cs.all (fun c => '0' ≤ c && c ≤ '9') &&
    (cs.length = 1 || cs.head? != some '0') &&
    (cs.foldl (fun n c => 10 * n + (c.toNat - 48)) 0) ≤ 255

/-- Whether a text is an IPv4 address. -/
def isIPv4 (s : String) : Bool :=
  let parts := s.splitOn "."
  parts.length = 4 && parts.all isOctet

/-- Whether a character is a hexadecimal digit. -/
def isHexDigit (c : Char) : Bool :=
  ('0' ≤ c && c ≤ '9') || ('a' ≤ c && c ≤ 'f') || ('A' ≤ c && c ≤ 'F')

/-- Whether a text is a group of an IPv6 address: one to four hexadecimal digits. -/
def isGroup (s : String) : Bool :=
  let cs := s.toList
  !cs.isEmpty && cs.length ≤ 4 && cs.all isHexDigit

/-- Whether colon-separated pieces form an IPv6 address of eight groups: with
no empty inner piece, eight groups; with one, the groups before and after it,
where an empty first or last piece must belong to the `::`, and at least one
group left for the `::` to stand for. -/
def groupsValid (parts : List String) : Bool :=
  let len := parts.length
  let empties := (List.range len).filter fun i =>
    0 < i && i + 1 < len && parts[i]? == some ""
  if len > 9 then false
  else match empties with
    | [] => len = 8 && parts.all isGroup
    | [k] =>
      let firstEmpty := parts.head? == some ""
      let lastEmpty := parts.getLast? == some ""
      let hi := if firstEmpty then k - 1 else k
      let lo := if lastEmpty then len - k - 2 else len - k - 1
      (!firstEmpty || k = 1) && (!lastEmpty || len - k - 1 = 1) && hi + lo < 8 &&
        (parts.take hi).all isGroup && (parts.drop (len - lo)).all isGroup
    | _ => false

/-- Whether a text is an IPv6 address, with an optional zone after `%`. -/
def isIPv6 (s : String) : Bool :=
  match s.splitOn "%" with
  | [addr] => addressValid addr
  | [addr, zone] => !zone.isEmpty && addressValid addr
  | _ => false
where
  /-- Whether a text without a zone is an IPv6 address; a last piece with a
  dot is an IPv4 address that stands for the last two groups. -/
  addressValid (addr : String) : Bool :=
    let parts := addr.splitOn ":"
    if parts.length < 3 then false
    else match parts.getLast? with
      | some last =>
        if last.toList.contains '.' then isIPv4 last && groupsValid (parts.dropLast ++ ["0", "0"])
        else groupsValid parts
      | none => false

/-- Checks the text between the brackets of a host. -/
def checkBracketed (host : String) : Except Fault Unit :=
  match host.toList with
  | 'v' :: rest =>
    let digits := rest.takeWhile isHexDigit
    match rest.dropWhile isHexDigit with
    | '.' :: more => if !digits.isEmpty && !more.isEmpty then .ok () else
        .error (.badHost "IPvFuture address is invalid")
    | _ => .error (.badHost "IPvFuture address is invalid")
  | _ =>
    if isIPv4 host then .error (.badHost "An IPv4 address cannot be in brackets")
    else if isIPv6 host then .ok ()
    else .error (.badHost (Text.quote host ++ " does not appear to be an IPv4 or IPv6 address"))

/-- The characters that compatibility normalisation turns into text holding
`/`, `?`, `#`, `@` or `:`, by code point. -/
def unsafeCodePoints : List Nat :=
  [0x2047, 0x2048, 0x2049, 0x2100, 0x2101, 0x2105, 0x2106, 0x2A74, 0xFE13, 0xFE16,
   0xFE55, 0xFE56, 0xFE5F, 0xFE6B, 0xFF03, 0xFF0F, 0xFF1A, 0xFF1F, 0xFF20]

/-- Checks that no character of a host turns into a delimiter under
compatibility normalisation. -/
def checkNormalized (netloc : String) : Except Fault Unit :=
  if netloc.toList.any fun c => unsafeCodePoints.contains c.toNat then .error (.unsafeHost netloc)
  else .ok ()

end CompletionClient.Host
