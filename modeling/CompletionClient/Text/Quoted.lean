import CompletionClient.Text.Printable
import CompletionClient.Text.CodePoints
/-!
# Quoted text

The quoted form of a text, as it appears inside the text of a list or an
object and in messages: between single quotes, or between double quotes when
the text holds a single quote and no double quote.  Inside, the backslash and
the chosen quote are escaped by a backslash, tab, line feed and carriage return
are written `\t`, `\n`, `\r`, and every other character that is not printable
is written by its code point in lowercase hexadecimal: `\xhh` below U+0100,
`\uhhhh` below U+10000 and `\Uhhhhhhhh` above.  The quoted form is made from
the text's code points, so a surrogate is written `\udxxx`.
-/

namespace CompletionClient.Text

/-- `n` in lowercase hexadecimal with exactly `width` digits (for `n < 16^width`). -/
def hexDigits (width : Nat) (n : Nat) : String :=
  String.ofList ((List.range width).reverse.map fun i =>
    let d := n / Nat.pow 16 i % 16
    if d < 10 then Char.ofNat (48 + d) else Char.ofNat (87 + d))

/-- The escape of a character inside quotes delimited by `quote`. -/
def escapeChar (quote : Char) (c : Char) : String :=
  if c = quote ∨ c = '\\' then String.ofList ['\\', c]
  else if c = '\t' then "\\t"
  else if c = '\n' then "\\n"
  else if c = '\r' then "\\r"
  else
    let n := c.toNat
    if n < 0x20 ∨ n = 0x7F then "\\x" ++ hexDigits 2 n
    else if n < 0x7F then String.singleton c
    else if isPrintable c then String.singleton c
    else if n < 0x100 then "\\x" ++ hexDigits 2 n
    else if n < 0x10000 then "\\u" ++ hexDigits 4 n
    else "\\U" ++ hexDigits 8 n

/-- The escape of a code point inside quotes delimited by `quote`: U+D7FF and the
surrogates are not printable. -/
def escapePoint (quote : Char) (n : Nat) : String :=
  if isPaired n then "\\u" ++ hexDigits 4 n else escapeChar quote (Char.ofNat n)

/-- The quote that delimits a text: double when it holds a single quote and no
double quote, else single. -/
def quoteFor (s : String) : Char :=
  if s.toList.contains '\'' && !s.toList.contains '"' then '"' else '\''

/-- The quoted form of a text. -/
def quote (s : String) : String :=
  let q := quoteFor s
  String.singleton q ++ String.join ((codePoints s).map (escapePoint q)) ++ String.singleton q

end CompletionClient.Text
