import CompletionClient.Path.Posix
/-!
# Languages of documents

Every document in a completion request carries two language fields, both
derived from the file name: the editor's language identifier (such as
`python`) and the language server's own language number (`CodeLanguage`).

A name is looked up lowercased, first as a whole in `Language.byName`, then
by its suffix in `Language.bySuffix`; anything else is plain text.  The suffix
of a name runs from its last dot, when that dot is neither first nor last.
-/

namespace CompletionClient

/-- The languages that the language server knows, in the order of their numbers. -/
inductive CodeLanguage where
  | unspecified
  | c
  | clojure
  | coffeescript
  | cpp
  | csharp
  | css
  | cudacpp
  | dockerfile
  | go
  | groovy
  | handlebars
  | haskell
  | hcl
  | html
  | ini
  | java
  | javascript
  | json
  | julia
  | kotlin
  | latex
  | less
  | lua
  | makefile
  | markdown
  | objectivec
  | objectivecpp
  | perl
  | php
  | plaintext
  | protobuf
  | pbtxt
  | python
  | r
  | ruby
  | rust
  | sass
  | scala
  | scss
  | shell
  | sql
  | starlark
  | swift
  | tsx
  | typescript
  | visualbasic
  | vue
  | xml
  | xsl
  | yaml
  | svelte
  | toml
  | dart
  deriving DecidableEq, Inhabited, Repr

namespace CodeLanguage

/-- The number of a language on the wire. -/
def number : CodeLanguage → Nat
  | unspecified => 0
  | c => 1
  | clojure => 2
  | coffeescript => 3
  | cpp => 4
  | csharp => 5
  | css => 6
  | cudacpp => 7
  | dockerfile => 8
  | go => 9
  | groovy => 10
  | handlebars => 11
  | haskell => 12
  | hcl => 13
  | html => 14
  | ini => 15
  | java => 16
  | javascript => 17
  | json => 18
  | julia => 19
  | kotlin => 20
  | latex => 21
  | less => 22
  | lua => 23
  | makefile => 24
  | markdown => 25
  | objectivec => 26
  | objectivecpp => 27
  | perl => 28
  | php => 29
  | plaintext => 30
  | protobuf => 31
  | pbtxt => 32
  | python => 33
  | r => 34
  | ruby => 35
  | rust => 36
  | sass => 37
  | scala => 38
  | scss => 39
  | shell => 40
  | sql => 41
  | starlark => 42
  | swift => 43
  | tsx => 44
  | typescript => 45
  | visualbasic => 46
  | vue => 47
  | xml => 48
  | xsl => 49
  | yaml => 50
  | svelte => 51
  | toml => 52
  | dart => 53

/-- The name of a language, in capitals. -/
def name : CodeLanguage → String
  | unspecified => "UNSPECIFIED"
  | c => "C"
  | clojure => "CLOJURE"
  | coffeescript => "COFFEESCRIPT"
  | cpp => "CPP"
  | csharp => "CSHARP"
  | css => "CSS"
  | cudacpp => "CUDACPP"
  | dockerfile => "DOCKERFILE"
  | go => "GO"
  | groovy => "GROOVY"
  | handlebars => "HANDLEBARS"
  | haskell => "HASKELL"
  | hcl => "HCL"
  | html => "HTML"
  | ini => "INI"
  | java => "JAVA"
  | javascript => "JAVASCRIPT"
  | json => "JSON"
  | julia => "JULIA"
  | kotlin => "KOTLIN"
  | latex => "LATEX"
  | less => "LESS"
  | lua => "LUA"
  | makefile => "MAKEFILE"
  | markdown => "MARKDOWN"
  | objectivec => "OBJECTIVEC"
  | objectivecpp => "OBJECTIVECPP"
  | perl => "PERL"
  | php => "PHP"
  | plaintext => "PLAINTEXT"
  | protobuf => "PROTOBUF"
  | pbtxt => "PBTXT"
  | python => "PYTHON"
  | r => "R"
  | ruby => "RUBY"
  | rust => "RUST"
  | sass => "SASS"
  | scala => "SCALA"
  | scss => "SCSS"
  | shell => "SHELL"
  | sql => "SQL"
  | starlark => "STARLARK"
  | swift => "SWIFT"
  | tsx => "TSX"
  | typescript => "TYPESCRIPT"
  | visualbasic => "VISUALBASIC"
  | vue => "VUE"
  | xml => "XML"
  | xsl => "XSL"
  | yaml => "YAML"
  | svelte => "SVELTE"
  | toml => "TOML"
  | dart => "DART"

end CodeLanguage

/-- The language of a document: the editor's identifier and the server's language. -/
structure LanguageId where
  /-- The editor's language identifier. -/
  editorLanguage : String
  /-- The language server's language. -/
  code : CodeLanguage
  deriving DecidableEq, Inhabited

namespace Language

/-- Plain text, the language of every file that nothing else matches. -/
def plaintext : LanguageId := ⟨"plaintext", .plaintext⟩

/-- Languages of whole file names, lowercased. -/
def byName : List (String × LanguageId) :=
  [("dockerfile", ⟨"dockerfile", .dockerfile⟩),
   ("makefile", ⟨"makefile", .makefile⟩),
   ("gnumakefile", ⟨"makefile", .makefile⟩),
   ("build", ⟨"starlark", .starlark⟩),
   ("build.bazel", ⟨"starlark", .starlark⟩),
   ("workspace", ⟨"starlark", .starlark⟩)]

/-- Languages of lowercased suffixes. -/
def bySuffix : List (String × LanguageId) :=
  [(".c", ⟨"c", .c⟩),
   (".h", ⟨"c", .c⟩),
   (".clj", ⟨"clojure", .clojure⟩),
   (".cljs", ⟨"clojure", .clojure⟩),
   (".coffee", ⟨"coffeescript", .coffeescript⟩),
   (".cc", ⟨"cpp", .cpp⟩),
   (".cpp", ⟨"cpp", .cpp⟩),
   (".cxx", ⟨"cpp", .cpp⟩),
   (".hpp", ⟨"cpp", .cpp⟩),
   (".hh", ⟨"cpp", .cpp⟩),
   (".cs", ⟨"csharp", .csharp⟩),
   (".css", ⟨"css", .css⟩),
   (".cu", ⟨"cuda-cpp", .cudacpp⟩),
   (".go", ⟨"go", .go⟩),
   (".groovy", ⟨"groovy", .groovy⟩),
   (".hbs", ⟨"handlebars", .handlebars⟩),
   (".hs", ⟨"haskell", .haskell⟩),
   (".tf", ⟨"hcl", .hcl⟩),
   (".hcl", ⟨"hcl", .hcl⟩),
   (".html", ⟨"html", .html⟩),
   (".htm", ⟨"html", .html⟩),
   (".ini", ⟨"ini", .ini⟩),
   (".java", ⟨"java", .java⟩),
   (".js", ⟨"javascript", .javascript⟩),
   (".mjs", ⟨"javascript", .javascript⟩),
   (".cjs", ⟨"javascript", .javascript⟩),
   (".jsx", ⟨"javascriptreact", .javascript⟩),
   (".json", ⟨"json", .json⟩),
   (".jl", ⟨"julia", .julia⟩),
   (".kt", ⟨"kotlin", .kotlin⟩),
   (".kts", ⟨"kotlin", .kotlin⟩),
   (".tex", ⟨"latex", .latex⟩),
   (".less", ⟨"less", .less⟩),
   (".lua", ⟨"lua", .lua⟩),
   (".mk", ⟨"makefile", .makefile⟩),
   (".md", ⟨"markdown", .markdown⟩),
   (".markdown", ⟨"markdown", .markdown⟩),
   (".m", ⟨"objective-c", .objectivec⟩),
   (".mm", ⟨"objective-cpp", .objectivecpp⟩),
   (".pl", ⟨"perl", .perl⟩),
   (".pm", ⟨"perl", .perl⟩),
   (".php", ⟨"php", .php⟩),
   (".txt", ⟨"plaintext", .plaintext⟩),
   (".proto", ⟨"proto", .protobuf⟩),
   (".pbtxt", ⟨"pbtxt", .pbtxt⟩),
   (".py", ⟨"python", .python⟩),
   (".pyi", ⟨"python", .python⟩),
   (".r", ⟨"r", .r⟩),
   (".rb", ⟨"ruby", .ruby⟩),
   (".rs", ⟨"rust", .rust⟩),
   (".sass", ⟨"sass", .sass⟩),
   (".scala", ⟨"scala", .scala⟩),
   (".scss", ⟨"scss", .scss⟩),
   (".sh", ⟨"shellscript", .shell⟩),
   (".bash", ⟨"shellscript", .shell⟩),
   (".zsh", ⟨"shellscript", .shell⟩),
   (".sql", ⟨"sql", .sql⟩),
   (".bzl", ⟨"starlark", .starlark⟩),
   (".star", ⟨"starlark", .starlark⟩),
   (".swift", ⟨"swift", .swift⟩),
   (".tsx", ⟨"typescriptreact", .tsx⟩),
   (".ts", ⟨"typescript", .typescript⟩),
   (".vb", ⟨"vb", .visualbasic⟩),
   (".vue", ⟨"vue", .vue⟩),
   (".xml", ⟨"xml", .xml⟩),
   (".plist", ⟨"xml", .xml⟩),
   (".xsl", ⟨"xsl", .xsl⟩),
   (".yaml", ⟨"yaml", .yaml⟩),
   (".yml", ⟨"yaml", .yaml⟩),
   (".svelte", ⟨"svelte", .svelte⟩),
   (".toml", ⟨"toml", .toml⟩),
   (".dart", ⟨"dart", .dart⟩)]

/-- The lowercase of a character, as far as a lookup in the tables can tell:
ASCII capitals become small letters, the Kelvin sign becomes `k` and the capital
I with dot above becomes `i` and a combining dot.  Every other character is
kept; since every key of the tables is ASCII, a character that lowercases to
another one outside ASCII matches no key either way. -/
def lowerChar (c : Char) : List Char :=
  if 'A' ≤ c ∧ c ≤ 'Z' then [Char.ofNat (c.toNat + 32)]
  else if c.toNat = 0x212A then ['k']
  else if c.toNat = 0x130 then ['i', Char.ofNat 0x307]
  else [c]

/-- The lowercase of a name, as far as a lookup in the tables can tell. -/
def lower (s : String) : String := String.ofList (s.toList.flatMap lowerChar)

/-- The language of a file name. -/
def ofName (name : String) : LanguageId :=
  let key := lower name
  match byName.lookup key with
  | some l => l
  | none => (bySuffix.lookup (PosixPath.suffixOf key)).getD plaintext

/-- The language of a path: that of its last name. -/
def ofPath (p : PosixPath) : LanguageId := ofName p.name

end Language

end CompletionClient
