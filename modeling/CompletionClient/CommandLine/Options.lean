import CompletionClient.Numeral.Integer
import CompletionClient.Text.Digit
import CompletionClient.Text.Quoted
/-!
# Command-line options

A small option parser in the manner of the common argument parsers: a
program level with options and a choice of commands, and for each command a
level with options and at most one positional argument.  It also writes the
usage line and the help text of each level.

Reading the arguments of a level goes in two passes.  The first classifies
each argument: after `--` everything is a plain argument; otherwise an
argument that starts with `-` is an option when it names one (in full, before
an `=`, or by an unambiguous prefix), is a plain argument when it looks like a
negative number or holds a space, and is an unknown option otherwise.  The
second pass walks the arguments: a run of plain arguments fills the positional
argument, and an option takes its value from its `=` part or from the next
argument.  Unknown options and surplus arguments are collected and reported by
the program level as unrecognised.  The first fault stops the reading with the
usage line of the level that found it.

The texts are laid out for a terminal of 80 columns.
-/

namespace CompletionClient.CommandLine

/-- What an option takes. -/
inductive Takes where
  /-- Nothing: it shows the help of its level and stops. -/
  | help
  /-- Nothing: it turns a switch on. -/
  | flag
  /-- One value, kept as text. -/
  | text
  /-- One value, read as a decimal integer. -/
  | integer
  deriving DecidableEq, Inhabited

/-- Whether an option takes no value. -/
def Takes.none : Takes → Bool
  | .help | .flag => true
  | _ => false

/-- An option. -/
structure Opt where
  /-- Its spellings, such as `-h` and `--help`. -/
  flags : List String
  /-- What it takes. -/
  takes : Takes
  /-- The name its value is stored under. -/
  dest : String
  /-- Whether it must be given. -/
  required : Bool
  /-- Its help line, if it has one. -/
  help : Option String
  deriving Inhabited

/-- The name of an option's value in texts: its storage name in capitals. -/
def Opt.metavar (o : Opt) : String := o.dest.toUpper

/-- An argument of a level. -/
inductive Arg where
  /-- An option. -/
  | opt (o : Opt)
  /-- A positional argument taking one value. -/
  | pos (dest : String) (help : Option String)
  /-- The choice of a command, with the commands' names and help lines; the
  rest of the arguments go to the command. -/
  | choice (dest : String) (commands : List (String × String))
  deriving Inhabited

/-- A level of the command line: its program name, description and arguments. -/
structure Level where
  /-- The program name shown in texts. -/
  prog : String
  /-- What the program does, if said. -/
  description : Option String
  /-- The arguments, in the order they are shown. -/
  args : List Arg
  deriving Inhabited

/-- The option that shows the help. -/
def helpOption : Opt :=
  { flags := ["-h", "--help"], takes := .help, dest := "help", required := false,
    help := some "show this help message and exit" }

/-! ## Texts -/

/-- The width of the text area. -/
def width : Nat := 78

/-- The column at which help lines start at most. -/
def maxHelpPosition : Nat := 24

/-- `n` spaces. -/
def spaces (n : Nat) : String := String.ofList (List.replicate n ' ')

/-- A text padded with spaces to `n` characters. -/
def padTo (n : Nat) (s : String) : String := s ++ spaces (n - s.length)

/-- The options of a level. -/
def Level.options (l : Level) : List Opt :=
  l.args.filterMap fun | .opt o => some o | _ => none

/-- The positional arguments of a level. -/
def Level.positionals (l : Level) : List Arg :=
  l.args.filter fun | .opt _ => false | _ => true

/-- How an argument is named in the help. -/
def Arg.invocation : Arg → String
  | .opt o =>
    if o.takes.none then ", ".intercalate o.flags
    else ", ".intercalate (o.flags.map (· ++ " " ++ o.metavar))
  | .pos dest _ => dest
  | .choice _ commands => "\x7b" ++ ",".intercalate (commands.map (·.1)) ++ "\x7d"

/-- How an argument is named in faults. -/
def Arg.name : Arg → String
  | .opt o => "/".intercalate o.flags
  | .pos dest _ => dest
  | .choice dest _ => dest

/-- The pieces of an argument in the usage line, where a line may break. -/
def Arg.usageParts : Arg → List String
  | .opt o =>
    let first := o.flags.headD ""
    let core := if o.takes.none then [first] else [first, o.metavar]
    if o.required then core else ["[" ++ " ".intercalate core ++ "]"]
  | .pos dest _ => [dest]
  | a@(.choice ..) => [a.invocation, "..."]

/-- Lines of `parts` joined by spaces, broken before a part that would pass
the text width; the lines after the first are indented by `indent`. -/
def usageLines (parts : List String) (indent : Nat) (first : Nat) : List String :=
  let step := fun (acc : List String × List String × Nat) (part : String) =>
    let (lines, line, len) := acc
    if len + 1 + part.length > width && !line.isEmpty then
      (lines ++ [" ".intercalate line], [part], indent - 1 + part.length + 1)
    else (lines, line ++ [part], len + part.length + 1)
  let (lines, line, _) := parts.foldl step ([], [], first - 1)
  if line.isEmpty then lines else lines ++ [" ".intercalate line]

/-- The usage line of a level, broken over lines when it is too long: the
options follow the program name, and the positional arguments start a new
line, all lined up after the program name. -/
def Level.usage (l : Level) : String :=
  let prefixText := "usage: "
  let optParts := l.options.flatMap fun o => (Arg.opt o).usageParts
  let posParts := l.positionals.flatMap Arg.usageParts
  let whole := " ".intercalate (l.prog :: optParts ++ posParts)
  if prefixText.length + whole.length ≤ width then prefixText ++ whole ++ "\n"
  else
    let indent := prefixText.length + l.prog.length + 1
    let lines :=
      if optParts.isEmpty then usageLines (l.prog :: posParts) indent prefixText.length
      else usageLines (l.prog :: optParts) indent prefixText.length ++
        usageLines posParts indent indent
    let lines := match lines with
      | [] => []
      | first :: rest => first :: rest.map (spaces indent ++ ·)
    prefixText ++ "\n".intercalate lines ++ "\n"

/-- Words of a text laid out in lines of at most `w` characters, a word longer
than a line standing alone. -/
def wrapWords (w : Nat) (text : String) : List String :=
  let words := (text.splitOn " ").filter (!·.isEmpty)
  let (lines, line) := words.foldl (fun (acc : List String × String) word =>
    let (lines, line) := acc
    if line.isEmpty then (lines, word)
    else if line.length + 1 + word.length ≤ w then (lines, line ++ " " ++ word)
    else (lines ++ [line], word)) ([], "")
  if line.isEmpty then lines else lines ++ [line]

/-- The column at which the help lines of a level start. -/
def Level.helpPosition (l : Level) : Nat :=
  let lengths := l.args.flatMap fun a =>
    let own := a.invocation.length + 2
    match a with
    | .choice _ commands => own :: commands.map (·.1.length + 2)
    | _ => [own]
  min (lengths.foldl max 0 + 2) maxHelpPosition

/-- One entry of a help section: the argument's name at `indent`, and its help
from `column` on, on the same line when the name leaves room. -/
def helpEntry (column indent : Nat) (header : String) (help : Option String) : String :=
  match help with
  | none => spaces indent ++ header ++ "\n"
  | some h =>
    let lines := wrapWords (max (width - column) 11) h
    let rest := String.join (lines.drop 1 |>.map (spaces column ++ · ++ "\n"))
    let room := column - indent - 2
    if header.length ≤ room then
      spaces indent ++ padTo room header ++ "  " ++ lines.headD "" ++ "\n" ++ rest
    else
      spaces indent ++ header ++ "\n" ++ spaces column ++ lines.headD "" ++ "\n" ++ rest

/-- The help entries of an argument. -/
def Arg.helpEntries (column : Nat) : Arg → String
  | a@(.opt o) => helpEntry column 2 a.invocation o.help
  | a@(.pos _ help) => helpEntry column 2 a.invocation help
  | a@(.choice _ commands) =>
    helpEntry column 2 a.invocation none ++
      String.join (commands.map fun (name, help) => helpEntry column 4 name (some help))

/-- The help text of a level: its usage, its description, and a section for
its positional arguments and one for its options. -/
def Level.helpText (l : Level) : String :=
  let column := l.helpPosition
  let block := fun (title : String) (args : List Arg) =>
    if args.isEmpty then []
    else [title ++ ":\n" ++ String.join (args.map (Arg.helpEntries column))]
  let blocks := [l.usage] ++ (l.description.map (· ++ "\n")).toList ++
    block "positional arguments" l.positionals ++
    block "options" (l.options.map Arg.opt)
  "\n".intercalate blocks

/-! ## Reading arguments -/

/-- Why reading stopped early: to show the help, or at a fault, with the
usage line and program name of the level that found it. -/
inductive Stop where
  /-- Show this help and succeed. -/
  | help (text : String)
  /-- Fail with this message. -/
  | fault (usage prog message : String)
  deriving Inhabited

/-- A value read for an argument. -/
inductive Given where
  /-- A switch turned on. -/
  | flag
  /-- A text. -/
  | text (s : String)
  /-- An integer. -/
  | integer (n : Int)
  deriving Inhabited

/-- What one argument is, after the first pass. -/
inductive Token where
  /-- The `--` that ends the options. -/
  | dashes
  /-- A plain argument. -/
  | plain
  /-- An option, known or not, as spelt, with the text attached to it if any:
  after an `=`, as in `--width=3`, or right after a one-letter option, as in `-w3`. -/
  | option (o : Option Opt) (spelling : String) (attached : Option String)
  deriving Inhabited

/-- Whether a token is an option. -/
def Token.isOption : Token → Bool
  | .option .. => true
  | _ => false

/-- Whether a text looks like a negative number: a minus, then digits, or
digits, a point and digits; a final line feed is allowed. -/
def looksNegative (s : String) : Bool :=
  let cs := s.toList
  let cs := if cs.getLast? = some '\n' then cs.dropLast else cs
  match cs with
  | '-' :: rest =>
    let isD := fun c => (Text.decimalValue? c).isSome
    (!rest.isEmpty && rest.all isD) ||
      (match rest.dropWhile isD with
       | '.' :: frac => !frac.isEmpty && frac.all isD
       | _ => false)
  | _ => false

/-- A text split at its first `=`, if it has one. -/
def splitEquals (s : String) : Option (String × String) :=
  match s.splitOn "=" with
  | k :: v :: more => some (k, "=".intercalate (v :: more))
  | _ => none

/-- The option a level knows by a spelling. -/
def Level.lookup (l : Level) (spelling : String) : Option Opt :=
  l.options.find? (·.flags.contains spelling)

/-- The options that an abbreviated spelling may stand for, with the value
part each would take. -/
def Level.candidates (l : Level) (s : String) : List (Opt × String × Option String) :=
  let all := l.options.flatMap fun o => o.flags.map (o, ·)
  if s.toList[1]? = some '-' then
    let (prefixText, attached) := match splitEquals s with
      | some (k, v) => (k, some v)
      | none => (s, none)
    all.filterMap fun (o, f) => if f.startsWith prefixText then some (o, f, attached) else none
  else
    let short := String.ofList (s.toList.take 2)
    let glued := String.ofList (s.toList.drop 2)
    all.filterMap fun (o, f) =>
      if f = short then some (o, f, some glued)
      else if f.startsWith s then some (o, f, none)
      else none

/-- Classifies one argument that does not follow `--`. -/
def Level.classify (l : Level) (s : String) : Except Stop Token :=
  if s.isEmpty || s.front != '-' || s = "-" then .ok .plain
  else match l.lookup s with
  | some o => .ok (.option (some o) s none)
  | none =>
    let exact := match splitEquals s with
      | some (k, v) => (l.lookup k).map fun o => Token.option (some o) k (some v)
      | none => none
    match exact with
    | some t => .ok t
    | none =>
      match l.candidates s with
      | [(o, f, e)] => .ok (.option (some o) f e)
      | _ :: _ :: _ =>
        .error (.fault l.usage l.prog ("ambiguous option: " ++ s ++ " could match " ++
          ", ".intercalate ((l.candidates s).map (·.2.1))))
      | [] =>
        if looksNegative s || s.contains ' ' then .ok .plain
        else .ok (.option none s none)

/-- Classifies the arguments of a level. -/
def Level.tokens (l : Level) : Bool → List String → Except Stop (List Token)
  | _, [] => .ok []
  | true, _ :: rest => do return .plain :: (← l.tokens true rest)
  | false, s :: rest =>
    if s = "--" then do return .dashes :: (← l.tokens true rest)
    else do return (← l.classify s) :: (← l.tokens false rest)

/-- What reading a level has found so far. -/
structure Reading where
  /-- Values by storage name, latest last. -/
  values : List (String × Given) := []
  /-- The storage names of the arguments given. -/
  seen : List String := []
  /-- Arguments nobody took. -/
  extras : List String := []
  /-- Whether the positional argument was filled. -/
  filled : Bool := false
  deriving Inhabited

/-- The value stored under a name, the latest one. -/
def Reading.get? (r : Reading) (dest : String) : Option Given :=
  (r.values.reverse.lookup dest)

/-- A fault of an argument of a level. -/
def Level.argumentFault (l : Level) (a : Arg) (message : String) : Stop :=
  .fault l.usage l.prog ("argument " ++ a.name ++ ": " ++ message)

/-- How the chosen command reads the rest of the arguments: its values and
the arguments it did not take. -/
abbrev CommandReader := String → List String → Except Stop (List (String × Given) × List String)

/-- Takes an option's value or effect. -/
def Level.takeOption (l : Level) (r : Reading) (o : Opt) (value : Option String) :
    Except Stop Reading := do
  let r := { r with seen := r.seen ++ [o.dest] }
  match o.takes, value with
  | .help, _ => throw (.help l.helpText)
  | .flag, _ => pure { r with values := r.values ++ [(o.dest, .flag)] }
  | .text, some v => pure { r with values := r.values ++ [(o.dest, .text v)] }
  | .integer, some v =>
    match Integer.read v with
    | .ok n => pure { r with values := r.values ++ [(o.dest, .integer n)] }
    | .error _ => throw (l.argumentFault (.opt o) ("invalid int value: " ++ Text.quote v))
  | _, none => throw (l.argumentFault (.opt o) "expected one argument")

/-- Gathers the options that one option argument stands for, with the values
they take and how many arguments they use.  A one-letter switch may carry more
one-letter options glued after it, each switch the next letter names; a letter
that names no option, or a text attached to any other option that takes no
value, is a fault of the option before it, which names the whole rest. -/
def Level.gatherOptions (l : Level) (o : Opt) (spelling : String) (attached : Option String)
    (next : Option String) : Nat → Except Stop (List (Opt × Option String) × Nat)
  | 0 => .ok ([], 1)
  | fuel + 1 =>
    match attached with
    | some e =>
      let ignored := l.argumentFault (.opt o) ("ignored explicit argument " ++ Text.quote e)
      if !o.takes.none then .ok ([(o, some e)], 1)
      else if spelling.toList[1]? == some '-' || e.isEmpty then .error ignored
      else
        let spelling' := String.ofList ['-', e.front]
        let rest := String.ofList (e.toList.drop 1)
        match l.lookup spelling' with
        | some o' => do
          let (more, used) ←
            l.gatherOptions o' spelling' (if rest.isEmpty then none else some rest) next fuel
          pure ((o, none) :: more, used)
        | none => .error ignored
    | none =>
      if o.takes.none then .ok ([(o, none)], 1)
      else match next with
        | some v => .ok ([(o, some v)], 2)
        | none => .error (l.argumentFault (.opt o) "expected one argument")

/-- Reads the option at index `i`: an unknown one is set aside. -/
def Level.consumeOption (l : Level) (args : List String) (tokens : List Token) (i : Nat)
    (r : Reading) : Except Stop (Nat × Reading) :=
  match tokens[i]? with
  | some (.option (some o) spelling attached) => do
    let next := match tokens[i + 1]? with
      | some .plain => args[i + 1]?
      | _ => none
    let (taken, used) ← l.gatherOptions o spelling attached next ((attached.map String.length).getD 0 + 1)
    let r ← taken.foldlM (fun r (o, v) => l.takeOption r o v) r
    pure (i + used, r)
  | _ => .ok (i + 1, { r with extras := r.extras ++ (args[i]?).toList })

/-- The number of `--` tokens from index `i` on. -/
def countDashes (tokens : List Token) (i : Nat) : Nat :=
  ((tokens.drop i).takeWhile fun | .dashes => true | _ => false).length

/-- Fills the positional argument from index `i`, when a plain argument comes
there after any `--`: a one-value argument takes it and the `--` around it;
the choice of a command takes every argument from there on. -/
def Level.consumePositional (l : Level) (sub : CommandReader) (args : List String)
    (tokens : List Token) (i : Nat) (r : Reading) : Except Stop (Nat × Reading) :=
  if r.filled then .ok (i, r)
  else
    let lead := countDashes tokens i
    match tokens[i + lead]?, l.positionals with
    | some .plain, (a@(.pos dest _)) :: _ =>
      let count := lead + 1 + countDashes tokens (i + lead + 1)
      let taken := (args.drop i).take count
      let taken := taken.erase "--"
      let value := taken.headD ""
      .ok (i + count, { r with values := r.values ++ [(dest, .text value)], seen := r.seen ++ [a.name],
                                filled := true })
    | some .plain, (a@(.choice dest commands)) :: _ => do
      let taken := args.drop i
      let name := taken.headD ""
      if !(commands.any (·.1 == name)) then
        throw (l.argumentFault a ("invalid choice: " ++ Text.quote name ++ " (choose from " ++
          ", ".intercalate (commands.map (Text.quote ·.1)) ++ ")"))
      let (values, extras) ← sub name (taken.drop 1)
      pure (args.length, { r with values := r.values ++ [(dest, .text name)] ++ values,
                                  seen := r.seen ++ [a.name], extras := r.extras ++ extras,
                                  filled := true })
    | _, _ => .ok (i, r)

/-- The first option at or after index `i`. -/
def nextOption (tokens : List Token) (i : Nat) : Option Nat :=
  (List.range tokens.length).find? fun k => i ≤ k && (tokens[k]?.map Token.isOption).getD false

/-- Walks the arguments from index `i`. -/
def Level.walk (l : Level) (sub : CommandReader) (args : List String) (tokens : List Token) :
    Nat → Nat → Reading → Except Stop Reading
  | 0, _, r => .ok r
  | fuel + 1, i, r =>
    match nextOption tokens i with
    | none => do
      let (j, r) ← l.consumePositional sub args tokens i r
      pure { r with extras := r.extras ++ args.drop j }
    | some k =>
      if i = k then do
        let (j, r) ← l.consumeOption args tokens k r
        l.walk sub args tokens fuel j r
      else do
        let (j, r) ← l.consumePositional sub args tokens i r
        if j > i then l.walk sub args tokens fuel j r
        else
          let r := { r with extras := r.extras ++ (args.drop i).take (k - i) }
          let (j, r) ← l.consumeOption args tokens k r
          l.walk sub args tokens fuel j r

/-- Reads the arguments of a level: its values and the arguments it did not
take, or a stop.  Missing required arguments are a fault. -/
def Level.read (l : Level) (sub : CommandReader) (args : List String) :
    Except Stop (List (String × Given) × List String) := do
  let tokens ← l.tokens false args
  let r ← l.walk sub args tokens (args.length + 1) 0 {}
  let missing := l.args.filter fun a =>
    match a with
    | .opt o => o.required && !r.seen.contains o.dest
    | a => !r.seen.contains a.name
  if !missing.isEmpty then
    throw (.fault l.usage l.prog ("the following arguments are required: " ++
      ", ".intercalate (missing.map Arg.name)))
  pure (r.values, r.extras)

/-- Reads a program's arguments: the program level, then the chosen command's
level.  Arguments that no level took are a fault of the program level. -/
def readProgram (program : Level) (commands : String → Level) (args : List String) :
    Except Stop (List (String × Given)) := do
  let sub : CommandReader := fun name rest => (commands name).read (fun _ _ => .ok ([], [])) rest
  let (values, extras) ← program.read sub args
  if !extras.isEmpty then
    throw (.fault program.usage program.prog ("unrecognized arguments: " ++ " ".intercalate extras))
  pure values

end CompletionClient.CommandLine
