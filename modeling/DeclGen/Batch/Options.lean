import DeclGen.Text.Digit

/-!
The options of the command line. Short options can be clustered behind one hyphen, long ones can be
cut as long as they stay unambiguous, and a value can be attached to its option. There are no
arguments besides options and their values.
-/

namespace DeclGen

structure Options where
  paths : List String
  excludes : List String
  outputFolder : String
  check : Bool
  verbose : Bool
  recursive : Bool
  deriving DecidableEq, Repr

def Options.default : Options := ⟨[], [], "", false, false, false⟩

/-- A command line that starts no run: it asks for help, or it is wrong. -/
inductive CommandStop where
  | help
  | misuse
  deriving DecidableEq, Repr

def CommandStop.exitCode : CommandStop → Nat
  | help => 0
  | misuse => 2

inductive OptionName where
  | help
  | paths
  | excludes
  | outputFolder
  | check
  | verbose
  | recursive
  deriving DecidableEq, Repr

/-- How many values an option takes. -/
inductive Arity where
  | flag
  | one
  | many
  deriving DecidableEq, Repr

namespace OptionName

def all : List OptionName := [help, paths, excludes, outputFolder, check, verbose, recursive]

def long : OptionName → String
  | help => "--help"
  | paths => "--paths"
  | excludes => "--excludes"
  | outputFolder => "--output-dir"
  | check => "--check"
  | verbose => "--verbose"
  | recursive => "--recursive"

/-- The letter of an option, if it has one. -/
def letter? : OptionName → Option Char
  | help => some 'h'
  | paths => some 'p'
  | excludes => some 'e'
  | outputFolder => some 'o'
  | check => none
  | verbose => some 'v'
  | recursive => some 'r'

def arity : OptionName → Arity
  | paths | excludes => .many
  | outputFolder => .one
  | help | check | verbose | recursive => .flag

def ofLetter? (c : Char) : Option OptionName := all.find? fun name => name.letter? == some c

/-- The options whose long name begins with a text. -/
def startingWith (start : List Char) : List OptionName :=
  all.filter fun name => start.isPrefixOf name.long.toList

end OptionName

/-- A text that stands in the same argument as its option: behind a `=`, or behind the letter. -/
structure Attachment where
  bySign : Bool
  text : List Char
  deriving DecidableEq, Repr

/-- What an argument is before the options take their values. -/
inductive ArgumentKind where
  | value (text : String)
  | long (name : OptionName) (attached : Option (List Char))
  | short (name : OptionName) (attached : Option Attachment)
  | stray
  deriving DecidableEq, Repr

/-- A negative number: digits with at most one point, which has digits behind it. One line feed at
the end is let pass. -/
def isNegativeNumber (cs : List Char) : Bool :=
  match cs with
  | '-' :: digits =>
    let digits := if digits.getLast? = some '\n' then digits.dropLast else digits
    match digits.dropWhile Text.isDecimalDigit with
    | [] => !digits.isEmpty
    | '.' :: fraction => !fraction.isEmpty && fraction.all Text.isDecimalDigit
    | _ => false
  | _ => false

/-- Arguments that name no option: numbers and texts with a space are values all the same. -/
def ArgumentKind.unnamed (cs : List Char) : ArgumentKind :=
  if isNegativeNumber cs || cs.contains ' ' then value (String.ofList cs) else stray

/-- The option that two hyphens and a text name. -/
def longArgument (cs : List Char) : Except CommandStop ArgumentKind :=
  let start := cs.takeWhile (· != '=')
  let attached := if cs.contains '=' then some (cs.drop (start.length + 1)) else none
  match OptionName.startingWith start with
  | [] => .ok (ArgumentKind.unnamed cs)
  | [name] => .ok (.long name attached)
  | _ => .error .misuse

/-- The option that one hyphen and a letter name. -/
def shortArgument (letter : Char) (rest : List Char) : ArgumentKind :=
  match OptionName.ofLetter? letter, rest with
  | none, _ => ArgumentKind.unnamed ('-' :: letter :: rest)
  | some name, [] => .short name none
  | some name, '=' :: text => .short name (some ⟨true, text⟩)
  | some name, text => .short name (some ⟨false, text⟩)

def argumentKind (argument : String) : Except CommandStop ArgumentKind :=
  match argument.toList with
  | '-' :: '-' :: cs => longArgument ('-' :: '-' :: cs)
  | '-' :: letter :: rest => .ok (shortArgument letter rest)
  | _ => .ok (.value argument)

/-- The kinds of all arguments. Nothing behind two lone hyphens can be used. -/
def argumentKinds : List String → Except CommandStop (List ArgumentKind)
  | [] => .ok []
  | argument :: rest =>
    if argument = "--" then .ok (List.replicate (rest.length + 1) .stray)
    else
      match argumentKind argument with
      | .error stop => .error stop
      | .ok kind =>
        match argumentKinds rest with
        | .error stop => .error stop
        | .ok kinds => .ok (kind :: kinds)

/-- An option with its values. -/
structure Setting where
  name : OptionName
  values : List String
  deriving DecidableEq, Repr

/-- Takes a setting over. A later one replaces an earlier one of the same option. -/
def Options.set (o : Options) (setting : Setting) : Except CommandStop Options :=
  match setting.name with
  | .help => .error .help
  | .paths => .ok { o with paths := setting.values }
  | .excludes => .ok { o with excludes := setting.values }
  | .outputFolder => .ok { o with outputFolder := setting.values.headD "" }
  | .check => .ok { o with check := true }
  | .verbose => .ok { o with verbose := true }
  | .recursive => .ok { o with recursive := true }

def Options.setAll (o : Options) : List Setting → Except CommandStop Options
  | [] => .ok o
  | setting :: rest =>
    match o.set setting with
    | .error stop => .error stop
    | .ok o => o.setAll rest

/-- The values at the start of the arguments. -/
def leadingValues : List ArgumentKind → List String
  | .value text :: rest => text :: leadingValues rest
  | _ => []

/-- The values that an option takes from the arguments behind it. -/
def takeValues (name : OptionName) (rest : List ArgumentKind) :
    Except CommandStop (List String) :=
  match name.arity, leadingValues rest with
  | .flag, _ => .ok []
  | _, [] => .error .misuse
  | .one, value :: _ => .ok [value]
  | .many, values => .ok values

/-- The end of a cluster of letters. -/
inductive ClusterEnd where
  | option (name : OptionName)
  | valued (name : OptionName) (value : List Char)
  | stray
  deriving DecidableEq, Repr

/-- The flags of a cluster and its end, from an option and the text attached to it. A flag can be
followed by letters, and by nothing else. -/
def readCluster (name : OptionName) (bySign : Bool) :
    List Char → Except CommandStop (List OptionName × ClusterEnd)
  | [] => if name.arity = .flag then .error .misuse else .ok ([], .valued name [])
  | letter :: rest =>
    if name.arity ≠ .flag then .ok ([], .valued name (letter :: rest))
    else if bySign || letter == '-' then .error .misuse
    else
      match OptionName.ofLetter? letter with
      | none => .ok ([name], .stray)
      | some next =>
        match rest with
        | [] => .ok ([name], .option next)
        | '=' :: text =>
          (readCluster next true text).map fun (flags, last) => (name :: flags, last)
        | c :: text =>
          (readCluster next false (c :: text)).map fun (flags, last) => (name :: flags, last)

/-- What one argument and the values behind it set, and whether a part of it is of no use. -/
structure Reading where
  settings : List Setting
  used : Nat
  hasStray : Bool
  deriving DecidableEq, Repr

def readOption (flags : List OptionName) (name : OptionName) (rest : List ArgumentKind) :
    Except CommandStop Reading :=
  (takeValues name rest).map fun values =>
    ⟨flags.map (⟨·, []⟩) ++ [⟨name, values⟩], values.length, false⟩

def readArgument (kind : ArgumentKind) (rest : List ArgumentKind) : Except CommandStop Reading :=
  match kind with
  | .value _ | .stray => .ok ⟨[], 0, true⟩
  | .long name none | .short name none => readOption [] name rest
  | .long name (some text) =>
    if name.arity = .flag then .error .misuse
    else .ok ⟨[⟨name, [String.ofList text]⟩], 0, false⟩
  | .short name (some attached) =>
    match readCluster name attached.bySign attached.text with
    | .error stop => .error stop
    | .ok (flags, .option last) => readOption flags last rest
    | .ok (flags, .valued last text) =>
      .ok ⟨flags.map (⟨·, []⟩) ++ [⟨last, [String.ofList text]⟩], 0, false⟩
    | .ok (flags, .stray) => .ok ⟨flags.map (⟨·, []⟩), 0, true⟩

/-- Reads arguments in order. What is of no use is misuse, but only at the end. -/
def readArguments (o : Options) (hasStray : Bool) : List ArgumentKind → Except CommandStop Options
  | [] => if hasStray then .error .misuse else .ok o
  | kind :: rest =>
    match readArgument kind rest with
    | .error stop => .error stop
    | .ok reading =>
      match o.setAll reading.settings with
      | .error stop => .error stop
      | .ok o => readArguments o (hasStray || reading.hasStray) (rest.drop reading.used)
termination_by kinds => kinds.length
decreasing_by exact Nat.lt_succ_of_le (List.length_drop ▸ Nat.sub_le _ _)

/-- The options of a command line. -/
def Options.ofArguments (arguments : List String) : Except CommandStop Options :=
  match argumentKinds arguments with
  | .error stop => .error stop
  | .ok kinds => readArguments Options.default false kinds

end DeclGen
