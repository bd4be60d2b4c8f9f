import Walkthrough.Environment
import Walkthrough.OutputFormat
import Walkthrough.Url.Parser

namespace Walkthrough

/-- What the program is asked to do, and with which step file. -/
inductive Request
  | run (stepFile : Option String) (scope : Scope) (baseUrl : Option Url) (headed dryRun : Bool)
  | audit (stepFile : Option String)
  | normalize (stepFile : Option String) (scope : Scope)

structure Invocation where
  configFile : Option String
  logLevel : String
  debug : Bool
  output : OutputFormat
  request : Request

namespace Invocation

inductive RequestName
  | run
  | audit
  | normalize
  deriving Repr, DecidableEq

/-- Why arguments do not say what to do. -/
inductive Refusal
  | misuse
  | helpAsked
  /-- Asked for before the name of a request or after it. -/
  | versionAsked (of : Option RequestName)
  deriving Repr, DecidableEq

inductive OptionName
  | config
  | logLevel
  | debug
  | output
  | help
  | version
  | first
  | last
  | keyword
  | baseUrl
  | headed
  | dryRun
  deriving Repr, DecidableEq

namespace OptionName

def general : List OptionName :=
  [config, logLevel, debug, output, help, version]

def ofRequest : RequestName → List OptionName
  | .run => [first, last, keyword, baseUrl, headed, dryRun]
  | .audit => []
  | .normalize => [first, last, keyword]

def long : OptionName → String
  | config => "config"
  | logLevel => "log-level"
  | debug => "debug"
  | output => "output"
  | help => "help"
  | version => "version"
  | first => "from"
  | last => "to"
  | keyword => "match"
  | baseUrl => "base-url"
  | headed => "headed"
  | dryRun => "dry-run"

def short? : OptionName → Option Char
  | config => some 'c'
  | logLevel => some 'l'
  | debug => some 'd'
  | output => some 'o'
  | help => some 'h'
  | version => some 'V'
  | _ => none

def takesValue : OptionName → Bool
  | debug | help | version | headed | dryRun => false
  | _ => true

def accepts (o : OptionName) (value : String) : Bool :=
  match o with
  | config => !value.isEmpty
  | output => (OutputFormat.ofName? value).isSome
  | first | last => (Text.nat? Text.maxU64 value).isSome
  | baseUrl => (Url.parse value).toBool
  | _ => true

/-- The variable that stands in for an option. -/
def standIn? : OptionName → Option String
  | first => some "STEP_FROM"
  | last => some "STEP_TO"
  | keyword => some "STEP_MATCH"
  | _ => none

end OptionName

namespace RequestName

def text : RequestName → String
  | run => "run"
  | audit => "audit"
  | normalize => "normalize"

def ofText? (s : String) : Option RequestName :=
  [run, audit, normalize].find? fun name => name.text == s

end RequestName

/-- Options with their values; a switch has an empty one. -/
abbrev Options := List (OptionName × String)

namespace Options

def has (o : Options) (name : OptionName) : Bool :=
  (o.lookup name).isSome

/-- Sets an option that is not set yet. -/
def set (o : Options) (name : OptionName) (value : String) : Except Refusal Options :=
  if name == .help then .error .helpAsked
  else if name == .version then .error (.versionAsked none)
  else if o.has name || !name.accepts value then .error .misuse
  else .ok (o ++ [(name, value)])

def nat? (o : Options) (name : OptionName) : Option Nat :=
  (o.lookup name).bind (Text.nat? Text.maxU64)

end Options

/-- An option in an argument, with the value after its equals sign, or further short options. -/
inductive Piece
  | long (name : OptionName) (value : Option String)
  | shorts (letters : List Char)
  | plain (text : String)

/-- What an argument is where `known` are the options. -/
def Piece.ofArgument (known : List OptionName) (argument : String) : Except Refusal Piece :=
  match argument.toList with
  | '-' :: '-' :: rest =>
    let (name, value) := match Text.splitOnce '=' rest with
      | some (name, value) => (name, some (String.ofList value))
      | none => (rest, none)
    match known.find? fun o => o.long == String.ofList name with
    | some o => .ok (.long o value)
    | none => .error .misuse
  | '-' :: c :: rest => .ok (.shorts (c :: rest))
  | _ => .ok (.plain argument)

def isValue (argument : String) : Bool :=
  argument == "-" || !argument.startsWith "-"

/-- An option and the value that follows it in the next argument. -/
def setFromNext (o : Options) (name : OptionName) :
    List String → Except Refusal (Options × List String)
  | value :: rest => if isValue value then (·, rest) <$> o.set name value else .error .misuse
  | [] => .error .misuse

/-- Short options written together; the first that takes a value takes all that follows. -/
def setShorts (known : List OptionName) (o : Options) :
    List Char → List String → Except Refusal (Options × List String)
  | [], rest => .ok (o, rest)
  | c :: letters, rest =>
    match known.find? fun n => n.short? == some c with
    | none => .error .misuse
    | some name =>
      if !name.takesValue then do
        setShorts known (← o.set name "") letters rest
      else match letters with
      | [] => setFromNext o name rest
      | '=' :: value => (·, rest) <$> o.set name (String.ofList value)
      | value => (·, rest) <$> o.set name (String.ofList value)

/-- Sets what an argument says; the rest loses what it took from there. -/
def setPiece (known : List OptionName) (o : Options) (rest : List String) :
    Piece → Except Refusal (Options × List String)
  | .long name (some value) =>
    if name.takesValue then (·, rest) <$> o.set name value else .error .misuse
  | .long name none =>
    if name.takesValue then setFromNext o name rest else (·, rest) <$> o.set name ""
  | .shorts letters => setShorts known o letters rest
  | .plain _ => .error .misuse

/-- The step file among the arguments after the last option: at most one. -/
def lastFile? (file : Option String) : List String → Except Refusal (Option String)
  | [] => .ok file
  | [path] => if file.isNone && !path.isEmpty then .ok (some path) else .error .misuse
  | _ => .error .misuse

/-- Options and the step file after the name of a request; after a double hyphen nothing is an
option. `fuel` bounds the arguments. -/
def afterName (known : List OptionName) : (fuel : Nat) → Options → Option String → List String →
    Except Refusal (Options × Option String)
  | _, o, file, [] => .ok (o, file)
  | 0, _, _, _ => .error .misuse
  | fuel + 1, o, file, argument :: rest =>
    if argument == "--" then do
      return (o, ← lastFile? file rest)
    else do
      match ← Piece.ofArgument known argument with
      | .plain path =>
        if file.isSome || path.isEmpty then throw .misuse
        afterName known fuel o (some path) rest
      | piece =>
        let (o, rest) ← setPiece known o rest piece
        afterName known fuel o file rest

/-- Options before the name of a request, that name, and what follows it. -/
def beforeName : (fuel : Nat) → Options → List String →
    Except Refusal (Options × RequestName × List String)
  | 0, _, _ => .error .misuse
  | _, _, [] => .error .misuse
  | fuel + 1, o, argument :: rest => do
    match ← Piece.ofArgument OptionName.general argument with
    | .plain text =>
      if text == "help" then throw .helpAsked
      match RequestName.ofText? text with
      | some name => return (o, name, rest)
      | none => throw .misuse
    | piece =>
      let (o, rest) ← setPiece OptionName.general o rest piece
      beforeName fuel o rest

def Refusal.within (name : RequestName) : Refusal → Refusal
  | .versionAsked _ => .versionAsked (some name)
  | r => r

/-- Adds what variables say of options that are not set. -/
def withVariables (v : Variables) (known : List OptionName) (o : Options) :
    Except Refusal Options :=
  known.foldlM (fun o name =>
    match if o.has name then none else name.standIn?.bind v with
    | some value => o.set name value
    | none => .ok o) o

def scopeOf (o : Options) : Scope where
  first := o.nat? .first
  last := o.nat? .last
  keyword := (o.lookup .keyword).filter fun k => !Text.isBlankText k

def requestOf (o : Options) (file : Option String) : RequestName → Request
  | .run =>
    .run file (scopeOf o) ((o.lookup .baseUrl).bind fun u => (Url.parse u).toOption) (o.has .headed)
      (o.has .dryRun)
  | .audit => .audit file
  | .normalize => .normalize file (scopeOf o)

/-- Reads arguments. Options may stand before or after what they do not belong to, but not twice in
one place; those after the name of the request win over those before it. -/
def parse (v : Variables) (arguments : List String) : Except Refusal Invocation := do
  let fuel := arguments.length + 1
  let (before, name, rest) ← beforeName fuel [] arguments
  let known := OptionName.general ++ OptionName.ofRequest name
  let (o, file) ← (afterName known fuel [] none rest).mapError (·.within name)
  let o := (← withVariables v (OptionName.ofRequest name) o) ++ before
  return {
    configFile := o.lookup .config
    logLevel := (o.lookup .logLevel).getD "info"
    debug := o.has .debug
    output := ((o.lookup .output).bind OutputFormat.ofName?).getD .human
    request := requestOf o file name }

end Invocation

end Walkthrough
