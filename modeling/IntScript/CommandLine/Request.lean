/-!
# Requests

The arguments of the command line.  There is one positional argument, a script or the name of
a file that holds one; all other arguments are options.  An option is a hyphen and letters, or
two hyphens and a word.  A single hyphen is no option, and behind two hyphens alone there are
no options any more.  Options may be given in any order; only the one that asks for more
detail in the log may be repeated.
-/

namespace IntScript

/-- What is to be done with a script: `run` it, or show its `tokens` or its `tree`. -/
inductive Mode where
  | run
  | tokens
  | tree
deriving DecidableEq

/-- What the command line asks for.  The script is `contents`, or the file at that path if
`fromFile` holds, and `verbosity` is the number of times that more detail was asked for. -/
structure Request where
  mode : Mode
  fromFile : Bool
  verbosity : Nat
  contents : String
deriving DecidableEq

/-- Why there is no request to answer: `help` or the `version` was asked for instead, or the
arguments do not follow the rules of `usage`. -/
inductive Refusal where
  | help
  | version
  | usage
deriving DecidableEq

/-- The options of the command line; `Flag.purpose` says what each of them asks for. -/
inductive Flag where
  | file
  | tokens
  | tree
  | verbose
  | help
  | version
deriving DecidableEq

namespace Flag

/-- All the flags, in the order in which `Answer.help` explains them. -/
def all : List Flag :=
  [file, tokens, tree, verbose, help, version]

/-- The long name of a flag, which is written behind two hyphens. -/
def word : Flag → String
  | file => "file"
  | tokens => "tokens"
  | tree => "ast"
  | verbose => "verbose"
  | help => "help"
  | version => "version"

/-- The short name of a flag, which is written behind one hyphen; `tokens` and `tree` have
none. -/
def letter? : Flag → Option Char
  | file => some 'f'
  | tokens | tree => none
  | verbose => some 'v'
  | help => some 'h'
  | version => some 'V'

/-- What a flag asks for, as `Answer.explanation` has it. -/
def purpose : Flag → String
  | file => "Tells minipy to read `contents` as a file path instead of a script"
  | tokens => "Print the tokens of every line instead of running the script"
  | tree => "Print the parsed program in canonical form instead of running it"
  | verbose => "Increase log verbosity (-v info, -vv debug, -vvv trace)"
  | help => "Print help"
  | version => "Print version"

/-- The flag whose long name is `word`. -/
def ofWord? (word : String) : Option Flag :=
  all.find? fun flag => flag.word = word

/-- The flag whose short name is `letter`. -/
def ofLetter? (letter : Char) : Option Flag :=
  all.find? fun flag => flag.letter? = some letter

end Flag

/-- The arguments taken in so far: which flags were among them, the number `verbosity` of flags
`Flag.verbose`, and the positional argument `contents`. -/
structure Arguments where
  file : Bool
  tokens : Bool
  tree : Bool
  verbosity : Nat
  contents : Option String
deriving DecidableEq

namespace Arguments

/-- No arguments have been taken in. -/
def initial : Arguments :=
  ⟨false, false, false, 0, none⟩

/-- Takes in a flag.  Only `Flag.verbose` may be repeated, and `Flag.help` and `Flag.version` end
everything at once. -/
def flag (arguments : Arguments) : Flag → Except Refusal Arguments
  | .file => if arguments.file then .error .usage else .ok { arguments with file := true }
  | .tokens => if arguments.tokens then .error .usage else .ok { arguments with tokens := true }
  | .tree => if arguments.tree then .error .usage else .ok { arguments with tree := true }
  | .verbose => .ok { arguments with verbosity := arguments.verbosity + 1 }
  | .help => .error .help
  | .version => .error .version

/-- Takes in a flag, or refuses what is the name of no flag, `none`. -/
def flag? (arguments : Arguments) : Option Flag → Except Refusal Arguments
  | none => .error .usage
  | some flag => arguments.flag flag

/-- Takes in the positional argument `text`, unless there is one already. -/
def positional (arguments : Arguments) (text : String) : Except Refusal Arguments :=
  match arguments.contents with
  | none => .ok { arguments with contents := some text }
  | some _ => .error .usage

/-- Takes in `text`, which is an option if it begins with a hyphen that is not alone. -/
def argument (arguments : Arguments) (text : String) : Except Refusal Arguments :=
  match text.toList with
  | '-' :: '-' :: word => arguments.flag? (Flag.ofWord? (String.ofList word))
  | '-' :: letter :: letters =>
    (letter :: letters).foldlM (fun arguments letter => arguments.flag? (Flag.ofLetter? letter))
      arguments
  | _ => arguments.positional text

/-- Takes in arguments from left to right.  Behind `"--"` all of them are `positional`. -/
def takeAll (arguments : Arguments) : List String → Except Refusal Arguments
  | [] => .ok arguments
  | text :: rest =>
    if text = "--" then
      rest.foldlM positional arguments
    else
      match arguments.argument text with
      | .ok arguments => arguments.takeAll rest
      | .error refusal => .error refusal

/-- The request that `arguments` make: there has to be a positional argument, and `tokens` and
`tree` exclude each other. -/
def request (arguments : Arguments) : Except Refusal Request :=
  match arguments.contents, arguments.tokens, arguments.tree with
  | some contents, false, false => .ok ⟨.run, arguments.file, arguments.verbosity, contents⟩
  | some contents, true, false => .ok ⟨.tokens, arguments.file, arguments.verbosity, contents⟩
  | some contents, false, true => .ok ⟨.tree, arguments.file, arguments.verbosity, contents⟩
  | _, _, _ => .error .usage

end Arguments

/-- The request made by the arguments `texts`. -/
def Request.ofArguments (texts : List String) : Except Refusal Request :=
  match Arguments.initial.takeAll texts with
  | .ok arguments => arguments.request
  | .error refusal => .error refusal

end IntScript
