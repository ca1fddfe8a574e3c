import ServerActions.Text.Split

/-!
# Arguments

What the words behind the name of the program ask for.

## Main definitions

* `Options`, `Command` — what can be asked for.
* `Command.ofArguments` — what is asked for, if the words ask for anything.
-/

namespace ServerActions.Console

/-- The options of generating. -/
structure Options where
  config : Option String
  source : Option String
  output : Option String
  verbose : Bool
  deriving DecidableEq, Repr

/-- No options. -/
def Options.none : Options := ⟨.none, .none, .none, false⟩

/-- What can be asked for. -/
inductive Command
  | version
  | generate (options : Options)
  deriving DecidableEq, Repr

/-- An option: one of those with a value, or the one without. -/
inductive Flag
  | config
  | source
  | output
  | verbose
  deriving DecidableEq, Repr

/-- The options with their names of one letter and of several. -/
def flags : List (Char × String × Flag) :=
  [('c', "config", .config), ('s', "source", .source), ('o', "output", .output),
   ('v', "verbose", .verbose)]

/-- The option of a letter. -/
def Flag.ofLetter? (c : Char) : Option Flag :=
  flags.lookup c |>.map Prod.snd

/-- The option of a name. -/
def Flag.ofName? (name : String) : Option Flag :=
  (flags.map Prod.snd).lookup name

/-- The options with a value for one that has values; a later value replaces an earlier one. -/
def Options.put (o : Options) (f : Flag) (value : String) : Options :=
  match f with
  | .config => { o with config := some value }
  | .source => { o with source := some value }
  | .output => { o with output := some value }
  | .verbose => { o with verbose := true }

/-- One option with its value, which follows its name at once or is the next word, and the words
left. -/
def takeFlag (o : Options) (f : Flag) (attached : Option String) (rest : List String) :
    Option (Options × List String) :=
  match f, attached, rest with
  | .verbose, _, _ => none
  | f, some value, rest => some (o.put f value, rest)
  | f, none, value :: rest => some (o.put f value, rest)
  | _, none, [] => none

/-- A word of letters that are options, of which one with a value takes what follows it. -/
def takeLetters (o : Options) (rest : List String) : List Char → Option (Options × List String)
  | [] => some (o, rest)
  | c :: cs =>
    match Flag.ofLetter? c with
    | none => none
    | some .verbose => takeLetters { o with verbose := true } rest cs
    | some f => takeFlag o f (if cs.isEmpty then none else some (String.ofList cs)) rest

/-- A word that is the name of an option, perhaps with its value behind an equals sign. -/
def takeName (o : Options) (rest : List String) (cs : List Char) : Option (Options × List String) :=
  let name := cs.takeWhile (· ≠ '=')
  let value := if cs.contains '=' then some (String.ofList (cs.drop (name.length + 1))) else none
  match Flag.ofName? (String.ofList name), value with
  | none, _ => none
  | some .verbose, some _ => none
  | some .verbose, none => some ({ o with verbose := true }, rest)
  | some f, value => takeFlag o f value rest

/-- The options of words.  Nothing but options may be among them; after two dashes nothing may
follow.  The first argument bounds the count of the words. -/
def optionsOf : Nat → Options → List String → Option Options
  | _, o, [] => some o
  | 0, _, _ => none
  | bound + 1, o, word :: rest =>
    let taken := match word.toList with
      | '-' :: '-' :: name => if name.isEmpty then none else takeName o rest name
      | '-' :: c :: letters => takeLetters o rest (c :: letters)
      | _ => none
    if word = "--" then (if rest.isEmpty then some o else none)
    else taken.bind fun r => optionsOf bound r.1 r.2

/-- What words ask for, if they ask for anything. -/
def Command.ofArguments (words : List String) : Option Command :=
  match (if words.head? = some "--" then words.drop 1 else words) with
  | "version" :: rest => if rest = [] || rest = ["--"] then some .version else none
  | "generate" :: rest => (optionsOf (rest.length + 1) .none rest).map .generate
  | _ => none

end ServerActions.Console
