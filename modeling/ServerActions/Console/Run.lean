import ServerActions.Console.Arguments
import ServerActions.Console.Layout
import ServerActions.Console.Markup
import ServerActions.Generation.Generator
import ServerActions.Loading.Source
import ServerActions.Settings.File

/-!
# Running the program

What the program prints and which files there are in the end.

## Main definitions

* `Report` — the lines printed, the files and the exit code.
* `settingsFor` — the settings that the options ask for.
* `Run.document` — the functions of one description, written where they belong.
* `run` — the whole program.
-/

namespace ServerActions.Console

open Settings (Surroundings)

/-- What comes of running the program. -/
structure Report where
  exitCode : Nat
  lines : List String
  tree : Files.Tree

/-- The version of the program. -/
def version : String := "0.1.0"

/-- The exit code of a failure. -/
def failureCode : Nat := 1

/-- The exit code of words that ask for nothing. -/
def usageCode : Nat := 2

/-- The settings that options ask for. -/
def settingsFor (s : Surroundings) (o : Options) : Except Failure Settings :=
  match o.source, o.output with
  | none, none => Settings.find s o.config
  | some source, some output =>
    match Settings.fromEnvironment .usual s.environment with
    | .ok _ => .ok ⟨[.ofSource source output]⟩
    | .error c => .error (.bare (.other c.message))
  | _, _ => .error (.configuration .incomplete none none)

/-! ### Printing -/

/-- The lines of a failure. -/
def failureLines (w : Wording) (e : Failure) : List String :=
  match plainText ("[red]Error:[/red] " ++ escape (e.message w)) with
  | .ok cs => printed cs
  | .error f => printed f.message.toList

/-- The room of the time and of the level in front of a remark. -/
def noticeMargin : Nat := 20

/-- The room behind a remark for the place where it is made. -/
def originWidth : Topic → Nat
  | .schemas => 13
  | .operations => 15
  | .files => 14

/-- The lines of a remark, behind its level. -/
def noticeLines (verbose : Bool) (n : Notice) : List String :=
  let room := consoleWidth - noticeMargin - if verbose then originWidth n.topic else 0
  match wrapped room (n.text.toList.filter (!isUnprinted ·)) with
  | [] => []
  | line :: lines =>
    texts ((n.level.name.toList ++ ' ' :: line)
      :: lines.map (List.replicate noticeMargin ' ' ++ ·))

/-- Whether a remark is printed. -/
def isPrinted (verbose : Bool) (n : Notice) : Bool :=
  verbose || n.level = .warning

/-- What is printed of how far a description has come. -/
def progressText (description : String) : Except MarkupFault (List Char) :=
  plainText ("[progress.description]" ++ description)

/-- The lines of how far a description has come, behind a star. -/
def progressLines (text : List Char) : List String :=
  texts (besideMark '*' text)

/-- What is done with a description. -/
def startText (s : DocumentSettings) : String :=
  "Generating server actions for " ++ s.source ++ " in " ++ s.output ++ "..."

/-- What was done with a description. -/
def endText (s : DocumentSettings) : String :=
  "Code generation completed for " ++ s.source ++ "!"

/-- What came of a description. -/
def successText (s : DocumentSettings) (count : Nat) : String :=
  "[green]Successfully generated " ++ toString count ++ " server actions[/green] in " ++ s.output

/-! ### Descriptions -/

/-- The lines printed and the files while the program runs, and whether it goes on. -/
structure Progress where
  lines : List String
  tree : Files.Tree
  goesOn : Bool

/-- Some lines more. -/
def Progress.print (p : Progress) (lines : List String) : Progress :=
  { p with lines := p.lines ++ lines }

/-- The end after a failure. -/
def Progress.fail (p : Progress) (w : Wording) (e : Failure) : Progress :=
  { p.print (failureLines w e) with goesOn := false }

/-- The end after a text that cannot be printed. -/
def Progress.failMarkup (p : Progress) (w : Wording) (f : MarkupFault) : Progress :=
  p.fail w (.bare (.other f.message))

/-- The surroundings and the network of a run, and its options. -/
structure Run where
  surroundings : Surroundings
  fetch : Loading.Fetch
  wording : Wording
  verbose : Bool

/-- What is printed after the functions of a description were made. -/
def Run.finish (r : Run) (s : DocumentSettings) (written : List String) (p : Progress) : Progress :=
  match progressText (endText s) with
  | .error f => p.failMarkup r.wording f
  | .ok text =>
    let p := p.print (progressLines text)
    match plainText (successText s written.length) with
    | .error f => p.failMarkup r.wording f
    | .ok text => p.print (printed text)

/-- The functions of one description are made. -/
def Run.document (r : Run) (p : Progress) (s : DocumentSettings) : Progress :=
  match progressText (startText s) with
  | .error f => p.failMarkup r.wording f
  | .ok text =>
    let cwd := r.surroundings.cwd
    let load := Loading.load r.fetch p.tree cwd ⟨"/", cwd⟩
    let directory : Output.Directory :=
      ⟨Files.Path.ofText s.output, s.fileExtension, [], p.tree, cwd⟩
    let (outcome, directory) :=
      (Generation.Generator.new s).generate load Output.inDirectory directory
    let p := { p with tree := directory.tree }
    let p := p.print ((outcome.notices.filter (isPrinted r.verbose)).flatMap (noticeLines r.verbose))
    match outcome.result with
    | .ok written => r.finish s written p
    | .error e => (p.print (progressLines text)).fail r.wording e

/-- The functions of several descriptions are made, up to the first failure. -/
def Run.documents (r : Run) (p : Progress) (ss : List DocumentSettings) : Progress :=
  ss.foldl (fun p s => if p.goesOn then r.document p s else p) p

/-- The functions that options ask for are made. -/
def Run.generate (r : Run) (o : Options) : Report :=
  let start : Progress := ⟨[], r.surroundings.tree, true⟩
  let final := match settingsFor r.surroundings o with
    | .error e => start.fail r.wording e
    | .ok settings => r.documents start settings.documents
  ⟨if final.goesOn then 0 else failureCode, final.lines, final.tree⟩

/-- What comes of running the program with some words. -/
def run (w : Wording) (s : Surroundings) (fetch : Loading.Fetch) (words : List String) : Report :=
  match Command.ofArguments words with
  | none => ⟨usageCode, [], s.tree⟩
  | some .version => ⟨0, ["actiongen version: " ++ version], s.tree⟩
  | some (.generate o) => (Run.mk s fetch w o.verbose).generate o

end ServerActions.Console
