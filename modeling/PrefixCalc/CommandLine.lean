import PrefixCalc.Session
import PrefixCalc.Token.Listing

/-!
# The command line

The first word names a mode: list the tokens of the input, check that it is well
formed, or run it. With exactly one more word the input is the file of that name,
else the standard input.
-/

namespace PrefixCalc.CommandLine

/-- What to do with the input. -/
inductive Mode where
  /-- List its tokens. -/
  | list
  /-- Check that it is well formed. -/
  | check
  /-- Run it. -/
  | run
deriving DecidableEq, Repr

/-- Where the input comes from. -/
inductive Source where
  /-- The standard input. -/
  | standardInput
  /-- A file. -/
  | file (name : String)
deriving DecidableEq, Repr

/-- What the arguments ask for. -/
inductive Request where
  /-- To be told how to ask. -/
  | usage
  /-- To read an input and do something with it. -/
  | read (mode : Mode) (source : Source)
deriving DecidableEq, Repr

/-- How the program ends. -/
inductive Ending where
  /-- With an exit code. -/
  | exit (code : UInt8)
  /-- The file does not exist. -/
  | noSuchFile (name : String)
  /-- The input is not text in UTF-8. -/
  | undecodable
  /-- Through an escape. -/
  | escaped (escape : Escape)

/-- What the program writes and how it ends. -/
structure Report where
  /-- The text on the first output. -/
  out : String := ""
  /-- The text on the second output. -/
  err : String := ""
  /-- How the program ends. -/
  ending : Ending

/-- The lower case of a letter that has it in ASCII: the capitals, and the sign for kelvin. -/
def lowerLetter (character : Char) : Char :=
  if character = '\u212A' then 'k' else character.toLower

/-- The mode that a word names, in any letter case. -/
def Mode.ofWord? (word : String) : Option Mode :=
  let lowered := word.map lowerLetter
  if lowered = "lex" then some .list
  else if lowered = "check" then some .check
  else if lowered = "run" then some .run
  else none

/-- What some arguments ask for. -/
def Request.ofArguments (arguments : List String) : Request :=
  match arguments with
  | [] => .usage
  | word :: rest =>
    match Mode.ofWord? word, rest with
    | none, _ => .usage
    | some mode, [name] => .read mode (.file name)
    | some mode, _ => .read mode .standardInput

/-- The input that a request needs. -/
def Request.source? : Request → Option Source
  | .usage => none
  | .read _ source => some source

/-- How to ask. -/
def usage : Report where
  out := unlines
    ["Usage:",
     "  pcalc lex < input.pcalc",
     "  pcalc check < input.pcalc",
     "  pcalc run < input.pcalc",
     "  or:",
     "  pcalc lex file.pcalc",
     "  pcalc check file.pcalc",
     "  pcalc run file.pcalc"]
  ending := .exit 1

/-- List the tokens of a text. -/
def reportList (traces : Bool) (text : String) : Report :=
  match Buffer.take text [] with
  | .ok () tokens =>
    { out := unlines (Token.listing tokens)
      err := errText traces [.trace (.scanned tokens.length tokens.length)]
      ending := .exit 0 }
  | .error (.invalidWord word) _ =>
    { out := unlines [(ParseError.invalidWord word).message], ending := .exit 1 }
  | .error .strayBlank _ => { ending := .escaped .strayBlank }

/-- The state of a check. -/
structure Check where
  /-- The tokens of an unfinished definition. -/
  pending : Buffer := []
  /-- The parse errors so far, last one first. -/
  errors : List ParseError := []
  /-- The traces so far, last one first. -/
  traces : List Trace := []

/-- Check one expression, which nests at most `limit` deep, and go on, whether it is well formed or
not. -/
def checkExpr (limit : Nat) (text : String) : EStateM Escape Check Unit := do
  let reading := Reading.ofText limit (← get).pending text
  modify fun check =>
    { check with pending := reading.pending, traces := reading.traces.reverse ++ check.traces }
  match reading.outcome with
  | .ok _ => return
  | .error (.refused error) => modify fun check => { check with errors := error :: check.errors }
  | .error (.escaped escape) => throw escape

/-- Check expressions one after another. -/
def checkEach (limit : Nat) : List String → EStateM Escape Check Unit
  | [] => return
  | first :: rest => do
    checkExpr limit first
    checkEach limit rest

/-- The parse errors at the end of a check; an unfinished definition is one more. -/
def Check.allErrors (check : Check) : List ParseError :=
  check.errors.reverse ++ if check.pending.isEmpty then [] else [.openBody]

/-- Check all expressions of a text, which nest at most `limit` deep. -/
def check (limit : Nat) (text : String) : EStateM.Result Escape Check Unit :=
  checkEach limit ((Text.lines text).flatMap Text.pieces) {}

/-- The lines for some parse errors. -/
def errorLines (errors : List ParseError) : List String :=
  errors.map fun error => "ParseError: " ++ error.message

/-- Check a text and report. -/
def reportCheck (traces : Bool) (text : String) : Report :=
  match check Parser.nestingLimit text with
  | .ok () state =>
    let errors := state.allErrors
    { out := unlines (if errors.isEmpty then ["OK: no syntax errors found."] else errorLines errors)
      err := errText traces (state.traces.reverse.map .trace)
      ending := .exit (if errors.isEmpty then 0 else 1) }
  | .error escape state =>
    { out := unlines (errorLines state.errors.reverse)
      err := errText traces (state.traces.reverse.map .trace)
      ending := .escaped escape }

/-- Run a text and report. -/
def reportRun (traces : Bool) (text : String) : Report :=
  let (ending, session) :=
    match Session.submitText text (Session.start false) with
    | .ok success session => (Ending.exit (if success then 0 else 1), session)
    | .error escape session => (Ending.escaped escape, session)
  { out := outText session.events.toList, err := errText traces session.events.toList, ending }

/-- Do what a mode says with a text. -/
def Mode.report (mode : Mode) (traces : Bool) (text : String) : Report :=
  match mode with
  | .list => reportList traces text
  | .check => reportCheck traces text
  | .run => reportRun traces text

/-- The text of an input, with one kind of line ends. -/
def decode? (bytes : ByteArray) : Option String :=
  (String.fromUTF8? bytes).map fun text => String.ofList (Text.unifyLineEnds text.toList)

/-- Do what a mode says with an input. -/
def Mode.reportBytes (mode : Mode) (traces : Bool) (bytes : ByteArray) : Report :=
  match decode? bytes with
  | some text => mode.report traces text
  | none => { ending := .undecodable }

/-- Answer some arguments, given the standard input and the files there are. -/
def report (arguments : List String) (standardInput : ByteArray)
    (file? : String → Option ByteArray) (traces : Bool) : Report :=
  match Request.ofArguments arguments with
  | .usage => usage
  | .read mode .standardInput => mode.reportBytes traces standardInput
  | .read mode (.file name) =>
    match file? name with
    | some bytes => mode.reportBytes traces bytes
    | none => { ending := .noSuchFile name }

/-- The wording of an ending that is a failure of its own. -/
def Ending.message? : Ending → Option String
  | .exit _ => none
  | .noSuchFile name => some ("[Errno 2] No such file or directory: " ++ Text.quoted name)
  | .undecodable => none
  | .escaped escape => some escape.message

end PrefixCalc.CommandLine
