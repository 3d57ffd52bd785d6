import Stencil.Report
import Stencil.Settings
import Stencil.Value.Json

/-!
# The command line

Flags come before the name of a command, and the options and arguments of the
command behind it.  A command line that does not fit is misused; one that does
gives an exit code and the texts of both output streams, unless the output stream
does not take its text.  The error stream takes every text, since it replaces what
it cannot encode.
-/

namespace Stencil

namespace Command

/-- The version of the program. -/
def version : Text :=
  Text.of "ede 0.1.0\n"

/-- Flags that stand before a command. -/
structure Flags where
  /-- Whether the whole journal is shown. -/
  verbose : Bool := false
  /-- Whether JSON is indented. -/
  pretty : Bool := false
deriving DecidableEq, Repr

/-- Arguments of the command that reads a template. -/
structure ParseArguments where
  /-- The file, or a dash for the standard input. -/
  file : Text
  /-- A preset or a settings file. -/
  delimiters : Option Text
  /-- The name that diagnostics give to the source. -/
  name : Option Text
deriving DecidableEq, Repr

/-- What a command line asks for. -/
inductive Invocation where
  /-- The version. -/
  | version
  /-- How the program is used. -/
  | help
  /-- The command line does not fit. -/
  | misuse
  /-- The report of a template. -/
  | parse (flags : Flags) (arguments : ParseArguments)
  /-- The vocabulary of templates. -/
  | keywords (flags : Flags)
deriving DecidableEq, Repr

/-- A minus sign and digits, perhaps with a decimal point before the last of
them. -/
def isNegativeNumber : Text → Bool
  | [] => false
  | sign :: rest =>
    let whole := rest.takeWhile CodePoint.isDigit
    sign = '-' &&
      match rest.drop whole.length with
      | [] => !whole.isEmpty
      | point :: fraction =>
        point = '.' && !fraction.isEmpty && fraction.all CodePoint.isDigit

/-- Whether an argument that is no known option has the shape of one. -/
def looksLikeOption (argument : Text) : Bool :=
  match argument with
  | [] => false
  | [_] => false
  | point :: _ =>
    point = '-' && !isNegativeNumber argument &&
      !argument.contains (CodePoint.ofChar ' ')

/-- The arguments of a command that are read so far. -/
structure Pending where
  /-- Arguments that are no options. -/
  files : List Text := []
  /-- The value of the option for delimiters. -/
  delimiters : Option Text := none
  /-- The value of the option for a name. -/
  name : Option Text := none
  /-- Whether an unknown option was met. -/
  unknown : Bool := false

/-- The value of an option that is written with an equals sign. -/
def attached? (option argument : Text) : Option Text :=
  let opening := option ++ Text.of "="
  if opening.isPrefixOf argument then some (argument.drop opening.length) else none

/-- Options of the command for templates. -/
def valueOptions : List Text :=
  [Text.of "--syntax", Text.of "--name"]

/-- Whether an argument can be the value of an option. -/
def isValue (argument : Text) : Bool :=
  argument ≠ Text.of "--" && !looksLikeOption argument &&
    valueOptions.all fun option => (attached? option argument).isNone

/-- Reads the arguments of the command for templates; nothing is read if an
option has no value, and a request for help ends the reading. -/
def parseArguments (pending : Pending) : List Text → Option (Except Unit Pending)
  | [] => some (.ok pending)
  | argument :: rest =>
    if argument = Text.of "--" then
      some (.ok { pending with files := pending.files ++ rest })
    else if argument = Text.of "-h" || argument = Text.of "--help" then some (.error ())
    else if valueOptions.contains argument then
      match rest with
      | [] => none
      | value :: rest =>
        if isValue value then
          if argument = Text.of "--name" then
            parseArguments { pending with name := some value } rest
          else parseArguments { pending with delimiters := some value } rest
        else none
    else
      match attached? (Text.of "--syntax") argument, attached? (Text.of "--name") argument with
      | some value, _ => parseArguments { pending with delimiters := some value } rest
      | _, some value => parseArguments { pending with name := some value } rest
      | none, none =>
        if looksLikeOption argument then parseArguments { pending with unknown := true } rest
        else parseArguments { pending with files := pending.files ++ [argument] } rest

/-- The invocation of the command for templates. -/
def parseInvocation (flags : Flags) (unknown : Bool) (arguments : List Text) : Invocation :=
  match parseArguments {} arguments with
  | none => .misuse
  | some (.error ()) => .help
  | some (.ok pending) =>
    match pending.files with
    | [file] =>
      if unknown || pending.unknown then .misuse
      else .parse flags ⟨file, pending.delimiters, pending.name⟩
    | _ => .misuse

/-- The invocation of a command by its name. -/
def commandInvocation
    (flags : Flags)
    (unknown : Bool)
    (name : Text)
    (arguments : List Text) : Invocation :=
  if name = Text.of "parse" then parseInvocation flags unknown arguments
  else if name = Text.of "keywords" then
    match arguments with
    | [] => if unknown then .misuse else .keywords flags
    | argument :: _ =>
      if argument = Text.of "-h" || argument = Text.of "--help" then .help else .misuse
  else .misuse

/-- What a run of one-letter options asks for: the first letter counts, and all
have to be known. -/
def letters? : Text → Option Invocation
  | dash :: first :: others =>
    let isKnown (letter : CodePoint) : Bool := letter = 'v' || letter = 'h'
    if dash = '-' && isKnown first then
      if !others.all isKnown then some .misuse
      else if first = 'v' then some .version
      else some .help
    else none
  | _ => none

/-- Reads a command line behind some flags.  An unknown option makes it misused,
unless the version is asked for behind it. -/
def read (flags : Flags) (unknown : Bool) : List Text → Invocation
  | [] => .misuse
  | argument :: rest =>
    match letters? argument with
    | some invocation => invocation
    | none =>
      if argument = Text.of "--version" then .version
      else if argument = Text.of "--help" then .help
      else if argument = Text.of "--verbose" then read { flags with verbose := true } unknown rest
      else if argument = Text.of "--pretty" then read { flags with pretty := true } unknown rest
      else if [Text.of "--version", Text.of "--help", Text.of "--verbose", Text.of "--pretty"].any
          (fun option => (attached? option argument).isSome) then .misuse
      else if argument = Text.of "--" then .misuse
      else if looksLikeOption argument then read flags true rest
      else commandInvocation flags unknown argument rest

/-- The invocation of a command line. -/
def invocation (arguments : List Text) : Invocation :=
  read {} false arguments

/-- What the program works with besides its arguments: files, streams and the
libraries that read settings files and lay reports out. -/
structure Surroundings where
  /-- The contents of files. -/
  file : Path → Option (List UInt8)
  /-- The content of the standard input. -/
  input : List UInt8
  /-- Whether the standard output takes a text. -/
  takes : Text → Bool
  /-- The reader of settings files. -/
  reader : Settings.Reader
  /-- The value that a report is laid out as, if it is. -/
  layOut : Report → Option Value

/-- What running a command comes to. -/
inductive Result where
  /-- The version was asked for. -/
  | version
  /-- Help was asked for. -/
  | help
  /-- The command line does not fit. -/
  | misuse
  /-- The command ended with an exit code and the texts of both streams. -/
  | finished (code : Nat) (output errors : Text)
  /-- Reading stopped without a diagnostic. -/
  | halted (halt : Halt)
  /-- The settings file has no value, for a reason that no message is meant for. -/
  | unreadableSettings (fault : Settings.Fault)
  /-- The report was not laid out; nothing but the journal is shown. -/
  | notLaidOut (journal : Text)
  /-- The standard output did not take the text; nothing but the journal is shown. -/
  | notTaken (journal : Text)
deriving Repr

/-- The lines of the journal that are shown. -/
def shown (flags : Flags) (events : List Event) : Text :=
  ((events.filter fun event => flags.verbose || event.level = .warning).map Event.line).flatten

/-- The last line of the error stream. -/
def lastLine (message : Text) : Text :=
  message.trimEnd ++ Text.of "\n"

/-- The layout that the flags ask for. -/
def Flags.layout (flags : Flags) : Json.Layout :=
  if flags.pretty then .indented 2 else .compact

/-- The result of a value that is shown as JSON.  The output is written before the last
words on the error stream. -/
def finishedWith
    (surroundings : Surroundings)
    (flags : Flags)
    (code : Nat)
    (value : Value)
    (journal words : Text) : Result :=
  match Json.write flags.layout value with
  | .ok text =>
    if surroundings.takes text then .finished code text (journal ++ words)
    else .notTaken journal
  | .error fault => .finished 1 [] (journal ++ lastLine fault.message)

/-- The result of a report that is laid out and shown. -/
def finishedReport
    (surroundings : Surroundings)
    (flags : Flags)
    (code : Nat)
    (report : Report)
    (journal words : Text) : Result :=
  match surroundings.layOut report with
  | some value => finishedWith surroundings flags code value journal words
  | none => .notLaidOut journal

/-- The name that diagnostics give to a source. -/
def sourceName (arguments : ParseArguments) : Text :=
  match arguments.name with
  | some (point :: rest) => point :: rest
  | _ => if arguments.file = Text.of "-" then Text.of "<stdin>" else arguments.file

/-- Reads a source and reports on it. -/
def report
    (surroundings : Surroundings)
    (flags : Flags)
    (name : Text)
    (delimiters : Delimiters)
    (events : List Event)
    (source : List UInt8) : Result :=
  let outcome := Template.attempt name delimiters (.bytes source)
  let journal := shown flags (events ++ outcome.journal)
  match outcome.result with
  | .ok template =>
    match Report.ofTemplate name template with
    | .ok report => finishedReport surroundings flags 0 report journal []
    | .error fault => .finished 1 [] (journal ++ lastLine fault.message)
  | .error (.diagnosed diagnostic) =>
    finishedReport surroundings flags 2 (Report.ofDiagnostic name diagnostic) journal
      (lastLine diagnostic.toText)
  | .error halt => .halted halt

/-- Runs the command for templates: first the delimiters are found, then the
source is read. -/
def parse
    (surroundings : Surroundings)
    (flags : Flags)
    (arguments : ParseArguments) : Result :=
  match Settings.resolve surroundings.reader surroundings.file arguments.delimiters with
  | (.error fault, events) =>
    if fault.isReported then .finished 2 [] (shown flags events ++ lastLine fault.message)
    else .unreadableSettings fault
  | (.ok delimiters, events) =>
    let name := sourceName arguments
    if arguments.file = Text.of "-" then
      report surroundings flags name delimiters events surroundings.input
    else
      let path := Path.of arguments.file
      match surroundings.file path with
      | some source => report surroundings flags name delimiters events source
      | none =>
        .finished 2 []
          (shown flags events ++ lastLine (Text.of "Template file not found: " ++ path.toText))

/-- Runs a command line. -/
def run (surroundings : Surroundings) (arguments : List Text) : Result :=
  match invocation arguments with
  | .version => .version
  | .help => .help
  | .misuse => .misuse
  | .parse flags arguments => parse surroundings flags arguments
  | .keywords flags => finishedWith surroundings flags 0 Report.ofVocabulary [] []

end Command

end Stencil
