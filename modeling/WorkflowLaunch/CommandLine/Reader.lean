import WorkflowLaunch.CommandLine.Given
import WorkflowLaunch.CommandLine.Help

set_option autoImplicit false

/-!
Reading a command line from left to right, up to the first mistake or request for help. A value
that stands in a word of its own, and words that belong to no option, are kept pending and entered
when the next option is recognised or the line ends; an option that is unknown comes first.
-/

namespace WorkflowLaunch.CommandLine

/-- A word: two dashes alone, a long option with the value behind its equals sign, the letters
behind one dash, or anything else. -/
inductive Word where
  | dashes
  | long (name : Octets) (value : Option Octets)
  | letters (octets : Octets)
  | plain (octets : Octets)
  deriving DecidableEq

def dash : UInt8 := 45

def equalsSign : UInt8 := 61

/-- A name and what stands behind the first equals sign, if there is one. -/
def splitValue (octets : Octets) : Octets × Option Octets :=
  let name := octets.takeWhile (· ≠ equalsSign)
  match octets.drop name.length with
  | [] => (name, none)
  | _ :: value => (name, some value)

def Word.ofOctets (octets : Octets) : Word :=
  match octets with
  | [45, 45] => .dashes
  | 45 :: 45 :: rest =>
    let (name, value) := splitValue rest
    .long name value
  | [45] => .plain octets
  | 45 :: rest => .letters rest
  | octets => .plain octets

/-- What was read but not yet entered: an option that waits for its value, a value, or words. -/
inductive Pending where
  | nothing
  | option (setting : Setting)
  | value (setting : Setting) (value : Octets)
  | words (octets : List Octets)
  deriving DecidableEq

structure Progress where
  given : Given
  pending : Pending

namespace Progress

def start : Progress := ⟨.nothing, .nothing⟩

/-- Enters what is pending. -/
def settle (progress : Progress) : Except Fault Given :=
  match progress.pending with
  | .nothing => .ok progress.given
  | .option setting => .error (.valueRequired setting)
  | .value setting value => progress.given.enter setting value
  | .words octets => do
    let texts ← readTexts octets
    return { progress.given with words := progress.given.words ++ texts }

/-- An option with its value attached. -/
def attach (progress : Progress) (setting : Setting) (value : Octets) : Except Fault Progress := do
  return ⟨← (← progress.settle).enter setting value, .nothing⟩

/-- An option without attached value. -/
def expect (progress : Progress) (setting : Setting) : Except Fault Progress := do
  if setting.valueOptional then progress.attach setting (Octets.ofString "true")
  else return ⟨← progress.settle, .option setting⟩

/-- A word that belongs to no option. -/
def addWord (progress : Progress) (word : Octets) : Except Fault Progress := do
  match progress.pending with
  | .words octets => return { progress with pending := .words (octets ++ [word]) }
  | _ => return ⟨← progress.settle, .words [word]⟩

/-- A word that may be the value of the option before it. -/
def addPlain (progress : Progress) (word : Octets) : Except Fault Progress :=
  match progress.pending with
  | .option setting => .ok { progress with pending := .value setting word }
  | _ => progress.addWord word

end Progress

/-- A request for help comes behind the faults of what is pending. -/
def askHelp (help : String) (progress : Progress) : Refusal :=
  match progress.settle with
  | .ok _ => .help help
  | .error fault => .fault fault

def readLong (help : String) (progress : Progress) (name : Octets) (value : Option Octets) :
    Except Refusal Progress :=
  if name = Octets.ofString "help" then
    match value with
    | none => .error (askHelp help progress)
    | some value => .error (.fault (.unexpectedValue (Octets.lossy value) "--help"))
  else match Setting.ofLong? name with
    | none => .error (.fault (.unknownArgument ("--" ++ Octets.lossy name)))
    | some setting => match value with
      | some value => (progress.attach setting value).mapError .fault
      | none => (progress.expect setting).mapError .fault

/-- The value behind the letter of an option: the rest of the word without a leading equals
sign. -/
def valueBehind (rest : Octets) : Octets :=
  match rest with
  | 61 :: value => value
  | value => value

/-- The first letter behind a dash, and the rest. -/
def splitLetter? (octets : Octets) : Option (Char × Octets) :=
  match octets with
  | [] => none
  | first :: _ =>
    let size :=
      if first < 0x80 then 1 else if first < 0xE0 then 2 else if first < 0xF0 then 3 else 4
    match (Octets.text? (octets.take size)).map String.toList with
    | some [letter] => some (letter, octets.drop size)
    | _ => none

/-- Only the first letter counts: every option takes the rest of the word as its value. -/
def readLetters (help : String) (progress : Progress) (octets : Octets) :
    Except Refusal Progress :=
  match splitLetter? octets with
  | none => .error (.fault (.unknownArgument ("-" ++ Octets.lossy octets)))
  | some (letter, rest) =>
    if letter = 'h' then .error (askHelp help progress)
    else match Setting.ofShort? letter with
      | none => .error (.fault (.unknownArgument ("-" ++ String.singleton letter)))
      | some setting =>
        if rest = [] then (progress.expect setting).mapError .fault
        else (progress.attach setting (valueBehind rest)).mapError .fault

/-- Words behind two dashes. -/
def readWords (progress : Progress) : List Octets → Except Fault Progress
  | [] => .ok progress
  | word :: rest => do readWords (← progress.addWord word) rest

/-- The words behind `start`. -/
def readStart (help : String) (progress : Progress) : List Octets → Except Refusal Progress
  | [] => .ok progress
  | word :: rest => match Word.ofOctets word with
    | .dashes => (readWords progress rest).mapError .fault
    | .long name value => do readStart help (← readLong help progress name value) rest
    | .letters octets => do readStart help (← readLetters help progress octets) rest
    | .plain octets => do
      readStart help (← (progress.addPlain octets).mapError .fault) rest

def start (help : String) (standard : Standard) (words : List Octets) : Except Refusal Request := do
  let progress ← readStart help .start words
  let given ← progress.settle.mapError .fault
  return given.request standard

/-- What `help` shows for the names of commands behind it. -/
def commandHelp (program : String) (standard : Standard) : List Octets → Refusal
  | [] => .help (topHelp program)
  | name :: rest =>
    let shown? :=
      if name = Octets.ofString "start" then some (startHelp program standard)
      else if name = Octets.ofString "help" then some (helpHelp program)
      else none
    match shown?, rest with
    | none, _ => .fault (.unknownCommand (Octets.lossy name))
    | some _, name :: _ => .fault (.unknownCommand (Octets.lossy name))
    | some help, [] => .help help

def isCommand (word : Octets) : Bool :=
  word = Octets.ofString "start" || word = Octets.ofString "help"

/-- The words behind two dashes in front of any command. -/
def misplaced (program : String) : List Octets → Refusal
  | [] => .nothingToDo (topHelp program)
  | word :: _ =>
    if isCommand word then .fault (.unknownArgument (Octets.lossy word))
    else .fault (.unknownCommand (Octets.lossy word))

/-- The first letter of a word in front of any command. -/
def topLetters (program : String) (octets : Octets) : Refusal :=
  match splitLetter? octets with
  | none => .fault (.unknownArgument ("-" ++ Octets.lossy octets))
  | some ('h', _) => .help (topHelp program)
  | some ('V', _) => .version versionText
  | some (letter, _) => .fault (.unknownArgument ("-" ++ String.singleton letter))

def topLong (program : String) (name : Octets) (value : Option Octets) : Refusal :=
  let known? :=
    if name = Octets.ofString "help" then some (Refusal.help (topHelp program))
    else if name = Octets.ofString "version" then some (.version versionText)
    else none
  match known?, value with
  | some refusal, none => refusal
  | some _, some value =>
    .fault (.unexpectedValue (Octets.lossy value) ("--" ++ Octets.lossy name))
  | none, _ => .fault (.unknownArgument ("--" ++ Octets.lossy name))

/-- The words behind the name of the program. -/
def readTop (program : String) (standard : Standard) : List Octets → Except Refusal Request
  | [] => .error (.nothingToDo (topHelp program))
  | word :: rest =>
    if word = Octets.ofString "start" then start (startHelp program standard) standard rest
    else if word = Octets.ofString "help" then .error (commandHelp program standard rest)
    else match Word.ofOctets word with
      | .dashes => .error (misplaced program rest)
      | .long name value => .error (topLong program name value)
      | .letters octets => .error (topLetters program octets)
      | .plain octets => .error (.fault (.unknownCommand (Octets.lossy octets)))

def standardName : String := "workflow-lite"

/-- The program's name: the file name of the first word, if that is text. -/
def programName (words : List Octets) : String :=
  match words with
  | [] => standardName
  | first :: _ => (((Path.mk first).fileName?.bind Octets.text?).filter (· ≠ "")).getD standardName

/-- A whole command line, the name of the program first. -/
def read (words : List Octets) (standard : Standard) : Except Refusal Request :=
  readTop (programName words) standard (words.drop 1)

end WorkflowLaunch.CommandLine
