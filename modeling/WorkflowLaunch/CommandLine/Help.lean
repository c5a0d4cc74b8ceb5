import WorkflowLaunch.CommandLine.Setting
import WorkflowLaunch.Request.Standard
import WorkflowLaunch.Text.Pieces
import WorkflowLaunch.Text.Terminal

set_option autoImplicit false

/-!
The texts that explain the commands, with the styles in which a terminal shows them. Descriptions
stand in one column; a line break in one goes on in that column. What the user types stands in bold.
-/

namespace WorkflowLaunch.CommandLine

def spaces (count : Nat) : String := String.ofList (List.replicate count ' ')

/-- Words that the user types as they are. -/
def literal (words : String) : String := Text.styled "1" words

/-- How many characters of a text show. -/
def shownLength (text : String) : Nat := (Text.withoutControls text).length

/-- Two columns, the second one two places behind the longest entry of the first. A text without
description stands alone. -/
def columns (rows : List (String × String)) : String :=
  let width := (rows.map fun row => shownLength row.1).foldl max 0
  let lines := rows.map fun (entry, description) =>
    let pieces := (Text.pieces '\n' description.toList).map String.ofList
    entry ++ spaces (width + 2 - shownLength entry) ++
      ("\n" ++ spaces (width + 2)).intercalate pieces ++ "\n"
  String.join lines

/-- A description in which `{n}` asks for a line break. -/
def breakLines : List Char → List Char
  | '{' :: 'n' :: '}' :: rest => '\n' :: breakLines rest
  | c :: rest => c :: breakLines rest
  | [] => []

def helpRow : String := "Print help"

def describe (standard : Standard) : Setting → String
  | .attributeNames =>
    "Optional search attribute keys registered at startup; separate multiple keys with ,"
  | .attributeTypes =>
    "Optional search attribute types registered at startup; separate multiple types with ,"
  | .ephemeral =>
    "Enable the in-memory storage driver **data will be lost on restart** " ++
      s!"[default: {standard.ephemeral}] [possible values: true, false]"
  | .filename =>
    s!"File in which to persist server state [default: {standard.databaseFile.display}]"
  | .port => s!"Port for the frontend service [default: {standard.port}]"
  | .ip => s!"Address the frontend binds to [default: {standard.ip}]"
  | .logFormat =>
    "Customize the log formatting (allowed: \"json\", \"pretty\") " ++
      s!"[default: {standard.logFormat}]"
  | .namespaces => "Namespaces that should be pre-created"

/-- An option in the first column: its letter or the room for it, then its name and its value. -/
def entry (letter : Option Char) (name value : String) : String :=
  let before := match letter with
    | some letter => "  " ++ literal ("-" ++ String.singleton letter) ++ ", "
    | none => "      "
  before ++ literal ("--" ++ name) ++ value

def settingRow (standard : Standard) (setting : Setting) : String × String :=
  (entry setting.short? setting.long setting.valueUsage,
    String.ofList (breakLines (describe standard setting).toList))

def startHelp (program : String) (standard : Standard) : String :=
  "Start the workflow server\n\nUsage: " ++ literal (program ++ " start") ++
    " [OPTIONS]\n\nOptions:\n" ++
    columns (Setting.all.map (settingRow standard) ++ [(entry (some 'h') "help" "", helpRow)])

def commandsAbout : String := "Print this message or the help of the given subcommand(s)"

def topHelp (program : String) : String :=
  "Embedded workflow orchestration server\n\nUsage: " ++ literal program ++
    " <COMMAND>\n\nCommands:\n" ++
    columns [("  " ++ literal "start", "Start the workflow server"),
      ("  " ++ literal "help", commandsAbout)] ++
    "\nOptions:\n" ++
    columns [(entry (some 'h') "help" "", helpRow),
      (entry (some 'V') "version" "", "Print version")]

def helpHelp (program : String) : String :=
  commandsAbout ++ "\n\nUsage: " ++ literal (program ++ " help") ++ " [COMMAND]...\n\nArguments:\n" ++
    columns [("  [COMMAND]...", "Print help for the subcommand(s)")]

def versionText : String := "workflow-lite 0.1.0\n"

end WorkflowLaunch.CommandLine
