import InventoryQuery.Predicate.Render
import InventoryQuery.RawText

/-!
# Arguments

What the words of a command line ask for. Options and filter words may be mixed in any order, and
two dashes end the options. The options that say where to send a query may stand before the name
of the command as well as after it, and after it they count more.
-/

namespace InventoryQuery.CommandLine

/-- The form in which an answer is printed. -/
inductive Format where
  | text
  | json
  deriving DecidableEq, Repr

/-- The form with a name. -/
def Format.ofName? (name : String) : Option Format :=
  if name = "text" then some .text else if name = "json" then some .json else none

/-- The endpoint with a name. -/
def endpointOfName? (name : String) : Option Endpoint :=
  if name = "nodes" then some .nodes else if name = "facts" then some .facts else none

/-- The names of commands. -/
inductive Command where
  | nodes
  | facts
  | render
  deriving DecidableEq, Repr

/-- The command with a name. -/
def Command.ofName? (name : String) : Option Command :=
  if name = "nodes" || name = "n" then some .nodes
  else if name = "facts" || name = "f" then some .facts
  else if name = "render" then some .render
  else none

/-- The options that have a value. -/
inductive Setting where
  | url
  | config
  | format
  | fact
  | context
  deriving DecidableEq, Repr

/-- Whether an option may stand after a command, or before any. -/
def Setting.isFor (setting : Setting) (command : Option Command) : Bool :=
  match setting, command with
  | .url, _ | .config, _ => true
  | .format, some .nodes | .format, some .facts | .fact, some .facts => true
  | .context, some .render => true
  | _, _ => false

/-- The option with a long name. -/
def Setting.ofLongName? (name : List Char) : Option Setting :=
  if name = "url".toList then some .url
  else if name = "config".toList then some .config
  else if name = "format".toList then some .format
  else if name = "fact".toList then some .fact
  else if name = "context".toList then some .context
  else none

/-- The option with a short name. -/
def Setting.ofShortName? : Char → Option Setting
  | 'u' => some .url
  | 'f' => some .format
  | 'n' => some .fact
  | 'c' => some .context
  | _ => none

/-- What a single argument is. -/
inductive Argument where
  /-- A word that is not an option. -/
  | word (text : String)
  /-- An option with its value. -/
  | setting (setting : Setting) (value : String)
  /-- An option whose value is the next argument. -/
  | awaiting (setting : Setting)
  | help
  | version
  | unknown
  deriving DecidableEq, Repr

/-- An option that may stand here with the value that is joined to it, if there is one. -/
def Argument.ofSetting (command : Option Command) (setting : Option Setting)
    (value : Option (List Char)) : Argument :=
  match setting.filter (Setting.isFor · command), value with
  | none, _ => .unknown
  | some setting, some value => .setting setting (String.ofList value)
  | some setting, none => .awaiting setting

/-- The value that is joined to a long name. -/
def valueAfterEquals : List Char → Option (List Char)
  | '=' :: value => some value
  | _ => none

/-- The value that is joined to a short name, with or without an equals sign. -/
def valueAfterShort : List Char → Option (List Char)
  | [] => none
  | '=' :: value => some value
  | value => some value

/-- What an argument is that stands after a command, or before any. -/
def Argument.ofText (command : Option Command) (text : String) : Argument :=
  match text.toList with
  | '-' :: '-' :: long =>
    let name := long.takeWhile (· ≠ '=')
    let value := valueAfterEquals (long.dropWhile (· ≠ '='))
    if name = "help".toList && value.isNone then .help
    else if name = "version".toList && value.isNone && command.isNone then .version
    else .ofSetting command (Setting.ofLongName? name) value
  | '-' :: short :: rest =>
    if short = 'h' then .help
    else if short = 'V' && command.isNone then .version
    else .ofSetting command (Setting.ofShortName? short) (valueAfterShort rest)
  | _ => .word text

/-- Whether an argument looks like an option, so that it is no value of one. -/
def looksLikeOption (text : String) : Bool :=
  match text.toList with
  | '-' :: _ :: _ => true
  | _ => false

/-- The values of the options at one level. -/
structure Options where
  url : Option String := none
  config : Option String := none
  format : Option Format := none
  context : Option Endpoint := none
  facts : List String := []
  deriving DecidableEq, Repr

/-- The options with one more value. Only the names of facts may be given several times, and the
path of the configuration may not be empty. -/
def Options.set? (options : Options) (setting : Setting) (value : String) : Option Options :=
  match setting with
  | .url => if options.url.isSome then none else some { options with url := some value }
  | .config =>
    if options.config.isSome || value.isEmpty then none
    else some { options with config := some value }
  | .format =>
    match options.format, Format.ofName? value with
    | none, some format => some { options with format := some format }
    | _, _ => none
  | .context =>
    match options.context, endpointOfName? value with
    | none, some context => some { options with context := some context }
    | _, _ => none
  | .fact => some { options with facts := options.facts ++ [value] }

/-- Why the arguments do not lead to a command. -/
inductive Stop where
  | usage
  | help
  | version
  deriving DecidableEq, Repr

/-- Read the arguments after the name of a command: the values of options and the words, added to
what was read before. -/
def readArguments (command : Command) (options : Options) (words : List String) :
    List String → Except Stop (Options × List String)
  | [] => .ok (options, words)
  | text :: rest =>
    if text = "--" then .ok (options, words ++ rest)
    else
      match Argument.ofText (some command) text with
      | .word word => readArguments command options (words ++ [word]) rest
      | .setting setting value =>
        match options.set? setting value with
        | some options => readArguments command options words rest
        | none => .error .usage
      | .awaiting setting =>
        match rest with
        | [] => .error .usage
        | value :: rest =>
          if looksLikeOption value then .error .usage
          else
            match options.set? setting value with
            | some options => readArguments command options words rest
            | none => .error .usage
      | .help => .error .help
      | .version => .error .version
      | .unknown => .error .usage

/-- Read the arguments before and at the name of a command: the values of options, the command and
the arguments after it. -/
def readCommand (options : Options) :
    List String → Except Stop (Options × Command × List String)
  | [] => .error .usage
  | text :: rest =>
    if text = "--" then .error .usage
    else
      match Argument.ofText none text with
      | .word word =>
        match Command.ofName? word with
        | some command => .ok (options, command, rest)
        | none => .error (if word = "help" then helpOn rest else .usage)
      | .setting setting value =>
        match options.set? setting value with
        | some options => readCommand options rest
        | none => .error .usage
      | .awaiting setting =>
        match rest with
        | [] => .error .usage
        | value :: rest =>
          if looksLikeOption value then .error .usage
          else
            match options.set? setting value with
            | some options => readCommand options rest
            | none => .error .usage
      | .help => .error .help
      | .version => .error .version
      | .unknown => .error .usage
where
  /-- Help on a command, which has to exist. -/
  helpOn : List String → Stop
    | [] => .help
    | [name] => if (Command.ofName? name).isSome || name = "help" then .help else .usage
    | _ => .usage

/-- Where to send a query, as far as the command line says so. -/
structure Target where
  url : Option String := none
  config : Option RawText := none
  deriving DecidableEq, Repr

/-- What a command line asks for: the nodes that a filter selects, the facts of these nodes, or
the query that a filter stands for. -/
inductive Task where
  | nodes (target : Target) (format : Format) (filter : List String)
  | facts (target : Target) (names : List String) (format : Format) (filter : List String)
  | render (context : Endpoint) (filter : List String)
  deriving DecidableEq, Repr

/-- Where a task sends a query, if it sends one. -/
def Task.target? : Task → Option Target
  | .nodes target _ _ | .facts target _ _ _ => some target
  | .render _ _ => none

/-- The task of a command with the options before and after its name and the words. -/
def Task.ofCommand (command : Command) (before after : Options) (filter : List String) : Task :=
  let target : Target :=
    ⟨after.url <|> before.url, (after.config <|> before.config).map RawText.ofText⟩
  let format := after.format.getD .text
  match command with
  | .nodes => .nodes target format filter
  | .facts => .facts target after.facts format filter
  | .render => .render (after.context.getD .nodes) filter

/-- The task that the arguments ask for. -/
def Task.ofArguments (arguments : List String) : Except Stop Task := do
  let (before, command, rest) ← readCommand {} arguments
  let (after, filter) ← readArguments command {} [] rest
  return .ofCommand command before after filter

end InventoryQuery.CommandLine
