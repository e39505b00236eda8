import MarkdownPager.CommandLine.Count
import MarkdownPager.Config

/-!
# Arguments

The arguments of the program are flags, settings with a value, and the text to show.  A long name
follows two hyphens, and a value follows a setting, either as the next argument or behind an equals
sign.  Short names follow one hyphen, several of them if need be.  Behind a lone `--` nothing is a
name any more.

A value that is an argument of its own is looked at when the next argument that means something has
been found.  So an argument that means nothing is reported before a value that is no good.
-/

namespace MarkdownPager

/-- What can be asked for with a single word. -/
inductive Flag where
  | interactive
  | plain
  | watch
  | help
  | version
  deriving DecidableEq, Repr

namespace Flag

/-- The long name of a flag. -/
def name : Flag → String
  | .interactive => "--interactive"
  | .plain => "--plain"
  | .watch => "--watch"
  | .help => "--help"
  | .version => "--version"

/-- The flag of a long name. -/
def named? (name : String) : Option Flag :=
  [interactive, plain, watch, help, version].find? (·.name == name)

/-- The flag of a short name. -/
def ofLetter? : Char → Option Flag
  | 'i' => some .interactive
  | 'h' => some .help
  | 'V' => some .version
  | _ => none

end Flag

/-- What a value can be given for. -/
inductive Setting where
  | appearance
  | lightTheme
  | darkTheme
  | stream
  deriving DecidableEq, Repr

namespace Setting

/-- The name of a setting. -/
def name : Setting → String
  | .appearance => "--appearance"
  | .lightTheme => "--light-theme"
  | .darkTheme => "--dark-theme"
  | .stream => "--stream"

/-- The name of a setting with a word for its value. -/
def usage : Setting → String
  | .appearance => "--appearance <APPEARANCE>"
  | .lightTheme => "--light-theme <LIGHT_THEME>"
  | .darkTheme => "--dark-theme <DARK_THEME>"
  | .stream => "--stream <N>"

/-- The setting of a name. -/
def named? (name : String) : Option Setting :=
  [appearance, lightTheme, darkTheme, stream].find? (·.name == name)

end Setting

/-- What is wrong with the arguments. -/
inductive UsageFault where
  /-- An argument that means nothing. -/
  | unexpected (argument : String)
  /-- A value for a flag, which takes none. -/
  | unexpectedValue (value : String) (flag : Flag)
  | missingValue (setting : Setting)
  | invalidAppearance (value : String)
  | invalidCount (value : String) (setting : Setting) (fault : CountFault)
  /-- A flag or setting that is there already. -/
  | repeated (name : String)
  deriving DecidableEq, Repr

/-- The wording of a usage fault. -/
def UsageFault.message : UsageFault → String
  | .unexpected argument => "unexpected argument '" ++ argument ++ "' found"
  | .unexpectedValue value flag =>
    "unexpected value '" ++ value ++ "' for '" ++ flag.name ++ "' found; no more were expected"
  | .missingValue setting =>
    "a value is required for '" ++ setting.usage ++ "' but none was supplied"
  | .invalidAppearance value =>
    "invalid value '" ++ value ++ "' for '" ++ Setting.appearance.usage ++ "'"
  | .invalidCount value setting fault =>
    "invalid value '" ++ value ++ "' for '" ++ setting.usage ++ "': " ++ fault.message
  | .repeated name => "the argument '" ++ name ++ "' cannot be used multiple times"

/-- The arguments of the program. -/
structure Arguments where
  input : Option String := none
  interactive : Bool := false
  plain : Bool := false
  watch : Bool := false
  appearance : Option Appearance := none
  lightTheme : Option String := none
  darkTheme : Option String := none
  /-- The length of the chunks in which the text arrives. -/
  stream : Option Nat := none
  deriving DecidableEq, Repr

/-- What ends the reading of arguments early. -/
inductive Interruption where
  | fault (fault : UsageFault)
  | help
  | version
  deriving DecidableEq, Repr

namespace Arguments

/-- The configuration that arguments ask for. -/
def config (arguments : Arguments) : Config where
  appearance := arguments.appearance.getD .dark
  lightTheme := arguments.lightTheme.getD defaultLightTheme
  darkTheme := arguments.darkTheme.getD defaultDarkTheme

/-- Takes over a flag. -/
def addFlag (arguments : Arguments) (flag : Flag) : Except Interruption Arguments :=
  let once (given : Bool) (result : Arguments) : Except Interruption Arguments :=
    if given then .error (.fault (.repeated flag.name)) else .ok result
  match flag with
  | .interactive => once arguments.interactive { arguments with interactive := true }
  | .plain => once arguments.plain { arguments with plain := true }
  | .watch => once arguments.watch { arguments with watch := true }
  | .help => .error .help
  | .version => .error .version

/-- The appearance of a value. -/
def readAppearance : String → Except UsageFault Appearance
  | "light" => .ok .light
  | "dark" => .ok .dark
  | "" => .error (.missingValue .appearance)
  | value => .error (.invalidAppearance value)

/-- Takes over the value of a setting. -/
def addValue (arguments : Arguments) (setting : Setting) (value : String) :
    Except UsageFault Arguments :=
  let once {α : Type} (given : Option α) (result : Except UsageFault Arguments) :
      Except UsageFault Arguments :=
    if given.isSome then .error (.repeated setting.usage) else result
  match setting with
  | .appearance => once arguments.appearance <|
    (readAppearance value).map fun appearance => { arguments with appearance := some appearance }
  | .lightTheme => once arguments.lightTheme <| .ok { arguments with lightTheme := some value }
  | .darkTheme => once arguments.darkTheme <| .ok { arguments with darkTheme := some value }
  | .stream => once arguments.stream <|
    match Count.read value with
    | .ok count => .ok { arguments with stream := some count }
    | .error fault => .error (.invalidCount value setting fault)

end Arguments

/-- A setting that has been named, with its value once that has come. -/
structure Waiting where
  setting : Setting
  value : Option String := none
  deriving DecidableEq, Repr

/-- How far the reading of arguments has come. -/
structure ArgumentReader where
  arguments : Arguments := {}
  waiting : Option Waiting := none
  /-- Whether nothing is a name any more. -/
  namesEnded : Bool := false
  deriving DecidableEq, Repr

namespace ArgumentReader

/-- Takes over the setting that waits, if one does. -/
def settle (reader : ArgumentReader) : Except Interruption ArgumentReader :=
  match reader.waiting with
  | none => .ok reader
  | some ⟨setting, none⟩ => .error (.fault (.missingValue setting))
  | some ⟨setting, some value⟩ =>
    match reader.arguments.addValue setting value with
    | .ok arguments => .ok { reader with arguments, waiting := none }
    | .error fault => .error (.fault fault)

/-- Takes over a flag. -/
def readFlag (reader : ArgumentReader) (flag : Flag) : Except Interruption ArgumentReader := do
  let reader ← reader.settle
  let arguments ← reader.arguments.addFlag flag
  return { reader with arguments }

/-- Takes over the flags of short names. -/
def readLetters (reader : ArgumentReader) : List Char → Except Interruption ArgumentReader
  | [] => .ok reader
  | letter :: letters =>
    match Flag.ofLetter? letter with
    | none => .error (.fault (.unexpected (.ofList ['-', letter])))
    | some flag => do
      let reader ← reader.readFlag flag
      reader.readLetters letters

/-- Takes over a long name, with the value behind its equals sign. -/
def readName (reader : ArgumentReader) (name : String) (value : Option String) :
    Except Interruption ArgumentReader :=
  match Flag.named? name, Setting.named? name, value with
  | some flag, _, none => reader.readFlag flag
  | some flag, _, some value => .error (.fault (.unexpectedValue value flag))
  | none, some setting, _ => do
    let reader := { (← reader.settle) with waiting := some ⟨setting, value⟩ }
    if value.isSome then reader.settle else return reader
  | none, none, _ => .error (.fault (.unexpected name))

/-- Takes over the text to show. -/
def readInput (reader : ArgumentReader) (argument : String) :
    Except Interruption ArgumentReader :=
  if reader.arguments.input.isSome then .error (.fault (.unexpected argument))
  else do
    let reader ← reader.settle
    return { reader with arguments := { reader.arguments with input := some argument } }

/-- Takes over an argument that is no name: a value that is waited for, or the text to show. -/
def readPlain (reader : ArgumentReader) (argument : String) :
    Except Interruption ArgumentReader :=
  match reader.waiting with
  | some ⟨setting, none⟩ => .ok { reader with waiting := some ⟨setting, some argument⟩ }
  | _ => reader.readInput argument

/-- Takes over an argument. -/
def readArgument (reader : ArgumentReader) (argument : String) :
    Except Interruption ArgumentReader :=
  if reader.namesEnded then reader.readInput argument
  else
    match argument.toList with
    | ['-', '-'] => .ok { reader with namesEnded := true }
    | '-' :: '-' :: cs =>
      let name := String.ofList ('-' :: '-' :: cs.takeWhile (· != '='))
      let value := match cs.dropWhile (· != '=') with
        | [] => none
        | _ :: value => some (String.ofList value)
      reader.readName name value
    | '-' :: c :: cs => reader.readLetters (c :: cs)
    | _ => reader.readPlain argument

end ArgumentReader

/-- Reads the arguments of the program. -/
def Arguments.read (arguments : List String) : Except Interruption Arguments := do
  let reader ← arguments.foldlM ArgumentReader.readArgument {}
  return (← reader.settle).arguments

end MarkdownPager
