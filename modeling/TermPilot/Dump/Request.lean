import TermPilot.Text.Digit
import TermPilot.Text.Quoted

/-!
# Requests

The command line of the program that runs a command under a dump. Everything from the first word on
that is no option belongs to the command, also words that look like options.
-/

namespace TermPilot.Dump

/-- What the words of a command line ask for. -/
inductive Request where
  /-- A command is to be run; it may be empty. -/
  | run (words : List Text)
  /-- The use of the program is to be explained. -/
  | help
  /-- The words are not understood. -/
  | refused (reason : Text)
deriving Repr, DecidableEq

/-- What a word at the front of a command line is. -/
inductive Front where
  /-- The option that asks for help. -/
  | help
  /-- The option that asks for help, with a value, which it does not take. -/
  | helpWith (value : Text)
  /-- An option that is not known. -/
  | unknown
  /-- No option. -/
  | word
deriving Repr, DecidableEq

/-- Whether a text is a number below zero: digits of any script after a hyphen, also around one
point; a line feed may follow. -/
def isNegativeNumber : Text → Bool
  | '-' :: rest =>
    let number := Text.dropLastChar '\n' rest
    match Text.cutAt '.' number with
    | none => !number.isEmpty && number.all Text.isDecimal
    | some (before, after) =>
      !after.isEmpty && before.all Text.isDecimal && after.all Text.isDecimal
  | _ => false

/-- What the letters after the option for help mean. Help may be asked for again; anything else
would be a value, which it does not take. -/
def bundled : Text → Front
  | [] => .help
  | 'h' :: rest => bundled rest
  | value => .helpWith value

/-- What stands after the option for help in one word. Letters may also follow an equals sign, but
not nothing. -/
def attached : Text → Front
  | ['='] => .helpWith []
  | '=' :: value => bundled value
  | rest => bundled rest

/-- What a word with a hyphen in front is if it does not ask for help. A number or a word with a
space in it is no option. -/
def otherwise (word : Text) : Front :=
  if isNegativeNumber word || word.contains ' ' then .word else .unknown

/-- What a word is that begins with two hyphens. The option for help may be shortened. -/
def ofLong (word : Text) : Front :=
  let (name, value) := match Text.cutAt '=' word with
    | some (name, value) => (name, some value)
    | none => (word, none)
  if name.isPrefixOf "--help".toList then
    match value with
    | some value => .helpWith value
    | none => .help
  else otherwise word

/-- What a word is. -/
def Front.ofWord (word : Text) : Front :=
  match word with
  | ['-'] => .word
  | ['-', '-'] => .word
  | '-' :: '-' :: _ => ofLong word
  | '-' :: 'h' :: rest => attached rest
  | '-' :: _ => otherwise word
  | _ => .word

/-- Reads words after a number of unknown options. -/
def Request.after (unknown : List Text) : List Text → Request
  | [] => settle unknown []
  | word :: rest => match Front.ofWord word with
    | .help => .help
    | .helpWith value =>
      .refused ("argument -h/--help: ignored explicit argument ".toList ++ Text.quoted value)
    | .unknown => after (unknown ++ [word]) rest
    | .word => settle unknown (word :: rest)
where
  /-- The request for a command after unknown options. -/
  settle (unknown words : List Text) : Request :=
    if unknown.isEmpty then .run words
    else .refused ("unrecognized arguments: ".toList ++ Text.join [' '] unknown)

/-- What the words of a command line ask for. -/
def Request.ofWords (words : List Text) : Request := .after [] words

end TermPilot.Dump
