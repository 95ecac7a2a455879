import ScriptTrace.Source

/-!
# Command line arguments

Options and script tokens may be mixed. An argument that starts with a dash is an option, unless it is a dash alone or a negative number; after `--` all arguments are tokens. Short options may share one dash, and the value of an option is attached to it or is the next argument. Only `-v` may be given more than once.

These are conventions of command lines, taken as given: the ways to attach a value (`-fjson`, `-f=json`, `--format=json`), what counts as a negative number, that long names are written out in full, and that one malformed argument makes the whole line malformed. Left out are the request for help and the texts about malformed arguments. Where help is asked for, with `-h` or `--help`, a command line would describe itself and end with exit code zero; here both are refused like any unknown option.
-/

namespace ScriptTrace.CommandLine

inductive Format where
  | plain | json
  deriving DecidableEq

/-- The options that take a value. -/
inductive Key where
  | format | limit
  deriving DecidableEq

/-- What one argument means by itself. -/
inductive Argument where
  | token (text : String)
  /-- From here on there are only tokens. -/
  | endOfOptions
  /-- A wish for diagnostics, which has no bearing on the result. -/
  | verbose
  | strict
  | set (key : Key) (value : String)
  /-- An option whose value is the next argument. -/
  | await (key : Key)
  deriving DecidableEq

namespace Argument

/-- The short options after a dash. -/
def ofShort? : List Char → Option Argument
  | [] => some .verbose
  | 'v' :: rest => ofShort? rest
  | 'f' :: [] => some (.await .format)
  | 'f' :: '=' :: value => some (.set .format (.ofList value))
  | 'f' :: value => some (.set .format (.ofList value))
  | _ => none

/-- The long option after two dashes. -/
def ofLong? (text : List Char) : Option Argument :=
  let name := String.ofList (text.takeWhile (· != '='))
  match text.dropWhile (· != '=') with
  | [] =>
    if name = "strict" then some .strict
    else if name = "verbose" then some .verbose
    else if name = "format" then some (.await .format)
    else if name = "max-script-len" then some (.await .limit)
    else none
  | _ :: value =>
    if name = "format" then some (.set .format (.ofList value))
    else if name = "max-script-len" then some (.set .limit (.ofList value))
    else none

def ofString? (text : String) : Option Argument :=
  match text.toList with
  | ['-', '-'] => some .endOfOptions
  | '-' :: '-' :: long => ofLong? long
  | ['-'] => some (.token text)
  | '-' :: short => if Text.isUnsignedNumber short then some (.token text) else ofShort? short
  | _ => some (.token text)

end Argument

/-- What a command line asks for. -/
structure Options where
  format? : Option Format := none
  limit? : Option Nat := none
  strict : Bool := false
  /-- The words of the script, in order. -/
  tokens : List String := []
  deriving DecidableEq

def Format.ofString? (text : String) : Option Format :=
  if text = "plain" then some .plain else if text = "json" then some .json else none

namespace Options

def format (o : Options) : Format := o.format?.getD .plain

def limit (o : Options) : Nat := o.limit?.getD defaultLimit

def addTokens (o : Options) (tokens : List String) : Options := { o with tokens := o.tokens ++ tokens }

/-- An option is refused if it was set before or if the value is none of its values. -/
def set? (o : Options) (value : String) : Key → Option Options
  | .format =>
    if o.format?.isSome then none
    else (Format.ofString? value).map fun format => { o with format? := some format }
  | .limit =>
    if o.limit?.isSome then none
    else (Text.readWord? value.toList).map fun limit => { o with limit? := some limit }

def setStrict? (o : Options) : Option Options :=
  if o.strict then none else some { o with strict := true }

/-- Take in the arguments from left to right. -/
def parseFrom? (o : Options) : List String → Option Options
  | [] => some o
  | arg :: rest =>
    match Argument.ofString? arg with
    | none => none
    | some (.token text) => (o.addTokens [text]).parseFrom? rest
    | some .endOfOptions => some (o.addTokens rest)
    | some .verbose => o.parseFrom? rest
    | some .strict => o.setStrict?.bind fun o => o.parseFrom? rest
    | some (.set key value) => (o.set? value key).bind fun o => o.parseFrom? rest
    | some (.await key) =>
      match rest with
      | [] => none
      | value :: rest => (o.set? value key).bind fun o => o.parseFrom? rest

/-- The options a list of arguments stands for, if it is well formed. -/
def parse? (args : List String) : Option Options := parseFrom? {} args

end Options

end ScriptTrace.CommandLine
