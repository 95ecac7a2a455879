/-!
# JSON text

JSON values and their text, in two layouts: compact, without any blank between the parts, and indented, with every element and field on a line of its own. An empty list is written `[]` in both. In strings, quotes, backslashes and control characters are escaped, and everything else stands for itself.

The format leaves a writer some freedom, and the choices are taken as given here: the short escapes where there are any and `\u` with four digits in lower case for the other control characters, nothing else escaped, two blanks for each level, one blank after a colon, and integers as decimal numerals.
-/

namespace ScriptTrace

inductive Json where
  | int (n : Int)
  | bool (b : Bool)
  | str (text : String)
  | arr (items : List Json)
  | obj (fields : List (String × Json))

namespace Json

/-- How a character is written in a string. -/
def escape (c : Char) : List Char :=
  match c with
  | '"' => ['\\', '"']
  | '\\' => ['\\', '\\']
  | '\n' => ['\\', 'n']
  | '\r' => ['\\', 'r']
  | '\t' => ['\\', 't']
  | '\x08' => ['\\', 'b']
  | '\x0c' => ['\\', 'f']
  | c =>
    if c.toNat < 0x20 then
      ['\\', 'u', '0', '0', (c.toNat / 16).digitChar, (c.toNat % 16).digitChar]
    else
      [c]

def quote (text : String) : String :=
  "\"" ++ String.ofList (text.toList.flatMap escape) ++ "\""

/-- What stands between the parts of a value. -/
structure Layout where
  /-- Before an element or a closing bracket, at the given nesting depth. -/
  lead (depth : Nat) : String
  /-- Between a key and its value. -/
  colon : String

def Layout.compact : Layout where
  lead _ := ""
  colon := ":"

def Layout.indented : Layout where
  lead depth := String.ofList ('\n' :: List.replicate (2 * depth) ' ')
  colon := ": "

/-- Parts between brackets, each on its lead and separated by commas. -/
def enclose (layout : Layout) (depth : Nat) (left right : String) (parts : List String) : String :=
  if parts.isEmpty then left ++ right
  else
    let lead := layout.lead (depth + 1)
    left ++ lead ++ ("," ++ lead).intercalate parts ++ layout.lead depth ++ right

mutual

def render (layout : Layout) (depth : Nat) : Json → String
  | .int n => toString n
  | .bool b => if b then "true" else "false"
  | .str text => quote text
  | .arr items => enclose layout depth "[" "]" (renderItems layout (depth + 1) items)
  | .obj fields => enclose layout depth "\x7b" "\x7d" (renderFields layout (depth + 1) fields)

def renderItems (layout : Layout) (depth : Nat) : List Json → List String
  | [] => []
  | item :: items => render layout depth item :: renderItems layout depth items

def renderFields (layout : Layout) (depth : Nat) : List (String × Json) → List String
  | [] => []
  | (key, value) :: fields =>
    (quote key ++ layout.colon ++ render layout depth value) :: renderFields layout depth fields

end

def compact (value : Json) : String := value.render .compact 0

def indented (value : Json) : String := value.render .indented 0

end Json

end ScriptTrace
