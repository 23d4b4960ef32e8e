import Turnstile.Settings.Environment
import Turnstile.Text.Blank

/-!
# Environment files

A file of variables, one `NAME=value` per line. A name may follow the word `export`; a value may
stand in quotes, where it can hold line breaks and escapes; a sign `#` starts a comment. A line
that is none of this is passed over. Values may refer to variables as `$` and a name in braces,
with a default after `:-`; variables that exist count before those of the file.
-/

namespace Turnstile.Settings.EnvFile

/-- A blank that does not end a line. -/
def isInlineBlank (c : Char) : Bool := Text.isBlank c && c != '\n' && c != '\r'

/-- Line ends of every kind become line feeds. -/
def settleLineEnds : List Char → List Char
  | '\r' :: '\n' :: rest => '\n' :: settleLineEnds rest
  | '\r' :: rest => '\n' :: settleLineEnds rest
  | c :: rest => c :: settleLineEnds rest
  | [] => []

/-- The inside of a quoted value and what follows its closing quote. A quote after a backslash
does not close, unless no other does. -/
def closeQuote (mark : Char) : List Char → Option (List Char × List Char)
  | [] => none
  | [c] => if c = mark then some ([], []) else none
  | c :: d :: rest =>
    if c = mark then some ([], d :: rest)
    else if c = '\\' ∧ d = mark then
      match closeQuote mark rest with
      | some (inside, after) => some (c :: d :: inside, after)
      | none => some ([c], rest)
    else (closeQuote mark (d :: rest)).map fun found => (c :: found.1, found.2)

/-- The character that a letter after a backslash stands for inside double quotes. -/
def escape? (c : Char) : Option Char :=
  if c = '\\' ∨ c = '\'' ∨ c = '"' then some c
  else if c = 'a' then some (Char.ofNat 0x07)
  else if c = 'b' then some (Char.ofNat 0x08)
  else if c = 'f' then some (Char.ofNat 0x0C)
  else if c = 'n' then some '\n'
  else if c = 'r' then some '\r'
  else if c = 't' then some '\t'
  else if c = 'v' then some (Char.ofNat 0x0B)
  else none

/-- The character that a letter after a backslash stands for inside single quotes. -/
def plainEscape? (c : Char) : Option Char :=
  if c = '\\' ∨ c = '\'' then some c else none

/-- Replace the escapes that a rule knows. -/
def unescape (rule : Char → Option Char) : List Char → List Char
  | '\\' :: c :: rest =>
    match rule c with
    | some plain => plain :: unescape rule rest
    | none => '\\' :: unescape rule (c :: rest)
  | c :: rest => c :: unescape rule rest
  | [] => []

/-- Cut a line at the first `#` that follows a blank. -/
def cutComment : List Char → List Char
  | c :: '#' :: rest => if Text.isBlank c then [] else c :: cutComment ('#' :: rest)
  | c :: rest => c :: cutComment rest
  | [] => []

/-- Drop blanks at the end. -/
def trimRight (text : List Char) : List Char := (text.reverse.dropWhile Text.isBlank).reverse

/-- The value at the front of a text and what follows it. -/
def value? (text : List Char) : Option (List Char × List Char) :=
  match text with
  | '\'' :: rest => (closeQuote '\'' rest).map fun found => (unescape plainEscape? found.1, found.2)
  | '"' :: rest => (closeQuote '"' rest).map fun found => (unescape escape? found.1, found.2)
  | _ =>
    let line := text.span (· != '\n')
    some (trimRight (cutComment line.1), line.2)

/-- The name at the front of a text and what follows it; `some none` before a comment. -/
def name? (text : List Char) : Option (Option (List Char) × List Char) :=
  match text with
  | '#' :: _ => some (none, text)
  | '\'' :: rest =>
    let inside := rest.span (· != '\'')
    match inside.2 with
    | _ :: after => if inside.1.isEmpty then none else some (some inside.1, after)
    | [] => none
  | _ =>
    let parts := text.span fun c => c != '=' && c != '#' && !Text.isBlank c
    if parts.1.isEmpty then none else some (some parts.1, parts.2)

/-- Skip the word `export` and the blanks after it. -/
def skipExport (text : List Char) : List Char :=
  let word := "export".toList
  if word.isPrefixOf text then
    let rest := text.drop word.length
    if (rest.head?.map isInlineBlank).getD false then rest.dropWhile isInlineBlank else text
  else text

/-- The rest of a line that holds nothing more than a comment. -/
def lineEnd? (text : List Char) : Option (List Char) :=
  let rest := text.dropWhile isInlineBlank
  let rest := match rest with
    | '#' :: _ => rest.dropWhile (· != '\n')
    | _ => rest
  match rest with
  | [] => some []
  | '\n' :: after => some after
  | _ => none

/-- What follows the line at the front of a text. -/
def skipLine (text : List Char) : List Char := (text.dropWhile (· != '\n')).drop 1

/-- A name with its value; the value is missing where there is no equals sign. -/
abbrev Binding := String × Option String

/-- One line: its binding if it has one, and what follows. -/
def readLine (text : List Char) : Option Binding × List Char :=
  let start := skipExport text
  match name? start with
  | none => (none, skipLine start)
  | some (name, afterName) =>
    let rest := afterName.dropWhile isInlineBlank
    let value : Option (Option (List Char) × List Char) :=
      match rest with
      | '=' :: more => (value? (more.dropWhile isInlineBlank)).map fun found =>
          (some found.1, found.2)
      | _ => some (none, rest)
    match value with
    | none => (none, skipLine (rest.drop 1))
    | some (content, after) =>
      match lineEnd? after with
      | none => (none, skipLine after)
      | some next =>
        (name.map fun found => (String.ofList found, content.map String.ofList), next)

/-- The lines of a text in order. Every line takes at least one character. -/
def readLines (fuel : Nat) (text : List Char) : List Binding :=
  match fuel with
  | 0 => []
  | fuel + 1 =>
    match text.dropWhile Text.isBlank with
    | [] => []
    | start =>
      let (found, rest) := readLine start
      found.toList ++ readLines fuel rest

/-- The bindings of a file. -/
def read (content : String) : List Binding :=
  let text := settleLineEnds content.toList
  readLines (text.length + 1) text

/-- A reference at the front of a text, after its dollar sign: name, default and the rest. -/
def reference? (text : List Char) : Option (String × String × List Char) :=
  match text with
  | '{' :: rest =>
    let parts := rest.span fun c => c != '}' && c != ':'
    match parts.2 with
    | '}' :: after => some (String.ofList parts.1, "", after)
    | ':' :: '-' :: more =>
      let fallback := more.span (· != '}')
      match fallback.2 with
      | _ :: after => some (String.ofList parts.1, String.ofList fallback.1, after)
      | [] => none
    | _ => none
  | _ => none

/-- Fill the references of a value. -/
def fill (fuel : Nat) (lookUp : String → Option (Option String)) (text : List Char) : List Char :=
  match fuel, text with
  | 0, _ => []
  | _, [] => []
  | fuel + 1, '$' :: rest =>
    match reference? rest with
    | some (name, fallback, after) =>
      let found := match lookUp name with
        | some value => value.getD ""
        | none => fallback
      found.toList ++ fill fuel lookUp after
    | none => '$' :: fill fuel lookUp rest
  | fuel + 1, c :: rest => c :: fill fuel lookUp rest

/-- Fill the references of bindings in order. -/
def resolve (environment : Environment) (bindings : List Binding) : List Binding :=
  bindings.foldl (fun known binding =>
    let lookUp (name : String) : Option (Option String) :=
      ((environment.lookup name).map some).or (known.lookup name)
    let value := binding.2.map fun text =>
      String.ofList (fill (text.length + 1) lookUp text.toList)
    if known.any (·.1 == binding.1) then
      known.map fun entry => if entry.1 == binding.1 then (binding.1, value) else entry
    else known ++ [(binding.1, value)]) []

/-- The environment with the variables of a file that it does not have. -/
def load (environment : Environment) (content : String) : Environment :=
  environment.extend ((resolve environment (read content)).filterMap fun binding =>
    binding.2.map fun value => (binding.1, value))

end Turnstile.Settings.EnvFile
