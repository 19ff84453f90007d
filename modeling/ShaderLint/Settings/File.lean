/-
The settings file: lines `NAME=value`.

Blank lines and lines that begin with a number sign are passed over. A name may stand in
apostrophes and may follow the word `export`; blanks may surround the equals sign. A value in
quotes ends at the matching quote, may run over several lines, and knows a few escapes, more of them
between double quotes; a value without quotes ends before a number sign that follows a blank, or
else with its line, and loses the blanks at either end. A line of any other form is passed over
whole, and a name without an equals sign sets nothing.

A value may refer to other variables: to those set further up in the file, or else to those of the
environment.

Before anything is read, a byte-order mark at the beginning is taken off and every line break
becomes a line feed. Every entry and every faulty line consumes at least a character, so the length
of the text bounds the number of steps.
-/
import ShaderLint.Settings
import ShaderLint.Settings.Reference
import ShaderLint.Text.Mark
import ShaderLint.Text.Word

set_option autoImplicit false

namespace ShaderLint.SettingsFile

open Text

/-! ## Pieces of a line -/

/-- Turns every line break in what is left of a text into a line feed, given what is done,
backwards. -/
def lineFeedsFrom (done : List Char) : List Char → List Char
  | [] => done.reverse
  | '\r' :: '\n' :: rest => lineFeedsFrom ('\n' :: done) rest
  | c :: rest => lineFeedsFrom ((if c = '\r' then '\n' else c) :: done) rest

/-- A text in which only line feeds break lines. -/
def lineFeeds (cs : List Char) : List Char := lineFeedsFrom [] cs

/-- Passes over blanks, but not over line breaks. -/
def skipBlanks (cs : List Char) : List Char := cs.dropWhile fun c => isBlank c && c != '\n'

/-- The rest of a line, without its break. -/
def restOfLine (cs : List Char) : List Char := cs.takeWhile (· != '\n')

/-- Passes over the rest of a line, but not over its break. -/
def skipRest (cs : List Char) : List Char := cs.dropWhile (· != '\n')

/-- Passes over the rest of a line and its break. -/
def skipLine (cs : List Char) : List Char := (skipRest cs).drop 1

/-- The result of reading a piece: it and what follows it, or, at a fault, what is left there. -/
abbrev Parsed (α : Type) := Except (List Char) (α × List Char)

/-- Passes over a comment that may end a line, and demands the end of the line. -/
def endOfLine (cs : List Char) : Except (List Char) (List Char) :=
  let cs := skipBlanks cs
  let cs := if cs.head? == some '#' then skipRest cs else cs
  match cs with
  | [] => .ok []
  | c :: rest => if c = '\n' then .ok rest else .error cs

/-- The character that an escape stands for, between quotes of a kind. -/
def escaped? (quote c : Char) : Option Char :=
  if c = '\\' ∨ c = '\'' then some c
  else if quote = '\'' then none
  else match c with
    | '"' => some '"'
    | 'a' => some '\x07'
    | 'b' => some '\x08'
    | 'f' => some '\x0c'
    | 'n' => some '\n'
    | 'r' => some '\r'
    | 't' => some '\t'
    | 'v' => some '\x0b'
    | _ => none

/-- The text up to the closing quote, and what follows it, given what has been read, backwards. A
backslash keeps the character after it from closing the text; the two stand for one character if
they are an escape, and for themselves if not. -/
def untilQuote? (quote : Char) (read : List Char) : List Char → Option (List Char × List Char)
  | [] => none
  | '\\' :: c :: rest =>
    match escaped? quote c with
    | some e => untilQuote? quote (e :: read) rest
    | none => untilQuote? quote (c :: '\\' :: read) rest
  | c :: rest =>
    if c = quote then some (read.reverse, rest) else untilQuote? quote (c :: read) rest

/-- A value without quotes, before it is trimmed: up to the first number sign that follows a blank,
if there is one, given what has been read, backwards. -/
def untilComment (read : List Char) : List Char → List Char
  | [] => read.reverse
  | c :: rest =>
    if c = '#' ∧ read.head?.any isBlank then read.reverse else untilComment (c :: read) rest

/-! ## Entries -/

/-- A text in quotes, from after the opening one. -/
def quotedText (quote : Char) (cs : List Char) : Parsed String :=
  match untilQuote? quote [] cs with
  | some (text, rest) => .ok (String.ofList text, rest)
  | none => .error cs

/-- A name. -/
def name (cs : List Char) : Parsed String :=
  match cs with
  | '\'' :: rest =>
    let name := rest.takeWhile (· != '\'')
    match rest.drop name.length with
    | _ :: after => if name.isEmpty then .error cs else .ok (String.ofList name, after)
    | [] => .error cs
  | _ =>
    let inName (c : Char) : Bool := !(c == '=' || c == '#' || isBlank c)
    match cs.takeWhile inName with
    | [] => .error cs
    | name => .ok (String.ofList name, cs.dropWhile inName)

/-- A value, from directly after the equals sign. -/
def value (cs : List Char) : Parsed String :=
  match skipBlanks cs with
  | '\'' :: rest => quotedText '\'' rest
  | '"' :: rest => quotedText '"' rest
  | _ => .ok (String.ofList (trim (untilComment [] (restOfLine cs))), skipRest cs)

/-- An equals sign and a value, or nothing. -/
def assigned (cs : List Char) : Parsed (Option String) :=
  match skipBlanks cs with
  | '=' :: rest => (value rest).map fun (text, after) => (some text, after)
  | rest => .ok (none, rest)

/-- Passes over the word `export`, if blanks follow it. -/
def skipExport (cs : List Char) : List Char :=
  match after? "export".toList cs with
  | some (c :: rest) => if isBlank c && c != '\n' then skipBlanks rest else cs
  | _ => cs

/-- One line: the entry it holds, unless it is a comment, and what follows the line. -/
def entry (cs : List Char) : Parsed (Option (String × Option String)) :=
  let cs := skipExport cs
  if cs.head? == some '#' then (endOfLine cs).map fun after => (none, after)
  else
    (name cs).bind fun (name, cs) =>
      (assigned cs).bind fun (value, cs) =>
        (endOfLine cs).map fun after => (some (name, value), after)

/-- The value that a reference in a file stands for, given the variables set further up. One that
was named there without a value is there all the same, and empty. -/
def referred (environment file : Variables) (r : Reference) : String :=
  match file.lookup r.name with
  | some value => value.getD ""
  | none => (environment.lookup r.name).join.getD r.fallback

/-- The entries of what is left of a file, after those already read. -/
def entriesFrom (environment done : Variables) (cs : List Char) : (steps : Nat) → Variables
  | 0 => done
  | steps + 1 =>
    match trimStart cs with
    | [] => done
    | cs =>
      match entry cs with
      | .ok (some (name, value), rest) =>
        let value := value.map (Reference.expand (referred environment done))
        entriesFrom environment (done.set name value) rest steps
      | .ok (none, rest) => entriesFrom environment done rest steps
      | .error rest =>
        -- a fault costs the line in which it is found, be it the last of several
        entriesFrom environment done (skipLine rest) steps

/-- The entries of a settings file. A name that is set again keeps its place and takes the new
value. -/
def entries (environment : Variables) (text : String) : Variables :=
  let cs := lineFeeds (withoutMark text.toList)
  entriesFrom environment [] cs (cs.length + 1)

end ShaderLint.SettingsFile
