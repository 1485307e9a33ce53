import Switchboard.Settings.Environment
import Switchboard.Text.Alphanumeric
import Switchboard.Text.Blank

/-!
# Files of variables

A file gives one variable on a line: a name, perhaps after `export`, an equals sign and a value.
Values may be quoted, and a quoted value may go on in the next line. In double quotes and without
quotes a backslash escapes a character and `$` puts in the value of another variable. A line that is
not of this form ends the file: what came before it counts, what comes after does not.

A variable that is set already keeps its value.
-/

namespace Switchboard.EnvFile

/-! ## Lines -/

/-- What a position in a line is within. -/
inductive Within where
  | text
  | blank
  | escape
  | single
  | singleEscape
  | double
  | doubleEscape
  deriving DecidableEq, Repr

/-- What a position is within after a character. -/
def Within.step (w : Within) (c : Char) : Within :=
  let open? : Within :=
    if c = '\\' then .escape else if c = '"' then .double else if c = '\'' then .single else .text
  match w with
  | .blank => open?
  | .escape => .text
  | .text => if Blank.isBlank c && c ≠ '\n' && c ≠ '\r' then .blank else open?
  | .double => if c = '\\' then .doubleEscape else if c = '"' then .text else .double
  | .doubleEscape => .double
  | .single => if c = '\\' then .singleEscape else if c = '\'' then .text else .single
  | .singleEscape => .single

/-- What the end of a line is within, and the characters of the line (the latest first) before a
comment, if there is one. -/
def scanLine (seen : List Char) (w : Within) : List Char → Within × Option (List Char)
  | [] => (w, none)
  | c :: rest =>
    if w = .blank && c = '#' then (.text, some seen) else scanLine (c :: seen) (w.step c) rest

/-- The first line of a text with its end, and what follows it. -/
def firstLine : List Char → List Char × List Char
  | [] => ([], [])
  | c :: rest =>
    if c = '\n' then ([c], rest)
    else
      let (line, rest) := firstLine rest
      (c :: line, rest)

/-- The lines of a text, each with its end. -/
def split : (fuel : Nat) → List Char → List (List Char)
  | 0, _ => []
  | fuel + 1, cs =>
    if cs.isEmpty then []
    else
      let (line, rest) := firstLine cs
      line :: split fuel rest

/-- A line without its end. -/
def dropEnd (line : List Char) : List Char :=
  match line.reverse with
  | '\n' :: '\r' :: rest => rest.reverse
  | '\n' :: rest => rest.reverse
  | _ => line

/-- Join lines that a quoted value goes through. The lines come after the beginning `seen` of such a
line, whose end is within `w`; a last line that is not finished is left out and noted. -/
def joinFrom (seen : List Char) (w : Within) : List (List Char) → List (Option (List Char))
  | [] => if w = .text then [] else [none]
  | line :: rest =>
    let whole := seen ++ line
    if (Blank.trimStart whole).head? = some '#' then joinFrom [] .text rest
    else
      match scanLine seen.reverse w line with
      | (_, some before) => some before.reverse :: joinFrom [] .text rest
      | (.text, none) => some (dropEnd whole) :: joinFrom [] .text rest
      | (w, none) => joinFrom whole w rest

/-- The lines of a file; a line that is not finished is none. -/
def lines (text : String) : List (Option (List Char)) :=
  let cs := match text.toList with
    | '\uFEFF' :: rest => rest
    | cs => cs
  joinFrom [] .text (split (cs.length + 1) cs)

/-! ## Values -/

/-- What a value is read within. -/
inductive Mode where
  | plain
  | single
  | double
  /-- After a backslash; in double quotes or not. -/
  | escape (quoted : Bool)
  /-- In the name of a variable; in double quotes or not, in braces or not. Without braces a name
  has only letters and digits. -/
  | name (quoted braced : Bool) (reversed : List Char)
  /-- After the value. -/
  | over
  deriving DecidableEq, Repr

/-- The characters that a backslash may stand before, and what they stand for. -/
def escaped? (c : Char) : Option Char :=
  if "\\'\"$ ".toList.contains c then some c else if c = 'n' then some '\n' else none

/-- The value of a variable, spelled backwards. -/
def lookup (env : Environment) (reversed : List Char) : List Char :=
  ((env.lookup (String.ofList reversed.reverse)).getD "").toList.reverse

/-- Read a value character by character: what it is so far, the latest first, is `done`. -/
def valueFrom (env : Environment) (done : List Char) (m : Mode) : List Char → Option String
  | [] =>
    match m with
    | .single | .double => none
    | .name _ true _ => none
    | .name true false _ => none
    | .name false false n => some (.ofList (lookup env n ++ done).reverse)
    | .escape true => none
    | _ => some (.ofList done.reverse)
  | c :: rest =>
    let back (quoted : Bool) : Mode := if quoted then .double else .plain
    match m with
    | .over =>
      if c = ' ' || c = '\t' then valueFrom env done .over rest
      else if c = '#' then some (.ofList done.reverse)
      else none
    | .escape quoted =>
      match escaped? c with
      | some x => valueFrom env (x :: done) (back quoted) rest
      | none => none
    | .single => if c = '\'' then valueFrom env done .plain rest
      else valueFrom env (c :: done) .single rest
    | .name quoted true n =>
      if c = '\x7d' then valueFrom env (lookup env n ++ done) (back quoted) rest
      else valueFrom env done (.name quoted true (c :: n)) rest
    | .name quoted false n =>
      if Alphanumeric.contains c then valueFrom env done (.name quoted false (c :: n)) rest
      else if c = '\x7b' && n.isEmpty then valueFrom env done (.name quoted true []) rest
      else
        let done := lookup env n ++ done
        if c = '$' then valueFrom env done (.name quoted false []) rest
        else valueFrom env (c :: done) (back quoted) rest
    | .double =>
      if c = '$' then valueFrom env done (.name true false []) rest
      else if c = '"' then valueFrom env done .plain rest
      else if c = '\\' then valueFrom env done (.escape true) rest
      else valueFrom env (c :: done) .double rest
    | .plain =>
      if c = '$' then valueFrom env done (.name false false []) rest
      else if c = '\'' then valueFrom env done .single rest
      else if c = '"' then valueFrom env done .double rest
      else if c = '\\' then valueFrom env done (.escape false) rest
      else if c = ' ' || c = '\t' then valueFrom env done .over rest
      else valueFrom env (c :: done) .plain rest

/-! ## Entries -/

/-- The name at the beginning of a line, and what follows it. -/
def key? (cs : List Char) : Option (List Char × List Char) :=
  match cs with
  | c :: _ =>
    if c.isAlpha || c = '_' then
      let inName (c : Char) : Bool := c.isAlphanum || c = '_' || c = '.'
      some (cs.takeWhile inName, Blank.trimStart (cs.dropWhile inName))
    else none
  | [] => none

/-- The name of a line, the word `export` before it being dropped, and what follows the equals
sign. -/
def assignment? (cs : List Char) : Option (List Char × List Char) := do
  let (name, rest) ← key? cs
  match rest with
  | '=' :: value => some (name, value)
  | _ =>
    if name = "export".toList then
      let (name, rest) ← key? rest
      match rest with
      | '=' :: value => some (name, value)
      | _ => none
    else none

/-- What a line gives. -/
inductive Entry where
  | nothing
  | pair (name value : String)
  | malformed
  deriving DecidableEq, Repr

/-- What a line gives in an environment. -/
def entry (env : Environment) (line : List Char) : Entry :=
  let cs := Blank.trimStart (Blank.trimEnd line)
  if cs.isEmpty || cs.head? = some '#' then .nothing
  else
    match assignment? cs with
    | none => .malformed
    | some (name, rest) =>
      let rest := Blank.trimStart rest
      let name := String.ofList name
      if rest.isEmpty || rest.head? = some '#' then .pair name ""
      else
        match valueFrom env [] .plain rest with
        | some value => .pair name value
        | none => .malformed

/-- Add the variables that some lines give to an environment. -/
def loadLines (env : Environment) : List (Option (List Char)) → Environment
  | [] => env
  | none :: _ => env
  | some line :: rest =>
    match entry env line with
    | .malformed => env
    | .nothing => loadLines env rest
    | .pair name value =>
      loadLines (if (env.lookup name).isSome then env else env ++ [(name, value)]) rest

/-- Add the variables that a file gives to an environment. -/
def load (env : Environment) (text : String) : Environment := loadLines env (lines text)

end Switchboard.EnvFile
