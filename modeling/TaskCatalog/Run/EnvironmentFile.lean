import TaskCatalog.Text.Blank

/-!
Files of environment variables: one assignment a line, with optional quotes, comments and references
to variables that were set before.
-/

namespace TaskCatalog

open Text

namespace EnvironmentFile

/-- A variable and its value; a name without an equals sign has none. -/
abbrev Binding := Text × Option Text

def isFeed (l : Letter) : Bool := l == .scalar '\n' || l == .scalar '\r'

def isGap (l : Letter) : Bool := isBlank l && !isFeed l

def dropGap (t : Text) : Text := t.dropWhile isGap

def exportWord : Text := "export"

def dropExport (t : Text) : Text :=
  let rest := t.drop exportWord.length
  if exportWord.isPrefixOf t && rest.head?.any isGap then dropGap rest else t

/-- A text up to a closing quote that no backslash precedes, and what follows the quote. -/
def untilQuote (quote : Letter) : Text → Option (Text × Text)
  | [] => none
  | .scalar '\\' :: l :: rest =>
    if l = quote then (untilQuote quote rest).map fun (t, after) => (.scalar '\\' :: l :: t, after)
    else (untilQuote quote (l :: rest)).map fun (t, after) => (.scalar '\\' :: t, after)
  | l :: rest =>
    if l = quote then some ([], rest) else (untilQuote quote rest).map fun (t, after) => (l :: t, after)

def doubleEscapes : List (Char × Char) := [
  ('\\', '\\'), ('\'', '\''), ('"', '"'), ('a', '\x07'), ('b', '\x08'), ('f', '\x0c'), ('n', '\n'),
  ('r', '\r'), ('t', '\t'), ('v', '\x0b')]

def singleEscapes : List (Char × Char) := [('\\', '\\'), ('\'', '\'')]

def unescape (escapes : List (Char × Char)) : Text → Text
  | .scalar '\\' :: .scalar c :: rest =>
    match escapes.lookup c with
    | some meant => .scalar meant :: unescape escapes rest
    | none => .scalar '\\' :: unescape escapes (.scalar c :: rest)
  | l :: rest => l :: unescape escapes rest
  | [] => []

def beforeComment : Text → Text
  | [] => []
  | l :: rest =>
    if isBlank l && (rest.dropWhile isBlank).head? == some (.scalar '#') then []
    else l :: beforeComment rest

/-- The value after an equals sign, and what follows it. -/
def value (t : Text) : Option (Text × Text) :=
  match t with
  | .scalar '\'' :: rest => (untilQuote (.scalar '\'') rest).map fun (v, after) => (unescape singleEscapes v, after)
  | .scalar '"' :: rest => (untilQuote (.scalar '"') rest).map fun (v, after) => (unescape doubleEscapes v, after)
  | _ =>
    let line := t.takeWhile (!isFeed ·)
    some (trimRight (beforeComment line), t.drop line.length)

def name (t : Text) : Option (Option Text × Text) :=
  match t with
  | .scalar '#' :: _ => some (none, t)
  | .scalar '\'' :: rest =>
    let name := rest.takeWhile (· ≠ .scalar '\'')
    if name.isEmpty || name.length = rest.length then none else some (some name, rest.drop (name.length + 1))
  | _ =>
    let name := t.takeWhile fun l => !isBlank l && l != .scalar '=' && l != .scalar '#'
    if name.isEmpty then none else some (some name, t.drop name.length)

def dropFeed : Text → Option Text
  | [] => some []
  | .scalar '\r' :: .scalar '\n' :: rest => some rest
  | l :: rest => if isFeed l then some rest else none

def endOfLine (t : Text) : Option Text :=
  let t := match dropGap t with
    | .scalar '#' :: rest => rest.dropWhile (!isFeed ·)
    | t => t
  dropFeed (dropGap t)

/-- The binding at the front of a text, if there is one, and what follows its line. -/
def binding? (t : Text) : Option (Option Binding × Text) := do
  let (name, rest) ← name (dropExport t)
  let rest := dropGap rest
  let (v, rest) ← match rest with
    | .scalar '=' :: rest => (value (dropGap rest)).map fun (v, rest) => (some v, rest)
    | _ => some (none, rest)
  return (name.map (·, v), ← endOfLine rest)

/-- The bindings of a text; lines of another form are passed over. -/
def bindings : Nat → Text → List Binding
  | 0, _ => []
  | fuel + 1, t =>
    match t.dropWhile isBlank with
    | [] => []
    | t =>
      match binding? t with
      | some (some b, rest) => b :: bindings fuel rest
      | some (none, rest) => bindings fuel rest
      | none => bindings fuel ((t.dropWhile (!isFeed ·)).drop 1)

/-- The reference at the front: its name, its default, and its length. -/
def reference? : Text → Option (Text × Option Text × Nat)
  | .scalar '$' :: .scalar '\x7b' :: rest =>
    let isEnd (l : Letter) : Bool := l == .scalar '\x7d'
    let name := rest.takeWhile fun l => !isEnd l && l != .scalar ':'
    match rest.drop name.length with
    | .scalar '\x7d' :: _ => some (name, none, name.length + 3)
    | .scalar ':' :: .scalar '-' :: more =>
      let default := more.takeWhile (!isEnd ·)
      if default.length < more.length then some (name, some default, name.length + default.length + 5)
      else none
    | _ => none
  | _ => none

/-- A value with its references replaced, after `skip` letters. -/
def expand (set : List Binding) (skip : Nat) : Text → Text
  | [] => []
  | l :: rest =>
    match skip with
    | skip + 1 => expand set skip rest
    | 0 =>
      match reference? (l :: rest) with
      | some (name, default, length) =>
        ((set.lookup name).getD (some (default.getD []))).getD [] ++ expand set (length - 1) rest
      | none => l :: expand set 0 rest

/-- The bindings of a file with their references replaced; `set` is what was set before, the last first. -/
def resolve (set : List Binding) : List Binding → List Binding
  | [] => []
  | (name, v) :: rest =>
    let b : Binding := (name, v.map (expand set 0))
    b :: resolve (b :: set) rest

/-- The variables that a file sets, where some are set already. -/
def read (environment : List (Text × Text)) (t : Text) : List Binding :=
  resolve (environment.map fun (k, v) => (k, some v)) (bindings (t.length + 1) t)

end EnvironmentFile

end TaskCatalog
