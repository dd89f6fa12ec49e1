import TaskCatalog.Text.Blank

/-!
Lines of a text. A text may come with line breaks of any kind; the sources are first brought to
line feeds, while a documentation text is cut at every separator.
-/

namespace TaskCatalog.Text

/-- Feeds, returns, the separators of files, groups and records, and those of lines and paragraphs. -/
def isLineBreakChar (c : Char) : Bool :=
  (10 ≤ c.toNat && c.toNat ≤ 13) || (0x1c ≤ c.toNat && c.toNat ≤ 0x1e)
    || c.toNat == 0x85 || c.toNat == 0x2028 || c.toNat == 0x2029

def isLineBreak (l : Letter) : Bool := l.satisfies isLineBreakChar

theorem isBlankChar_of_isLineBreakChar {c : Char} (h : isLineBreakChar c) : isBlankChar c := by
  simp only [isLineBreakChar, Bool.or_eq_true, Bool.and_eq_true, decide_eq_true_eq, beq_iff_eq] at h
  simp only [isBlankChar, Bool.or_eq_true, Bool.and_eq_true, decide_eq_true_eq, beq_iff_eq]
  omega

/-- The lines without their breaks; a break at the end opens no line. -/
def lines : Text → List Text
  | [] => []
  | .scalar '\r' :: .scalar '\n' :: rest => [] :: lines rest
  | l :: rest =>
    if isLineBreak l then [] :: lines rest
    else match lines rest with
      | [] => [[l]]
      | line :: more => (l :: line) :: more

def brokenLines : Text → List Text
  | [] => []
  | .scalar '\r' :: .scalar '\n' :: rest => [.scalar '\r', .scalar '\n'] :: brokenLines rest
  | l :: rest =>
    if isLineBreak l then [l] :: brokenLines rest
    else match brokenLines rest with
      | [] => [[l]]
      | line :: more => (l :: line) :: more

/-- Every line break of a file, a feed, a return or both, as a line feed. -/
def unifyLineBreaks : List Char → List Char
  | [] => []
  | '\r' :: '\n' :: rest => '\n' :: unifyLineBreaks rest
  | c :: rest => (if c = '\r' then '\n' else c) :: unifyLineBreaks rest

/-- Tabs replaced by blanks up to the next column that is a multiple of eight. -/
def expandTabs (t : Text) : Text := go 0 t
where
  go (column : Nat) : Text → Text
    | [] => []
    | l :: rest =>
      if l = .scalar '\t' then
        List.replicate (8 - column % 8) (.scalar ' ') ++ go (column + (8 - column % 8)) rest
      else if l = .scalar '\n' ∨ l = .scalar '\r' then l :: go 0 rest
      else l :: go (column + 1) rest

def indentation (line : Text) : Nat := (line.takeWhile isBlank).length

/-- The smallest indentation of the lines that hold more than blanks. -/
def margin? (ls : List Text) : Option Nat := ((ls.filter (!isAllBlank ·)).map indentation).min?

/-- A documentation text without the margin of its later lines and without empty lines around it. -/
def dedent (t : Text) : Text :=
  let ls := match splitOn (.scalar '\n') (expandTabs t) with
    | [] => []
    | first :: later => trimLeft first :: match margin? later with
      | some margin => later.map fun (line : Text) => line.drop margin
      | none => later
  join [.scalar '\n'] (((ls.reverse.dropWhile List.isEmpty).reverse).dropWhile List.isEmpty)

end TaskCatalog.Text
