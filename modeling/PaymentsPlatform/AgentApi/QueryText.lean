import PaymentsPlatform.AgentApi.QueryExecution
import PaymentsPlatform.Library.Separated
import PaymentsPlatform.Library.SqlText

/-!
# The text of a bounded query

`validate_read_query` checks the tree of a query, and puts the bounding wrapper around its text.
Where the text ends inside a line comment, the comment takes the end of the wrapper with it.
-/

namespace PaymentsPlatform.AgentApi.QueryText

open Ingestion (isSpace strip strip_strip)
open SqlText

/-! ## The parsers -/

/-- `SELECT * FROM (`. -/
def opening : List Piece :=
  [.word "SELECT".toList, .word "*".toList, .word "FROM".toList, .mark '(']

/-- `) AS agent_bounded LIMIT n`. -/
def ending (maxRows : Nat) : List Piece :=
  [.mark ')', .word "AS".toList, .word "agent_bounded".toList, .word "LIMIT".toList,
    .word (toString maxRows).toList]

/-- The language of the database: the queries that pieces stand for, and what may be returned for
a query. -/
structure Trino where
  derives : List Piece → Query → Prop
  answers : Query → List (List Cell) → Prop
  unambiguous : ∀ {found tree other}, derives found tree → derives found other → tree = other
  /-- Parentheses come in pairs. -/
  balanced : ∀ {found tree}, derives found tree →
    found.count (.mark '(') = found.count (.mark ')')
  /-- A semicolon ends a statement. -/
  unseparated : ∀ {found tree}, derives found tree → .mark ';' ∉ found
  /-- A derived table, with its rows limited. -/
  wraps : ∀ {found tree} (maxRows : Nat), derives found tree →
    derives (opening ++ found ++ ending maxRows) (bounded tree maxRows)
  limits : ∀ {tree maxRows rows}, answers (bounded tree maxRows) rows →
    ∃ all, answers tree all ∧ rows.Subperm all ∧ rows.length = min maxRows all.length

/-- The text is the query. -/
def Trino.Denotes (trino : Trino) (text : String) (tree : Query) : Prop :=
  ∃ found, pieces text.toList = some found ∧ trino.derives found tree

/-- A statement as `sqlglot` parses it: a query, or one of another class. -/
inductive Statement where
  | query (tree : Query)
  | other (name : String)

/-- `sqlglot`, which accepts the language of the database, with semicolons after a statement. -/
structure SqlGlot (trino : Trino) where
  parse : String → Except String (List Statement)
  /-- `hasattr(exp, name)`. -/
  knows : String → Bool
  /-- `tree.find(getattr(exp, name)) is not None`. -/
  contains : Query → String → Bool
  sound : ∀ {text tree}, parse text = .ok [.query tree] → ∃ found count,
    pieces (strip isSpace text).toList = some (found ++ List.replicate count (.mark ';')) ∧
      trino.derives found tree
  parse_strip : ∀ text, parse (strip isSpace text) = parse text

variable {trino : Trino}

/-- `sqlglot.parse_one`, by which `classification.py` reads a text. -/
def SqlGlot.parseOne (sqlglot : SqlGlot trino) (text : String) : Except String Statement :=
  match sqlglot.parse text with
  | .ok (statement :: _) => .ok statement
  | .ok [] => .error "No expression was parsed"
  | .error message => .error message

/-! ## The validation -/

/-- `forbidden`. -/
def forbidden : List String :=
  ["Insert", "Update", "Delete", "Drop", "Alter", "Create", "Command", "Merge", "Grant", "Revoke",
    "Transaction"]

/-- `text.rstrip(';')`. -/
def withoutSemicolons (text : List Char) : List Char :=
  (text.reverse.dropWhile (· = ';')).reverse

/-- The text inside the wrapper. -/
def candidate (sql : String) : List Char := withoutSemicolons (strip isSpace sql).toList

def boundedText (sql : String) (maxRows : Nat) : String :=
  "SELECT * FROM (" ++ String.ofList (candidate sql) ++ ") AS agent_bounded LIMIT " ++
    toString maxRows

structure Validated where
  valid : Bool
  sql : String
  maxRows : Nat

/-- `validate_read_query`. -/
def validateReadQuery (sqlglot : SqlGlot trino) (sql : String) (maxRows maxLength : Nat) :
    Except ExecutionError Validated :=
  let text := strip isSpace sql
  if text.isEmpty ∨ text.length > maxLength then
    .error (.invalid "query is empty or exceeds the configured maximum length")
  else
    match sqlglot.parse text with
    | .error message => .error (.invalid ("invalid SQL: " ++ message))
    | .ok [.query tree] =>
        if !tree.readOnly then
          .error (.invalid "only SELECT or WITH/CTE SELECT queries are allowed")
        else if (forbidden.filter sqlglot.knows).any (sqlglot.contains tree) then
          .error (.invalid "write, DDL, privilege, and command statements are forbidden")
        else .ok ⟨true, boundedText sql maxRows, maxRows⟩
    | .ok [.other _] => .error (.invalid "only SELECT or WITH/CTE SELECT queries are allowed")
    | .ok _ => .error (.invalid "exactly one SQL statement is allowed")

theorem validateReadQuery_ok {sqlglot : SqlGlot trino} {sql : String} {maxRows maxLength : Nat}
    {validated : Validated}
    (accepted : validateReadQuery sqlglot sql maxRows maxLength = .ok validated) :
    validated.sql = boundedText sql maxRows ∧
      ∃ tree, sqlglot.parse (strip isSpace sql) = .ok [.query tree] ∧
        AgentApi.validateReadQuery tree maxRows = .ok (bounded tree maxRows) := by
  unfold validateReadQuery at accepted
  dsimp only at accepted
  split at accepted
  · cases accepted
  · split at accepted
    next => cases accepted
    next tree parsed =>
      split at accepted
      · cases accepted
      · next readOnly =>
        split at accepted
        · cases accepted
        · cases accepted
          exact ⟨rfl, tree, parsed, if_pos (by simpa using readOnly)⟩
    next => cases accepted
    next => cases accepted

/-! ## Reading the wrapper -/

theorem withoutSemicolons_append (text : List Char) :
    ∃ count, text = withoutSemicolons text ++ List.replicate count ';' := by
  refine ⟨(text.reverse.takeWhile (· = ';')).length, ?_⟩
  have semicolons : text.reverse.takeWhile (· = ';') =
      List.replicate (text.reverse.takeWhile (· = ';')).length ';' := by
    apply List.eq_replicate_iff.mpr
    refine ⟨rfl, fun character taken => ?_⟩
    simpa using List.mem_takeWhile_imp taken
  apply List.reverse_injective
  rw [List.reverse_append, List.reverse_replicate, ← semicolons, withoutSemicolons,
    List.reverse_reverse, List.takeWhile_append_dropWhile]

theorem pieces_semicolons {text : List Char} (isOpen : (modeAfter text).isOpen) (count : Nat) :
    ∃ found, pieces text = some found ∧
      pieces (text ++ List.replicate count ';') =
        some (found ++ List.replicate count (.mark ';')) := by
  have marks : ∀ count, pieces (List.replicate count ';') =
      some (List.replicate count (.mark ';')) := by
    intro count
    induction count with
    | zero => rfl
    | succ count ih =>
        rw [List.replicate_succ, pieces, piecesFrom_cons, List.replicate_succ]
        change (pieces (List.replicate count ';')).map _ = _
        rw [ih]
        rfl
  obtain ⟨found, isFound, -⟩ := piecesFrom_mark [] isOpen (show isMark ';' by rfl)
  refine ⟨found, isFound, ?_⟩
  cases count with
  | zero => simpa [pieces] using isFound
  | succ count =>
      obtain ⟨same, isSame, whole⟩ :=
        piecesFrom_mark (List.replicate count ';') isOpen (show isMark ';' by rfl)
      cases isFound.symm.trans isSame
      rw [List.replicate_succ, List.replicate_succ, pieces, whole, marks]
      rfl

theorem scan_semicolons {mode : Mode} (closed : mode.isOpen = false) (count : Nat) :
    (scan mode (List.replicate count ';')).1 = [] ∧
      (mode = .lineComment → (scan mode (List.replicate count ';')).2 = .lineComment) ∧
      (finish mode = none → finish (scan mode (List.replicate count ';')).2 = none) := by
  induction count generalizing mode with
  | zero => exact ⟨rfl, id, id⟩
  | succ count ih =>
      have onward : (mode.read ';').1 = [] ∧ (mode.read ';').2.isOpen = false ∧
          (mode = .lineComment → (mode.read ';').2 = .lineComment) ∧
          (finish mode = none → finish (mode.read ';').2 = none) := by
        cases mode with
        | plain _ | dash _ | slash _ | closing _ _ _ => cases closed
        | inside delimiter attached content =>
            have other := isMark_ne_delimiter (show isMark ';' by rfl) delimiter
            simp [Mode.read, other, Mode.isOpen, finish]
        | lineComment | comment | commentStar => simp [Mode.read, Mode.isOpen, finish]
      obtain ⟨nothing, closed, line, unfinished⟩ := onward
      obtain ⟨restNothing, restLine, restUnfinished⟩ := ih closed
      rw [List.replicate_succ, scan_cons, nothing, restNothing]
      exact ⟨rfl, fun same => restLine (line same), fun none => restUnfinished (unfinished none)⟩

theorem scan_opening : scan (.plain []) "SELECT * FROM (".toList = (opening, .plain []) := by
  decide

theorem scan_digits {digits word : List Char} (all : ∀ digit ∈ digits, digit.isDigit) :
    scan (.plain word) digits = ([], .plain (word ++ digits)) := by
  induction digits generalizing word with
  | nil => simp
  | cons digit rest ih =>
      obtain ⟨here, later⟩ := List.forall_mem_cons.mp all
      have others : [' ', '\t', '\n', '\r', '(', ')', ';', '?', '\'', '"', '-', '/'].all fun other =>
          !other.isDigit := by
        decide
      have apart : digit ∉ [' ', '\t', '\n', '\r', '(', ')', ';', '?', '\'', '"', '-', '/'] := by
        intro listed
        have noDigit := List.all_eq_true.mp others digit listed
        simp [here] at noDigit
      have same : Mode.read (.plain word) digit = ([], .plain (word ++ [digit])) := by
        simp only [List.mem_cons, List.not_mem_nil, or_false, not_or] at apart
        simp [Mode.read, readPlain, isGap, isMark, delimiter?, apart]
      rw [scan_cons, same, ih later]
      simp

/-- The end of the wrapper, after its parenthesis. -/
def closingText (maxRows : Nat) : List Char :=
  " AS agent_bounded LIMIT ".toList ++ (toString maxRows).toList

theorem digits_toString (maxRows : Nat) : ∀ digit ∈ (toString maxRows).toList, digit.isDigit := by
  rw [Nat.toString_eq_repr, Nat.toList_repr]
  exact fun digit listed => Nat.isDigit_of_mem_toDigits (by decide) (by decide) listed

theorem pieces_closingText (maxRows : Nat) :
    (pieces (closingText maxRows)).map (.mark ')' :: ·) = some (ending maxRows) := by
  have digits := digits_toString maxRows
  have nonempty : (toString maxRows).toList ≠ [] := by
    rw [Nat.toString_eq_repr, Nat.toList_repr]
    exact Nat.toDigits_ne_nil
  have words : scan (.plain []) " AS agent_bounded LIMIT ".toList =
      ([.word "AS".toList, .word "agent_bounded".toList, .word "LIMIT".toList], .plain []) := by
    decide
  unfold closingText ending
  generalize (toString maxRows).toList = number at digits nonempty
  have last : piecesFrom (.plain []) number = some [.word number] := by
    rw [piecesFrom, scan_digits digits, List.nil_append]
    cases number with
    | nil => exact absurd rfl nonempty
    | cons first rest => rfl
  rw [pieces, piecesFrom_append, words, last]
  rfl

theorem closing_noBreak (maxRows : Nat) :
    ∀ character ∈ ')' :: closingText maxRows, character ≠ '\n' ∧ character ≠ '\r' := by
  have words : ∀ rest : List Char, (∀ character ∈ rest, character ≠ '\n' ∧ character ≠ '\r') →
      ∀ character ∈ ')' :: (" AS agent_bounded LIMIT ".toList ++ rest),
        character ≠ '\n' ∧ character ≠ '\r' := by
    simp
  apply words
  intro digit listed
  have isDigit := digits_toString maxRows digit listed
  constructor
  all_goals
    rintro rfl
    cases isDigit

theorem boundedText_toList (sql : String) (maxRows : Nat) :
    (boundedText sql maxRows).toList =
      "SELECT * FROM (".toList ++ (candidate sql ++ ')' :: closingText maxRows) := by
  have parted : ") AS agent_bounded LIMIT ".toList = ')' :: " AS agent_bounded LIMIT ".toList := by
    decide
  have inner : (String.ofList (candidate sql)).toList = candidate sql := String.toList_ofList
  unfold boundedText closingText
  rw [String.toList_append, String.toList_append, String.toList_append, inner, parted,
    List.append_assoc, List.append_assoc, List.cons_append]

/-! ## What the text denotes -/

variable {sqlglot : SqlGlot trino} {sql : String}

/-- What the candidate leaves after its last token: no open line comment, and no semicolon that
something other than semicolons follows. -/
structure EndsCleanly (sql : String) : Prop where
  line : modeAfter (candidate sql) ≠ .lineComment
  semicolons : ∀ found ∈ pieces (candidate sql), .mark ';' ∉ found

/-- The text that is sent is the bounded query of the tree that the text is classified by, and
returns so many of its rows at most. -/
structure Bounded (sqlglot : SqlGlot trino) (sql : String) (maxRows : Nat) (sent : String)
    (tree : Query) : Prop where
  parsed : sqlglot.parse (strip isSpace sql) = .ok [.query tree]
  classified : sqlglot.parseOne sql = .ok (.query tree)
  denotes : trino.Denotes sent (bounded tree maxRows)
  rows : ∀ reading rows, trino.Denotes sent reading → trino.answers reading rows →
    ∃ all, trino.answers tree all ∧ rows.Subperm all ∧ rows.length ≤ maxRows

theorem parseOne_of_parsed {tree : Query}
    (parsed : sqlglot.parse (strip isSpace sql) = .ok [.query tree]) :
    sqlglot.parseOne sql = .ok (.query tree) := by
  rw [sqlglot.parse_strip] at parsed
  rw [SqlGlot.parseOne, parsed]

/-- What the wrapper is read as, by how the candidate ends. -/
theorem pieces_boundedText (maxRows : Nat) {found : List Piece} {count : Nat}
    (whole : pieces (strip isSpace sql).toList =
      some (found ++ List.replicate count (.mark ';'))) :
    (modeAfter (candidate sql) = .lineComment ∧
      pieces (boundedText sql maxRows).toList =
        some (opening ++ (found ++ List.replicate count (.mark ';')))) ∨
    (modeAfter (candidate sql) ≠ .lineComment ∧ ∃ inner after, pieces (candidate sql) = some inner ∧
      inner ++ List.replicate after (.mark ';') = found ++ List.replicate count (.mark ';') ∧
      pieces (boundedText sql maxRows).toList = some (opening ++ inner ++ ending maxRows)) := by
  obtain ⟨after, split⟩ := withoutSemicolons_append (strip isSpace sql).toList
  change _ = candidate sql ++ _ at split
  rw [split] at whole
  have wrapper : pieces (boundedText sql maxRows).toList =
      (pieces (candidate sql ++ ')' :: closingText maxRows)).map (opening ++ ·) := by
    rw [boundedText_toList, pieces, piecesFrom_append, scan_opening]
    rfl
  rw [wrapper]
  by_cases isOpen : (modeAfter (candidate sql)).isOpen
  · right
    obtain ⟨inner, isInner, semicolons⟩ := pieces_semicolons isOpen after
    obtain ⟨same, isSame, wrapped⟩ :=
      piecesFrom_mark (closingText maxRows) isOpen (show isMark ')' by rfl)
    cases isInner.symm.trans isSame
    have ends := pieces_closingText maxRows
    rw [Option.map_eq_some_iff] at ends
    obtain ⟨tail, isTail, isEnding⟩ := ends
    refine ⟨?_, inner, after, isInner, ?_, ?_⟩
    · intro line
      rw [line] at isOpen
      cases isOpen
    · exact Option.some.inj (semicolons.symm.trans whole)
    · rw [pieces, wrapped, isTail, ← isEnding]
      simp
  · left
    have closed : (modeAfter (candidate sql)).isOpen = false := by simpa using isOpen
    obtain ⟨nothing, stays, unfinished⟩ := scan_semicolons closed after
    have read : pieces (candidate sql ++ List.replicate after ';') =
        (finish (scan (modeAfter (candidate sql)) (List.replicate after ';')).2).map
          ((scan (.plain []) (candidate sql)).1 ++ ·) := by
      rw [pieces, piecesFrom_append, piecesFrom, ← modeAfter, nothing, Option.map_map]
      rfl
    rw [read] at whole
    cases finished : finish (modeAfter (candidate sql)) with
    | none =>
        rw [unfinished finished] at whole
        cases whole
    | some last =>
        have line : modeAfter (candidate sql) = .lineComment := by
          simpa [closed] using isOpen_or_lineComment finished
        rw [stays line] at whole
        refine ⟨line, ?_⟩
        rw [pieces, piecesFrom_append, ← modeAfter, line, piecesFrom,
          scan_lineComment (closing_noBreak maxRows), ← Option.some.inj whole]
        simp [finish]

theorem append_replicate_cancel {inner found : List Piece} {after count : Nat} {mark : Piece}
    (noMark : mark ∉ inner) (noneThere : mark ∉ found)
    (same : inner ++ List.replicate after mark = found ++ List.replicate count mark) :
    inner = found := by
  have only : ∀ pieces : List Piece, mark ∉ pieces → pieces.filter (· ≠ mark) = pieces := by
    intro pieces absent
    apply List.filter_eq_self.mpr
    intro piece listed
    simpa using fun same : piece = mark => absent (same ▸ listed)
  have kept := congrArg (List.filter (· ≠ mark)) same
  rw [List.filter_append, List.filter_append, only inner noMark, only found noneThere] at kept
  simpa using kept

theorem not_denotes_of_line {tree reading : Query}
    (parsed : sqlglot.parse (strip isSpace sql) = .ok [.query tree])
    (line : modeAfter (candidate sql) = .lineComment) (maxRows : Nat) :
    ¬ trino.Denotes (boundedText sql maxRows) reading := by
  obtain ⟨found, count, whole, derived⟩ := sqlglot.sound parsed
  rw [strip_strip] at whole
  rcases pieces_boundedText maxRows whole with ⟨-, wrapped⟩ | ⟨noLine, -⟩
  · rintro ⟨read, isRead, derives⟩
    cases isRead.symm.trans wrapped
    have pairs := trino.balanced derives
    have pairsInside := trino.balanced derived
    simp [opening, List.count_append, List.count_replicate] at pairs
    omega
  · exact absurd line noLine

/-- The text that is sent is the bounded query exactly when the candidate ends cleanly. -/
theorem bounded_iff {maxRows maxLength : Nat} {validated : Validated}
    (accepted : validateReadQuery sqlglot sql maxRows maxLength = .ok validated) :
    (∃ tree, Bounded sqlglot sql maxRows validated.sql tree) ↔ EndsCleanly sql := by
  obtain ⟨sent, tree, parsed, -⟩ := validateReadQuery_ok accepted
  obtain ⟨found, count, whole, derived⟩ := sqlglot.sound parsed
  rw [strip_strip] at whole
  rw [sent]
  have noSemicolon := trino.unseparated derived
  rcases pieces_boundedText maxRows whole with
    ⟨line, -⟩ | ⟨noLine, inner, after, isInner, split, wrapped⟩
  · apply iff_of_false
    · rintro ⟨other, -, -, denotes, -⟩
      exact not_denotes_of_line parsed line maxRows denotes
    · exact fun ends => ends.line line
  · constructor
    · rintro ⟨other, -, -, ⟨read, isRead, derives⟩, -⟩
      cases isRead.symm.trans wrapped
      refine ⟨noLine, ?_⟩
      intro other isOther listed
      cases isInner.symm.trans isOther
      exact trino.unseparated derives (by simp [listed])
    · intro ends
      have same := append_replicate_cancel (ends.semicolons inner isInner) noSemicolon split
      subst same
      have denoted := trino.wraps maxRows derived
      refine ⟨tree, parsed, parseOne_of_parsed parsed, ⟨_, wrapped, denoted⟩, ?_⟩
      rintro reading rows ⟨read, isRead, derives⟩ answered
      cases isRead.symm.trans wrapped
      cases trino.unambiguous derives denoted
      obtain ⟨all, isAnswer, taken, lengths⟩ := trino.limits answered
      exact ⟨all, isAnswer, taken, by omega⟩

/-! ## A language with one query -/

def selectOne : Query := .select .done false [.literal "1"] .done [] [] [] [] none

def selectOnePieces : List Piece := [.word "SELECT".toList, .word "1".toList]

/-- `SELECT 1`, and it bounded any number of times. -/
inductive OneDerives : List Piece → Query → Prop
  | one : OneDerives selectOnePieces selectOne
  | bounded {found : List Piece} {tree : Query} (maxRows : Nat) (derived : OneDerives found tree) :
      OneDerives (opening ++ found ++ ending maxRows) (bounded tree maxRows)

inductive OneAnswers : Query → List (List Cell) → Prop
  | one : OneAnswers selectOne [[.other "integer" "1"]]
  | bounded {tree : Query} {maxRows : Nat} {rows all : List (List Cell)}
      (answered : OneAnswers tree all) (taken : rows.Subperm all)
      (lengths : rows.length = min maxRows all.length) : OneAnswers (bounded tree maxRows) rows

theorem OneDerives.unambiguous {found : List Piece} {tree other : Query}
    (derived : OneDerives found tree) (again : OneDerives found other) : tree = other := by
  induction derived generalizing other with
  | one =>
      generalize shape : selectOnePieces = pieces at again
      cases again with
      | one => rfl
      | bounded maxRows _ => simp [selectOnePieces, opening] at shape
  | @bounded found tree maxRows derived ih =>
      generalize shape : opening ++ found ++ ending maxRows = pieces at again
      cases again with
      | one => simp [selectOnePieces, opening] at shape
      | @bounded found' tree' maxRows' again =>
          rw [List.append_assoc, List.append_assoc] at shape
          obtain ⟨sameInside, sameEnding⟩ :=
            List.append_inj' (List.append_cancel_left shape) rfl
          subst sameInside
          have sameRows : maxRows = maxRows' :=
            Separated.toString_injective (by simpa [ending] using sameEnding)
          rw [ih again, sameRows]

def oneTrino : Trino where
  derives := OneDerives
  answers := OneAnswers
  unambiguous := OneDerives.unambiguous
  balanced := by
    intro found tree derived
    induction derived with
    | one => decide
    | bounded maxRows _ ih =>
        simp [opening, ending, List.count_append, ih]
  unseparated := by
    intro found tree derived
    induction derived with
    | one => decide
    | bounded maxRows _ ih => simp [opening, ending, ih]
  wraps := fun maxRows derived => .bounded maxRows derived
  limits := by
    intro tree maxRows rows answered
    generalize shape : bounded tree maxRows = whole at answered
    cases answered with
    | one => simp [bounded, selectOne] at shape
    | bounded answered taken lengths =>
        obtain ⟨rfl, rfl⟩ : tree = _ ∧ maxRows = _ := by simpa [bounded] using shape
        exact ⟨_, answered, taken, lengths⟩

def oneSqlGlot : SqlGlot oneTrino where
  parse text :=
    if pieces (strip isSpace text).toList = some selectOnePieces then .ok [.query selectOne]
    else .error "Invalid expression / Unexpected token."
  knows := fun _ => true
  contains := fun _ _ => false
  sound := by
    intro text tree parsed
    split at parsed
    next read =>
      cases parsed
      exact ⟨selectOnePieces, 0, by simpa using read, .one⟩
    next => cases parsed
  parse_strip text := by rw [strip_strip]

theorem plain_bounded :
    ∃ tree, Bounded oneSqlGlot "SELECT 1 " 10 (boundedText "SELECT 1 " 10) tree := by
  have accepted : validateReadQuery oneSqlGlot "SELECT 1 " 10 100 =
      .ok ⟨true, boundedText "SELECT 1 " 10, 10⟩ := by
    rfl
  apply (bounded_iff accepted).mpr
  constructor
  · decide +kernel
  · have read : pieces (candidate "SELECT 1 ") = some selectOnePieces := by decide +kernel
    intro found isFound
    cases read.symm.trans isFound
    decide

/-- A query with a comment at its end. -/
def commented : String := "SELECT 1 -- one"

theorem commented_not_bounded : ¬ ∀ validated,
    validateReadQuery oneSqlGlot commented 10 100 = .ok validated →
      ∃ tree, Bounded oneSqlGlot commented 10 validated.sql tree := by
  intro always
  have parsed : oneSqlGlot.parse (strip isSpace commented) = .ok [.query selectOne] := by rfl
  obtain ⟨tree, -, -, denotes, -⟩ := always ⟨true, boundedText commented 10, 10⟩ (by rfl)
  exact not_denotes_of_line parsed (by decide +kernel) 10 denotes

end PaymentsPlatform.AgentApi.QueryText
