import PaymentsPlatform.Library.SqlText

/-!
# Parameters of metadata statements

`_parameterized` puts the values into a statement one after the other, each at the first `?` of the
text as it then stands: a `?` in a quoted identifier before the placeholder, or in a value that is
already there, is taken for it.
-/

namespace PaymentsPlatform.AgentApi.Parameters

open SqlText

/-! ## The statements -/

/-- `value.replace(character, character * 2)`. -/
def doubled (character : Char) : List Char → List Char
  | [] => []
  | first :: rest =>
      if first = character then first :: first :: doubled character rest
      else first :: doubled character rest

/-- `sql.replace("?", new, 1)`. -/
def replaceFirst (new : List Char) : List Char → List Char
  | [] => []
  | character :: rest =>
      if character = '?' then new ++ rest else character :: replaceFirst new rest

/-- A text in quotes. -/
def inQuotes (delimiter : Delimiter) (value : String) : List Char :=
  delimiter.character :: doubled delimiter.character value.toList ++ [delimiter.character]

/-- A value as a text of SQL. -/
def literal (value : String) : List Char := inQuotes .text value

/-- `quote_identifier`. -/
def quoteIdentifier (value : String) : List Char := inQuotes .name value

/-- `_parameterized`: the statement that is sent. -/
def parameterized (sql : List Char) (parameters : List String) : List Char :=
  parameters.foldl (fun sql value => replaceFirst (literal value) sql) sql

/-- The statement of `list_tables`. -/
def listTables (catalog : String) : List Char :=
  "SELECT table_name, table_type FROM ".toList ++ (quoteIdentifier catalog ++
    ".information_schema.tables WHERE table_schema = ? ORDER BY table_name".toList)

/-- The statement of `describe_table`. -/
def describeTable (catalog : String) : List Char :=
  "SELECT column_name, data_type, ordinal_position FROM ".toList ++ (quoteIdentifier catalog ++
    (".information_schema.columns WHERE table_schema = ? AND table_name = ? " ++
      "ORDER BY ordinal_position").toList)

/-! ## Templates -/

/-- The texts between the placeholders of a template: the `?` that stand outside literals,
identifiers and comments. -/
def segments (mode : Mode) : List Char → List (List Char)
  | [] => [[]]
  | character :: rest =>
      if character = '?' ∧ mode.isOpen then [] :: segments (mode.read character).2 rest
      else
        match segments (mode.read character).2 rest with
        | [] => [[character]]
        | segment :: later => (character :: segment) :: later

/-- The text with the values between its segments. -/
def fill : List (List Char) → List String → List Char
  | segment :: later, value :: values => segment ++ literal value ++ fill later values
  | segments, _ => segments.flatten

/-- The template has a placeholder for each of the values. -/
def Template (sql : List Char) (parameters : List String) : Prop :=
  (segments (.plain []) sql).length = parameters.length + 1

instance (sql : List Char) (parameters : List String) : Decidable (Template sql parameters) :=
  inferInstanceAs (Decidable (_ = _))

/-- No `?` stands in the way of a placeholder: none before the last one but placeholders, and none
in a value but the last. -/
def Unobstructed (sql : List Char) (parameters : List String) : Prop :=
  (∀ segment ∈ (segments (.plain []) sql).take parameters.length, '?' ∉ segment) ∧
    ∀ value ∈ parameters.dropLast, '?' ∉ value.toList

/-! ## Substitution in the text -/

theorem segments_cases (mode : Mode) (text : List Char) :
    segments mode text = [text] ∨ ∃ segment rest after,
      text = segment ++ '?' :: rest ∧ segments mode text = segment :: segments after rest := by
  induction text generalizing mode with
  | nil => exact .inl rfl
  | cons character rest ih =>
      rw [segments]
      by_cases placeholder : character = '?' ∧ mode.isOpen
      · rw [if_pos placeholder, placeholder.1]
        exact .inr ⟨[], rest, _, rfl, rfl⟩
      · rw [if_neg placeholder]
        rcases ih (mode.read character).2 with
          single | ⟨segment, later, after, split, found⟩
        · rw [single]
          exact .inl rfl
        · rw [found]
          exact .inr ⟨character :: segment, later, after, by rw [split]; rfl, rfl⟩

theorem segments_of_length_one {mode : Mode} {text : List Char}
    (single : (segments mode text).length = 1) : segments mode text = [text] := by
  rcases segments_cases mode text with same | ⟨segment, rest, after, -, found⟩
  · exact same
  · rw [found] at single
    rcases segments_cases after rest with same | ⟨_, _, _, -, more⟩
    · simp [same] at single
    · simp [more] at single

theorem replaceFirst_append {before : List Char} (free : '?' ∉ before) (new text : List Char) :
    replaceFirst new (before ++ text) = before ++ replaceFirst new text := by
  induction before with
  | nil => rfl
  | cons character rest ih =>
      rw [List.mem_cons, not_or] at free
      rw [List.cons_append, replaceFirst, if_neg (Ne.symm free.1), ih free.2]
      rfl

theorem parameterized_append {before : List Char} (free : '?' ∉ before) (text : List Char)
    (parameters : List String) :
    parameterized (before ++ text) parameters = before ++ parameterized text parameters := by
  induction parameters generalizing text with
  | nil => rfl
  | cons value values ih =>
      change parameterized (replaceFirst _ (before ++ text)) values = _
      rw [replaceFirst_append free, ih]
      rfl

theorem parameterized_cons (text : List Char) (value : String) (values : List String) :
    parameterized ('?' :: text) (value :: values) =
      parameterized (literal value ++ text) values := by
  change parameterized (replaceFirst _ ('?' :: text)) values = _
  rw [replaceFirst, if_pos rfl]

theorem parameterized_first {before : List Char} (free : '?' ∉ before) (after : List Char)
    (value : String) (values : List String) :
    ∃ rest, parameterized (before ++ '?' :: after) (value :: values) = before ++ '\'' :: rest := by
  refine ⟨parameterized (doubled '\'' value.toList ++ ['\''] ++ after) values, ?_⟩
  have quote := @parameterized_append ['\''] (by decide)
    (doubled '\'' value.toList ++ ['\''] ++ after) values
  rw [parameterized_append free, parameterized_cons]
  exact congrArg (before ++ ·) quote

theorem parameterized_ne {before : List Char} (free : '?' ∉ before) (after other : List Char)
    (value : String) (values : List String) :
    parameterized (before ++ '?' :: after) (value :: values) ≠ before ++ '?' :: other := by
  obtain ⟨rest, isResult⟩ := parameterized_first free after value values
  rw [isResult]
  intro same
  exact absurd (List.cons.inj (List.append_cancel_left same)).1 (by decide)

theorem exists_first {text : List Char} (obstructed : '?' ∈ text) :
    ∃ before after, '?' ∉ before ∧ text = before ++ '?' :: after := by
  obtain ⟨before, after, split, free⟩ := List.eq_append_cons_of_mem obstructed
  exact ⟨before, after, free, split⟩

theorem mem_doubled {character other : Char} {text : List Char} :
    other ∈ doubled character text ↔ other ∈ text := by
  induction text with
  | nil => rfl
  | cons first rest ih =>
      unfold doubled
      split
      · simp [ih]
      · simp [ih]

theorem mem_literal {value : String} : '?' ∈ literal value ↔ '?' ∈ value.toList := by
  simp [literal, inQuotes, Delimiter.character, mem_doubled]

/-- The loop substitutes as intended exactly when nothing stands in the way. -/
theorem parameterized_eq_fill_iff (mode : Mode) (text : List Char) (parameters : List String)
    (placeholders : (segments mode text).length = parameters.length + 1) :
    parameterized text parameters = fill (segments mode text) parameters ↔
      (∀ segment ∈ (segments mode text).take parameters.length, '?' ∉ segment) ∧
        ∀ value ∈ parameters.dropLast, '?' ∉ value.toList := by
  induction parameters generalizing mode text with
  | nil =>
      rw [segments_of_length_one placeholders]
      simp [parameterized, fill]
  | cons value values ih =>
      rcases segments_cases mode text with single | ⟨segment, rest, after, split, found⟩
      · simp [single] at placeholders
      · have later : (segments after rest).length = values.length + 1 := by
          simpa [found] using placeholders
        have filled : fill (segments mode text) (value :: values) =
            segment ++ literal value ++ fill (segments after rest) values := by
          rw [found]
          rfl
        rw [filled, found, split]
        by_cases obstructed : '?' ∈ segment
        · -- the first `?` stands in the segment
          obtain ⟨before, behind, free, parted⟩ := exists_first obstructed
          apply iff_of_false
          · rw [parted]
            simp only [List.append_assoc, List.cons_append]
            exact parameterized_ne free _ _ value values
          · exact fun both => both.1 segment (by simp) obstructed
        · rw [parameterized_append obstructed, parameterized_cons, List.append_assoc,
            List.append_cancel_left_eq]
          cases values with
          | nil =>
              rw [segments_of_length_one later]
              simp [parameterized, fill, obstructed]
          | cons next others =>
              by_cases inValue : '?' ∈ value.toList
              · -- the first `?` stands in the value that was put in
                obtain ⟨before, behind, free, parted⟩ := exists_first (mem_literal.mpr inValue)
                apply iff_of_false
                · rw [parted]
                  simp only [List.append_assoc, List.cons_append]
                  exact parameterized_ne free _ _ next others
                · exact fun both => both.2 value (by simp) inValue
              · rw [parameterized_append (fun listed => inValue (mem_literal.mp listed)),
                  List.append_cancel_left_eq, ih after rest later]
                simp [obstructed, inValue]

/-! ## Substitution in the pieces -/

/-- The pieces with the values at the placeholders. -/
def fillPieces : List Piece → List String → List Piece
  | .mark '?' :: rest, value :: values =>
      .quoted .text false value.toList :: fillPieces rest values
  | piece :: rest, values => piece :: fillPieces rest values
  | [], _ => []

/-- The statement is the template with a literal of the value at each placeholder. -/
def SameStructure (sql : List Char) (parameters : List String) : Prop :=
  pieces (parameterized sql parameters) = (pieces sql).map (fillPieces · parameters)

instance (sql : List Char) (parameters : List String) :
    Decidable (SameStructure sql parameters) :=
  inferInstanceAs (Decidable (_ = _))

theorem doubled_append (character : Char) (first second : List Char) :
    doubled character (first ++ second) = doubled character first ++ doubled character second := by
  induction first with
  | nil => rfl
  | cons head rest ih =>
      simp only [List.cons_append, doubled]
      split
      · rw [ih, List.cons_append, List.cons_append]
      · rw [ih, List.cons_append]

variable {delimiter : Delimiter} {found words : List Piece} {before text : List Char}

theorem scan_doubled (delimiter : Delimiter) (attached : Bool) (content value : List Char) :
    scan (.inside delimiter attached content) (doubled delimiter.character value) =
      ([], .inside delimiter attached (content ++ value)) := by
  induction value generalizing content with
  | nil => simp [doubled]
  | cons first rest ih =>
      unfold doubled
      by_cases same : first = delimiter.character
      · simp only [scan_cons, Mode.read, same, if_true, ih]
        simp
      · simp only [if_neg same, scan_cons, Mode.read, ih]
        simp

theorem read_delimiter (delimiter : Delimiter) :
    Mode.read (.plain []) delimiter.character = ([], .inside delimiter false []) := by
  cases delimiter <;> rfl

theorem pieces_inQuotes (value : String) (apart : text.head? ≠ some delimiter.character) :
    pieces (inQuotes delimiter value ++ text) =
      (pieces text).map (.quoted delimiter false value.toList :: ·) := by
  have opened : scan (.plain []) (inQuotes delimiter value) =
      ([], .closing delimiter false value.toList) := by
    rw [inQuotes, List.cons_append, scan_cons, read_delimiter, scan_append, scan_doubled]
    simp [scan_cons, Mode.read]
  rw [pieces, piecesFrom_append, opened, piecesFrom_closing apart, Option.map_map]
  rfl

theorem pieces_append (scanned : scan (.plain []) before = (words, .plain [])) :
    pieces (before ++ text) = (pieces text).map (words ++ ·) := by
  rw [pieces, piecesFrom_append, scanned]
  rfl

theorem pieces_obstructed {value : String} (obstructed : '?' ∈ value.toList)
    (delimiter : Delimiter) :
    ∃ before after, '?' ∉ before ∧ inQuotes delimiter value = before ++ '?' :: after ∧
      ∀ rest found, pieces (before ++ '\'' :: rest) = some found →
        ∃ other later, found = .quoted delimiter false other :: later ∧ other ≠ value.toList := by
  obtain ⟨before, after, free, split⟩ := exists_first obstructed
  refine ⟨delimiter.character :: doubled delimiter.character before,
    doubled delimiter.character after ++ [delimiter.character], ?_, ?_, ?_⟩
  · rw [List.mem_cons, mem_doubled, not_or]
    exact ⟨by cases delimiter <;> decide, free⟩
  · have placeholder : doubled delimiter.character ('?' :: after) =
        '?' :: doubled delimiter.character after := by
      cases delimiter <;> rfl
    rw [inQuotes, split, doubled_append, placeholder]
    simp
  · intro rest found read
    have opened : scan (.plain []) (delimiter.character :: doubled delimiter.character before) =
        ([], .inside delimiter false before) := by
      rw [scan_cons, read_delimiter, scan_doubled]
      rfl
    have shorter : before ≠ value.toList := by
      intro same
      have lengths := congrArg List.length (same.trans split)
      simp at lengths
    have different : ∀ other : List Char, before ++ ['\''] <+: other → other ≠ value.toList := by
      rintro other ⟨tail, rfl⟩ same
      rw [split, List.append_assoc] at same
      exact absurd (List.cons.inj (List.append_cancel_left same)).1 (by decide)
    rw [pieces, piecesFrom_append, opened, piecesFrom_cons] at read
    cases delimiter with
    | text =>
        obtain ⟨other, later, isFound, same | longer⟩ :=
          piecesFrom_quoted.2 (by simpa [Mode.read, Delimiter.character] using read)
        · exact ⟨other, later, isFound, same ▸ shorter⟩
        · exact ⟨other, later, isFound, different other longer⟩
    | name =>
        obtain ⟨other, later, isFound, longer⟩ :=
          piecesFrom_quoted.1 (by simpa [Mode.read, Delimiter.character] using read)
        exact ⟨other, later, isFound, different other longer⟩

theorem fillPieces_append (noMark : .mark '?' ∉ words) (rest : List Piece) (values : List String) :
    fillPieces (words ++ rest) values = words ++ fillPieces rest values := by
  induction words with
  | nil => rfl
  | cons piece later ih =>
      rw [List.mem_cons, not_or] at noMark
      rw [List.cons_append, List.cons_append, fillPieces, ih noMark.2]
      intro _ _ _ isMark
      exact noMark.1 isMark.symm

theorem map_eq_map_iff {first second : Option (List Piece)} (words : List Piece) :
    first.map (words ++ ·) = second.map (words ++ ·) ↔ first = second :=
  (Option.map_injective (fun _ _ => List.append_cancel_left)).eq_iff

section Holes

variable {value : String} {values : List String}

/-- A text between pieces, before a value or a placeholder. -/
structure Between (before : List Char) (words : List Piece) : Prop where
  scanned : scan (.plain []) before = (words, .plain [])
  free : '?' ∉ before
  noMark : .mark '?' ∉ words

theorem sameStructure_quoted (delimiter : Delimiter) (quoted value : String) (values : List String)
    {text : List Char} {character : Char} (starts : text.head? = some character)
    (plain : character ≠ '?' ∧ character ≠ delimiter.character) (readable : (pieces text).isSome) :
    pieces (parameterized (inQuotes delimiter quoted ++ text) (value :: values)) =
        ((pieces text).map (fillPieces · (value :: values))).map
          (.quoted delimiter false quoted.toList :: ·) ↔
      '?' ∉ quoted.toList ∧ SameStructure text (value :: values) := by
  obtain ⟨after, rfl⟩ := List.head?_eq_some_iff.mp starts
  by_cases obstructed : '?' ∈ quoted.toList
  · apply iff_of_false
    · obtain ⟨start, behind, free, split, reads⟩ := pieces_obstructed obstructed delimiter
      obtain ⟨rest, isResult⟩ :=
        parameterized_first free (behind ++ character :: after) value values
      obtain ⟨later, isLater⟩ := Option.isSome_iff_exists.mp readable
      rw [split, List.append_assoc, List.cons_append, isResult, isLater]
      intro same
      obtain ⟨other, others, isFound, different⟩ := reads rest _ same
      cases isFound
      exact different rfl
    · exact fun both => both.1 obstructed
  · have free : '?' ∉ inQuotes delimiter quoted := by
      cases delimiter <;> simp [inQuotes, Delimiter.character, mem_doubled, obstructed]
    obtain ⟨rest, isRest⟩ : ∃ rest, parameterized (character :: after) (value :: values) =
        character :: rest :=
      ⟨_, @parameterized_append [character] (by simpa using Ne.symm plain.1) after _⟩
    have restApart : (parameterized (character :: after) (value :: values)).head? ≠
        some delimiter.character := by
      simpa [isRest] using plain.2
    rw [parameterized_append free, pieces_inQuotes quoted restApart]
    constructor
    · intro same
      exact ⟨obstructed, Option.map_injective (fun _ _ same => (List.cons.inj same).2) same⟩
    · rintro ⟨-, same⟩
      rw [same]

theorem sameStructure_identifier (between : Between before words) (catalog value : String)
    (values : List String) {text : List Char} {character : Char} (starts : text.head? = some character)
    (plain : character ≠ '?' ∧ character ≠ '"') (readable : (pieces text).isSome) :
    SameStructure (before ++ (quoteIdentifier catalog ++ text)) (value :: values) ↔
      '?' ∉ catalog.toList ∧ SameStructure text (value :: values) := by
  have apart : text.head? ≠ some Delimiter.name.character := by
    simpa [starts, Delimiter.character] using plain.2
  have template : (pieces (before ++ (quoteIdentifier catalog ++ text))).map
      (fillPieces · (value :: values)) =
        (((pieces text).map (fillPieces · (value :: values))).map
          (.quoted .name false catalog.toList :: ·)).map (words ++ ·) := by
    rw [quoteIdentifier, pieces_append between.scanned, pieces_inQuotes catalog apart]
    simp only [Option.map_map]
    congr 1
    funext found
    exact fillPieces_append between.noMark _ _
  unfold SameStructure
  rw [template, parameterized_append between.free, pieces_append between.scanned, map_eq_map_iff]
  exact sameStructure_quoted .name catalog value values starts plain readable

theorem pieces_placeholder (between : Between before words) (after : List Char)
    (values : List String) :
    (pieces (before ++ '?' :: after)).map (fillPieces · (value :: values)) =
      (((pieces after).map (fillPieces · values)).map
        (.quoted .text false value.toList :: ·)).map (words ++ ·) := by
  have placeholder : pieces ('?' :: after) = (pieces after).map (.mark '?' :: ·) := by
    rw [pieces, piecesFrom_cons]
    rfl
  rw [pieces_append between.scanned, placeholder]
  simp only [Option.map_map]
  congr 1
  funext found
  exact fillPieces_append between.noMark _ _

theorem parameterized_placeholder (between : Between before words) (after : List Char)
    (values : List String) :
    parameterized (before ++ '?' :: after) (value :: values) =
      before ++ parameterized (inQuotes .text value ++ after) values := by
  rw [parameterized_append between.free, parameterized_cons]
  rfl

theorem sameStructure_last (between : Between before words) (value : String) {after : List Char}
    (apart : after.head? ≠ some '\'') : SameStructure (before ++ '?' :: after) [value] := by
  have nothing : ∀ found, fillPieces found [] = found := by
    intro found
    induction found with
    | nil => rfl
    | cons piece rest ih =>
        rw [fillPieces, ih]
        intro _ _ same _
        cases same
  unfold SameStructure
  rw [pieces_placeholder between, parameterized_placeholder between,
    pieces_append between.scanned]
  simp only [nothing, Option.map_id']
  exact congrArg _ (pieces_inQuotes value apart)

theorem sameStructure_placeholder (between : Between before words) (value next : String)
    (values : List String) {text : List Char} {character : Char} (starts : text.head? = some character)
    (plain : character ≠ '?' ∧ character ≠ '\'') (readable : (pieces text).isSome) :
    SameStructure (before ++ '?' :: text) (value :: next :: values) ↔
      '?' ∉ value.toList ∧ SameStructure text (next :: values) := by
  unfold SameStructure
  rw [pieces_placeholder between, parameterized_placeholder between,
    pieces_append between.scanned, map_eq_map_iff]
  exact sameStructure_quoted .text value next values starts plain readable

end Holes

/-! ## The two statements -/

theorem listTables_sameStructure_iff (catalog schema : String) :
    SameStructure (listTables catalog) [schema] ↔ '?' ∉ catalog.toList := by
  have start : Between "SELECT table_name, table_type FROM ".toList
      (["SELECT", "table_name,", "table_type", "FROM"].map (.word ·.toList)) :=
    ⟨by decide +kernel, by decide +kernel, by decide +kernel⟩
  have middle : Between ".information_schema.tables WHERE table_schema = ".toList
      ([".information_schema.tables", "WHERE", "table_schema", "="].map (.word ·.toList)) :=
    ⟨by decide +kernel, by decide +kernel, by decide +kernel⟩
  have split : ".information_schema.tables WHERE table_schema = ? ORDER BY table_name".toList =
      ".information_schema.tables WHERE table_schema = ".toList ++
        '?' :: " ORDER BY table_name".toList := by
    decide +kernel
  have last := sameStructure_last middle schema (show " ORDER BY table_name".toList.head? ≠
    some '\'' by decide +kernel)
  have shape := congrArg (fun text => "SELECT table_name, table_type FROM ".toList ++
    (quoteIdentifier catalog ++ text)) split
  have starts : (".information_schema.tables WHERE table_schema = ".toList ++
      '?' :: " ORDER BY table_name".toList).head? = some '.' := by
    decide +kernel
  have parted := sameStructure_identifier start catalog schema [] starts (by decide)
    (by decide +kernel)
  rw [and_iff_left last, ← shape] at parted
  exact parted

theorem describeTable_sameStructure_iff (catalog schema table : String) :
    SameStructure (describeTable catalog) [schema, table] ↔
      '?' ∉ catalog.toList ∧ '?' ∉ schema.toList := by
  have start : Between "SELECT column_name, data_type, ordinal_position FROM ".toList
      (["SELECT", "column_name,", "data_type,", "ordinal_position", "FROM"].map
        (.word ·.toList)) :=
    ⟨by decide +kernel, by decide +kernel, by decide +kernel⟩
  have first : Between ".information_schema.columns WHERE table_schema = ".toList
      ([".information_schema.columns", "WHERE", "table_schema", "="].map (.word ·.toList)) :=
    ⟨by decide +kernel, by decide +kernel, by decide +kernel⟩
  have second : Between " AND table_name = ".toList
      (["AND", "table_name", "="].map (.word ·.toList)) :=
    ⟨by decide +kernel, by decide +kernel, by decide +kernel⟩
  have split : (".information_schema.columns WHERE table_schema = ? AND table_name = ? " ++
      "ORDER BY ordinal_position").toList =
      ".information_schema.columns WHERE table_schema = ".toList ++ '?' ::
        (" AND table_name = ".toList ++ '?' :: " ORDER BY ordinal_position".toList) := by
    decide +kernel
  have last := sameStructure_last second table (show " ORDER BY ordinal_position".toList.head? ≠
    some '\'' by decide +kernel)
  have shape := congrArg (fun text => "SELECT column_name, data_type, ordinal_position FROM ".toList ++
    (quoteIdentifier catalog ++ text)) split
  have starts : (".information_schema.columns WHERE table_schema = ".toList ++ '?' ::
      (" AND table_name = ".toList ++ '?' :: " ORDER BY ordinal_position".toList)).head? =
        some '.' := by
    decide +kernel
  have goesOn : (" AND table_name = ".toList ++ '?' :: " ORDER BY ordinal_position".toList).head? =
      some ' ' := by
    decide +kernel
  have parted := sameStructure_identifier start catalog schema [table] starts (by decide)
    (by decide +kernel)
  have partedAgain := sameStructure_placeholder first schema table [] goesOn (by decide)
    (by decide +kernel)
  rw [and_iff_left last] at partedAgain
  rw [partedAgain, ← shape] at parted
  exact parted

/-- A statement is sent as intended exactly when no `?` stands in the way of its placeholders; for
the metadata statements, when there is none in the catalog, nor in the schema if a table follows. -/
theorem parameterized_iff (sql : List Char) (parameters : List String)
    (value catalog schema table : String) :
    (Template sql parameters →
      (parameterized sql parameters = fill (segments (.plain []) sql) parameters ↔
        Unobstructed sql parameters)) ∧
    pieces (literal value) = some [.quoted .text false value.toList] ∧
    (SameStructure (listTables catalog) [schema] ↔ '?' ∉ catalog.toList) ∧
    (SameStructure (describeTable catalog) [schema, table] ↔
      '?' ∉ catalog.toList ∧ '?' ∉ schema.toList) := by
  refine ⟨?_, ?_, listTables_sameStructure_iff catalog schema,
    describeTable_sameStructure_iff catalog schema table⟩
  · intro template
    exact parameterized_eq_fill_iff (.plain []) sql parameters template
  · have read := @pieces_inQuotes .text [] value (by decide)
    rw [List.append_nil] at read
    exact read

theorem described_substituted :
    parameterized (describeTable "iceberg") ["silver", "slv_pdm_loans?"] =
      fill (segments (.plain []) (describeTable "iceberg")) ["silver", "slv_pdm_loans?"] := by
  refine ((parameterized_iff _ _ "" "" "" "").1 ?_).mpr ⟨?_, ?_⟩
  all_goals decide +kernel

/-- A schema that is a question mark ends its own literal, and the table is read as a condition. -/
theorem questionMark_not_substituted :
    (¬ ∀ sql parameters, Template sql parameters →
      parameterized sql parameters = fill (segments (.plain []) sql) parameters) ∧
    ¬ SameStructure (describeTable "iceberg") ["?", " OR 1=1 --"] := by
  constructor
  · intro always
    have same := always (describeTable "iceberg") ["?", " OR 1=1 --"] (by decide +kernel)
    exact absurd same (by decide +kernel)
  · decide +kernel

end PaymentsPlatform.AgentApi.Parameters
