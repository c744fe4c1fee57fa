import Mathlib.Tactic.FinCases
import PaymentsPlatform.Library.Segments
import PaymentsPlatform.TransformRuntime.RawToBronze
import PaymentsPlatform.TransformRuntime.Urls

/-!
# Confinement of Iceberg locations

A location that `validate_table_location` accepts names a path of plain segments, in the bucket
and properly below the warehouse.  Acceptance is read as a statement on the text of the location:
how a text may be spelled that names a path.
-/

namespace PaymentsPlatform.TransformRuntime.RawToBronze

open Ingestion (isSpace strip)
open Segments (absolute)
open ChildCommands (isIdentity)
open Urls (HostAlone Unicode isControlOrSpace isDelimiter isUnsafe of_toLower_eq parted)

/-- `urlsplit`, with the properties of its result that are read. -/
def splitUrl (unicode : Unicode) (value : String) : Option SplitUrl := do
  let parsed ← unicode.urlsplit value.toList
  let port ← Urls.port parsed.netloc
  return {
    scheme := String.ofList parsed.scheme
    netloc := String.ofList parsed.netloc
    path := String.ofList parsed.path
    query := String.ofList parsed.query
    fragment := String.ofList parsed.fragment
    username := (Urls.userinfo parsed.netloc).1.map String.ofList
    password := (Urls.userinfo parsed.netloc).2.map String.ofList
    hostname := (Urls.hostname parsed.netloc unicode).map String.ofList
    port := port }

/-- The invocation, with the functions of `urllib.parse`. -/
def Invocation.reading (invocation : Invocation) (unicode : Unicode) : Invocation :=
  { invocation with
    urlsplit := splitUrl unicode
    unquote := fun text => String.ofList (Urls.unquote text.toList) }

/-! ## Plain paths -/

/-- A segment that no reader of paths or URLs takes for anything but a name. -/
structure Confined (segment : List Char) : Prop where
  nonempty : segment ≠ []
  notHere : segment ≠ ['.']
  notAbove : segment ≠ ['.', '.']
  ordinary : ∀ c ∈ segment, c ∉ ['/', '%', '\\', '?', '#'] ∧ isSpace c = false

/-- The text names the path of these segments in the bucket: control characters may precede it, its
scheme may be in upper case, and marks of an empty query and fragment may follow. -/
def Spells (bucket : List Char) (segments : List (List Char)) (text : List Char) : Prop :=
  ∃ controls scheme query fragment,
    text = controls ++ (scheme ++ ':' :: '/' :: '/' ::
      (bucket ++ parted '#' (parted '?' (absolute '/' segments) query) fragment)) ∧
    (∀ c ∈ controls, isControlOrSpace c = true ∧ isSpace c = false) ∧
    scheme ∈ [['s', '3'], ['S', '3']] ∧ query ∈ [none, some []] ∧ fragment ∈ [none, some []]

/-- The text names a path of plain segments in a bucket with a plain name. -/
structure Root (unicode : Unicode) (bucket : List Char) (segments : List (List Char))
    (text : List Char) : Prop where
  alone : HostAlone bucket unicode
  ordinary : ∀ c ∈ bucket, isDelimiter c = false ∧ c ≠ '%' ∧ isSpace c = false
  nonempty : segments ≠ []
  confined : ∀ segment ∈ segments, Confined segment
  spelled : Spells bucket segments text

theorem isSpace_of_isUnsafe {c : Char} (unsafely : isUnsafe c = true) : isSpace c = true := by
  have listed : c ∈ ['\t', '\r', '\n'] := of_decide_eq_true unsafely
  fin_cases listed <;> decide

theorem filter_safe {text : List Char} (spaceless : ∀ c ∈ text, isSpace c = false) :
    text.filter (!isUnsafe ·) = text := by
  refine List.filter_eq_self.mpr ?_
  intro c listed
  cases unsafely : isUnsafe c with
  | false => rfl
  | true => exact absurd (isSpace_of_isUnsafe unsafely) (by simp [spaceless c listed])

theorem map_toLower_eq_iff {scheme : List Char} :
    scheme.map Char.toLower = ['s', '3'] ↔ scheme ∈ [['s', '3'], ['S', '3']] := by
  constructor
  · intro isLowered
    obtain ⟨first, second, rfl⟩ : ∃ first second, scheme = [first, second] :=
      List.length_eq_two.mp (by simpa using congrArg List.length isLowered)
    obtain ⟨isS, isThree⟩ : first.toLower = 's' ∧ second.toLower = '3' := by simpa using isLowered
    have isThree : second = '3' := by
      rcases of_toLower_eq isThree with isThree | ⟨upper, code⟩
      · exact isThree
      · exact absurd code (by change 65 ≤ second.toNat at upper; change second.toNat + 32 ≠ 51; omega)
    rcases of_toLower_eq isS with isS | ⟨_, code⟩
    · simp [isS, isThree]
    · have isUpper : first = 'S' :=
        Char.toNat_inj.mp (by change first.toNat = 83; change first.toNat + 32 = 115 at code; omega)
      simp [isUpper, isThree]
  · intro listed
    fin_cases listed <;> decide

theorem blank_of_getD {part : Option (List Char)} (blank : part.getD [] = []) :
    part ∈ [none, some []] := by
  cases part with
  | none => simp
  | some rest =>
      obtain rfl : rest = [] := blank
      simp

theorem getD_of_blank {part : Option (List Char)} (blank : part ∈ [none, some []]) :
    part.getD [] = [] := by
  fin_cases blank <;> rfl

section Path

variable {segments : List (List Char)}

theorem ordinary_absolute (confined : ∀ segment ∈ segments, Confined segment) {c : Char}
    (listed : c ∈ absolute '/' segments) : c ∉ ['%', '\\', '?', '#'] ∧ isSpace c = false := by
  rcases Segments.mem_absolute listed with rfl | ⟨segment, isSegment, found⟩
  · decide
  · obtain ⟨unreserved, spaceless⟩ := (confined segment isSegment).ordinary c found
    exact ⟨fun reserved => unreserved (List.mem_cons_of_mem _ reserved), spaceless⟩

theorem slashless (confined : ∀ segment ∈ segments, Confined segment) :
    ∀ segment ∈ segments, '/' ∉ segment := by
  intro segment isSegment listed
  exact ((confined segment isSegment).ordinary '/' listed).1 List.mem_cons_self

theorem head?_parted_absolute (nonempty : segments ≠ []) (query fragment : Option (List Char)) :
    (parted '#' (parted '?' (absolute '/' segments) query) fragment).head? = some '/' := by
  obtain ⟨segment, rest, rfl⟩ := List.exists_cons_of_ne_nil nonempty
  rw [Segments.absolute_cons]
  rfl

end Path

section Parse

variable {unicode : Unicode} {text : List Char} {result : Urls.SplitResult}

theorem spelled_of_urlsplit (spaceless : ∀ c ∈ text, isSpace c = false)
    (isSplit : unicode.urlsplit text = some result) (isS3 : result.scheme = ['s', '3'])
    (placed : result.netloc ≠ []) (noQuery : result.query = [])
    (noFragment : result.fragment = []) :
    (∀ c ∈ result.netloc, isDelimiter c = false) ∧
      (∀ c ∈ result.path, c ≠ '?' ∧ c ≠ '#') ∧
      ∃ controls scheme query fragment,
        text = controls ++ (scheme ++ ':' :: '/' :: '/' ::
          (result.netloc ++ parted '#' (parted '?' result.path query) fragment)) ∧
        (∀ c ∈ controls, isControlOrSpace c = true ∧ isSpace c = false) ∧
        scheme ∈ [['s', '3'], ['S', '3']] ∧ query ∈ [none, some []] ∧
        fragment ∈ [none, some []] := by
  obtain ⟨_, scheme, query, fragment, cleaned, lowered, _, _, without, _, pathOfFragment,
    pathOfQuery, isQuery, isFragment⟩ :=
    (unicode.urlsplit_eq_some_iff (by simp [isS3]) placed).mp isSplit
  have spacelessRest : ∀ c ∈ text.dropWhile isControlOrSpace, isSpace c = false :=
    fun c listed => spaceless c ((List.dropWhile_sublist _).subset listed)
  rw [filter_safe spacelessRest] at cleaned
  refine ⟨without, ?_, text.takeWhile isControlOrSpace, scheme, query, fragment, ?_, ?_, ?_, ?_, ?_⟩
  · intro c listed
    constructor
    · rintro rfl
      exact pathOfQuery listed
    · rintro rfl
      exact pathOfFragment (List.mem_append_left _ listed)
  · rw [← cleaned, List.takeWhile_append_dropWhile]
  · intro c listed
    exact ⟨List.mem_takeWhile_imp listed,
      spaceless c ((List.takeWhile_sublist _).subset listed)⟩
  · exact map_toLower_eq_iff.mp (lowered.trans isS3)
  · exact blank_of_getD (isQuery.symm.trans noQuery)
  · exact blank_of_getD (isFragment.symm.trans noFragment)

theorem urlsplit_of_spells {bucket : List Char} {segments : List (List Char)}
    (spaceless : ∀ c ∈ text, isSpace c = false) (placed : bucket ≠ [])
    (ordinary : ∀ c ∈ bucket, isDelimiter c = false)
    (accepted : unicode.netlocRefused bucket = false) (nonempty : segments ≠ [])
    (confined : ∀ segment ∈ segments, Confined segment) (spelled : Spells bucket segments text) :
    unicode.urlsplit text = some ⟨['s', '3'], bucket, absolute '/' segments, [], []⟩ := by
  obtain ⟨controls, scheme, query, fragment, rfl, areControls, isScheme, isQuery, isFragment⟩ :=
    spelled
  have begins : (scheme ++ ':' :: '/' :: '/' ::
      (bucket ++ parted '#' (parted '?' (absolute '/' segments) query) fragment)).dropWhile
        isControlOrSpace = scheme ++ ':' :: '/' :: '/' ::
          (bucket ++ parted '#' (parted '?' (absolute '/' segments) query) fragment) := by
    fin_cases isScheme <;> rfl
  refine (unicode.urlsplit_eq_some_iff (by simp) placed).mpr
    ⟨accepted, scheme, query, fragment, ?_, map_toLower_eq_iff.mpr isScheme, ?_, ?_, ordinary, ?_,
      ?_, ?_, (getD_of_blank isQuery).symm, (getD_of_blank isFragment).symm⟩
  · rw [List.dropWhile_append_of_pos fun c listed => (areControls c listed).1, begins]
    exact filter_safe fun c listed => spaceless c (List.mem_append_right _ listed)
  · fin_cases isScheme <;> rfl
  · fin_cases isScheme <;> rfl
  · intro c isHead
    rw [head?_parted_absolute nonempty] at isHead
    obtain rfl := Option.some.inj isHead
    rfl
  · intro listed
    rcases List.mem_append.mp listed with listed | listed
    · exact (ordinary_absolute confined listed).1 (by simp)
    · fin_cases isQuery <;> simp at listed
  · intro listed
    exact (ordinary_absolute confined listed).1 (by simp)

end Parse

/-! ## What is accepted -/

section Accepted

variable {unicode : Unicode}

theorem splitUrl_eq_some_iff {value : String} {found : SplitUrl} :
    splitUrl unicode value = some found ↔ ∃ result port,
      unicode.urlsplit value.toList = some result ∧ Urls.port result.netloc = some port ∧
        found = {
          scheme := String.ofList result.scheme
          netloc := String.ofList result.netloc
          path := String.ofList result.path
          query := String.ofList result.query
          fragment := String.ofList result.fragment
          username := (Urls.userinfo result.netloc).1.map String.ofList
          password := (Urls.userinfo result.netloc).2.map String.ofList
          hostname := (Urls.hostname result.netloc unicode).map String.ofList
          port := port } := by
  simp only [splitUrl, Option.bind_eq_bind, Option.bind_eq_some_iff, Option.pure_def,
    Option.some.injEq]
  constructor
  · rintro ⟨result, isSplit, port, isPort, isFound⟩
    exact ⟨result, port, isSplit, isPort, isFound.symm⟩
  · rintro ⟨result, port, isSplit, isPort, isFound⟩
    exact ⟨result, isSplit, port, isPort, isFound.symm⟩

theorem joined_eq {segments : List (List Char)} (nonempty : segments ≠ []) :
    "/" ++ "/".intercalate (segments.map String.ofList) =
      String.ofList (absolute '/' segments) := by
  apply String.toList_inj.mp
  have shown : segments.map (String.toList ∘ String.ofList) = segments := by
    simp [Function.comp_def]
  rw [String.toList_append, String.toList_intercalate, List.map_map, shown,
    ← Segments.cons_intercalate nonempty]
  exact String.toList_ofList.symm

theorem unquote_of_plain {text : List Char} (plain : '%' ∉ text) : Urls.unquote text = text :=
  if_neg plain

variable (invocation : Invocation) {segments : List (List Char)}

theorem cut_absolute (slashless : ∀ segment ∈ segments, '/' ∉ segment)
    (percentless : '%' ∉ absolute '/' segments) :
    (((invocation.reading unicode).unquote (String.ofList (absolute '/' segments))).toList.splitOn
      '/').drop 1 = segments := by
  change ((String.ofList (Urls.unquote (String.ofList (absolute '/' segments)).toList)).toList.splitOn
    '/').drop 1 = segments
  rw [String.toList_ofList, String.toList_ofList, unquote_of_plain percentless,
    Segments.splitOn_absolute slashless]
  rfl

theorem confined_splitOn {rest segment : List Char} (isSegment : segment ∈ rest.splitOn '/')
    (named : segment ≠ [] ∧ segment ≠ ['.'] ∧ segment ≠ ['.', '.'])
    (ordinary : ∀ c ∈ absolute '/' (rest.splitOn '/'),
      c ∉ ['%', '\\', '?', '#'] ∧ isSpace c = false) : Confined segment := by
  refine ⟨named.1, named.2.1, named.2.2, ?_⟩
  intro c found
  obtain ⟨unreserved, spaceless⟩ := ordinary c (Segments.mem_absolute_of_mem isSegment found)
  refine ⟨?_, spaceless⟩
  intro reserved
  rcases List.mem_cons.mp reserved with rfl | reserved
  · exact Segments.notMem_of_mem_splitOn isSegment found
  · exact unreserved reserved

variable {value bucket : String} {found : String × String}

theorem root_of_validateS3Root
    (accepted : (invocation.reading unicode).validateS3Root value bucket = .ok found) :
    ∃ segments, Root unicode bucket.toList segments value.toList ∧
      found = (bucket, String.ofList (absolute '/' segments)) := by
  rw [Invocation.validateS3Root] at accepted
  split at accepted
  next => cases accepted
  next plain =>
    obtain ⟨_, percentless, spaceless⟩ : value ≠ "" ∧ '%' ∉ value.toList ∧
        ∀ c ∈ value.toList, isSpace c = false := by
      simpa [not_or] using plain
    split at accepted
    next => cases accepted
    next parsed isParsed =>
      obtain ⟨result, port, isSplit, isPort, rfl⟩ := splitUrl_eq_some_iff.mp isParsed
      split at accepted
      next => cases accepted
      next checked =>
        simp only [not_or, not_not] at checked
        obtain ⟨isS3, isBucket, isHost, noUser, noPassword, rfl, noQuery, noFragment, rooted,
          notRoot, noBackslash⟩ := checked
        have isNetloc : result.netloc = bucket.toList := by
          simpa using congrArg String.toList isBucket
        have alone : HostAlone result.netloc unicode := by
          refine ⟨Prod.ext (Option.map_eq_none_iff.mp noUser) (Option.map_eq_none_iff.mp noPassword),
            ?_, isPort, unicode.accepted_of_urlsplit isSplit⟩
          obtain ⟨host, named, rfl⟩ := Option.map_eq_some_iff.mp isHost
          rw [named, isNetloc, String.toList_ofList]
        obtain ⟨undelimited, unmarked, controls, scheme, query, fragment, together, areControls,
          isScheme, isQuery, isFragment⟩ :=
          spelled_of_urlsplit spaceless isSplit (by simpa using congrArg String.toList isS3)
            alone.nonempty (by simpa using congrArg String.toList noQuery)
            (by simpa using congrArg String.toList noFragment)
        have pathInText : ∀ c ∈ result.path, c ∈ value.toList := by
          intro c listed
          rw [together]
          simp [parted, listed]
        have netlocInText : ∀ c ∈ result.netloc, c ∈ value.toList := by
          intro c listed
          rw [together]
          simp [listed]
        obtain ⟨rest, isPath⟩ : ∃ rest, result.path = '/' :: rest := by
          simpa [List.head?_eq_some_iff] using rooted
        rw [← Segments.absolute_splitOn] at isPath
        have ordinary : ∀ c ∈ absolute '/' (rest.splitOn '/'),
            c ∉ ['%', '\\', '?', '#'] ∧ isSpace c = false := by
          intro c listed
          rw [← isPath] at listed
          refine ⟨?_, spaceless c (pathInText c listed)⟩
          intro reserved
          fin_cases reserved
          · exact percentless (pathInText _ listed)
          · exact noBackslash (by simpa using listed)
          · exact (unmarked _ listed).1 rfl
          · exact (unmarked _ listed).2 rfl
        dsimp only at accepted
        rw [isPath, cut_absolute invocation (fun _ => Segments.notMem_of_mem_splitOn)
          fun listed => (ordinary '%' listed).1 (by simp)] at accepted
        split at accepted
        next => cases accepted
        next walked =>
          simp only [not_or, List.any_eq_true, decide_eq_true_eq, not_exists, not_and] at walked
          obtain ⟨nonempty, named⟩ := walked
          rw [joined_eq nonempty] at accepted
          refine ⟨rest.splitOn '/', ⟨isNetloc ▸ alone, ?_, nonempty, ?_, ?_⟩, ?_⟩
          · intro c listed
            rw [← isNetloc] at listed
            refine ⟨undelimited c listed, ?_, spaceless c (netlocInText c listed)⟩
            rintro rfl
            exact percentless (netlocInText '%' listed)
          · intro segment isSegment
            exact confined_splitOn isSegment (named segment isSegment) ordinary
          · refine ⟨controls, scheme, query, fragment, ?_, areControls, isScheme, isQuery,
              isFragment⟩
            rw [← isPath, ← isNetloc]
            exact together
          · rw [← Except.ok.inj accepted, isBucket]

theorem mem_parted_of_blank {separator c : Char} {before : List Char} {after : Option (List Char)}
    (blank : after ∈ [none, some []]) (listed : c ∈ parted separator before after) :
    c ∈ before ∨ c = separator := by
  fin_cases blank
  · exact .inl (by simpa [parted] using listed)
  · simpa [parted] using listed

theorem Spells.mem {bucket : List Char} {text : List Char} (spelled : Spells bucket segments text)
    {c : Char} (listed : c ∈ text) :
    (isControlOrSpace c = true ∧ isSpace c = false) ∨ c ∈ ['s', 'S', '3', ':', '/', '?', '#'] ∨
      c ∈ bucket ∨ c ∈ absolute '/' segments := by
  obtain ⟨controls, scheme, query, fragment, rfl, areControls, isScheme, isQuery, isFragment⟩ :=
    spelled
  rcases List.mem_append.mp listed with listed | listed
  · exact .inl (areControls c listed)
  · refine .inr ?_
    simp only [List.mem_append, List.mem_cons] at listed
    rcases listed with listed | rfl | rfl | rfl | listed | listed
    · refine .inl ?_
      fin_cases isScheme <;> fin_cases listed <;> decide
    · exact .inl (by decide)
    · exact .inl (by decide)
    · exact .inl (by decide)
    · exact .inr (.inl listed)
    · rcases mem_parted_of_blank isFragment listed with listed | rfl
      · rcases mem_parted_of_blank isQuery listed with listed | rfl
        · exact .inr (.inr listed)
        · exact .inl (by decide)
      · exact .inl (by decide)

theorem Root.plain {text bucket : List Char} (root : Root unicode bucket segments text) :
    ∀ c ∈ text, c ≠ '%' ∧ isSpace c = false := by
  intro c listed
  rcases root.spelled.mem listed with ⟨isControl, spaceless⟩ | listed | listed | listed
  · refine ⟨?_, spaceless⟩
    rintro rfl
    exact absurd isControl (by decide)
  · fin_cases listed <;> decide
  · exact (root.ordinary c listed).2
  · obtain ⟨unreserved, spaceless⟩ := ordinary_absolute root.confined listed
    refine ⟨?_, spaceless⟩
    rintro rfl
    exact unreserved List.mem_cons_self

theorem validateS3Root_of_root (root : Root unicode bucket.toList segments value.toList) :
    (invocation.reading unicode).validateS3Root value bucket =
      .ok (bucket, String.ofList (absolute '/' segments)) := by
  have isSplit := urlsplit_of_spells (fun c listed => (root.plain c listed).2) root.alone.nonempty
    (fun c listed => (root.ordinary c listed).1) root.alone.accepted root.nonempty root.confined
    root.spelled
  have isParsed := splitUrl_eq_some_iff.mpr ⟨_, none, isSplit, root.alone.port, rfl⟩
  have plain : ¬ (value = "" ∨ '%' ∈ value.toList ∨ value.toList.any isSpace = true) := by
    rintro (rfl | listed | spaced)
    · obtain ⟨controls, scheme, query, fragment, together, _⟩ := root.spelled
      simp at together
    · exact (root.plain '%' listed).1 rfl
    · obtain ⟨c, listed, spaced⟩ := List.any_eq_true.mp spaced
      exact absurd spaced (by simp [(root.plain c listed).2])
  have percentless : '%' ∉ absolute '/' segments :=
    fun listed => (ordinary_absolute root.confined listed).1 (by simp)
  rw [Invocation.validateS3Root, if_neg plain]
  simp only [show (invocation.reading unicode).urlsplit value = _ from isParsed]
  obtain ⟨segment, rest, rfl⟩ := List.exists_cons_of_ne_nil root.nonempty
  have filled : segment ≠ [] := (root.confined segment List.mem_cons_self).nonempty
  rw [if_neg, cut_absolute invocation (slashless root.confined) percentless, if_neg,
    joined_eq root.nonempty, String.ofList_toList]
  · simp only [not_or, List.any_eq_true, decide_eq_true_eq, not_exists, not_and]
    refine ⟨root.nonempty, ?_⟩
    intro segment isSegment
    have confined := root.confined segment isSegment
    exact ⟨confined.nonempty, confined.notHere, confined.notAbove⟩
  · have backslashless : '\\' ∉ absolute '/' (segment :: rest) :=
      fun listed => (ordinary_absolute root.confined listed).1 (by simp)
    simp only [not_or, not_not, String.ofList_toList, root.alone.userinfo, root.alone.hostname,
      Option.map_some, Option.map_none, String.toList_ofList]
    refine ⟨trivial, trivial, trivial, trivial, trivial, trivial, trivial, trivial, rfl, ?_, backslashless⟩
    intro isRoot
    have alone := congrArg String.toList isRoot
    simp [filled] at alone

end Accepted

/-! ## Locations -/

/-- The location of these segments, as validation writes it. -/
def locationOf (bucket : String) (segments : List (List Char)) : String :=
  "s3://" ++ bucket ++ String.ofList (absolute '/' segments)

section Location

variable {bucket : String} {segments : List (List Char)}

theorem toList_locationOf :
    (locationOf bucket segments).toList =
      ['s', '3', ':', '/', '/'] ++ (bucket.toList ++ absolute '/' segments) := by
  simp [locationOf]

theorem withoutSlashes_of_getLast? {text : String} (other : text.toList.getLast? ≠ some '/') :
    Invocation.withoutSlashes text = text := by
  apply String.toList_inj.mp
  rw [Invocation.withoutSlashes, String.toList_ofList]
  have stays : text.toList.reverse.dropWhile (· = '/') = text.toList.reverse := by
    cases reversed : text.toList.reverse with
    | nil => rfl
    | cons c rest =>
        refine List.dropWhile_cons_of_neg ?_
        intro isSlash
        obtain rfl : c = '/' := of_decide_eq_true isSlash
        exact other (by rw [← List.head?_reverse, reversed]; rfl)
  rw [stays, List.reverse_reverse]

theorem getLast?_absolute_ne (nonempty : segments ≠ [])
    (confined : ∀ segment ∈ segments, Confined segment) :
    (absolute '/' segments).getLast? ≠ some '/' := by
  rw [Segments.getLast?_absolute nonempty fun segment isSegment =>
    (confined segment isSegment).nonempty]
  intro isLast
  exact slashless confined _ (List.getLast_mem nonempty) (List.mem_of_getLast? isLast)

theorem withoutSlashes_absolute (nonempty : segments ≠ [])
    (confined : ∀ segment ∈ segments, Confined segment) :
    Invocation.withoutSlashes (String.ofList (absolute '/' segments)) =
      String.ofList (absolute '/' segments) :=
  withoutSlashes_of_getLast? (by
    rw [String.toList_ofList]
    exact getLast?_absolute_ne nonempty confined)

theorem absolute_ne_nil (nonempty : segments ≠ []) : absolute '/' segments ≠ [] := by
  obtain ⟨segment, rest, rfl⟩ := List.exists_cons_of_ne_nil nonempty
  simp

theorem withoutSlashes_locationOf (nonempty : segments ≠ [])
    (confined : ∀ segment ∈ segments, Confined segment) :
    Invocation.withoutSlashes (locationOf bucket segments) = locationOf bucket segments := by
  apply withoutSlashes_of_getLast?
  rw [toList_locationOf, ← List.append_assoc,
    List.getLast?_append_of_ne_nil _ (absolute_ne_nil nonempty)]
  exact getLast?_absolute_ne nonempty confined

theorem spells_locationOf : Spells bucket.toList segments (locationOf bucket segments).toList := by
  refine ⟨[], ['s', '3'], none, none, ?_, by simp, by simp, by simp, by simp⟩
  rw [toList_locationOf]
  simp [parted]

theorem below_iff {base : List (List Char)} (confinedBase : ∀ segment ∈ base, Confined segment)
    (confined : ∀ segment ∈ segments, Confined segment) :
    (String.ofList (absolute '/' base) ++ "/").toList.isPrefixOf
        (String.ofList (absolute '/' segments)).toList = true ↔
      ∃ more, more ≠ [] ∧ segments = base ++ more := by
  rw [List.isPrefixOf_iff_prefix, String.toList_append, @String.toList_ofList (absolute '/' base),
    @String.toList_ofList (absolute '/' segments)]
  exact Segments.prefix_absolute_iff (slashless confinedBase) (slashless confined)

theorem bind_eq_ok {ε α β : Type} {first : Except ε α} {after : α → Except ε β} {b : β} :
    first >>= after = .ok b ↔ ∃ a, first = .ok a ∧ after a = .ok b := by
  cases first with
  | error fault =>
      constructor
      · intro isOk
        cases isOk
      · rintro ⟨_, isOk, _⟩
        cases isOk
  | ok a =>
      constructor
      · intro isOk
        exact ⟨a, rfl, isOk⟩
      · rintro ⟨_, isOk, isAfter⟩
        exact Except.ok.inj isOk ▸ isAfter

variable (invocation : Invocation) {unicode : Unicode} {location result : String}

theorem validateTableLocation_eq_ok_iff :
    (invocation.reading unicode).validateTableLocation location = .ok result ↔
      ∃ bucket warehouse base more,
        invocation.requiredEnvironment "OBJECT_STORE_BUCKET" = .ok bucket ∧
        invocation.requiredEnvironment "NESSIE_WAREHOUSE" = .ok warehouse ∧
        Root unicode bucket.toList base (Invocation.withoutSlashes warehouse).toList ∧
        Root unicode bucket.toList (base ++ more) (Invocation.withoutSlashes location).toList ∧
        more ≠ [] ∧ result = locationOf bucket (base ++ more) := by
  have sameEnvironment (name : String) : (invocation.reading unicode).requiredEnvironment name =
      invocation.requiredEnvironment name := rfl
  constructor
  · intro accepted
    rw [Invocation.validateTableLocation, sameEnvironment, sameEnvironment] at accepted
    obtain ⟨bucket, isBucket, accepted⟩ := bind_eq_ok.mp accepted
    obtain ⟨warehouse, isWarehouse, accepted⟩ := bind_eq_ok.mp accepted
    obtain ⟨_, foundWarehouse, accepted⟩ := bind_eq_ok.mp accepted
    obtain ⟨_, foundLocation, accepted⟩ := bind_eq_ok.mp accepted
    obtain ⟨base, baseRoot, rfl⟩ := root_of_validateS3Root invocation foundWarehouse
    obtain ⟨segments, root, rfl⟩ := root_of_validateS3Root invocation foundLocation
    dsimp only at accepted
    rw [withoutSlashes_absolute baseRoot.nonempty baseRoot.confined] at accepted
    split at accepted
    next within =>
      obtain ⟨more, below, rfl⟩ := (below_iff baseRoot.confined root.confined).mp within
      exact ⟨bucket, warehouse, base, more, isBucket, isWarehouse, baseRoot, root, below,
        (Except.ok.inj accepted).symm⟩
    next => cases accepted
  · rintro ⟨bucket, warehouse, base, more, isBucket, isWarehouse, baseRoot, root, below, rfl⟩
    rw [Invocation.validateTableLocation, sameEnvironment, sameEnvironment, isBucket, isWarehouse]
    refine bind_eq_ok.mpr ⟨bucket, rfl, bind_eq_ok.mpr ⟨warehouse, rfl, bind_eq_ok.mpr
      ⟨_, validateS3Root_of_root invocation baseRoot, bind_eq_ok.mpr
        ⟨_, validateS3Root_of_root invocation root, ?_⟩⟩⟩⟩
    dsimp only
    rw [withoutSlashes_absolute baseRoot.nonempty baseRoot.confined]
    exact if_pos ((below_iff baseRoot.confined root.confined).mpr ⟨more, below, rfl⟩)

end Location

/-! ## Files -/

/-- The path lies strictly below the location, by plain segments. -/
def Below (location path : String) : Prop :=
  ∃ segments, segments ≠ [] ∧ (∀ segment ∈ segments, Confined segment) ∧
    path = location ++ String.ofList (absolute '/' segments)

/-- A lower-case letter, a digit or one of `_`, `-` and `.`. -/
def isNameChar (c : Char) : Bool := c.isLower || c.isDigit || c ∈ ['_', '-', '.']

theorem ordinary_of_isNameChar {c : Char} (isName : isNameChar c = true) :
    c ∉ ['/', '%', '\\', '?', '#'] ∧ isSpace c = false := by
  have code : (97 ≤ c.toNat ∧ c.toNat ≤ 122) ∨ (48 ≤ c.toNat ∧ c.toNat ≤ 57) ∨
      c ∈ ['_', '-', '.'] := by
    unfold isNameChar Char.isLower Char.isDigit at isName
    simp only [Bool.or_eq_true, Bool.and_eq_true, decide_eq_true_eq, ge_iff_le,
      UInt32.le_iff_toNat_le, or_assoc] at isName
    exact isName
  rcases code with code | code | listed
  · refine ⟨?_, by simp [isSpace]; omega⟩
    intro reserved
    fin_cases reserved <;> exact absurd code (by decide)
  · refine ⟨?_, by simp [isSpace]; omega⟩
    intro reserved
    fin_cases reserved <;> exact absurd code (by decide)
  · fin_cases listed <;> decide

theorem isNameChar_of_isIdentity {text : String} (isExecution : isIdentity "be_" text = true) :
    ∀ c ∈ text.toList, isNameChar c = true := by
  obtain ⟨starts, _, digits⟩ := of_decide_eq_true isExecution
  obtain ⟨rest, together⟩ := List.isPrefixOf_iff_prefix.mp starts
  have hexadecimal : ∀ c ∈ "0123456789abcdef".toList, isNameChar c = true := by
    simp [isNameChar]
  have ahead : ∀ c ∈ "be_".toList, isNameChar c = true := by
    simp [isNameChar]
  intro c listed
  rw [← together] at listed digits
  rcases List.mem_append.mp listed with listed | listed
  · exact ahead c listed
  · refine hexadecimal c ?_
    rw [show ("be_".toList ++ rest).drop "be_".length = rest from rfl] at digits
    simpa using List.all_eq_true.mp digits c listed

theorem isNameChar_of_isModelName {text : String} (isModel : Invocation.isModelName text = true) :
    ∀ c ∈ text.toList, isNameChar c = true := by
  intro c listed
  have named := List.all_eq_true.mp (of_decide_eq_true isModel).2 c listed
  simp only [Bool.or_eq_true, decide_eq_true_eq] at named
  rcases named with (isLower | isDigit) | isUnderscore
  · simp [isNameChar, isLower]
  · simp [isNameChar, isDigit]
  · simp [isNameChar, isUnderscore]

theorem confined_file {executionId modelName : String}
    (isExecution : isIdentity "be_" executionId = true) (isModel : Invocation.isModelName modelName = true) :
    Confined (executionId.toList ++ ('-' :: (modelName.toList ++ ".parquet".toList))) := by
  have long : 8 < (executionId.toList ++ ('-' :: (modelName.toList ++ ".parquet".toList))).length := by
    simp only [List.length_append, List.length_cons]
    change 8 < executionId.toList.length + (modelName.toList.length + 8 + 1)
    omega
  refine ⟨?_, ?_, ?_, ?_⟩
  · intro isFile
    rw [isFile] at long
    exact absurd long (by decide)
  · intro isFile
    rw [isFile] at long
    exact absurd long (by decide)
  · intro isFile
    rw [isFile] at long
    exact absurd long (by decide)
  · intro c listed
    refine ordinary_of_isNameChar ?_
    rcases List.mem_append.mp listed with listed | listed
    · exact isNameChar_of_isIdentity isExecution c listed
    · rcases List.mem_cons.mp listed with rfl | listed
      · rfl
      · rcases List.mem_append.mp listed with listed | listed
        · exact isNameChar_of_isModelName isModel c listed
        · have ahead : ∀ c ∈ ".parquet".toList, isNameChar c = true := by
            simp [isNameChar]
          exact ahead c listed

section Permanent

variable {invocation : Invocation} {unicode : Unicode} {location result modelName path : String}

theorem below_of_permanentParquetPath
    (accepted : (invocation.reading unicode).validateTableLocation location = .ok result)
    (isPath : (invocation.reading unicode).permanentParquetPath location modelName = .ok path) :
    Below result path := by
  rw [Invocation.permanentParquetPath] at isPath
  obtain ⟨executionId, _, isPath⟩ := bind_eq_ok.mp isPath
  split at isPath
  next => cases isPath
  next isExecution =>
    split at isPath
    next => cases isPath
    next isModel =>
      obtain ⟨_, validated, isPath⟩ := bind_eq_ok.mp isPath
      obtain rfl := Except.ok.inj (accepted.symm.trans validated)
      refine ⟨["data".toList,
        executionId.toList ++ ('-' :: (modelName.toList ++ ".parquet".toList))], by simp, ?_, ?_⟩
      · intro segment isSegment
        rcases List.mem_cons.mp isSegment with rfl | isSegment
        · refine ⟨by simp, by simp, by simp, fun c listed => ordinary_of_isNameChar ?_⟩
          have named : ∀ c ∈ "data".toList, isNameChar c = true := by
            simp [isNameChar]
          exact named c listed
        · obtain rfl := List.mem_singleton.mp isSegment
          exact confined_file (by simpa using isExecution) (by simpa using isModel)
      · rw [← Except.ok.inj isPath]
        apply String.toList_inj.mp
        simp

end Permanent

/-- The location is a path of plain segments properly below the one of the warehouse, and validation
leaves it as it is. -/
structure Governed (invocation : Invocation) (unicode : Unicode) (location : String) : Prop where
  confined : ∃ bucket warehouse base more,
    invocation.requiredEnvironment "OBJECT_STORE_BUCKET" = .ok bucket ∧
    invocation.requiredEnvironment "NESSIE_WAREHOUSE" = .ok warehouse ∧
    Spells bucket.toList base (Invocation.withoutSlashes warehouse).toList ∧
    location = locationOf bucket (base ++ more) ∧ base ≠ [] ∧ more ≠ [] ∧
    ∀ segment ∈ base ++ more, Confined segment
  stable : (invocation.reading unicode).validateTableLocation location = .ok location

section Governed

variable (invocation : Invocation) (unicode : Unicode)

theorem governed_of_validateTableLocation {location result : String}
    (accepted : (invocation.reading unicode).validateTableLocation location = .ok result) :
    Governed invocation unicode result := by
  obtain ⟨bucket, warehouse, base, more, isBucket, isWarehouse, baseRoot, root, below, rfl⟩ :=
    (validateTableLocation_eq_ok_iff invocation).mp accepted
  refine ⟨⟨bucket, warehouse, base, more, isBucket, isWarehouse, baseRoot.spelled, rfl,
    baseRoot.nonempty, below, root.confined⟩, ?_⟩
  refine (validateTableLocation_eq_ok_iff invocation).mpr
    ⟨bucket, warehouse, base, more, isBucket, isWarehouse, baseRoot, ?_, below, rfl⟩
  rw [withoutSlashes_locationOf root.nonempty root.confined]
  exact ⟨root.alone, root.ordinary, root.nonempty, root.confined, spells_locationOf⟩

theorem locations_confined :
    (∀ location result,
      (invocation.reading unicode).validateTableLocation location = .ok result →
        Governed invocation unicode result ∧ ∀ modelName path,
          (invocation.reading unicode).permanentParquetPath location modelName = .ok path →
            Below result path) ∧
    ∀ rows result, (invocation.reading unicode).extractTableLocation rows = .ok result →
      Governed invocation unicode result ∧ ∀ modelName path,
        (invocation.reading unicode).permanentParquetPath result modelName = .ok path →
          Below result path := by
  constructor
  · intro location result accepted
    exact ⟨governed_of_validateTableLocation invocation unicode accepted,
      fun modelName path isPath => below_of_permanentParquetPath accepted isPath⟩
  · intro rows result extracted
    rw [Invocation.extractTableLocation] at extracted
    split at extracted
    next found _ =>
      have governed := governed_of_validateTableLocation invocation unicode extracted
      exact ⟨governed, fun modelName path isPath =>
        below_of_permanentParquetPath governed.stable isPath⟩
    next => cases extracted

end Governed

/-- Unicode on ASCII texts. -/
def asciiUnicode : Unicode where
  lower text := text.map Char.toLower
  normalize text := text
  bracketedRefused _ := true

def lakeInvocation : Invocation where
  environ name := [("OBJECT_STORE_BUCKET", "lake"), ("NESSIE_WAREHOUSE", "s3://lake/warehouse/"),
    ("TRANSFORM_EXECUTION_ID", "be_00000000000000000000000000000000")].lookup name
  transformed := .error .notFound
  urlsplit _ := none
  unquote text := text
  upper text := text.toUpper
  isWord c := c.isAlphanum || c = '_'
  isDigit := Char.isDigit

theorem locations_confined_orders :
    (Governed lakeInvocation asciiUnicode "s3://lake/warehouse/bronze/orders" ∧
      Below "s3://lake/warehouse/bronze/orders"
        ("s3://lake/warehouse/bronze/orders/data/" ++
          "be_00000000000000000000000000000000-orders.parquet")) ∧
    Governed lakeInvocation asciiUnicode "s3://lake/warehouse/orders" := by
  obtain ⟨validated, extracted⟩ := locations_confined lakeInvocation asciiUnicode
  obtain ⟨governed, below⟩ := validated "S3://lake/warehouse/bronze/orders?#"
    "s3://lake/warehouse/bronze/orders" (by decide +kernel)
  have found : (lakeInvocation.reading asciiUnicode).extractTableLocation
      [[some "location = 's3://lake/warehouse/orders'"]] = .ok "s3://lake/warehouse/orders" := by
    decide +kernel
  exact ⟨⟨governed, below "orders" _ (by decide +kernel)⟩, (extracted _ _ found).1⟩

end PaymentsPlatform.TransformRuntime.RawToBronze
