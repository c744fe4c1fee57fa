import PaymentsPlatform.Library.Json
import PaymentsPlatform.TransformRuntime.ConnectionUris
import PaymentsPlatform.TransformRuntime.PostgresConnection

/-!
# Two readings of a URL

The requirements look at a URL through `urlsplit`, `parse_qs` and `int`, and a driver as connection
URIs are documented.  Of a URI of the documented form both find the same parts.  They differ in a
user that is encoded, in a plus and in a parameter that is given again or empty.
-/

namespace PaymentsPlatform.TransformRuntime.PostgresConnection

open ConnectionUris
open Ingestion
open Json (Ascii)
open Urls (hexadecimal hostinfo hostname parted partition partition_eq_iff partition_parted unquote
  unquoteToBytes unquotedParts userinfo)

/-! ## Decoding -/

theorem toNat_toUInt8 {c : Char} (ascii : c.toNat < 128) : c.toUInt8.toNat = c.toNat := by
  change c.toNat % 256 = c.toNat
  omega

theorem low_of_utf8Lead {lead low high more : Nat}
    (isLead : utf8Lead lead = some (low, high, more)) : 128 ≤ low := by
  unfold utf8Lead at isLead
  split_ifs at isLead <;> simp only [Option.some.injEq, Prod.mk.injEq] at isLead <;> omega

theorem decodeChars_none_cons (byte : UInt8) (rest : List UInt8) :
    ∃ before after, decodeChars none (byte :: rest) = before ++ decodeChars after rest ∧
      (∀ state ∈ after, 128 ≤ state.2.1) ∧ (byte.toNat < 128 → Char.ofNat byte.toNat ∈ before) := by
  rw [decodeChars]
  dsimp only
  split
  next ascii => exact ⟨[Char.ofNat byte.toNat], none, rfl, by simp, by simp⟩
  next notAscii =>
    split
    next => exact ⟨[Char.ofNat 0xFFFD], none, rfl, by simp, by omega⟩
    next low high more isLead =>
      exact ⟨[], some _, rfl, by simpa using low_of_utf8Lead isLead, by omega⟩

theorem decodeChars_some_cons {state : Nat × Nat × Nat × Nat} (valid : 128 ≤ state.2.1)
    (byte : UInt8) (rest : List UInt8) :
    ∃ before after, decodeChars (some state) (byte :: rest) = before ++ decodeChars after rest ∧
      (∀ state ∈ after, 128 ≤ state.2.1) ∧ (byte.toNat < 128 → Char.ofNat byte.toNat ∈ before) := by
  obtain ⟨value, low, high, more⟩ := state
  obtain ⟨before, after, decoded, kept, shown⟩ := decodeChars_none_cons byte rest
  dsimp only at valid
  by_cases inRange : low ≤ byte.toNat ∧ byte.toNat ≤ high
  · rw [decodeChars]
    dsimp only
    rw [if_pos inRange]
    split
    next => exact ⟨[_], none, rfl, by simp, by omega⟩
    next => exact ⟨[], some _, rfl, by simp, by omega⟩
  · refine ⟨Char.ofNat 0xFFFD :: before, after, ?_, kept,
      fun ascii => List.mem_cons_of_mem _ (shown ascii)⟩
    rw [List.cons_append, ← decoded]
    rw [decodeChars, decodeChars]
    dsimp only
    rw [if_neg inRange]
    split
    next => rfl
    next =>
      cases utf8Lead byte.toNat <;> rfl
theorem mem_decodeChars {byte : UInt8} (ascii : byte.toNat < 128) {bytes : List UInt8}
    (listed : byte ∈ bytes) {expected : Option (Nat × Nat × Nat × Nat)}
    (valid : ∀ state ∈ expected, 128 ≤ state.2.1) :
    Char.ofNat byte.toNat ∈ decodeChars expected bytes := by
  induction bytes generalizing expected with
  | nil => cases listed
  | cons first rest ih =>
      obtain ⟨before, after, decoded, kept, shown⟩ : ∃ before after,
          decodeChars expected (first :: rest) = before ++ decodeChars after rest ∧
            (∀ state ∈ after, 128 ≤ state.2.1) ∧
              (first.toNat < 128 → Char.ofNat first.toNat ∈ before) := by
        cases expected with
        | none => exact decodeChars_none_cons first rest
        | some state => exact decodeChars_some_cons (valid state rfl) first rest
      rw [decoded, List.mem_append]
      rcases List.mem_cons.mp listed with rfl | inRest
      · exact .inl (shown ascii)
      · exact .inr (ih inRest kept)

theorem mem_unquoteToBytes {c : Char} (notSign : c ≠ '%') (noDigit : hexadecimal c = none)
    {text : List Char} (listed : c ∈ text) : c.toUInt8 ∈ unquoteToBytes text := by
  induction text using Urls.unquoteToBytes.induct with
  | case1 first second rest high low isLow isHigh ih =>
      rw [unquoteToBytes, isHigh, isLow]
      rcases List.mem_cons.mp listed with rfl | listed
      · exact absurd rfl notSign
      rcases List.mem_cons.mp listed with rfl | listed
      · rw [noDigit] at isHigh
        cases isHigh
      rcases List.mem_cons.mp listed with rfl | listed
      · rw [noDigit] at isLow
        cases isLow
      · exact List.mem_cons_of_mem _ (ih listed)
  | case2 first second rest noCode ih =>
      rw [unquoteToBytes]
      split
      next high low isHigh isLow => exact absurd isLow (noCode high low isHigh)
      next =>
        rcases List.mem_cons.mp listed with rfl | listed
        · exact absurd rfl notSign
        · exact List.mem_cons_of_mem _ (ih listed)
  | case3 first rest noSign ih =>
      rw [unquoteToBytes]
      · rcases List.mem_cons.mp listed with rfl | listed
        · exact List.mem_cons_self
        · exact List.mem_cons_of_mem _ (ih listed)
      · exact noSign
  | case4 => cases listed

theorem mem_unquotedParts {c : Char} (notSign : c ≠ '%') (noDigit : hexadecimal c = none)
    {run : List Char} (isAscii : Ascii run) {text : List Char} (listed : c ∈ run ++ text) :
    c ∈ unquotedParts run text := by
  have mem_decoded {run : List Char} (isAscii : Ascii run) (listed : c ∈ run) :
      c ∈ decodeChars none (unquoteToBytes run) := by
    have shown := @mem_decodeChars c.toUInt8
      (by rw [toNat_toUInt8 (isAscii c listed)]; exact isAscii c listed)
      _ (mem_unquoteToBytes notSign noDigit listed) none (by simp)
    rwa [toNat_toUInt8 (isAscii c listed), Char.ofNat_toNat] at shown
  induction text generalizing run with
  | nil =>
      rw [List.append_nil] at listed
      exact mem_decoded isAscii listed
  | cons first rest ih =>
      rw [unquotedParts]
      split
      next ascii =>
        refine ih (fun d inRun => ?_) (by simpa using listed)
        rcases List.mem_append.mp inRun with inRun | isFirst
        · exact isAscii d inRun
        · rwa [List.mem_singleton.mp isFirst]
      next =>
        rw [List.mem_append, List.mem_cons]
        rcases List.mem_append.mp listed with inRun | listed
        · exact .inl (mem_decoded isAscii inRun)
        rcases List.mem_cons.mp listed with isFirst | inRest
        · exact .inr (.inl isFirst)
        · exact .inr (.inr (ih (fun _ => by simp) inRest))

theorem mem_unquote {c : Char} (notSign : c ≠ '%') (noDigit : hexadecimal c = none)
    {text : List Char} (listed : c ∈ text) : c ∈ unquote text := by
  rw [unquote]
  split
  next => exact mem_unquotedParts notSign noDigit (fun _ => by simp) listed
  next => exact listed

theorem hexadecimal_eq_none {c : Char} (notAscii : 128 ≤ c.toNat) : hexadecimal c = none := by
  have noDigit : c.isDigit = false := by
    rw [Char.isDigit, Bool.and_eq_false_iff, decide_eq_false_iff_not, decide_eq_false_iff_not]
    right
    change ¬ c.toNat ≤ 57
    omega
  rw [hexadecimal, if_neg (by simp [noDigit]), if_neg, if_neg]
  · rintro ⟨-, above⟩
    change c.toNat ≤ 70 at above
    omega
  · rintro ⟨-, above⟩
    change c.toNat ≤ 102 at above
    omega

theorem isAscii_of_unquote {part : List Char} (isAscii : Ascii (unquote part)) : Ascii part := by
  intro c listed
  by_contra notAscii
  have notSign : c ≠ '%' := by
    rintro rfl
    exact notAscii (by decide)
  exact notAscii (isAscii c (mem_unquote notSign (hexadecimal_eq_none (by omega)) listed))

theorem unquotedParts_of_isAscii {text : List Char} (isAscii : Ascii text) (run : List Char) :
    unquotedParts run text = decodeChars none (unquoteToBytes (run ++ text)) := by
  induction text generalizing run with
  | nil => rw [unquotedParts, List.append_nil]
  | cons c rest ih =>
      rw [unquotedParts, if_pos (isAscii c List.mem_cons_self),
        ih fun d listed => isAscii d (List.mem_cons_of_mem c listed)]
      simp

theorem unquoteToBytes_of_notMem {text : List Char} (plain : '%' ∉ text) :
    unquoteToBytes text = text.map Char.toUInt8 := by
  induction text with
  | nil => rw [unquoteToBytes, List.map_nil]
  | cons c rest ih =>
      rw [unquoteToBytes]
      · rw [ih fun listed => plain (List.mem_cons_of_mem c listed), List.map_cons]
      · intro first second later isSign
        exact absurd (isSign ▸ List.mem_cons_self) plain

theorem decodeChars_of_isAscii {text : List Char} (isAscii : Ascii text) :
    decodeChars none (text.map Char.toUInt8) = text := by
  induction text with
  | nil => rfl
  | cons c rest ih =>
      have ascii := isAscii c List.mem_cons_self
      rw [List.map_cons, decodeChars]
      dsimp only
      rw [toNat_toUInt8 ascii, if_pos ascii, Char.ofNat_toNat,
        ih fun d listed => isAscii d (List.mem_cons_of_mem c listed)]
      rfl

theorem unquote_of_isAscii {part : List Char} (isAscii : Ascii part) :
    unquote part = decodeChars none (unquoteToBytes part) := by
  rw [unquote]
  split
  next => exact unquotedParts_of_isAscii isAscii []
  next plain => rw [unquoteToBytes_of_notMem plain, decodeChars_of_isAscii isAscii]

theorem utf8EncodeChar_of_ascii {c : Char} (ascii : c.toNat < 128) :
    String.utf8EncodeChar c = [c.toUInt8] := by
  rw [utf8EncodeChar_eq, if_pos (by omega)]
  rfl

theorem unquoteToBytes_of_coded {part : List Char} {bytes : List UInt8}
    (coded : Coded part bytes) (isAscii : Ascii part) : unquoteToBytes part = bytes := by
  induction coded with
  | nil => rw [unquoteToBytes]
  | byte isHigh isLow coded ih =>
      rw [unquoteToBytes, isHigh, isLow]
      exact congrArg _ (ih fun d listed => isAscii d (by simp [listed]))
  | @character c rest bytes notSign coded ih =>
      rw [unquoteToBytes, utf8EncodeChar_of_ascii (isAscii c List.mem_cons_self),
        ih fun d listed => isAscii d (List.mem_cons_of_mem c listed)]
      · rfl
      · exact fun _ _ _ isSign => absurd isSign notSign

theorem unquote_of_decode {part text : List Char} (isAscii : Ascii part)
    (decoded : decode part = some text) : unquote part = text := by
  obtain ⟨coded, isText⟩ := coded_of_decode decoded
  rw [unquote_of_isAscii isAscii, unquoteToBytes_of_coded coded isAscii, isText]

theorem subset_of_coded {c : Char} (notSign : c ≠ '%') (noDigit : hexadecimal c = none)
    {part : List Char} {bytes : List UInt8} (coded : Coded part bytes) (listed : c ∈ part) :
    String.utf8EncodeChar c ⊆ bytes := by
  induction coded with
  | nil => cases listed
  | byte isHigh isLow coded ih =>
      rcases List.mem_cons.mp listed with rfl | listed
      · exact absurd rfl notSign
      rcases List.mem_cons.mp listed with rfl | listed
      · simp [noDigit] at isHigh
      rcases List.mem_cons.mp listed with rfl | listed
      · simp [noDigit] at isLow
      · exact List.Subset.trans (ih listed) (List.subset_cons_self _ _)
  | character notSign coded ih =>
      rcases List.mem_cons.mp listed with rfl | listed
      · exact List.subset_append_left _ _
      · exact List.Subset.trans (ih listed) (List.subset_append_right _ _)

theorem exists_mem_utf8EncodeChar {c : Char} (notAscii : 128 ≤ c.toNat) :
    ∃ byte ∈ String.utf8EncodeChar c, 128 ≤ byte.toNat := by
  refine ⟨UInt8.ofNat (c.toNat % 0x40 + 0x80), ?_, ?_⟩
  · rw [utf8EncodeChar_eq, if_neg (by omega)]
    split_ifs <;> simp
  · rw [toNat_ofNat_of_lt (by omega)]
    omega

theorem isAscii_of_decode {part text : List Char} (isAscii : Ascii text)
    (decoded : decode part = some text) : Ascii part := by
  intro c listed
  by_contra notAscii
  have notSign : c ≠ '%' := by
    rintro rfl
    exact notAscii (by decide)
  obtain ⟨byte, inCode, high⟩ := exists_mem_utf8EncodeChar (c := c) (by omega)
  have inText := subset_of_coded notSign (hexadecimal_eq_none (by omega))
    (coded_of_decode decoded).1 listed inCode
  obtain ⟨d, isCharacter, inCode⟩ := List.mem_flatMap.mp inText
  rw [utf8EncodeChar_of_ascii (isAscii d isCharacter), List.mem_singleton] at inCode
  have low := isAscii d isCharacter
  rw [← toNat_toUInt8 low, ← inCode] at low
  omega

theorem unquotePlus_of_notMem {part : List Char} (noPlus : '+' ∉ part) :
    unquotePlus part = unquote part := by
  have same : ∀ c ∈ part, (if c = '+' then ' ' else c) = c := by
    intro c listed
    refine if_neg ?_
    rintro rfl
    exact noPlus listed
  rw [unquotePlus, List.map_congr_left same, List.map_id']

theorem unquotePlus_of_decode {part text : List Char} (decoded : decode part = some text)
    (isAscii : Ascii text) (noPlus : '+' ∉ text) : unquotePlus part = text := by
  have unquoted := unquote_of_decode (isAscii_of_decode isAscii decoded) decoded
  rw [unquotePlus_of_notMem, unquoted]
  intro inPart
  exact noPlus (unquoted ▸ mem_unquote (by decide) (by decide) inPart)

theorem eq_of_unquotePlus {part text : List Char} (decoded : decode part = some text)
    (isAscii : Ascii (unquotePlus part)) (noSpace : ' ' ∉ unquotePlus part) :
    unquotePlus part = text := by
  have noPlus : '+' ∉ part := by
    intro inPart
    refine noSpace (mem_unquote (by decide) (by decide) ?_)
    exact List.mem_map.mpr ⟨'+', inPart, if_pos rfl⟩
  rw [unquotePlus_of_notMem noPlus] at isAscii ⊢
  exact unquote_of_decode (isAscii_of_unquote isAscii) decoded

/-! ## The parts of a URI -/

section Written

variable {uri : Uri} {keywords : List String} (written : uri.Written keywords)

def netloc (uri : Uri) : List Char := parted '@' uri.userinfo (some uri.hostspec)

def path (uri : Uri) : List Char := uri.dbname.elim [] ('/' :: ·)

theorem text_eq (uri : Uri) : uri.text = "postgresql".toList ++ ':' :: '/' :: '/' ::
    (netloc uri ++ parted '?' (path uri) (joinParams uri.params)) := by
  have isScheme : scheme = "postgresql".toList ++ [':', '/', '/'] := rfl
  rw [Uri.text, netloc, path, isScheme]
  simp only [parted, Option.elim_some, List.append_assoc, List.cons_append, List.nil_append]

include written

theorem visible_userinfo : ∀ c ∈ uri.userinfo, ' ' < c := by
  intro c listed
  rw [Uri.userinfo, parted, List.mem_append] at listed
  rcases listed with inUser | inPassword
  · exact (written.user c inUser).1
  · cases isPassword : uri.password with
    | none => simp [isPassword] at inPassword
    | some password =>
        rw [isPassword, Option.elim_some] at inPassword
        rcases List.mem_cons.mp inPassword with rfl | inPassword
        · decide
        · exact (written.password password isPassword c inPassword).1

theorem visible_netloc : ∀ c ∈ netloc uri, ' ' < c := by
  intro c listed
  rw [netloc, parted, List.mem_append, Option.elim_some] at listed
  rcases listed with inUserinfo | inHostspec
  · exact visible_userinfo written c inUserinfo
  · rcases List.mem_cons.mp inHostspec with rfl | inHostspec
    · decide
    · exact (written.hostspec c inHostspec).1

theorem plain_rest : IsPlain ['#'] (parted '?' (path uri) (joinParams uri.params)) := by
  intro c listed
  rw [parted, List.mem_append] at listed
  rcases listed with inPath | inQuery
  · rw [path] at inPath
    cases isDbname : uri.dbname with
    | none => simp [isDbname] at inPath
    | some dbname =>
        rw [isDbname, Option.elim_some] at inPath
        rcases List.mem_cons.mp inPath with rfl | inDbname
        · decide
        · obtain ⟨visible, other⟩ := written.dbname dbname isDbname c inDbname
          exact ⟨visible, fun isFragment => other (List.mem_cons_of_mem _ isFragment)⟩
  · cases isQuery : joinParams uri.params with
    | none => simp [isQuery] at inQuery
    | some query =>
        rw [isQuery, Option.elim_some] at inQuery
        rcases List.mem_cons.mp inQuery with rfl | inQuery
        · decide
        · rcases mem_joinParams isQuery inQuery with rfl | rfl | ⟨parameter, isParameter, inside⟩
          · decide
          · decide
          · obtain ⟨name, value⟩ := written.params parameter isParameter
            have plain : ' ' < c ∧ c ∉ "&=#".toList := inside.elim (name c) (value c)
            exact ⟨plain.1, fun isFragment =>
              plain.2 (List.mem_cons_of_mem _ (List.mem_cons_of_mem _ isFragment))⟩

theorem visible_text : ∀ c ∈ uri.text, ' ' < c := by
  intro c listed
  rw [text_eq, List.mem_append, List.mem_cons, List.mem_cons, List.mem_cons,
    List.mem_append] at listed
  rcases listed with inScheme | rfl | rfl | rfl | inNetloc | inRest
  · have plain : IsPlain [] "postgresql".toList := by decide
    exact (plain c inScheme).1
  · decide
  · decide
  · decide
  · exact visible_netloc written c inNetloc
  · exact (plain_rest written c inRest).1

theorem notMem_netloc {c : Char} (delimiter : Urls.isDelimiter c) : c ∉ netloc uri := by
  have among : c ∈ "/?#@".toList := by
    simp only [Urls.isDelimiter, decide_eq_true_iff] at delimiter
    exact List.mem_append_left ['@'] delimiter
  have other : c ≠ '@' := by
    rintro rfl
    revert delimiter
    decide
  rw [netloc, parted, List.mem_append, Option.elim_some, List.mem_cons]
  rintro (inUserinfo | isSign | inHostspec)
  · exact written.notMem_userinfo among inUserinfo
  · exact other isSign
  · exact written.hostspec.notMem among inHostspec

omit written in
theorem isDelimiter_head (uri : Uri) :
    ∀ c ∈ (parted '?' (path uri) (joinParams uri.params)).head?, Urls.isDelimiter c := by
  intro c isHead
  cases isDbname : uri.dbname with
  | some dbname =>
      rw [path, isDbname] at isHead
      obtain rfl := Option.some.inj isHead
      decide
  | none =>
      cases isQuery : joinParams uri.params with
      | some query =>
          rw [path, isDbname, isQuery] at isHead
          obtain rfl := Option.some.inj isHead
          decide
      | none =>
          rw [path, isDbname, isQuery] at isHead
          cases isHead

theorem notMem_path : '?' ∉ path uri := by
  rw [path]
  cases isDbname : uri.dbname with
  | none => exact List.not_mem_nil
  | some dbname =>
      rw [Option.elim_some, List.mem_cons, not_or]
      exact ⟨by decide, (written.dbname dbname isDbname).notMem (by decide)⟩

theorem urlsplit_text (unicode : Urls.Unicode) : unicode.urlsplit uri.text =
    if unicode.netlocRefused (netloc uri) then none
    else some ⟨"postgresql".toList, netloc uri, path uri, (joinParams uri.params).getD [], []⟩ := by
  have cleaned :
      (uri.text.dropWhile Urls.isControlOrSpace).filter (!Urls.isUnsafe ·) = uri.text := by
    have visible := visible_text written
    rw [List.dropWhile_eq_self_iff.mpr, List.filter_eq_self.mpr]
    · intro c listed
      have above : 32 < c.toNat := visible c listed
      simp only [Urls.isUnsafe, Bool.not_eq_true', decide_eq_false_iff_not]
      intro isUnsafe
      revert above
      simp only [List.mem_cons, List.not_mem_nil, or_false] at isUnsafe
      rcases isUnsafe with rfl | rfl | rfl <;> decide
    · intro nonempty
      have above : 32 < (uri.text[0]).toNat := visible _ (List.getElem_mem nonempty)
      simp only [Urls.isControlOrSpace, decide_eq_true_iff]
      omega
  have named : "postgresql".toList ≠ [] := by decide
  have placed : netloc uri ≠ [] := by simp [netloc, parted]
  have isScheme := (Urls.splitScheme_eq_iff named).mpr ⟨"postgresql".toList, text_eq uri, by decide, by decide, by decide⟩
  have isNetloc := (Urls.splitNetloc_eq_iff placed).mpr
    ⟨rfl, fun c listed => Bool.eq_false_iff.mpr fun delimiter =>
      notMem_netloc written delimiter listed, isDelimiter_head uri⟩
  have isFragment := Urls.partition_of_notMem ((plain_rest written).notMem (c := '#') (by simp))
  have isQuery := partition_parted (notMem_path written) (joinParams uri.params)
  rw [unicode.urlsplit_of_parts (cleaned.symm ▸ isScheme) isNetloc isFragment isQuery]
  rfl

theorem rpartition_netloc : Urls.rpartition (netloc uri) = (some uri.userinfo, uri.hostspec) := by
  have reversed : (netloc uri).reverse =
      parted '@' uri.hostspec.reverse (some uri.userinfo.reverse) := by
    simp [netloc, parted]
  have noSign : '@' ∉ uri.hostspec.reverse := by
    rw [List.mem_reverse]
    exact written.hostspec.notMem (by decide)
  rw [Urls.rpartition, reversed, partition_parted noSign]
  simp

theorem userinfo_netloc : userinfo (netloc uri) = (some uri.user, uri.password) := by
  rw [userinfo, rpartition_netloc written]
  dsimp only
  rw [Uri.userinfo, partition_parted (written.user.notMem (by decide))]

theorem host_ne_nil (named : (hostinfo (netloc uri)).1 ≠ []) : uri.host ≠ [] := by
  intro noHost
  rw [hostinfo, rpartition_netloc written] at named
  dsimp only at named
  have entries : uri.entries ≠ [] := List.splitOn_ne_nil ',' uri.hostspec
  have joined := @List.intercalate_splitOn _ uri.hostspec _ _ ','
  rw [Uri.host] at noHost
  obtain ⟨first, rest, isEntries⟩ := List.exists_cons_of_ne_nil entries
  rw [isEntries] at noHost
  cases rest with
  | cons second rest => simp at noHost
  | nil =>
      have isFirst : first = uri.hostspec := by
        rw [← joined]
        change first = [','].intercalate uri.entries
        rw [isEntries]
        simp
      rw [List.map_singleton, List.intercalate_singleton] at noHost
      rcases splitHost_of_isHost (written.hosts first (isEntries ▸ List.mem_cons_self)) with
        bracketed | ⟨noBracket, isSplit⟩
      · exact bracketed noHost
      · rw [← isFirst, Urls.partition_of_notMem noBracket] at named
        rw [isSplit] at noHost
        exact named noHost

theorem parseQsl_query : parseQsl ((joinParams uri.params).getD []) =
    uri.params.filterMap fun parameter => if parameter.2 = [] then none
      else some (unquotePlus parameter.1, unquotePlus parameter.2) := by
  by_cases nonempty : uri.params = []
  · rw [nonempty]
    rfl
  · rw [joinParams, if_neg nonempty, Option.getD_some, parseQsl,
      splitOn_fields written.separated nonempty, List.filterMap_map]
    refine List.filterMap_congr fun parameter listed => ?_
    rw [Function.comp_apply, partition_joinField written.separated listed]

theorem exists_mem_values {keyword : String} {text : List Char}
    (plain : Ascii keyword.toList ∧ ' ' ∉ keyword.toList) (noAlias : keyword ≠ "ssl")
    (found : text ∈ parseQs ((joinParams uri.params).getD []) keyword) :
    ∃ part value, part ≠ [] ∧ decode part = some value ∧ unquotePlus part = text ∧
      value ∈ uri.values keyword := by
  rw [parseQs, parseQsl_query written, List.filterMap_filterMap] at found
  obtain ⟨parameter, listed, isFound⟩ := List.mem_filterMap.mp found
  split at isFound
  next => cases isFound
  next nonempty =>
    rw [Option.bind_some] at isFound
    split at isFound
    next isKeyword =>
      obtain ⟨hasName, hasValue⟩ := written.decoded parameter listed
      obtain ⟨name, isName⟩ := Option.isSome_iff_exists.mp hasName
      obtain ⟨value, isValue⟩ := Option.isSome_iff_exists.mp hasValue
      dsimp only at isKeyword
      have same : unquotePlus parameter.1 = name := by
        refine eq_of_unquotePlus isName ?_ ?_ <;> rw [isKeyword]
        · exact plain.1
        · exact plain.2
      refine ⟨parameter.2, value, nonempty, isValue, Option.some.inj isFound, ?_⟩
      refine List.mem_filterMap.mpr ⟨(name, value), List.mem_append_right _ ?_, ?_⟩
      · refine List.mem_map.mpr ⟨parameter, listed, ?_⟩
        rw [isName, isValue, Option.getD_some, Option.getD_some, Uri.translate, if_neg]
        intro isAlias
        obtain ⟨rfl, -⟩ := Prod.mk.inj isAlias
        exact noAlias (String.toList_inj.mp (isKeyword.symm.trans same))
      · rw [if_pos (same.symm.trans isKeyword)]
    next => cases isFound

end Written

/-! ## Values -/

section Values

variable {uri : Uri} {keyword : String} {text : List Char}

theorem value_of_once (once : (uri.values keyword).length < 2)
    (listed : text ∈ uri.values keyword) : uri.value keyword = some text := by
  rw [Uri.value]
  cases isValues : uri.values keyword with
  | nil => simp [isValues] at listed
  | cons first rest =>
      rw [isValues] at once listed
      obtain rfl : rest = [] := List.eq_nil_of_length_eq_zero (by
        rw [List.length_cons] at once
        omega)
      rw [List.mem_singleton.mp listed]
      rfl

theorem isSome_value (given : uri.values keyword ≠ []) : ∃ text, uri.value keyword = some text :=
  ⟨_, List.getLast?_eq_some_getLast given⟩

theorem decode_ne_nil {part : List Char} (nonempty : part ≠ [])
    (decoded : decode part = some text) : text ≠ [] := by
  rintro rfl
  have coded := (coded_of_decode decoded).1
  generalize isBytes : utf8 [] = bytes at coded
  cases coded with
  | nil => exact nonempty rfl
  | byte => cases isBytes
  | @character c rest bytes notSign coded =>
      have length := congrArg List.length isBytes
      rw [List.length_append, String.length_utf8EncodeChar] at length
      have positive := c.utf8Size_pos
      change 0 = _ at length
      omega

theorem exists_mem_values_of_part {keywords : List String} (written : uri.Written keywords)
    {part : List Char} (listed : (keyword, part) ∈ uri.hierarchical) :
    ∃ value, decode part = some value ∧ value ≠ [] ∧ value ∈ uri.values keyword := by
  obtain ⟨value, isValue⟩ := Option.isSome_iff_exists.mp (written.hierarchical _ listed)
  have nonempty : part ≠ [] := by simpa using (List.mem_filter.mp listed).2
  refine ⟨value, isValue, decode_ne_nil nonempty isValue, ?_⟩
  refine List.mem_filterMap.mpr ⟨(keyword.toList, value), List.mem_append_left _ ?_, if_pos rfl⟩
  exact List.mem_map.mpr ⟨_, listed, by rw [isValue, Option.getD_some]⟩

end Values

/-! ## Numbers -/

section Numbers

variable {runtime : Runtime} {digits : List Char}

theorem isDigit_of_isNumeral (numeral : IsNumeral digits) {c : Char} (listed : c ∈ digits) :
    c.isDigit :=
  List.all_eq_true.mp numeral.2 c listed

theorem toNat_of_isDigit {c : Char} (isDigit : c.isDigit) : 48 ≤ c.toNat ∧ c.toNat ≤ 57 := by
  rw [Char.isDigit, Bool.and_eq_true, decide_eq_true_iff, decide_eq_true_iff] at isDigit
  exact isDigit

theorem isAscii_of_isNumeral (numeral : IsNumeral digits) : Ascii digits := by
  intro c listed
  have range := toNat_of_isDigit (isDigit_of_isNumeral numeral listed)
  omega

theorem notMem_of_isNumeral (numeral : IsNumeral digits) {c : Char} (other : c.isDigit = false) :
    c ∉ digits := by
  intro listed
  have isDigit := isDigit_of_isNumeral numeral listed
  rw [other] at isDigit
  cases isDigit

theorem digit_of_isDigit {c : Char} (isDigit : c.isDigit) :
    runtime.digit c = some (c.toNat - '0'.toNat) := by
  have range := toNat_of_isDigit isDigit
  rw [runtime.digit_ascii c (by omega), if_pos isDigit]

theorem number_of_isNumeral (numeral : IsNumeral digits) :
    runtime.number digits = number digits := by
  refine List.foldl_ext _ _ 0 fun value c listed => ?_
  rw [digit_of_isDigit (isDigit_of_isNumeral numeral listed), Option.getD_some]

theorem isBlank_of_isDigit {c : Char} (isDigit : c.isDigit) : Runtime.isBlank c = false := by
  have range := toNat_of_isDigit isDigit
  have noSpace : isSpace c = false := by
    simp only [isSpace, decide_eq_false_iff_not, List.mem_cons, List.not_mem_nil, or_false]
    omega
  rw [Runtime.isBlank, noSpace, Bool.false_and]

theorem splitSign_of_isNumeral (numeral : IsNumeral digits) :
    Runtime.splitSign digits = (false, digits) := by
  unfold Runtime.splitSign
  split
  next rest => exact absurd (isDigit_of_isNumeral numeral List.mem_cons_self) (by decide)
  next rest => exact absurd (isDigit_of_isNumeral numeral List.mem_cons_self) (by decide)
  next => rfl

theorem int_of_isNumeral (numeral : IsNumeral digits) {value : Int}
    (isInt : runtime.int digits = some value) : value = number digits := by
  have stripped : (digits.dropWhile Runtime.isBlank).rdropWhile Runtime.isBlank = digits := by
    have filled : ∀ c ∈ digits, ¬ Runtime.isBlank c = true := by
      intro c listed
      rw [isBlank_of_isDigit (isDigit_of_isNumeral numeral listed)]
      exact Bool.false_ne_true
    rw [List.dropWhile_eq_self_iff.mpr fun nonempty => filled _ (List.getElem_mem nonempty),
      List.rdropWhile_eq_self_iff.mpr fun nonempty => filled _ (List.getLast_mem nonempty)]
  have groups : digits.splitOn '_' = [digits] :=
    List.splitOn_eq_singleton (notMem_of_isNumeral numeral (by decide))
  simp only [Runtime.int, stripped, splitSign_of_isNumeral numeral, groups] at isInt
  split at isInt
  next =>
    rw [← Option.some.inj isInt, if_neg Bool.false_ne_true, List.flatten_cons, List.flatten_nil,
      List.append_nil, number_of_isNumeral numeral]
  next => cases isInt

theorem isAscii_timeoutOption (numeral : IsNumeral digits) : Ascii (timeoutOption digits) := by
  have stem : Ascii "-c statement_timeout=".toList := by decide
  intro c listed
  rcases List.mem_append.mp listed with inStem | inDigits
  · exact stem c inStem
  · exact isAscii_of_isNumeral numeral c inDigits

theorem notMem_timeoutOption (numeral : IsNumeral digits) : '+' ∉ timeoutOption digits := by
  have stem : '+' ∉ "-c statement_timeout=".toList := by decide
  intro listed
  rcases List.mem_append.mp listed with inStem | inDigits
  · exact stem inStem
  · exact notMem_of_isNumeral numeral (by decide) inDigits

theorem statementTimeout_timeoutOption (numeral : IsNumeral digits) :
    runtime.statementTimeout (timeoutOption digits) = runtime.int digits := by
  have decimal : digits.all runtime.isDecimal := by
    refine List.all_eq_true.mpr fun c listed => ?_
    rw [Runtime.isDecimal, digit_of_isDigit (isDigit_of_isNumeral numeral listed)]
    rfl
  have dropped : (timeoutOption digits).drop Runtime.statementTimeoutStem.length = digits :=
    List.drop_left
  have starts : Runtime.statementTimeoutStem.isPrefixOf (timeoutOption digits) :=
    List.isPrefixOf_iff_prefix.mpr (List.prefix_append _ _)
  rw [Runtime.statementTimeout, dropped]
  exact if_pos ⟨starts, numeral.1, decimal⟩

end Numbers

end PaymentsPlatform.TransformRuntime.PostgresConnection
