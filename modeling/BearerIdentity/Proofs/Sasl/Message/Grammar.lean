import BearerIdentity.Proofs.Sasl.Message.Attributes
import BearerIdentity.Proofs.Sasl.Message.Header
import BearerIdentity.Proofs.Text.Utf8

set_option autoImplicit false

/- Which byte strings are messages and what they mean. The grammar does not mention the reader: a
derivation gives a flag, an identity and attributes, and the message is told from the last two. The
reader accepts what the grammar derives, reads what that means, and calls everything else malformed. -/

namespace BearerIdentity.BearerMessage

def layout (flag : Char) (identity : List Char) (entries : List (String × String)) : List Char :=
  flag :: ',' :: identity ++ ',' :: delimiter :: (entries.flatMap fun (key, value) => encodeAttribute key value)
    ++ [delimiter]

/-- A byte string, and the parts that the grammar finds in it. -/
structure Derives (bytes : Bytes) (flag : Char) (identity : List Char) (entries : List (String × String)) :
    Prop where
  written : bytes = (layout flag identity entries).flatMap String.utf8EncodeChar
  flag : flag = 'n' ∨ flag = 'y'
  identity : identity = [] ∨ ∃ escaped, identity = 'a' :: '=' :: escaped ∧ ',' ∉ escaped ∧ Escaped escaped
  nonempty : entries ≠ []
  keys : ∀ key value, (key, value) ∈ entries → IsKey key
  values : ∀ key value, (key, value) ∈ entries → delimiter ∉ value.toList
  bearers : ∀ value, ("auth", value) ∈ entries → ∃ token, Bears value token
  bearer : ∃ value, ("auth", value) ∈ entries

/-- What the parts say. Of repeated hosts and tokens the last one counts. -/
structure Means (identity : List Char) (entries : List (String × String)) (message : BearerMessage) :
    Prop where
  authzid : Names identity message.authzid
  token : ∃ value, entries.reverse.lookup "auth" = some value ∧ Bears value message.token
  host : message.host = entries.reverse.lookup "host"
  extensions : message.extensions = entries.filter isExtension

theorem attributesText?_eq_some_iff (text body : List Char) :
    attributesText? text = some body ↔ text = delimiter :: (body ++ [delimiter, delimiter]) := by
  cases text with
  | nil => simp [attributesText?]
  | cons c rest =>
    rw [attributesText?]
    by_cases start : c = delimiter
    · rw [if_pos start, Split.beforeSuffix?_eq_some_iff, start, List.cons.injEq]
      simp
    · simp [start]

/-- A key holds no delimiter. -/
theorem delimiter_not_mem_written_iff {entry : String × String} (sound : IsKey entry.1) :
    delimiter ∉ written entry ↔ delimiter ∉ entry.2.toList := by
  have inKey := sound.not_mem isLetter_delimiter
  have other : delimiter ≠ '=' := by decide
  simp [written, inKey, other]

theorem flatMap_written (entries : List (String × String)) :
    (entries.map written).flatMap (· ++ [delimiter]) =
      entries.flatMap fun (key, value) => encodeAttribute key value := by
  rw [List.flatMap_map]
  rfl

/-- The attributes are what stands between delimiters. -/
theorem onEvery_eq_map_written_iff (body : List Char) {entries : List (String × String)}
    (readable : ∀ entry ∈ entries, Readable entry) :
    Split.onEvery (· == delimiter) body = entries.map written ↔
      entries ≠ [] ∧ (∀ entry ∈ entries, delimiter ∉ entry.2.toList) ∧
        body ++ [delimiter] = entries.flatMap fun (key, value) => encodeAttribute key value := by
  have clear : (∀ text ∈ entries.map written, delimiter ∉ text) ↔
      ∀ entry ∈ entries, delimiter ∉ entry.2.toList := by
    rw [List.forall_mem_map]
    exact forall₂_congr fun entry member => delimiter_not_mem_written_iff (readable entry member).key
  rw [Split.onEvery_eq_iff, clear, flatMap_written, ne_eq, List.map_eq_nil_iff]

theorem parseText_eq_ok_iff (text : List Char) (message : BearerMessage) :
    parseText text = .ok message ↔
      ∃ authzid body entries token, parseHeader text = .ok (authzid, delimiter :: (body ++ [delimiter, delimiter])) ∧
        Split.onEvery (· == delimiter) body = entries.map written ∧ (∀ entry ∈ entries, Readable entry) ∧
        (collected entries).token = some token ∧
        message = ⟨authzid, (collected entries).host, token, (collected entries).extensions.reverse⟩ := by
  constructor
  · intro read
    cases header : parseHeader text with
    | error flaw => simp [parseText, header, bind, Except.bind] at read
    | ok named =>
      obtain ⟨authzid, rest⟩ := named
      cases between : attributesText? rest with
      | none => simp [parseText, header, between, bind, Except.bind] at read
      | some body =>
        cases gathered : (Split.onEvery (· == delimiter) body).foldlM Attributes.read ⟨none, none, []⟩ with
        | error flaw => simp [parseText, header, between, gathered, bind, Except.bind] at read
        | ok state =>
          cases found : state.token with
          | none => simp [parseText, header, between, gathered, found, bind, Except.bind] at read
          | some token =>
            have result : BearerMessage.mk authzid state.host token state.extensions.reverse = message := by
              simpa [parseText, header, between, gathered, found, bind, Except.bind, pure, Except.pure] using read
            obtain ⟨entries, pieces, readable, known⟩ := (foldlM_read_eq_ok_iff _ state).mp gathered
            have spelled := (attributesText?_eq_some_iff rest body).mp between
            subst known
            exact ⟨authzid, body, entries, token, by rw [spelled], pieces, readable, found, result.symm⟩
  · rintro ⟨authzid, body, entries, token, header, pieces, readable, found, rfl⟩
    have between := (attributesText?_eq_some_iff _ body).mpr rfl
    have gathered := (foldlM_read_eq_ok_iff _ (collected entries)).mpr ⟨entries, pieces, readable, rfl⟩
    simp [parseText, header, between, gathered, found, bind, Except.bind, pure, Except.pure]

theorem parse_eq_ok_iff_parseText (bytes : Bytes) (message : BearerMessage) :
    parse bytes = .ok message ↔ ∃ text, bytes = Utf8.encode text ∧ parseText text = .ok message := by
  simp only [← Utf8.decode_eq_some_iff, parse]
  cases Utf8.decode bytes with
  | none => simp
  | some text => cases read : parseText text <;> simp [read, Except.mapError]

/-- The reader refuses nothing but malformed messages. -/
theorem exists_ok_or_malformed (bytes : Bytes) :
    (∃ message, parse bytes = .ok message) ∨ ∃ flaw, parse bytes = .error (.malformed flaw) := by
  rw [parse]
  cases Utf8.decode bytes with
  | none => exact .inr ⟨.notUtf8, rfl⟩
  | some text =>
    cases read : parseText text with
    | ok message => exact .inl ⟨message, by simp [read, Except.mapError]⟩
    | error flaw => exact .inr ⟨flaw, by simp [read, Except.mapError]⟩

/-- Attributes of which there are some end with a delimiter. -/
theorem exists_body {entries : List (String × String)} (nonempty : entries ≠ []) :
    ∃ body, body ++ [delimiter] = entries.flatMap fun (key, value) => encodeAttribute key value := by
  have pieces : entries.map written ≠ [] := by simpa using nonempty
  obtain ⟨body, ends⟩ := Split.exists_flatMap_eq_append delimiter pieces
  exact ⟨body, by rw [← ends, flatMap_written]⟩

theorem mem_of_lookup_reverse {entries : List (String × String)} {key value : String}
    (last : entries.reverse.lookup key = some value) : (key, value) ∈ entries := by
  obtain ⟨later, earlier, parted, _⟩ := List.lookup_eq_some_iff.mp last
  have member : (key, value) ∈ entries.reverse := by simp [parted]
  exact List.mem_reverse.mp member

theorem Derives.readable {bytes : Bytes} {flag : Char} {identity : List Char}
    {entries : List (String × String)} (derives : Derives bytes flag identity entries) :
    ∀ entry ∈ entries, Readable entry := by
  intro entry member
  obtain ⟨key, value⟩ := entry
  refine ⟨derives.keys key value member, ?_⟩
  intro auth
  subst auth
  exact derives.bearers value member

theorem Derives.comma_not_mem {bytes : Bytes} {flag : Char} {identity : List Char}
    {entries : List (String × String)} (derives : Derives bytes flag identity entries) : ',' ∉ identity :=
  comma_not_mem_identity derives.identity

theorem derives_of_parseText {text : List Char} {message : BearerMessage}
    (read : parseText text = .ok message) :
    ∃ flag identity entries, Derives (Utf8.encode text) flag identity entries ∧
      Means identity entries message := by
  obtain ⟨authzid, body, entries, token, header, pieces, readable, found, rfl⟩ :=
    (parseText_eq_ok_iff text message).mp read
  obtain ⟨flag, identity, known, spelled, clear, names⟩ := (parseHeader_eq_ok_iff text _ authzid).mp header
  obtain ⟨nonempty, values, joined⟩ := (onEvery_eq_map_written_iff body readable).mp pieces
  obtain ⟨value, last, bears⟩ := (collected_token_eq_some_iff entries token).mp found
  have whole : text = layout flag identity entries := by
    rw [spelled, layout, ← joined]
    simp
  have escapes : identity = [] ∨
      ∃ escaped, identity = 'a' :: '=' :: escaped ∧ ',' ∉ escaped ∧ Escaped escaped := by
    rcases (exists_names_iff identity).mp ⟨authzid, names⟩ with nobody | ⟨escaped, rfl, sound⟩
    · exact .inl nobody
    · exact .inr ⟨escaped, rfl, fun member => clear (by simp [member]), sound⟩
  refine ⟨flag, identity, entries, ?_, ?_⟩
  · exact {
      written := by rw [whole, Utf8.encode_eq_flatMap]
      flag := known
      identity := escapes
      nonempty := nonempty
      keys := fun key value member => (readable (key, value) member).key
      values := fun key value member => values (key, value) member
      bearers := fun value member => (readable ("auth", value) member).bearer rfl
      bearer := ⟨value, mem_of_lookup_reverse last⟩ }
  · exact {
      authzid := names
      token := ⟨value, last, bears⟩
      host := rfl
      extensions := by simp [collected] }

theorem Derives.parse_eq_ok {bytes : Bytes} {flag : Char} {identity : List Char}
    {entries : List (String × String)} {message : BearerMessage}
    (derives : Derives bytes flag identity entries) (means : Means identity entries message) :
    parse bytes = .ok message := by
  obtain ⟨body, joined⟩ := exists_body derives.nonempty
  have readable := derives.readable
  have values : ∀ entry ∈ entries, delimiter ∉ entry.2.toList :=
    fun entry member => derives.values entry.1 entry.2 member
  have pieces := (onEvery_eq_map_written_iff body readable).mpr ⟨derives.nonempty, values, joined⟩
  have found := (collected_token_eq_some_iff entries message.token).mpr means.token
  have spelled : layout flag identity entries =
      flag :: ',' :: (identity ++ ',' :: delimiter :: (body ++ [delimiter, delimiter])) := by
    rw [layout, ← joined]
    simp
  have header := (parseHeader_eq_ok_iff (layout flag identity entries) _ message.authzid).mpr
    ⟨flag, identity, derives.flag, spelled, derives.comma_not_mem, means.authzid⟩
  have collects : message = ⟨message.authzid, (collected entries).host, message.token,
      (collected entries).extensions.reverse⟩ := by
    simp only [collected, List.reverse_reverse, ← means.host, ← means.extensions]
  rw [parse_eq_ok_iff_parseText]
  refine ⟨layout flag identity entries, by rw [derives.written, Utf8.encode_eq_flatMap], ?_⟩
  exact (parseText_eq_ok_iff _ message).mpr
    ⟨message.authzid, body, entries, message.token, header, pieces, readable, found, collects⟩

/-- The reader accepts what the grammar derives, and reads what that means. -/
theorem parse_eq_ok_iff (bytes : Bytes) (message : BearerMessage) :
    parse bytes = .ok message ↔
      ∃ flag identity entries, Derives bytes flag identity entries ∧ Means identity entries message := by
  constructor
  · intro read
    obtain ⟨text, rfl, inner⟩ := (parse_eq_ok_iff_parseText bytes message).mp read
    exact derives_of_parseText inner
  · rintro ⟨flag, identity, entries, derives, means⟩
    exact derives.parse_eq_ok means

/-- Everything that the grammar derives means something. -/
theorem Derives.exists_means {bytes : Bytes} {flag : Char} {identity : List Char}
    {entries : List (String × String)} (derives : Derives bytes flag identity entries) :
    ∃ message, Means identity entries message := by
  have named : identity = [] ∨ ∃ escaped, identity = 'a' :: '=' :: escaped ∧ Escaped escaped := by
    rcases derives.identity with nobody | ⟨escaped, spelled, _, sound⟩
    · exact .inl nobody
    · exact .inr ⟨escaped, spelled, sound⟩
  obtain ⟨authzid, names⟩ := (exists_names_iff identity).mpr named
  obtain ⟨held, member⟩ := derives.bearer
  have present : (entries.reverse.lookup "auth").isSome = true :=
    List.lookup_isSome_iff.mpr ⟨("auth", held), List.mem_reverse.mpr member, beq_self_eq_true _⟩
  obtain ⟨value, last⟩ := Option.isSome_iff_exists.mp present
  obtain ⟨token, bears⟩ := derives.bearers value (mem_of_lookup_reverse last)
  exact ⟨⟨authzid, entries.reverse.lookup "host", token,
    entries.filter isExtension⟩, names, ⟨value, last, bears⟩, rfl, rfl⟩

/-- A byte string is read exactly where the grammar derives it, what is read is what the derivation means,
and every other byte string is malformed. -/
theorem parse_decides (bytes : Bytes) :
    ((∃ message, parse bytes = .ok message) ↔
      ∃ flag identity entries, Derives bytes flag identity entries) ∧
    (∀ flag identity entries message, Derives bytes flag identity entries → parse bytes = .ok message →
      Means identity entries message) ∧
    ((¬∃ flag identity entries, Derives bytes flag identity entries) →
      ∃ flaw, parse bytes = .error (.malformed flaw)) := by
  have accepts : (∃ message, parse bytes = .ok message) ↔
      ∃ flag identity entries, Derives bytes flag identity entries := by
    constructor
    · rintro ⟨message, read⟩
      obtain ⟨flag, identity, entries, derives, _⟩ := (parse_eq_ok_iff bytes message).mp read
      exact ⟨flag, identity, entries, derives⟩
    · rintro ⟨flag, identity, entries, derives⟩
      obtain ⟨message, means⟩ := derives.exists_means
      exact ⟨message, derives.parse_eq_ok means⟩
  refine ⟨accepts, ?_, ?_⟩
  · intro flag identity entries message derives read
    obtain ⟨meant, means⟩ := derives.exists_means
    have same : meant = message := Except.ok.inj ((derives.parse_eq_ok means).symm.trans read)
    rw [← same]
    exact means
  · intro underivable
    rcases exists_ok_or_malformed bytes with read | malformed
    · exact absurd (accepts.mp read) underivable
    · exact malformed

/-- A message with an escaped identity, two hosts, two tokens and an extension, the value of which holds an
equals sign. -/
def submitted : Bytes :=
  Utf8.ofString "y,a=\u00e9=2C=3D,\x01host=a\x01port=1=2\x01host=b\x01auth=BEARER x\x01auth=bEARER \u2003z \x01\x01"

def cutOff : Bytes := submitted.dropLast

def submittedIdentity : List Char := "a=\u00e9=2C=3D".toList

def submittedEntries : List (String × String) :=
  [("host", "a"), ("port", "1=2"), ("host", "b"), ("auth", "BEARER x"), ("auth", "bEARER \u2003z ")]

def submittedMessage : BearerMessage :=
  ⟨some "\u00e9,=", some "b", "z", [("port", "1=2")]⟩

theorem derives_submitted : Derives submitted 'y' submittedIdentity submittedEntries := by
  have stands : Unescapes "\u00e9=2C=3D".toList "\u00e9,=".toList :=
    (unescape_eq_some_iff _ _).mp (by decide +kernel)
  have keys : ∀ entry ∈ submittedEntries, entry.1 ≠ "" ∧ entry.1.toList.all Ascii.isLetter = true := by
    decide +kernel
  have values : ∀ entry ∈ submittedEntries, delimiter ∉ entry.2.toList := by decide +kernel
  have first : Bears "BEARER x" "x" := (parseBearer_eq_ok_iff _ _).mp (by decide +kernel)
  have second : Bears "bEARER \u2003z " "z" := (parseBearer_eq_ok_iff _ _).mp (by decide +kernel)
  have bearers : ∀ entry ∈ submittedEntries, entry.1 = "auth" →
      entry.2 = "BEARER x" ∨ entry.2 = "bEARER \u2003z " := by decide +kernel
  refine ⟨by decide +kernel, .inr rfl, .inr ⟨"\u00e9=2C=3D".toList, by decide +kernel, by decide +kernel, ?_⟩,
    by decide, ?_, ?_, ?_, "BEARER x", by decide +kernel⟩
  · exact (exists_unescapes_iff _).mp ⟨_, stands⟩
  · intro key value member
    obtain ⟨nonempty, letters⟩ := keys (key, value) member
    exact isKey_of_all nonempty letters
  · intro key value member
    exact values (key, value) member
  · intro value member
    rcases bearers ("auth", value) member rfl with rfl | rfl
    · exact ⟨"x", first⟩
    · exact ⟨"z", second⟩

/-- The last host and the last token count, and a message that is cut off is malformed. -/
theorem submitted_means :
    Derives submitted 'y' submittedIdentity submittedEntries ∧ parse submitted = .ok submittedMessage ∧
      Means submittedIdentity submittedEntries submittedMessage ∧
      (¬∃ flag identity entries, Derives cutOff flag identity entries) ∧
      ∃ flaw, parse cutOff = .error (.malformed flaw) := by
  have read : parse submitted = .ok submittedMessage := by decide +kernel
  have refused : parse cutOff = .error (.malformed .notDelimited) := by decide +kernel
  have underivable : ¬∃ flag identity entries, Derives cutOff flag identity entries := by
    intro derivable
    obtain ⟨message, accepted⟩ := (parse_decides cutOff).1.mpr derivable
    rw [refused] at accepted
    cases accepted
  exact ⟨derives_submitted, read, (parse_decides submitted).2.1 _ _ _ _ derives_submitted read, underivable,
    (parse_decides cutOff).2.2 underivable⟩

end BearerIdentity.BearerMessage
