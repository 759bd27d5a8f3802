import BearerIdentity.Proofs.Text.Blank
import BearerIdentity.Proofs.Text.Split
import BearerIdentity.Sasl.Message

set_option autoImplicit false

namespace BearerIdentity.BearerMessage

/-- A key consists of letters, one at least. -/
structure IsKey (key : String) : Prop where
  nonempty : key ≠ ""
  letters : ∀ c ∈ key.toList, Ascii.isLetter c = true

/-- A value with a bearer token: the scheme in any case, a space, and the token between white space. -/
structure Bears (value token : String) : Prop where
  parted : ∃ scheme rest, value.toList = scheme ++ ' ' :: rest ∧
    Ascii.lower scheme = "bearer".toList ∧ Blank.Encloses rest token.toList
  nonempty : token ≠ ""

/-- What an attribute must be to be read. -/
structure Readable (entry : String × String) : Prop where
  key : IsKey entry.1
  bearer : entry.1 = "auth" → ∃ token, Bears entry.2 token

def written (entry : String × String) : List Char :=
  entry.1.toList ++ '=' :: entry.2.toList

/-- An attribute is an extension if it holds neither the token nor the host. -/
def isExtension (entry : String × String) : Bool :=
  entry.1 ≠ "auth" ∧ entry.1 ≠ "host"

def collected (attributes : List (String × String)) : Attributes where
  host := attributes.reverse.lookup "host"
  token := (attributes.reverse.lookup "auth").bind fun value => (parseBearer value.toList).toOption
  extensions := (attributes.filter isExtension).reverse

theorem isLetter_equals : Ascii.isLetter '=' = false := by decide

theorem isLetter_delimiter : Ascii.isLetter delimiter = false := by decide

theorem isKey_of_all {key : String} (nonempty : key ≠ "") (letters : key.toList.all Ascii.isLetter = true) :
    IsKey key :=
  ⟨nonempty, List.all_eq_true.mp letters⟩

theorem IsKey.not_mem {key : String} (sound : IsKey key) {c : Char} (other : Ascii.isLetter c = false) :
    c ∉ key.toList := by
  intro member
  have letter := sound.letters c member
  rw [other] at letter
  cases letter

theorem splitAttribute_eq_ok_iff (text : List Char) (key : String) (value : List Char) :
    splitAttribute text = .ok (key, value) ↔ IsKey key ∧ text = key.toList ++ '=' :: value := by
  constructor
  · intro read
    simp only [splitAttribute] at read
    split at read
    next before after cut =>
      obtain ⟨rfl, _⟩ := (Split.atFirst_eq_some_iff '=' text before after).mp cut
      split at read
      next sound =>
        cases read
        rw [Bool.and_eq_true, List.all_eq_true] at sound
        rw [String.toList_ofList]
        refine ⟨⟨?_, ?_⟩, rfl⟩
        · intro empty
          rw [String.ofList_eq_empty_iff] at empty
          simp [empty] at sound
        · rw [String.toList_ofList]
          exact sound.2
      next => cases read
    next => cases read
  · rintro ⟨sound, rfl⟩
    have cut := Split.atFirst_append (sound.not_mem isLetter_equals) value
    have nonempty : key.toList.isEmpty = false := by
      rw [List.isEmpty_eq_false_iff]
      exact fun empty => sound.nonempty (String.toList_eq_nil_iff.mp empty)
    have letters : key.toList.all Ascii.isLetter = true := List.all_eq_true.mpr sound.letters
    simp only [splitAttribute, cut, nonempty, letters, String.ofList_toList]
    rfl

theorem space_not_mem_scheme {scheme : List Char} (bearer : Ascii.lower scheme = "bearer".toList) :
    ' ' ∉ scheme := by
  intro member
  have lowered : Char.toLower ' ' ∈ Ascii.lower scheme := List.mem_map_of_mem member
  rw [bearer] at lowered
  exact absurd lowered (by decide)

theorem parseBearer_eq_ok_iff (value token : String) :
    parseBearer value.toList = .ok token ↔ Bears value token := by
  constructor
  · intro read
    simp only [parseBearer] at read
    split at read
    next => cases read
    next scheme rest cut =>
      obtain ⟨parted, _⟩ := (Split.atFirst_eq_some_iff ' ' value.toList scheme rest).mp cut
      split at read
      next => cases read
      next bearer =>
        split at read
        next => cases read
        next core blank nonempty =>
          cases read
          refine ⟨⟨scheme, rest, parted, not_not.mp bearer, ?_⟩, ?_⟩
          · rw [String.toList_ofList]
            exact Blank.encloses_trim rest
          · intro empty
            exact nonempty (String.ofList_eq_empty_iff.mp empty)
  · rintro ⟨⟨scheme, rest, parted, bearer, encloses⟩, nonempty⟩
    have cut : Split.atFirst ' ' value.toList = some (scheme, rest) :=
      (Split.atFirst_eq_some_iff ' ' value.toList scheme rest).mpr ⟨parted, space_not_mem_scheme bearer⟩
    have trimmed : Blank.trim rest = token.toList := encloses.trim_eq
    simp only [parseBearer, cut, bearer, trimmed, ne_eq, not_true_eq_false, if_false]
    split
    next empty => exact absurd (String.toList_eq_nil_iff.mp empty) nonempty
    next => rw [String.ofList_toList]

/-- The token is that of the last attribute that may hold one. -/
theorem collected_token_eq_some_iff (entries : List (String × String)) (token : String) :
    (collected entries).token = some token ↔
      ∃ value, entries.reverse.lookup "auth" = some value ∧ Bears value token := by
  have read (value : String) : (parseBearer value.toList).toOption = some token ↔ Bears value token := by
    rw [← parseBearer_eq_ok_iff]
    cases parseBearer value.toList <;> simp [Except.toOption]
  simp only [collected, Option.bind_eq_some_iff, read]

theorem collected_auth (earlier : List (String × String)) {value token : String} (bears : Bears value token) :
    collected (earlier ++ [("auth", value)]) = { collected earlier with token := some token } := by
  have found : parseBearer value.toList = .ok token := (parseBearer_eq_ok_iff value token).mpr bears
  simp [collected, isExtension, List.lookup_cons, found, Except.toOption]

theorem collected_host (earlier : List (String × String)) (value : String) :
    collected (earlier ++ [("host", value)]) = { collected earlier with host := some value } := by
  simp [collected, isExtension, List.lookup_cons]

theorem collected_extension (earlier : List (String × String)) {key : String} (value : String)
    (notAuth : key ≠ "auth") (notHost : key ≠ "host") :
    collected (earlier ++ [(key, value)]) =
      { collected earlier with extensions := (key, value) :: (collected earlier).extensions } := by
  have auth : ("auth" == key) = false := beq_false_of_ne (Ne.symm notAuth)
  have host : ("host" == key) = false := beq_false_of_ne (Ne.symm notHost)
  simp [collected, isExtension, List.lookup_cons, auth, host, notAuth, notHost]

theorem read_of_split {text value : List Char} {key : String}
    (parted : splitAttribute text = .ok (key, value)) (start : Attributes) :
    start.read text =
      if key = "auth" then (parseBearer value).map fun token => { start with token := some token }
      else if key = "host" then .ok { start with host := some (String.ofList value) }
      else .ok { start with extensions := (key, String.ofList value) :: start.extensions } := by
  simp only [Attributes.read, parted, bind, Except.bind, pure, Except.pure]
  split_ifs
  · cases parseBearer value <;> rfl
  · rfl
  · rfl

/-- An attribute that can be read adds what it says. -/
theorem Readable.read {entry : String × String} (readable : Readable entry)
    (earlier : List (String × String)) :
    (collected earlier).read (written entry) = .ok (collected (earlier ++ [entry])) := by
  obtain ⟨key, value⟩ := entry
  have parted : splitAttribute (written (key, value)) = .ok (key, value.toList) :=
    (splitAttribute_eq_ok_iff _ _ _).mpr ⟨readable.key, rfl⟩
  rw [read_of_split parted, String.ofList_toList]
  by_cases auth : key = "auth"
  · obtain ⟨token, bears⟩ := readable.bearer auth
    rw [if_pos auth, (parseBearer_eq_ok_iff value token).mpr bears, auth, collected_auth earlier bears]
    rfl
  rw [if_neg auth]
  by_cases host : key = "host"
  · rw [if_pos host, host, collected_host]
  · rw [if_neg host, collected_extension earlier value auth host]

/-- An attribute that cannot be read is refused, whatever came before. -/
theorem readable_of_read {text : List Char} {start next : Attributes} (read : start.read text = .ok next) :
    ∃ entry, text = written entry ∧ Readable entry := by
  cases parted : splitAttribute text with
  | error flaw =>
    rw [Attributes.read, parted] at read
    cases read
  | ok entry =>
    obtain ⟨key, value⟩ := entry
    obtain ⟨sound, spelled⟩ := (splitAttribute_eq_ok_iff text key value).mp parted
    refine ⟨(key, String.ofList value), by rw [written, String.toList_ofList, spelled], sound, ?_⟩
    intro auth
    rw [read_of_split parted, if_pos auth] at read
    cases found : parseBearer value with
    | error flaw =>
      rw [found] at read
      cases read
    | ok token =>
      refine ⟨token, (parseBearer_eq_ok_iff _ _).mp ?_⟩
      rw [String.toList_ofList, found]

theorem foldlM_read_written {entries : List (String × String)} (readable : ∀ entry ∈ entries, Readable entry)
    (earlier : List (String × String)) :
    (entries.map written).foldlM Attributes.read (collected earlier) = .ok (collected (earlier ++ entries)) := by
  induction entries generalizing earlier with
  | nil =>
    rw [List.append_nil]
    rfl
  | cons entry entries ih =>
    have first := (readable entry List.mem_cons_self).read earlier
    have rest := ih (fun later member => readable later (List.mem_cons_of_mem _ member)) (earlier ++ [entry])
    rw [List.append_assoc, List.singleton_append] at rest
    rw [List.map_cons, List.foldlM_cons, first, ← rest]
    rfl

theorem exists_readable_of_foldlM {texts : List (List Char)} {start state : Attributes}
    (read : texts.foldlM Attributes.read start = .ok state) :
    ∃ entries : List (String × String), texts = entries.map written ∧ ∀ entry ∈ entries, Readable entry := by
  induction texts generalizing start with
  | nil => exact ⟨[], rfl, List.forall_mem_nil _⟩
  | cons text texts ih =>
    rw [List.foldlM_cons] at read
    cases first : start.read text with
    | error flaw =>
      rw [first] at read
      cases read
    | ok next =>
      rw [first] at read
      obtain ⟨entry, spelled, readable⟩ := readable_of_read first
      obtain ⟨entries, rest, later⟩ := ih read
      refine ⟨entry :: entries, ?_, List.forall_mem_cons.mpr ⟨readable, later⟩⟩
      rw [spelled, rest, List.map_cons]

/-- Attributes are read where each of them can be, and then it is known what they say. -/
theorem foldlM_read_eq_ok_iff (texts : List (List Char)) (state : Attributes) :
    texts.foldlM Attributes.read ⟨none, none, []⟩ = .ok state ↔
      ∃ entries, texts = entries.map written ∧ (∀ entry ∈ entries, Readable entry) ∧
        state = collected entries := by
  constructor
  · intro read
    obtain ⟨entries, rfl, readable⟩ := exists_readable_of_foldlM read
    have whole := foldlM_read_written readable []
    refine ⟨entries, rfl, readable, ?_⟩
    exact Except.ok.inj (read.symm.trans whole)
  · rintro ⟨entries, rfl, readable, rfl⟩
    exact foldlM_read_written readable []

end BearerIdentity.BearerMessage
