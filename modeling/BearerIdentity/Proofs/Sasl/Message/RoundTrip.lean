import BearerIdentity.Proofs.Sasl.Message.Grammar

set_option autoImplicit false

namespace BearerIdentity.BearerMessage

/-- The messages that have a written form. The identity may be any text. -/
structure Writable (message : BearerMessage) : Prop where
  solid : ∃ c ∈ message.token.toList, Blank.isBlank c = false
  bare : Blank.Bare message.token.toList
  token : delimiter ∉ message.token.toList
  host : ∀ host, message.host = some host → delimiter ∉ host.toList
  extensions : ∀ key value, (key, value) ∈ message.extensions →
    IsKey key ∧ key ≠ "auth" ∧ key ≠ "host" ∧ delimiter ∉ value.toList

/-- What has been read has a written form. -/
theorem Derives.writable {bytes : Bytes} {flag : Char} {identity : List Char}
    {entries : List (String × String)} {message : BearerMessage}
    (derives : Derives bytes flag identity entries) (means : Means identity entries message) :
    Writable message := by
  obtain ⟨value, last, ⟨scheme, rest, parted, _, ⟨left, right, enclosed, _⟩, bare⟩, nonempty⟩ := means.token
  have clear := derives.values "auth" value (mem_of_lookup_reverse last)
  constructor
  · cases spelled : message.token.toList with
    | nil => exact absurd (String.toList_eq_nil_iff.mp spelled) nonempty
    | cons c after =>
      rw [spelled] at bare
      exact ⟨c, List.mem_cons_self, bare.first c rfl⟩
  · exact bare
  · intro member
    exact clear (by simp [parted, enclosed, member])
  · intro host announced
    have given : entries.reverse.lookup "host" = some host := by rw [← means.host, announced]
    exact derives.values "host" host (mem_of_lookup_reverse given)
  · intro key value member
    rw [means.extensions, List.mem_filter] at member
    obtain ⟨inner, other⟩ := member
    have names : key ≠ "auth" ∧ key ≠ "host" := by simpa [isExtension] using other
    exact ⟨derives.keys key value inner, names.1, names.2, derives.values key value inner⟩

def entries (message : BearerMessage) : List (String × String) :=
  message.host.toList.map (fun host => ("host", host)) ++ message.extensions
    ++ [("auth", "Bearer " ++ message.token)]

theorem encodeText_eq_layout (message : BearerMessage) :
    message.encodeText = layout 'n' (encodeAuthzid message.authzid) message.entries := by
  cases host : message.host <;> simp [encodeText, layout, entries, host]

theorem mem_entries_iff (message : BearerMessage) (key value : String) :
    (key, value) ∈ message.entries ↔
      key = "host" ∧ message.host = some value ∨ (key, value) ∈ message.extensions ∨
        key = "auth" ∧ value = "Bearer " ++ message.token := by
  cases host : message.host <;> simp [entries, host, eq_comm]

/-- The token is written after the scheme and a space. -/
theorem bears_written_iff {token found : String} :
    Bears ("Bearer " ++ token) found ↔ Blank.Encloses token.toList found.toList ∧ found ≠ "" := by
  have spelled : ("Bearer " ++ token).toList = "Bearer".toList ++ ' ' :: token.toList := by
    rw [String.toList_append]
    rfl
  constructor
  · rintro ⟨⟨scheme, rest, parted, bearer, encloses⟩, nonempty⟩
    have cut := Split.atFirst_append (space_not_mem_scheme bearer) rest
    rw [← parted, spelled, Split.atFirst_append (by decide)] at cut
    obtain ⟨-, rfl⟩ := Prod.mk.inj (Option.some.inj cut)
    exact ⟨encloses, nonempty⟩
  · rintro ⟨encloses, nonempty⟩
    exact ⟨⟨"Bearer".toList, token.toList, spelled, by decide, encloses⟩, nonempty⟩

theorem delimiter_not_mem_bearer {token : String} (clear : delimiter ∉ token.toList) :
    delimiter ∉ ("Bearer " ++ token).toList := by
  have outside : delimiter ∉ "Bearer ".toList := by decide
  rw [String.toList_append, List.mem_append, not_or]
  exact ⟨outside, clear⟩

theorem Writable.bears {message : BearerMessage} (writable : Writable message) :
    Bears ("Bearer " ++ message.token) message.token := by
  obtain ⟨c, member, _⟩ := writable.solid
  refine bears_written_iff.mpr ⟨⟨⟨[], [], by simp⟩, writable.bare⟩, ?_⟩
  intro empty
  simp [empty] at member

theorem Writable.derives {message : BearerMessage} (writable : Writable message) :
    Derives message.encode 'n' (encodeAuthzid message.authzid) message.entries := by
  constructor
  · rw [encode, encodeText_eq_layout, Utf8.encode_eq_flatMap]
  · exact .inl rfl
  · exact encodeAuthzid_cases message.authzid
  · simp [entries]
  · intro key value member
    rcases (mem_entries_iff message key value).mp member with ⟨rfl, _⟩ | inner | ⟨rfl, _⟩
    · exact isKey_of_all (by decide) (by decide)
    · exact (writable.extensions key value inner).1
    · exact isKey_of_all (by decide) (by decide)
  · intro key value member
    rcases (mem_entries_iff message key value).mp member with ⟨_, announced⟩ | inner | ⟨_, rfl⟩
    · exact writable.host value announced
    · exact (writable.extensions key value inner).2.2.2
    · exact delimiter_not_mem_bearer writable.token
  · intro value member
    rcases (mem_entries_iff message "auth" value).mp member with ⟨other, _⟩ | inner | ⟨_, rfl⟩
    · exact absurd other (by decide)
    · exact absurd rfl (writable.extensions "auth" value inner).2.1
    · exact ⟨message.token, writable.bears⟩
  · exact ⟨"Bearer " ++ message.token, by simp [entries]⟩

theorem Writable.means {message : BearerMessage} (writable : Writable message) :
    Means (encodeAuthzid message.authzid) message.entries message := by
  have notHost : message.extensions.reverse.lookup "host" = none := by
    rw [List.lookup_eq_none_iff]
    intro entry member
    have other := (writable.extensions entry.1 entry.2 (List.mem_reverse.mp member)).2.2.1
    exact bne_iff_ne.mpr (Ne.symm other)
  have kept : message.extensions.filter isExtension = message.extensions := by
    rw [List.filter_eq_self]
    intro entry member
    obtain ⟨_, notAuth, notHost, _⟩ := writable.extensions entry.1 entry.2 member
    simp [isExtension, notAuth, notHost]
  constructor
  · exact names_encodeAuthzid message.authzid
  · exact ⟨"Bearer " ++ message.token, by simp [entries], writable.bears⟩
  · cases host : message.host <;> simp [entries, host, List.lookup_cons, List.lookup_append, notHost]
  · rw [entries, List.filter_append, List.filter_append, kept]
    cases message.host <;> simp [isExtension]

/-- A message is read back exactly where it has a written form, and what has been read is. -/
theorem parse_encode_eq_ok_iff :
    (∀ message : BearerMessage, parse message.encode = .ok message ↔ Writable message) ∧
      ∀ bytes message, parse bytes = .ok message → parse message.encode = .ok message := by
  have writable {bytes : Bytes} {message : BearerMessage} (read : parse bytes = .ok message) :
      Writable message := by
    obtain ⟨flag, identity, entries, derives, means⟩ := (parse_eq_ok_iff bytes message).mp read
    exact derives.writable means
  have readBack {message : BearerMessage} (writable : Writable message) :
      parse message.encode = .ok message := writable.derives.parse_eq_ok writable.means
  constructor
  · intro message
    exact ⟨writable, readBack⟩
  · intro bytes message read
    exact readBack (writable read)

/-- A host that would put a second token into the message. -/
def smuggled : BearerMessage :=
  ⟨none, some "a\x01auth=Bearer z", "x", []⟩

/-- What has been read comes back although it is written otherwise, and a host with a delimiter is lost. -/
theorem submitted_rereads :
    parse submitted = .ok submittedMessage ∧ submittedMessage.encode ≠ submitted ∧
      parse submittedMessage.encode = .ok submittedMessage ∧ parse smuggled.encode ≠ .ok smuggled := by
  have read : parse submitted = .ok submittedMessage := by decide +kernel
  have otherwise : submittedMessage.encode ≠ submitted := by decide +kernel
  refine ⟨read, otherwise, parse_encode_eq_ok_iff.2 submitted submittedMessage read, ?_⟩
  intro readBack
  have writable := (parse_encode_eq_ok_iff.1 smuggled).mp readBack
  have held : delimiter ∈ "a\x01auth=Bearer z".toList := by decide
  exact writable.host "a\x01auth=Bearer z" rfl held

end BearerIdentity.BearerMessage
