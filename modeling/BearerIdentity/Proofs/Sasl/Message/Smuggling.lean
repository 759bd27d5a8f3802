import BearerIdentity.Proofs.Sasl.Message.RoundTrip

set_option autoImplicit false

/- Messages that hold more than they should. Hosts and extensions are written as they are, so a
delimiter in them begins an attribute of its own, which may be another token. But the token of the
message is written last, and of repeated tokens the last one counts. -/

namespace BearerIdentity.BearerMessage

variable {message read : BearerMessage}

/-- The text is empty or ends with a delimiter. -/
def Closed (text : List Char) : Prop :=
  text = [] ∨ ∃ body, text = body ++ [delimiter]

theorem closed_flatMap (entries : List (String × String)) :
    Closed (entries.flatMap fun (key, value) => encodeAttribute key value) := by
  by_cases empty : entries = []
  · exact .inl (by rw [empty]; rfl)
  · obtain ⟨body, ends⟩ := exists_body empty
    exact .inr ⟨body, ends.symm⟩

/-- What follows within a closed text has a delimiter. -/
theorem Closed.eq_nil {text more : List Char} (closed : Closed (text ++ more)) (clear : delimiter ∉ more) :
    more = [] := by
  rcases List.eq_nil_or_concat more with empty | ⟨before, c, rfl⟩
  · exact empty
  rcases closed with empty | ⟨body, ends⟩
  · simp at empty
  · rw [List.concat_eq_append, ← List.append_assoc] at ends
    have last : c = delimiter := List.singleton_inj.mp (List.append_inj' ends rfl).2
    simp [last] at clear

/-- After a closed text, what has no delimiter is told apart. -/
theorem Closed.rest_eq {front front' rest rest' : List Char} (closed : Closed front) (closed' : Closed front')
    (clear : delimiter ∉ rest) (clear' : delimiter ∉ rest') (same : front ++ rest = front' ++ rest') :
    rest = rest' := by
  rcases List.append_eq_append_iff.mp same with ⟨between, rfl, rfl⟩ | ⟨between, rfl, rfl⟩
  · rw [closed'.eq_nil fun member => clear (List.mem_append_left _ member), List.nil_append]
  · rw [closed.eq_nil fun member => clear' (List.mem_append_left _ member), List.nil_append]

/-- The last attribute of a text is the same however the text is divided into attributes. -/
theorem written_eq_of_flatMap {earlier earlier' : List (String × String)} {last last' : String × String}
    (clear : delimiter ∉ written last) (clear' : delimiter ∉ written last')
    (same : (earlier ++ [last]).flatMap (fun (key, value) => encodeAttribute key value) =
      (earlier' ++ [last']).flatMap fun (key, value) => encodeAttribute key value) :
    written last = written last' := by
  have ends (before : List (String × String)) (entry : String × String) :
      (before ++ [entry]).flatMap (fun (key, value) => encodeAttribute key value) =
        before.flatMap (fun (key, value) => encodeAttribute key value) ++ written entry ++ [delimiter] := by
    simp [encodeAttribute, written]
  rw [ends, ends] at same
  exact (closed_flatMap earlier).rest_eq (closed_flatMap earlier') clear clear' (List.append_cancel_right same)

theorem IsKey.entry_eq {entry entry' : String × String} (sound : IsKey entry.1) (sound' : IsKey entry'.1)
    (same : written entry = written entry') : entry = entry' := by
  have parted := (splitAttribute_eq_ok_iff (written entry) entry.1 entry.2.toList).mpr ⟨sound, rfl⟩
  have parted' := (splitAttribute_eq_ok_iff (written entry) entry'.1 entry'.2.toList).mpr ⟨sound', same⟩
  obtain ⟨keys, values⟩ := Prod.mk.inj (Except.ok.inj (parted.symm.trans parted'))
  exact Prod.ext keys (String.toList_inj.mp values)

/-- Identities without commas end where the header does. -/
theorem layout_inj {flag flag' : Char} {identity identity' : List Char}
    {entries entries' : List (String × String)} (clear : ',' ∉ identity) (clear' : ',' ∉ identity')
    (same : layout flag identity entries = layout flag' identity' entries') :
    identity = identity' ∧ entries.flatMap (fun (key, value) => encodeAttribute key value) =
      entries'.flatMap fun (key, value) => encodeAttribute key value := by
  simp only [layout, List.cons_append, List.append_assoc, List.cons.injEq, true_and] at same
  obtain ⟨-, same⟩ := same
  have cut := Split.atFirst_append clear (delimiter ::
    (entries.flatMap (fun (key, value) => encodeAttribute key value) ++ [delimiter]))
  rw [same, Split.atFirst_append clear'] at cut
  obtain ⟨identities, texts⟩ := Prod.mk.inj (Option.some.inj cut)
  exact ⟨identities.symm, List.append_cancel_right (List.cons.inj texts).2.symm⟩

theorem Names.eq {identity : List Char} {authzid authzid' : Option String} (names : Names identity authzid)
    (names' : Names identity authzid') : authzid = authzid' := by
  have found := (parseAuthzid_eq_ok_iff identity authzid).mpr names
  rw [(parseAuthzid_eq_ok_iff identity authzid').mpr names'] at found
  exact (Except.ok.inj found).symm

/-- What is read has the token of the message and its identity, and both would be read if there were
nothing else in the message. -/
structure Withstands (message read : BearerMessage) : Prop where
  token : Blank.Encloses message.token.toList read.token.toList
  authzid : read.authzid = message.authzid
  alone : parse { message with host := none, extensions := [] }.encode =
    .ok { read with host := none, extensions := [] }

/-- A message without a host and without extensions is read for its token, without the white space around
it. -/
theorem parse_alone {authzid : Option String} {token found : String} (clear : delimiter ∉ token.toList)
    (encloses : Blank.Encloses token.toList found.toList) (nonempty : found ≠ "") :
    parse (BearerMessage.mk authzid none token []).encode = .ok ⟨authzid, none, found, []⟩ := by
  have bears := bears_written_iff.mpr ⟨encloses, nonempty⟩
  have derives : Derives (BearerMessage.mk authzid none token []).encode 'n' (encodeAuthzid authzid)
      [("auth", "Bearer " ++ token)] := by
    constructor
    · rw [encode, encodeText_eq_layout, Utf8.encode_eq_flatMap]
      rfl
    · exact .inl rfl
    · exact encodeAuthzid_cases authzid
    · exact List.cons_ne_nil _ _
    · intro key value member
      cases List.mem_singleton.mp member
      exact isKey_of_all (by decide) (by decide)
    · intro key value member
      cases List.mem_singleton.mp member
      exact delimiter_not_mem_bearer clear
    · intro value member
      cases List.mem_singleton.mp member
      exact ⟨found, bears⟩
    · exact ⟨_, List.mem_singleton_self _⟩
  exact derives.parse_eq_ok ⟨names_encodeAuthzid authzid, ⟨_, rfl, bears⟩, rfl, rfl⟩

/-- The attributes that are read end with the token that was written. -/
theorem exists_entries_of_parse (clear : delimiter ∉ message.token.toList)
    (found : parse message.encode = .ok read) :
    ∃ earlier, Means (encodeAuthzid message.authzid)
      (earlier ++ [("auth", "Bearer " ++ message.token)]) read := by
  obtain ⟨flag, identity, entries, derives, means⟩ := (parse_eq_ok_iff message.encode read).mp found
  have same : message.encodeText = layout flag identity entries := by
    have spelled := derives.written
    rw [← Utf8.encode_eq_flatMap, ← Utf8.decode_eq_some_iff, encode,
      (Utf8.decode_eq_some_iff _ _).mpr rfl] at spelled
    exact Option.some.inj spelled
  rw [encodeText_eq_layout] at same
  have ours : ',' ∉ encodeAuthzid message.authzid := comma_not_mem_identity (encodeAuthzid_cases _)
  obtain ⟨rfl, joined⟩ := layout_inj ours derives.comma_not_mem same
  -- What was written before the token may be divided in other ways, so only the last entries are compared.
  rcases List.eq_nil_or_concat entries with empty | ⟨earlier, last, rfl⟩
  · exact absurd empty derives.nonempty
  rw [List.concat_eq_append] at derives means joined
  rw [BearerMessage.entries] at joined
  have sound := derives.keys last.1 last.2 (by simp)
  have inside := derives.values last.1 last.2 (by simp)
  have final : IsKey "auth" := isKey_of_all (by decide) (by decide)
  have ends : written last = written ("auth", "Bearer " ++ message.token) := by
    refine (written_eq_of_flatMap ?_ ?_ joined).symm
    · exact (delimiter_not_mem_written_iff final).mpr (delimiter_not_mem_bearer clear)
    · exact (delimiter_not_mem_written_iff sound).mpr inside
  rw [sound.entry_eq final ends] at means
  exact ⟨earlier, means⟩

/-- However the host and the extensions are made, a message is read for its own token and identity, if it is
read at all. -/
theorem withstands_of_parse (clear : delimiter ∉ message.token.toList)
    (found : parse message.encode = .ok read) : message.Withstands read := by
  obtain ⟨earlier, means⟩ := exists_entries_of_parse clear found
  obtain ⟨value, last, bears⟩ := means.token
  have auth : value = "Bearer " ++ message.token := by simpa using last.symm
  subst auth
  obtain ⟨encloses, nonempty⟩ := bears_written_iff.mp bears
  have named := means.authzid.eq (names_encodeAuthzid message.authzid)
  refine ⟨encloses, named, ?_⟩
  rw [named]
  exact parse_alone clear encloses nonempty

/-- A message whose identity, host and extension each hold another token. -/
def hostile : BearerMessage where
  authzid := some "me,\x01auth=Bearer evil\x01,"
  host := some "h\x01auth=Bearer evil"
  token := "\t good "
  extensions := [("x=1\x01AUTH", "=,"), ("y=\x01auth", "Bearer evil")]

/-- What the message is read as: the extensions are the parts of them that hold no token. -/
def received : BearerMessage where
  authzid := some "me,\x01auth=Bearer evil\x01,"
  host := some "h"
  token := "good"
  extensions := [("x", "1"), ("AUTH", "=,"), ("y", "")]

/-- With two other tokens in it, the message is read for its own one. -/
theorem own_token_read : delimiter ∉ hostile.token.toList ∧ parse hostile.encode = .ok received ∧
    hostile.Withstands received := by
  have clear : delimiter ∉ hostile.token.toList := by decide
  have found : parse hostile.encode = .ok received := by decide +kernel
  exact ⟨clear, found, withstands_of_parse clear found⟩

end BearerIdentity.BearerMessage
