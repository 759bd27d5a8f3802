import BearerIdentity.Proofs.Text.Split
import BearerIdentity.Sasl.Message

set_option autoImplicit false

namespace BearerIdentity.BearerMessage

/-- Every equals sign begins the escape of a comma or of an equals sign. -/
def Escaped (text : List Char) : Prop :=
  ∀ before after, text = before ++ '=' :: after → ['2', 'C'] <+: after ∨ ['3', 'D'] <+: after

/-- What an escaped text stands for. -/
inductive Unescapes : (escaped text : List Char) → Prop where
  | nil : Unescapes [] []
  | comma {escaped text : List Char} (rest : Unescapes escaped text) :
      Unescapes ('=' :: '2' :: 'C' :: escaped) (',' :: text)
  | equals {escaped text : List Char} (rest : Unescapes escaped text) :
      Unescapes ('=' :: '3' :: 'D' :: escaped) ('=' :: text)
  | plain {c : Char} {escaped text : List Char} (other : c ≠ '=') (rest : Unescapes escaped text) :
      Unescapes (c :: escaped) (c :: text)

theorem escaped_nil : Escaped [] := by
  intro before after parted
  cases before <;> cases parted

theorem escaped_cons {c : Char} (other : c ≠ '=') (text : List Char) : Escaped (c :: text) ↔ Escaped text := by
  constructor
  · intro escaped before after parted
    exact escaped (c :: before) after (by rw [parted]; rfl)
  · intro escaped before after parted
    cases before with
    | nil =>
      cases parted
      exact absurd rfl other
    | cons d before =>
      cases parted
      exact escaped before after rfl

theorem escaped_equals (text : List Char) :
    Escaped ('=' :: text) ↔ (['2', 'C'] <+: text ∨ ['3', 'D'] <+: text) ∧ Escaped text := by
  constructor
  · intro escaped
    refine ⟨escaped [] text rfl, ?_⟩
    intro before after parted
    exact escaped ('=' :: before) after (by rw [parted]; rfl)
  · rintro ⟨first, escaped⟩ before after parted
    cases before with
    | nil =>
      cases parted
      exact first
    | cons d before =>
      cases parted
      exact escaped before after rfl

theorem unescape_cons {c : Char} (other : c ≠ '=') (text : List Char) :
    unescape (c :: text) = (unescape text).map (c :: ·) := by
  rw [unescape]
  · rw [if_neg other]
  · rintro rest rfl
    exact absurd rfl other
  · rintro rest rfl
    exact absurd rfl other

theorem unescape_eq_some_iff (escaped text : List Char) :
    unescape escaped = some text ↔ Unescapes escaped text := by
  constructor
  · intro read
    fun_induction unescape escaped generalizing text with
    | case1 =>
      cases read
      exact .nil
    | case2 rest ih =>
      obtain ⟨inner, found, rfl⟩ := Option.map_eq_some_iff.mp read
      exact .comma (ih inner found)
    | case3 rest ih =>
      obtain ⟨inner, found, rfl⟩ := Option.map_eq_some_iff.mp read
      exact .equals (ih inner found)
    | case4 => cases read
    | case5 c rest _ _ other ih =>
      obtain ⟨inner, found, rfl⟩ := Option.map_eq_some_iff.mp read
      exact .plain other (ih inner found)
  · intro stands
    induction stands with
    | nil => rfl
    | comma _ ih => rw [unescape, ih]; rfl
    | equals _ ih => rw [unescape, ih]; rfl
    | plain other _ ih => rw [unescape_cons other, ih]; rfl

theorem exists_unescapes_iff (escaped : List Char) : (∃ text, Unescapes escaped text) ↔ Escaped escaped := by
  constructor
  · rintro ⟨text, stands⟩
    induction stands with
    | nil => exact escaped_nil
    | comma _ ih => simp [escaped_equals, escaped_cons, ih]
    | equals _ ih => simp [escaped_equals, escaped_cons, ih]
    | plain other _ ih => exact (escaped_cons other _).mpr ih
  · intro sound
    simp only [← unescape_eq_some_iff]
    fun_induction unescape escaped with
    | case1 => exact ⟨[], rfl⟩
    | case2 rest ih =>
      simp only [escaped_equals, escaped_cons (c := '2') (by decide), escaped_cons (c := 'C') (by decide)] at sound
      obtain ⟨text, found⟩ := ih sound.2
      exact ⟨',' :: text, by rw [found]; rfl⟩
    | case3 rest ih =>
      simp only [escaped_equals, escaped_cons (c := '3') (by decide), escaped_cons (c := 'D') (by decide)] at sound
      obtain ⟨text, found⟩ := ih sound.2
      exact ⟨'=' :: text, by rw [found]; rfl⟩
    | case4 rest comma equals =>
      rcases (escaped_equals rest).mp sound with ⟨⟨after, rfl⟩ | ⟨after, rfl⟩, _⟩
      · exact (comma after rfl rfl).elim
      · exact (equals after rfl rfl).elim
    | case5 c rest _ _ other ih =>
      obtain ⟨text, found⟩ := ih ((escaped_cons other rest).mp sound)
      exact ⟨c :: text, by rw [found]; rfl⟩

/-- An identity is read back. -/
theorem unescapes_escape (text : List Char) : Unescapes (escape text) text := by
  induction text with
  | nil => exact .nil
  | cons c rest ih =>
    rw [escape, List.flatMap_cons, ← escape]
    by_cases equals : c = '='
    · rw [equals]
      exact .equals ih
    by_cases comma : c = ','
    · rw [comma]
      exact .comma ih
    · rw [if_neg equals, if_neg comma]
      exact .plain equals ih

theorem comma_not_mem_escape (text : List Char) : ',' ∉ escape text := by
  intro member
  obtain ⟨c, _, inner⟩ := List.mem_flatMap.mp member
  by_cases equals : c = '='
  · simp [equals] at inner
  by_cases comma : c = ','
  · simp [comma] at inner
  · rw [if_neg equals, if_neg comma] at inner
    exact comma (List.mem_singleton.mp inner).symm

/-- The identity that the header names. -/
inductive Names : (identity : List Char) → (authzid : Option String) → Prop where
  | nobody : Names [] none
  | somebody {escaped : List Char} {authzid : String} (stands : Unescapes escaped authzid.toList) :
      Names ('a' :: '=' :: escaped) (some authzid)

theorem parseAuthzid_eq_ok_iff (identity : List Char) (authzid : Option String) :
    parseAuthzid identity = .ok authzid ↔ Names identity authzid := by
  constructor
  · intro read
    simp only [parseAuthzid] at read
    split at read
    next =>
      cases read
      exact .nobody
    next escaped =>
      split at read
      next text found =>
        cases read
        apply Names.somebody
        rw [String.toList_ofList]
        exact (unescape_eq_some_iff escaped text).mp found
      next => cases read
    next => cases read
  · intro names
    cases names with
    | nobody => rfl
    | @somebody escaped authzid stands =>
      simp only [parseAuthzid, (unescape_eq_some_iff escaped authzid.toList).mpr stands, String.ofList_toList]

/-- An identity that can be read is nobody's or an escaped one. -/
theorem exists_names_iff (identity : List Char) :
    (∃ authzid, Names identity authzid) ↔
      identity = [] ∨ ∃ escaped, identity = 'a' :: '=' :: escaped ∧ Escaped escaped := by
  constructor
  · rintro ⟨authzid, names⟩
    cases names with
    | nobody => exact .inl rfl
    | @somebody escaped authzid stands =>
      exact .inr ⟨escaped, rfl, (exists_unescapes_iff escaped).mp ⟨authzid.toList, stands⟩⟩
  · rintro (rfl | ⟨escaped, rfl, sound⟩)
    · exact ⟨none, .nobody⟩
    · obtain ⟨text, stands⟩ := (exists_unescapes_iff escaped).mpr sound
      rw [← String.toList_ofList (l := text)] at stands
      exact ⟨some (String.ofList text), .somebody stands⟩

/-- An identity is written with its commas escaped. -/
theorem encodeAuthzid_cases (authzid : Option String) :
    encodeAuthzid authzid = [] ∨
      ∃ escaped, encodeAuthzid authzid = 'a' :: '=' :: escaped ∧ ',' ∉ escaped ∧ Escaped escaped := by
  cases authzid with
  | none => exact .inl rfl
  | some authzid =>
    have sound := (exists_unescapes_iff (escape authzid.toList)).mp ⟨_, unescapes_escape authzid.toList⟩
    exact .inr ⟨escape authzid.toList, rfl, comma_not_mem_escape authzid.toList, sound⟩

theorem comma_not_mem_identity {identity : List Char}
    (sound : identity = [] ∨ ∃ escaped, identity = 'a' :: '=' :: escaped ∧ ',' ∉ escaped ∧ Escaped escaped) :
    ',' ∉ identity := by
  rcases sound with nobody | ⟨escaped, spelled, clear, _⟩
  · simp [nobody]
  · simp [spelled, clear]

theorem names_encodeAuthzid (authzid : Option String) : Names (encodeAuthzid authzid) authzid := by
  cases authzid with
  | none => exact .nobody
  | some authzid => exact .somebody (unescapes_escape authzid.toList)

/-- A header is a flag and an identity, each ended by a comma. -/
theorem parseHeader_eq_ok_iff (text rest : List Char) (authzid : Option String) :
    parseHeader text = .ok (authzid, rest) ↔
      ∃ flag identity, (flag = 'n' ∨ flag = 'y') ∧ text = flag :: ',' :: (identity ++ ',' :: rest) ∧
        ',' ∉ identity ∧ Names identity authzid := by
  constructor
  · intro read
    rw [parseHeader] at read
    split at read
    next => cases read
    next flag after cut =>
      obtain ⟨rfl, _⟩ := (Split.atFirst_eq_some_iff ',' text flag after).mp cut
      split at read
      next => cases read
      next known =>
        split at read
        next => cases read
        next identity later cut =>
          obtain ⟨rfl, clear⟩ := (Split.atFirst_eq_some_iff ',' after identity later).mp cut
          cases named : parseAuthzid identity with
          | error flaw =>
            rw [named] at read
            cases read
          | ok found =>
            rw [named] at read
            cases read
            have names := (parseAuthzid_eq_ok_iff identity authzid).mp named
            by_cases plain : flag = ['n']
            · exact ⟨'n', identity, .inl rfl, by rw [plain]; rfl, clear, names⟩
            · have bound : flag = ['y'] := by
                by_contra other
                exact known ⟨plain, other⟩
              exact ⟨'y', identity, .inr rfl, by rw [bound]; rfl, clear, names⟩
  · rintro ⟨flag, identity, known, rfl, clear, names⟩
    have first : Split.atFirst ',' (flag :: ',' :: (identity ++ ',' :: rest)) =
        some ([flag], identity ++ ',' :: rest) := by
      rcases known with rfl | rfl <;> rfl
    have second : Split.atFirst ',' (identity ++ ',' :: rest) = some (identity, rest) :=
      Split.atFirst_append clear rest
    have named : parseAuthzid identity = .ok authzid := (parseAuthzid_eq_ok_iff identity authzid).mpr names
    rw [parseHeader, first]
    rcases known with rfl | rfl <;> simp [second, named, Except.map]

end BearerIdentity.BearerMessage
