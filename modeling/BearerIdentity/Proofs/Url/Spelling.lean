import BearerIdentity.Proofs.Text.Decimal
import BearerIdentity.Proofs.Url.Authority

set_option autoImplicit false

namespace BearerIdentity

namespace Percent

theorem toNat_lt_of_isUnreserved {c : Char} (unreserved : isUnreserved c = true) : c.toNat < 0x80 := by
  have order (c d : Char) : c ≤ d ↔ c.toNat ≤ d.toNat := Iff.rfl
  simp only [isUnreserved, Ascii.isLetter, Ascii.isDigit, Bool.or_eq_true, Bool.and_eq_true,
    decide_eq_true_eq, order] at unreserved
  have z : 'z'.toNat = 122 := rfl
  have capital : 'Z'.toNat = 90 := rfl
  have nine : '9'.toNat = 57 := rfl
  rcases unreserved with (((((⟨-, high⟩ | ⟨-, high⟩) | ⟨-, high⟩) | rfl) | rfl) | rfl) | rfl
  · omega
  · omega
  · omega
  all_goals decide

end Percent

namespace Url

variable {scheme : String} {rest : List Char}

theorem isIdle_of_isUnreserved {c : Char} (unreserved : Percent.isUnreserved c = true) : IsIdle c := by
  obtain ⟨ascii, allowed⟩ := Ascii.of_codes
    (p := fun c => Percent.isUnreserved c = true → Punycode.isAscii c = true ∧ Domain.isForbidden c = false)
    (by decide +kernel) (Percent.toNat_lt_of_isUnreserved unreserved) unreserved
  exact isIdle_of_isPlain ⟨ascii, allowed⟩

/-- In a path, such a character is kept, and only a point is read as one. -/
theorem path_of_isUnreserved {c : Char} (unreserved : Percent.isUnreserved c = true) :
    Percent.inPath c = false ∧ c.toLower ≠ '%' ∧ (c.toLower = '.' → c = '.') :=
  Ascii.of_codes
    (p := fun c => Percent.isUnreserved c = true →
      Percent.inPath c = false ∧ c.toLower ≠ '%' ∧ (c.toLower = '.' → c = '.'))
    (by decide +kernel) (Percent.toNat_lt_of_isUnreserved unreserved) unreserved

theorem isSchemeChar_of_toLower {c : Char} (known : isSchemeChar c.toLower = true) :
    isSchemeChar c = true ∧ (Ascii.isLetter c.toLower = true → Ascii.isLetter c = true) := by
  by_cases ascii : c.toNat < 0x80
  · exact Ascii.of_codes (p := fun c => isSchemeChar c.toLower = true →
      isSchemeChar c = true ∧ (Ascii.isLetter c.toLower = true → Ascii.isLetter c = true))
      (by decide +kernel) ascii known
  · rw [Ascii.toLower_of_outside (Nat.not_lt.mp ascii)] at known ⊢
    exact ⟨known, id⟩

theorem visible_of_isSchemeChar {c : Char} (known : isSchemeChar c = true) : 0x20 < c.toNat := by
  by_cases ascii : c.toNat < 0x80
  · exact Ascii.of_codes (p := fun c => isSchemeChar c = true → 0x20 < c.toNat) (by decide +kernel) ascii known
  · omega

/-- A name that is read as the scheme of a URL that needs no host. -/
structure IsSchemeName (name : String) : Prop where
  chars : ∀ c ∈ name.toList, isSchemeChar c = true
  first : ∃ c, name.toList.head? = some c ∧ Ascii.isLetter c = true
  generic : Kind.ofScheme name = .generic
  usual : defaultPort? name = none

theorem IsSchemeName.written {written : List Char} (name : IsSchemeName scheme)
    (lowered : Ascii.lower written = scheme.toList) : ∀ c ∈ written, isSchemeChar c = true := by
  intro c member
  have known := name.chars c.toLower (lowered ▸ List.mem_map_of_mem member)
  exact (isSchemeChar_of_toLower known).1

theorem splitScheme?_append {written : List Char} (name : IsSchemeName scheme)
    (lowered : Ascii.lower written = scheme.toList) (rest : List Char) :
    splitScheme? (written ++ ':' :: rest) = some (scheme, rest) := by
  have chars := name.written lowered
  obtain ⟨start, isFirst, isLetter⟩ := name.first
  cases written with
  | nil =>
    rw [← lowered] at isFirst
    cases isFirst
  | cons c written =>
    have stops : ∀ other ∈ (':' :: rest).head?, isSchemeChar other = false := by
      rintro other ⟨⟩
      rfl
    obtain ⟨taken, left⟩ := Blank.span_append chars stops
    have letter : Ascii.isLetter c = true := by
      rw [← lowered] at isFirst
      cases isFirst
      have known := name.chars c.toLower (lowered ▸ List.mem_cons_self)
      exact (isSchemeChar_of_toLower known).2 isLetter
    have head : (c :: written ++ ':' :: rest).head? = some c := rfl
    simp only [splitScheme?, head, left]
    rw [if_pos letter, taken, lowered, String.ofList_toList]

/-- A URL that begins with a scheme and an authority. -/
theorem parse?_append {text : String} {written : List Char} (name : IsSchemeName scheme)
    (lowered : Ascii.lower written = scheme.toList)
    (visible : ∀ c ∈ rest, 0x20 < c.toNat) (parted : text.toList = written ++ ':' :: '/' :: '/' :: rest) :
    parse? text = parseAuthority? scheme .generic rest := by
  have shown : ∀ c ∈ text.toList, 0x20 < c.toNat := by
    rw [parted]
    intro c member
    rcases List.mem_append.mp member with inScheme | behind
    · exact visible_of_isSchemeChar (name.written lowered c inScheme)
    · simp only [List.mem_cons] at behind
      rcases behind with rfl | rfl | rfl | inRest
      · decide
      · decide
      · decide
      · exact visible c inRest
  have cleaned : clean text.toList = text.toList := by
    rw [clean_eq_filter fun c first => shown c (List.mem_of_head? first), List.filter_eq_self]
    · exact fun c member => isRetained_of_visible (shown c member)
    · exact fun c last => shown c (List.mem_of_getLast? last)
  rw [parse?, cleaned, parted, splitScheme?_append name lowered]
  simp only [Option.bind_eq_bind, Option.bind_some, name.generic]

theorem readUserinfo_append {user password : List Char} (clear : ':' ∉ user) (filled : password ≠ []) :
    readUserinfo (user ++ ':' :: password) = (encodeUserinfo user, some (encodeUserinfo password)) := by
  have kept : ∀ c ∈ user, decide (c ≠ ':') = true :=
    fun c member => decide_eq_true fun same => clear (same ▸ member)
  have stops : ∀ c ∈ (':' :: password).head?, decide (c ≠ ':') = false := by
    rintro c ⟨⟩
    rfl
  obtain ⟨taken, left⟩ := Blank.span_append kept stops
  simp only [readUserinfo]
  rw [taken, left]
  simp [filled]

def portText (port : Option Nat) : String :=
  (port.map fun number => s!":{number}").getD ""

theorem toList_portText_some (number : Nat) :
    (portText (some number)).toList = ':' :: Nat.toDigits 10 number := by
  simp [portText, toString]

theorem isIdle_of_mem_toDigits {number : Nat} {c : Char} (member : c ∈ Nat.toDigits 10 number) : IsIdle c :=
  isIdle_of_isDigit (Nat.isDigit_of_mem_toDigits (by decide) (by decide) member)

theorem eq_colon_or_isIdle {port : Option Nat} {c : Char} (member : c ∈ (portText port).toList) :
    c = ':' ∨ IsIdle c := by
  cases port with
  | none => cases member
  | some number =>
    rw [toList_portText_some] at member
    exact (List.mem_cons.mp member).imp id isIdle_of_mem_toDigits

theorem splitHost_append {host : List Char} (idle : ∀ c ∈ host, IsIdle c) (port : Option Nat) :
    splitHost false (host ++ (portText port).toList) = (host, (portText port).toList) := by
  induction host with
  | nil =>
    cases port with
    | none => rfl
    | some number =>
      rw [toList_portText_some]
      rfl
  | cons c host ih =>
    obtain ⟨colon, opening, closing⟩ := (idle c List.mem_cons_self).plain
    rw [List.cons_append, splitHost]
    simp [colon, opening, ih fun other member => idle other (List.mem_cons_of_mem _ member)]

theorem readPort?_toDigits {number : Nat} (usual : defaultPort? scheme = none) (fits : number ≤ 65535) :
    readPort? scheme (Nat.toDigits 10 number) = some (some number) := by
  have filled : (Nat.toDigits 10 number).isEmpty = false := by
    rw [List.isEmpty_eq_false_iff]
    exact Nat.toDigits_ne_nil
  rw [readPort?, filled, Ascii.all_isDigit_toDigits]
  simp [Ascii.decimal_toDigits, usual, Nat.not_lt.mpr fits]

/-- A host that is written without escapes. -/
structure IsHostName (host : String) : Prop where
  nonempty : host.toList ≠ []
  chars : ∀ c ∈ host.toList, Percent.isUnreserved c = true

theorem IsHostName.isHostChar {host : String} {port : Option Nat} (name : IsHostName host) {c : Char}
    (member : c ∈ host.toList ++ (portText port).toList) : IsHostChar c := by
  rcases List.mem_append.mp member with inHost | inPort
  · exact (isIdle_of_isUnreserved (name.chars c inHost)).char
  · rcases eq_colon_or_isIdle inPort with rfl | idle
    · exact ⟨by decide, by decide⟩
    · exact idle.char

theorem parseAuthority?_written {userinfo : List Char} {host : String} {port : Option Nat}
    (usual : defaultPort? scheme = none) (inside : ∀ c ∈ userinfo, endsAuthority .generic c = false)
    (name : IsHostName host) (fits : ∀ number, port = some number → number ≤ 65535) (behind : IsTail rest) :
    parseAuthority? scheme .generic
      (userinfo ++ '@' :: (host.toList ++ (portText port).toList) ++ rest) =
        some (assemble scheme .generic (readUserinfo userinfo) (some (.domain host)) port
          (readPath .generic (splitTail rest).path) (splitTail rest)) := by
  have idle : ∀ c ∈ host.toList, IsIdle c := fun c member => isIdle_of_isUnreserved (name.chars c member)
  have goesOn : ∀ c ∈ userinfo ++ '@' :: (host.toList ++ (portText port).toList),
      endsAuthority .generic c = false := by
    intro c member
    rcases List.mem_append.mp member with before | later
    · exact inside c before
    · rcases List.mem_cons.mp later with rfl | later
      · rfl
      · exact (name.isHostChar later).not_endsAuthority
  obtain ⟨whole, remains⟩ := behind.cut goesOn
  have clear : '@' ∉ host.toList ++ (portText port).toList :=
    fun member => (name.isHostChar member).inside.2.2.2 rfl
  have hosted : userinfo ++ '@' :: (host.toList ++ (portText port).toList) ≠ ['@'] := by
    intro bare
    have lengths := congrArg List.length bare
    have positive := List.length_pos_iff.mpr name.nonempty
    simp only [List.length_append, List.length_cons, List.length_nil] at lengths
    omega
  have known := genericHost?_of_idle name.nonempty idle
  rw [String.ofList_toList] at known
  simp only [parseAuthority?]
  rw [whole, remains, splitUserinfo_append clear, Option.getD_some, splitHost_append idle,
    if_neg fun bare => hosted bare.1]
  simp only [if_true, known, Option.bind_eq_bind, Option.bind_some]
  cases port with
  | none => simp [portText]
  | some number =>
    have unbarred : ∀ c ∈ Nat.toDigits 10 number, decide (c ≠ '\\') = true := by
      intro c member
      have allowed := (isIdle_of_mem_toDigits member).allowed
      refine decide_eq_true ?_
      rintro rfl
      cases allowed
    simp only [toList_portText_some]
    rw [List.takeWhile_eq_self_iff.mpr unbarred, List.dropWhile_eq_nil_iff.mpr unbarred,
      readPort?_toDigits usual (fits number rfl)]
    simp

theorem splitTail_append {path query : List Char} (unmarked : ∀ c ∈ path, c ≠ '?' ∧ c ≠ '#')
    (inQuery : ∀ c ∈ query, c ≠ '#') : splitTail (path ++ '?' :: query) = ⟨path, some query, none⟩ := by
  have noFragment : ∀ c ∈ path ++ '?' :: query, decide (c ≠ '#') = true := by
    intro c member
    refine decide_eq_true ?_
    rcases List.mem_append.mp member with inPath | later
    · exact (unmarked c inPath).2
    · rcases List.mem_cons.mp later with rfl | later
      · decide
      · exact inQuery c later
  have kept : ∀ c ∈ path, decide (c ≠ '?') = true := fun c member => decide_eq_true (unmarked c member).1
  have stops : ∀ c ∈ ('?' :: query).head?, decide (c ≠ '?') = false := by
    rintro c ⟨⟩
    rfl
  obtain ⟨taken, left⟩ := Blank.span_append kept stops
  simp only [splitTail]
  rw [List.takeWhile_eq_self_iff.mpr noFragment, List.dropWhile_eq_nil_iff.mpr noFragment, taken, left]
  simp

/-- A segment of a path that is written without escapes, and is no step. -/
structure IsSegment (segment : String) : Prop where
  chars : ∀ c ∈ segment.toList, Percent.isUnreserved c = true
  noStep : segment ≠ "." ∧ segment ≠ ".."

namespace IsSegment

variable {segment : String}

theorem not_isSingleDot (plain : IsSegment segment) : isSingleDot segment = false := by
  have unescaped : '%' ∉ segment.toList := fun member => absurd (plain.chars _ member) (by decide)
  have lower : segment ≠ "%2e" := by
    rintro rfl
    exact unescaped (by decide)
  have upper : segment ≠ "%2E" := by
    rintro rfl
    exact unescaped (by decide)
  simp [isSingleDot, plain.noStep.1, lower, upper]

theorem not_isDoubleDot (plain : IsSegment segment) : isDoubleDot segment = false := by
  rw [isDoubleDot, decide_eq_false_iff_not]
  intro listed
  have unescaped : '%' ∉ Ascii.lower segment.toList := by
    intro member
    obtain ⟨c, inside, same⟩ := List.mem_map.mp member
    exact (path_of_isUnreserved (plain.chars c inside)).2.1 same
  have ofEscape {text : String} (escaped : '%' ∈ text.toList)
      (same : String.ofList (Ascii.lower segment.toList) = text) : False := by
    rw [← same, String.toList_ofList] at escaped
    exact unescaped escaped
  simp only [List.mem_cons, List.not_mem_nil, or_false] at listed
  rcases listed with points | escape | escape | escape
  · have lowered : Ascii.lower segment.toList = ['.', '.'] := by
      rw [← String.toList_ofList (l := Ascii.lower segment.toList), points]
      rfl
    have kept : Ascii.lower segment.toList = segment.toList := by
      refine (List.map_congr_left fun c inside => ?_).trans (List.map_id _)
      have point : c.toLower ∈ ['.', '.'] := lowered ▸ List.mem_map_of_mem inside
      have isPoint : c.toLower = '.' := by simpa using point
      rw [isPoint, (path_of_isUnreserved (plain.chars c inside)).2.2 isPoint]
      rfl
    rw [kept, String.ofList_toList] at points
    exact plain.noStep.2 points
  · exact ofEscape (by decide) escape
  · exact ofEscape (by decide) escape
  · exact ofEscape (by decide) escape

end IsSegment

theorem resolve_eq_append {segments pieces : List String} (plain : ∀ piece ∈ pieces, IsSegment piece) :
    resolve segments pieces = segments ++ pieces := by
  induction pieces generalizing segments with
  | nil => simp [resolve]
  | cons piece rest ih =>
    have first := plain piece List.mem_cons_self
    rw [resolve]
    simp [first.not_isDoubleDot, first.not_isSingleDot, ih fun other member =>
      plain other (List.mem_cons_of_mem _ member)]

theorem toList_text_rooted (segments : List String) :
    (Path.rooted segments).text.toList = segments.flatMap fun segment => '/' :: segment.toList := by
  simp [Path.text, List.flatMap_map]

/-- The segments of a path are read one by one. -/
theorem readPath_text {segments : List String} (plain : ∀ segment ∈ segments, IsSegment segment) :
    readPath .generic (Path.rooted segments).text.toList = .rooted segments := by
  rw [toList_text_rooted]
  cases segments with
  | nil => rfl
  | cons segment segments =>
    have clear : ∀ piece ∈ (segment :: segments).map String.toList, '/' ∉ piece := by
      intro piece listed member
      obtain ⟨written, part, rfl⟩ := List.mem_map.mp listed
      exact absurd ((plain written part).chars _ member) (by decide)
    have cut := Split.onEvery_intercalate (List.cons_ne_nil _ _) clear
    rw [Split.intercalate_cons, List.flatMap_map, ← List.map_cons] at cut
    have isSlash :
        (fun c : Char => decide (c = '/') || (decide (c = '\\') && decide (Kind.generic ≠ .generic))) =
          (· == '/') := by
      funext c
      simp [Bool.beq_eq_decide_eq]
    have kept : ∀ piece ∈ segment :: segments,
        String.ofList (Percent.encode Percent.inPath piece.toList) = piece := by
      intro piece part
      have plainChar : ∀ c ∈ piece.toList, c.toNat < 0x80 ∧ Percent.inPath c = false := by
        intro c member
        have unreserved := (plain piece part).chars c member
        exact ⟨Percent.toNat_lt_of_isUnreserved unreserved, (path_of_isUnreserved unreserved).1⟩
      rw [Percent.encode_eq_self plainChar, String.ofList_toList]
    have pieces : (Split.onEvery (· == '/')
        (segment.toList ++ segments.flatMap fun segment => '/' :: segment.toList)).map
          (fun piece => String.ofList (Percent.encode Percent.inPath piece)) = segment :: segments := by
      rw [cut, List.map_map]
      exact (List.map_congr_left kept).trans (List.map_id _)
    rw [List.flatMap_cons, List.cons_append, readPath, if_pos (by decide), readSegments, isSlash, pieces,
      resolve_eq_append plain]
    rfl

end Url

end BearerIdentity
