import BearerIdentity.Proofs.Text.Percent
import BearerIdentity.Proofs.Url.Address
import BearerIdentity.Proofs.Url.Domain
import BearerIdentity.Url.Parser

set_option autoImplicit false

namespace BearerIdentity.Url

/-- A character that stays in a URL, and does not end the host or what stands before it. -/
structure IsHostChar (c : Char) : Prop where
  visible : 0x20 < c.toNat
  inside : c ≠ '/' ∧ c ≠ '?' ∧ c ≠ '#' ∧ c ≠ '@'

theorem IsHostChar.not_endsAuthority {c : Char} (char : IsHostChar c) : endsAuthority .generic c = false := by
  obtain ⟨slash, question, hash, -⟩ := char.inside
  simp [endsAuthority, slash, question, hash]

/-- A host whose text is read as a host with this text, wherever hosts are kept as they are written. -/
structure Recurs (host : Host) : Prop where
  nonempty : host.text.toList ≠ []
  chars : ∀ c ∈ host.text.toList, IsHostChar c
  whole : splitHost false host.text.toList = (host.text.toList, [])
  read : ∃ other, genericHost? host.text.toList = some other ∧ other ≠ .empty ∧ other.text = host.text

namespace Recurs

variable {host : Host} (recurs : Recurs host)

include recurs

theorem ne_empty : host ≠ .empty := by
  rintro rfl
  exact recurs.nonempty rfl

theorem clear : '@' ∉ host.text.toList :=
  fun member => (recurs.chars '@' member).inside.2.2.2 rfl

end Recurs

/-- A plain character means nothing in particular in a host. -/
structure IsIdle (c : Char) : Prop where
  char : IsHostChar c
  plain : c ≠ ':' ∧ c ≠ '[' ∧ c ≠ ']'
  allowed : isForbiddenHostChar c = false
  kept : c.toNat < 0x80 ∧ Percent.isControl c = false

theorem isIdle_of_isPlain {c : Char} (plain : Domain.IsPlain c) : IsIdle c := by
  have ascii : c.toNat < 0x80 := by simpa [Punycode.isAscii] using plain.ascii
  obtain ⟨visible, inside, idle, allowed, uncontrolled⟩ :=
    Ascii.of_codes (p := fun c => Domain.isForbidden c = false →
      0x20 < c.toNat ∧ (c ≠ '/' ∧ c ≠ '?' ∧ c ≠ '#' ∧ c ≠ '@') ∧ (c ≠ ':' ∧ c ≠ '[' ∧ c ≠ ']') ∧
        isForbiddenHostChar c = false ∧ Percent.isControl c = false)
      (by decide +kernel) ascii plain.allowed
  exact ⟨⟨visible, inside⟩, idle, allowed, ascii, uncontrolled⟩

/-- Without brackets, a host without a colon is whole. -/
theorem splitHost_of_idle {text : List Char} (idle : ∀ c ∈ text, IsIdle c) :
    splitHost false text = (text, []) := by
  induction text with
  | nil => rfl
  | cons c rest ih =>
    obtain ⟨colon, opening, closing⟩ := (idle c List.mem_cons_self).plain
    rw [splitHost]
    simp [colon, opening, ih fun other member => idle other (List.mem_cons_of_mem _ member)]

theorem genericHost?_of_idle {text : List Char} (nonempty : text ≠ []) (idle : ∀ c ∈ text, IsIdle c) :
    genericHost? text = some (.domain (String.ofList text)) := by
  have unbracketed : text.head? ≠ some '[' := by
    intro first
    exact (idle _ (List.mem_of_head? first)).plain.2.1 rfl
  have allowed : text.any isForbiddenHostChar = false := by
    rw [List.any_eq_false]
    intro c member
    rw [(idle c member).allowed]
    decide
  have kept : Percent.encode Percent.isControl text = text :=
    Percent.encode_eq_self fun c member => (idle c member).kept
  rw [genericHost?, if_neg unbracketed, if_neg (by rw [allowed]; decide), if_neg (by simpa using nonempty),
    kept]

theorem recurs_of_idle {host : Host} (nonempty : host.text.toList ≠ [])
    (idle : ∀ c ∈ host.text.toList, IsIdle c) : Recurs host where
  nonempty := nonempty
  chars := fun c member => (idle c member).char
  whole := splitHost_of_idle idle
  read := ⟨_, genericHost?_of_idle nonempty idle, nofun, String.ofList_toList⟩

theorem isIdle_of_isDigit {c : Char} (digit : c.isDigit = true) : IsIdle c := by
  have bounds := digit
  simp only [Char.isDigit, Bool.and_eq_true, decide_eq_true_eq] at bounds
  have high : c.toNat ≤ 57 := bounds.2
  obtain ⟨ascii, allowed⟩ := Ascii.of_codes
    (p := fun c => c.isDigit = true → Punycode.isAscii c = true ∧ Domain.isForbidden c = false)
    (by decide +kernel) (by omega) digit
  exact isIdle_of_isPlain ⟨ascii, allowed⟩

theorem isIdle_of_mem_toString {number : Nat} {c : Char} (member : c ∈ (toString number).toList) :
    IsIdle c := by
  rw [Nat.toString_eq_ofList_toDigits, String.toList_ofList] at member
  exact isIdle_of_isDigit (Nat.isDigit_of_mem_toDigits (by decide) (by decide) member)

/-- An address of four numbers consists of digits and points. -/
theorem recurs_ipv4 (address : Nat) : Recurs (.ipv4 address) := by
  have point : IsIdle '.' := isIdle_of_isPlain ⟨by decide, by decide⟩
  refine recurs_of_idle ?_ ?_
  · simp [Host.text, Ipv4.text, String.intercalate_cons_cons, String.toList_append]
  · intro c member
    simp only [Host.text, Ipv4.text, List.map_cons, List.map_nil, String.intercalate_cons_cons,
      String.intercalate_singleton, String.toList_append, List.mem_append] at member
    have points (member : c ∈ ".".toList) : IsIdle c := by
      rw [List.mem_singleton.mp member]
      exact point
    rcases member with (first | mark) | (second | mark) | (third | mark) | fourth
    · exact isIdle_of_mem_toString first
    · exact points mark
    · exact isIdle_of_mem_toString second
    · exact points mark
    · exact isIdle_of_mem_toString third
    · exact points mark
    · exact isIdle_of_mem_toString fourth

/-- Inside of brackets, a colon belongs to the host. -/
theorem splitHost_bracketed {text : List Char} (clear : ']' ∉ text) :
    splitHost true (text ++ [']']) = (text ++ [']'], []) := by
  induction text with
  | nil => rfl
  | cons c rest ih =>
    rw [List.mem_cons, not_or] at clear
    rw [List.cons_append, splitHost]
    simp [Ne.symm clear.1, ih clear.2]

theorem bracketed?_append (text : List Char) : bracketed? ('[' :: (text ++ [']'])) = some text := by
  rw [bracketed?, ← List.cons_append, List.getLast?_concat, if_pos rfl]
  simp

theorem isHostChar_of_hexValue? {c : Char} (digit : (Ascii.hexValue? c).isSome = true) : IsHostChar c := by
  obtain ⟨value, known⟩ := Option.isSome_iff_exists.mp digit
  obtain ⟨visible, inside⟩ := Ascii.of_codes
    (p := fun c => (Ascii.hexValue? c).isSome = true →
      0x20 < c.toNat ∧ (c ≠ '/' ∧ c ≠ '?' ∧ c ≠ '#' ∧ c ≠ '@'))
    (by decide +kernel) (Percent.toNat_lt_of_hexValue? known) digit
  exact ⟨visible, inside⟩

theorem recurs_ipv6 {pieces : List Nat} (address : Ipv6.IsAddress pieces) : Recurs (.ipv6 pieces) := by
  have written : (Host.ipv6 pieces).text.toList = '[' :: ((Ipv6.text pieces).toList ++ [']']) := by
    rw [Host.text, String.toList_append, String.toList_append]
    rfl
  have clear : ']' ∉ (Ipv6.text pieces).toList := by
    intro found
    rcases Ipv6.mem_text found with same | digit
    · cases same
    · cases digit
  constructor
  case nonempty =>
    rw [written]
    simp
  case chars =>
    rw [written]
    intro c found
    rcases List.mem_cons.mp found with rfl | found
    · exact ⟨by decide, by decide⟩
    · rcases List.mem_append.mp found with found | last
      · rcases Ipv6.mem_text found with rfl | digit
        · exact ⟨by decide, by decide⟩
        · exact isHostChar_of_hexValue? digit
      · rw [List.mem_singleton.mp last]
        exact ⟨by decide, by decide⟩
  case whole =>
    rw [written, splitHost]
    simp [splitHost_bracketed clear]
  case read =>
    refine ⟨.ipv6 pieces, ?_, nofun, rfl⟩
    rw [written, genericHost?, List.head?_cons, if_pos rfl, bracketed?_append, Option.bind_some,
      Ipv6.parse?_text address]
    rfl

/-- Every host that a URL with a mandatory host has recurs. -/
theorem recurs_of_specialHost? {text : List Char} {host : Host} (read : specialHost? text = some host) :
    Recurs host := by
  unfold specialHost? at read
  split at read
  · obtain ⟨pieces, bracketed, rfl⟩ := Option.map_eq_some_iff.mp read
    obtain ⟨inner, -, parsed⟩ := Option.bind_eq_some_iff.mp bracketed
    exact recurs_ipv6 (Ipv6.isAddress_of_parse? parsed)
  · simp only [Option.bind_eq_bind, Option.bind_eq_some_iff] at read
    obtain ⟨name, -, domain, named, read⟩ := read
    split at read
    · cases read
    · rename_i nonempty
      split at read
      · obtain ⟨address, -, rfl⟩ := Option.map_eq_some_iff.mp read
        exact recurs_ipv4 address
      · cases read
        have written : (Host.domain (String.ofList domain)).text.toList = domain := String.toList_ofList
        refine recurs_of_idle ?_ ?_
        · rw [written]
          simpa using nonempty
        · rw [written]
          exact fun c member => isIdle_of_isPlain (Domain.isPlain_of_toAscii? named c member)

end BearerIdentity.Url
