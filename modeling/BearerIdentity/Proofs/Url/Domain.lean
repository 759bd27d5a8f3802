import BearerIdentity.Proofs.Text.Split
import BearerIdentity.Url.Domain

set_option autoImplicit false

namespace BearerIdentity.Url.Domain

/-- A character that a domain name may contain. -/
structure IsPlain (c : Char) : Prop where
  ascii : Punycode.isAscii c = true
  allowed : isForbidden c = false

theorem isPlain_digit {value : Nat} (fits : value < 36) : IsPlain (Punycode.digit value) where
  ascii := (show ∀ value < 36, Punycode.isAscii (Punycode.digit value) = true by decide) value fits
  allowed := (show ∀ value < 36, isForbidden (Punycode.digit value) = false by decide) value fits

theorem isPlain_encodeNumber (bias position number : Nat) :
    ∀ c ∈ Punycode.encodeNumber bias position number, IsPlain c := by
  have least (position : Nat) : Punycode.threshold bias position ≤ 26 := by
    unfold Punycode.threshold
    omega
  induction position, number using Punycode.encodeNumber.induct bias with
  | case1 position number last small =>
    rw [Punycode.encodeNumber, if_pos small]
    intro c member
    rw [List.mem_singleton.mp member]
    have := least position
    exact isPlain_digit (by omega)
  | case2 position number last large ih =>
    rw [Punycode.encodeNumber, if_neg large]
    intro c member
    rcases List.mem_cons.mp member with rfl | later
    · have bound := least position
      have digit := Nat.mod_lt (number - Punycode.threshold bias position)
        (show 36 - Punycode.threshold bias position > 0 by omega)
      exact isPlain_digit (by omega)
    · exact ih c later

/-- Whatever is written in Punycode is plain but for the characters that are taken over. -/
theorem isPlain_pass {ascii code : Nat} {writing : Punycode.Writing} {c : Char}
    (plain : ∀ d ∈ writing.digits, IsPlain d) :
    ∀ d ∈ (Punycode.Writing.pass ascii code writing c).digits, IsPlain d := by
  unfold Punycode.Writing.pass
  split
  · exact plain
  · split
    · intro d member
      rcases List.mem_append.mp member with before | number
      · exact plain d before
      · exact isPlain_encodeNumber _ _ _ d number
    · exact plain

theorem isPlain_passAll {ascii : Nat} {text : List Char} (codes : List Nat) {next : Nat}
    {writing : Punycode.Writing} (plain : ∀ d ∈ writing.digits, IsPlain d) :
    ∀ d ∈ (Punycode.Writing.passAll ascii text next codes writing).digits, IsPlain d := by
  have whole (code : Nat) (text : List Char) {writing : Punycode.Writing}
      (plain : ∀ d ∈ writing.digits, IsPlain d) :
      ∀ d ∈ (text.foldl (Punycode.Writing.pass ascii code) writing).digits, IsPlain d := by
    induction text generalizing writing with
    | nil => exact plain
    | cons c text ih => exact ih (isPlain_pass plain)
  induction codes generalizing next writing with
  | nil => exact plain
  | cons code codes ih => exact ih (whole code text plain)

theorem isPlain_encode {text : List Char} (allowed : ∀ c ∈ text, isForbidden c = false) :
    ∀ c ∈ Punycode.encode text, IsPlain c := by
  intro c member
  simp only [Punycode.encode, List.mem_append] at member
  rcases member with (kept | hyphen) | digit
  · obtain ⟨listed, ascii⟩ := List.mem_filter.mp kept
    exact ⟨ascii, allowed c listed⟩
  · split at hyphen
    · cases hyphen
    · rw [List.mem_singleton.mp hyphen]
      exact ⟨by decide, by decide⟩
  · exact isPlain_passAll _ (fun _ absent => by cases absent) c digit

theorem isPlain_labelToAscii {label : List Char} (allowed : ∀ c ∈ label, isForbidden c = false) :
    ∀ c ∈ labelToAscii label, IsPlain c := by
  intro c member
  unfold labelToAscii at member
  split at member
  · rename_i ascii
    exact ⟨List.all_eq_true.mp ascii c member, allowed c member⟩
  · rcases List.mem_append.mp member with mark | written
    · have plain : marker.all (fun d => Punycode.isAscii d && !isForbidden d) = true := by decide
      have here := List.all_eq_true.mp plain c mark
      rw [Bool.and_eq_true, Bool.not_eq_true'] at here
      exact ⟨here.1, here.2⟩
    · exact isPlain_encode allowed c written

theorem isPlain_of_toAscii? {text domain : List Char} (named : toAscii? text = some domain) :
    ∀ c ∈ domain, IsPlain c := by
  simp only [toAscii?, Option.bind_eq_bind, Option.bind_eq_some_iff] at named
  obtain ⟨name, -, named⟩ := named
  split at named
  · cases named
  · rename_i allowed
    simp only [Option.bind_eq_some_iff] at named
    obtain ⟨texts, -, named⟩ := named
    split at named
    · cases named
    · split at named
      · cases named
      · cases named
        intro c member
        rcases Split.mem_intercalate member with point | ⟨piece, listed, member⟩
        · rw [List.mem_singleton.mp point]
          exact ⟨by decide, by decide⟩
        · obtain ⟨label, part, rfl⟩ := List.mem_map.mp listed
          refine isPlain_labelToAscii (fun d inside => ?_) c member
          have unforbidden := List.any_eq_false.mp (Bool.not_eq_true _ ▸ allowed) d
            (Split.mem_of_mem_onEvery part inside)
          simpa using unforbidden

end BearerIdentity.Url.Domain
