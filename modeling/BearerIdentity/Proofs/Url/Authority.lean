import BearerIdentity.Proofs.Text.Blank
import BearerIdentity.Proofs.Url.Host
import Mathlib.Data.List.TakeWhile

set_option autoImplicit false

namespace BearerIdentity.Url

/-- A character after which the user name cannot go on, where the scheme needs no host. -/
def IsDelimiter (c : Char) : Prop :=
  c = '/' ∨ c = '?' ∨ c = '#' ∨ c = ':'

/-- A character that does not drop out of a URL. -/
def isRetained (c : Char) : Bool :=
  c ≠ '\t' && c ≠ '\n' && c ≠ '\r'

/-- A user name that stands for itself in a URL. -/
structure IsVerbatim (name : List Char) : Prop where
  undelimited : ∀ c ∈ name, ¬ IsDelimiter c
  retained : ∀ c ∈ name, isRetained c = true
  unescaped : ¬ Percent.HasEscape name

instance : DecidablePred IsDelimiter :=
  fun _ => inferInstanceAs (Decidable (_ ∨ _))

theorem isVerbatim_iff (name : List Char) : IsVerbatim name ↔
    name.all (fun c => !decide (IsDelimiter c) && isRetained c) = true ∧ ¬ Percent.HasEscape name := by
  simp only [List.all_eq_true, Bool.and_eq_true, Bool.not_eq_true', decide_eq_false_iff_not]
  constructor
  · rintro ⟨undelimited, retained, unescaped⟩
    exact ⟨fun c member => ⟨undelimited c member, retained c member⟩, unescaped⟩
  · rintro ⟨chars, unescaped⟩
    exact ⟨fun c member => (chars c member).1, fun c member => (chars c member).2, unescaped⟩

instance : DecidablePred IsVerbatim :=
  fun name => decidable_of_iff _ (isVerbatim_iff name).symm

/-- Between visible characters, only tabs and line ends are removed. -/
theorem clean_eq_filter {text : List Char} (first : ∀ c ∈ text.head?, 0x20 < c.toNat)
    (last : ∀ c ∈ text.getLast?, 0x20 < c.toNat) : clean text = text.filter isRetained := by
  have visible {c : Char} (above : 0x20 < c.toNat) : decide (c.toNat ≤ 0x20) = false :=
    decide_eq_false (Nat.not_le.mpr above)
  simp only [clean]
  rw [Blank.dropWhile_eq_self fun c start => visible (first c start),
    Blank.dropWhile_eq_self fun c start => visible (last c (List.head?_reverse ▸ start)),
    List.reverse_reverse]
  rfl

theorem isRetained_of_visible {c : Char} (visible : 0x20 < c.toNat) : isRetained c = true := by
  simp only [isRetained, Bool.and_eq_true, decide_eq_true_eq]
  refine ⟨⟨?_, ?_⟩, ?_⟩
  all_goals
    rintro rfl
    revert visible
    decide

/-- What a text is cut into at its last `@`. -/
theorem splitUserinfo_append {before after : List Char} (clear : '@' ∉ after) :
    splitUserinfo (before ++ '@' :: after) = some (before, after) := by
  have reversed : (before ++ '@' :: after).reverse = after.reverse ++ '@' :: before.reverse := by
    simp
  have found : ((before ++ '@' :: after).reverse.takeWhile (· ≠ '@')).reverse = after := by
    rw [reversed, List.takeWhile_append_of_pos]
    · simp
    · intro c member
      have other : c ≠ '@' := fun same => clear (same ▸ List.mem_reverse.mp member)
      simpa using other
  have length : (before ++ '@' :: after).length - after.length - 1 = before.length := by
    rw [List.length_append, List.length_cons]
    omega
  simp only [splitUserinfo]
  rw [if_pos (by simp), found, length, List.take_left]

theorem eq_append_of_splitUserinfo {text before after : List Char}
    (cut : splitUserinfo text = some (before, after)) : text = before ++ '@' :: after := by
  have present : '@' ∈ text := by
    unfold splitUserinfo at cut
    split at cut
    next found => simpa using found
    next => cases cut
  -- The last `@` is the first one from behind.
  obtain ⟨behind, ahead, parted, clear⟩ := List.eq_append_cons_of_mem (List.mem_reverse.mpr present)
  have whole : text = ahead.reverse ++ '@' :: behind.reverse := by
    rw [← List.reverse_reverse text, parted]
    simp
  rw [whole, splitUserinfo_append (by simpa using clear)] at cut
  cases cut
  exact whole

def authority (kind : Kind) (text : List Char) : List Char :=
  text.takeWhile fun c => !endsAuthority kind c

/-- What stands before the host, and the host with its port. -/
def authorityParts (kind : Kind) (text : List Char) : List Char × List Char :=
  (splitUserinfo (authority kind text)).getD ([], authority kind text)

def writtenName (kind : Kind) (text : List Char) : List Char :=
  (authorityParts kind text).1.takeWhile (· ≠ ':')

def writtenHost (kind : Kind) (text : List Char) : List Char :=
  (splitHost false (authorityParts kind text).2).1

def readHost (kind : Kind) (text : List Char) : Option Host :=
  if kind = .generic then genericHost? text else specialHost? text

theorem endsAuthority_generic {c : Char} (other : ¬ IsDelimiter c) :
    endsAuthority .generic c = false := by
  simp only [IsDelimiter, not_or] at other
  simp [endsAuthority, other]

/-- What is read as a user name is a start of what was written. -/
theorem writtenName_isPrefix {name host : List Char} (clear : '@' ∉ host) (kind : Kind) :
    writtenName kind (name ++ '@' :: host) <+: name := by
  refine List.IsPrefix.trans (List.takeWhile_prefix _) ?_
  cases cut : splitUserinfo (authority kind (name ++ '@' :: host)) with
  | none =>
    rw [authorityParts, cut]
    exact List.nil_prefix
  | some parts =>
    obtain ⟨before, after⟩ := parts
    rw [authorityParts, cut, Option.getD_some]
    -- The authority is a start of the text, so its last `@` is not behind the last one of the text.
    obtain ⟨rest, whole⟩ : authority kind (name ++ '@' :: host) <+: name ++ '@' :: host :=
      List.takeWhile_prefix _
    rw [eq_append_of_splitUserinfo cut, List.append_assoc, List.cons_append] at whole
    rcases List.append_eq_append_iff.mp whole with ⟨more, rfl, -⟩ | ⟨more, rfl, later⟩
    · exact List.prefix_append _ _
    · cases more with
      | nil => simp
      | cons c more =>
        rw [List.cons_append, List.cons.injEq] at later
        refine absurd ?_ clear
        rw [later.2]
        simp

/-- It ends before the first delimiter. -/
theorem not_isDelimiter_of_mem_writtenName {text : List Char} {c : Char}
    (member : c ∈ writtenName .generic text) : ¬ IsDelimiter c := by
  have noColon : c ≠ ':' := by simpa using List.mem_takeWhile_imp member
  have inside : c ∈ authority .generic text := by
    have before := (List.takeWhile_prefix _).subset member
    rw [authorityParts] at before
    cases cut : splitUserinfo (authority .generic text) with
    | none =>
      rw [cut] at before
      cases before
    | some parts =>
      obtain ⟨first, last⟩ := parts
      rw [cut] at before
      rw [eq_append_of_splitUserinfo cut]
      exact List.mem_append_left _ before
  have kept : endsAuthority .generic c = false := by simpa using List.mem_takeWhile_imp inside
  rintro (rfl | rfl | rfl | rfl)
  · cases kept
  · cases kept
  · cases kept
  · exact noColon rfl

/-- What is known of a URL with an authority. -/
theorem of_parseAuthority? {scheme : String} {kind : Kind} {text : List Char} {url : Url}
    (read : parseAuthority? scheme kind text = some url) : url.scheme = scheme ∧
      url.username = encodeUserinfo (writtenName kind text) ∧
      ∃ host, url.host = some host ∧ readHost kind (writtenHost kind text) = some host := by
  simp only [parseAuthority?, Option.bind_eq_bind] at read
  split at read
  · cases read
  · -- Both kinds of host, with and without a port, lead to the same rest.
    split at read
    all_goals
      rename_i kindKnown
      obtain ⟨host, known, read⟩ := Option.bind_eq_some_iff.mp read
      split at read
      all_goals
        obtain ⟨⟨port, path⟩, -, read⟩ := Option.bind_eq_some_iff.mp read
        split at read
        · cases read
        · cases read
          refine ⟨rfl, rfl, host, rfl, ?_⟩
          first
            | exact (if_pos kindKnown).trans known
            | exact (if_neg kindKnown).trans known

theorem readUserinfo_of_undelimited {name : List Char} (undelimited : ∀ c ∈ name, ¬ IsDelimiter c) :
    readUserinfo name = (encodeUserinfo name, none) := by
  have noColon : ∀ c ∈ name, decide (c ≠ ':') = true := by
    intro c member
    have other := undelimited c member
    simp only [IsDelimiter, not_or] at other
    simpa using other.2.2.2
  simp only [readUserinfo]
  rw [List.takeWhile_eq_self_iff.mpr noColon, List.dropWhile_eq_nil_iff.mpr noColon]
  rfl

/-- What can stand behind a host: a path, a query or a fragment, all of visible characters. -/
structure IsTail (text : List Char) : Prop where
  visible : ∀ c ∈ text, 0x20 < c.toNat
  opens : ∀ c ∈ text.head?, endsAuthority .generic c = true

theorem isTail_nil : IsTail [] :=
  ⟨nofun, nofun⟩

/-- What stands before it is cut off there. -/
theorem IsTail.cut {before rest : List Char} (behind : IsTail rest)
    (inside : ∀ c ∈ before, endsAuthority .generic c = false) :
    ((before ++ rest).takeWhile fun c => !endsAuthority .generic c) = before ∧
      ((before ++ rest).dropWhile fun c => !endsAuthority .generic c) = rest := by
  refine Blank.span_append (fun c member => ?_) fun c first => ?_
  · rw [inside c member]
    rfl
  · rw [behind.opens c first]
    rfl

/-- Whatever stands behind them, host and user name are read as they are written. -/
theorem parseAuthority?_append (scheme : String) {name rest : List Char} {host : Host}
    (recurs : Recurs host) (undelimited : ∀ c ∈ name, ¬ IsDelimiter c) (behind : IsTail rest) :
    ∃ other, other ≠ .empty ∧ other.text = host.text ∧
      parseAuthority? scheme .generic (name ++ '@' :: host.text.toList ++ rest) =
        some (assemble scheme .generic (encodeUserinfo name, none) (some other) none
          (readPath .generic (splitTail rest).path) (splitTail rest)) := by
  obtain ⟨other, known, filled, sameText⟩ := recurs.read
  refine ⟨other, filled, sameText, ?_⟩
  have inside : ∀ c ∈ name ++ '@' :: host.text.toList, endsAuthority .generic c = false := by
    intro c member
    rcases List.mem_append.mp member with inName | inRest
    · exact endsAuthority_generic (undelimited c inName)
    · rcases List.mem_cons.mp inRest with rfl | inHost
      · rfl
      · exact (recurs.chars c inHost).not_endsAuthority
  obtain ⟨whole, remains⟩ := behind.cut inside
  have hosted : name ++ '@' :: host.text.toList ≠ ['@'] := by
    intro bare
    cases name with
    | nil => exact recurs.nonempty (List.cons.inj bare).2
    | cons c name => simp at bare
  simp only [parseAuthority?]
  rw [whole, remains, splitUserinfo_append recurs.clear, Option.getD_some, recurs.whole,
    readUserinfo_of_undelimited undelimited]
  simp [known, filled, hosted]

end BearerIdentity.Url
