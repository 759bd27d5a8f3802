import BearerIdentity.Proofs.Text.Ascii
import BearerIdentity.Proofs.Text.Split
import BearerIdentity.Url.Address
import Mathlib.Algebra.Group.Nat.Defs

set_option autoImplicit false

namespace BearerIdentity.Url.Ipv6

/-- Eight pieces of sixteen bits each. -/
structure IsAddress (pieces : List Nat) : Prop where
  length : pieces.length = 8
  fits : ∀ piece ∈ pieces, piece < 65536

theorem hexValue?_lt {c : Char} {value : Nat} (digit : Ascii.hexValue? c = some value) : value < 16 :=
  (Ascii.bounds_of_hexValue? digit).2

/-- The number that follows when digits of base sixteen are read. -/
def readOn (start : Nat) (values : List Nat) : Nat :=
  values.foldl (fun value digit => value * 16 + digit) start

theorem readOn_lt {values : List Nat} (digits : ∀ value ∈ values, value < 16) (start : Nat) :
    readOn start values < (start + 1) * 16 ^ values.length := by
  induction values generalizing start with
  | nil => simp [readOn]
  | cons first rest ih =>
    have digit := digits first List.mem_cons_self
    have after := ih (fun value member => digits value (List.mem_cons_of_mem _ member)) (start * 16 + first)
    have room : (start * 16 + first + 1) * 16 ^ rest.length ≤ (start + 1) * 16 * 16 ^ rest.length :=
      Nat.mul_le_mul_right _ (by omega)
    calc readOn start (first :: rest)
        _ = readOn (start * 16 + first) rest := rfl
        _ < (start * 16 + first + 1) * 16 ^ rest.length := after
        _ ≤ (start + 1) * 16 * 16 ^ rest.length := room
        _ = (start + 1) * 16 ^ (first :: rest).length := by
          rw [List.length_cons, Nat.pow_succ', Nat.mul_assoc]

theorem forall_of_mapM {α β : Type} {f : α → Option β} {good : β → Prop} {values : List β}
    {items : List α} (each : ∀ item value, f item = some value → good value)
    (read : items.mapM f = some values) : ∀ value ∈ values, good value := by
  induction items generalizing values with
  | nil =>
    cases read
    nofun
  | cons item items ih =>
    simp only [List.mapM_cons, Option.bind_eq_bind, Option.bind_eq_some_iff, Option.pure_def,
      Option.some.injEq] at read
    obtain ⟨first, known, rest, others, rfl⟩ := read
    intro value member
    rcases List.mem_cons.mp member with rfl | later
    · exact each item value known
    · exact ih others value later

theorem piece?_lt {text : List Char} {piece : Nat} (read : piece? text = some piece) : piece < 65536 := by
  simp only [piece?, Option.bind_eq_bind, Option.bind_eq_some_iff] at read
  obtain ⟨values, digits, read⟩ := read
  split at read
  · cases read
  · rename_i bounded
    cases read
    have short : values.length ≤ 4 := by
      simp only [Bool.or_eq_true, decide_eq_true_eq, not_or, Nat.not_lt] at bounded
      exact bounded.2
    have below := readOn_lt (forall_of_mapM (fun _ _ => hexValue?_lt) digits) 0
    have power : 16 ^ values.length ≤ 16 ^ 4 := Nat.pow_le_pow_right (by decide) short
    simp only [readOn, Nat.zero_add, Nat.one_mul] at below
    omega

theorem byte?_lt {text : List Char} {byte : Nat} (read : byte? text = some byte) : byte < 256 := by
  unfold byte? at read
  split at read
  · cases read
  · rename_i bounded
    cases read
    simp only [Bool.or_eq_true, decide_eq_true_eq, not_or, Nat.not_lt] at bounded
    omega

theorem embedded?_lt {text : List Char} {pieces : List Nat} (read : embedded? text = some pieces) :
    ∀ piece ∈ pieces, piece < 65536 := by
  simp only [embedded?, Option.bind_eq_bind, Option.bind_eq_some_iff] at read
  obtain ⟨bytes, known, read⟩ := read
  have small := forall_of_mapM (fun _ _ => byte?_lt) known
  split at read
  · rename_i a b c d
    cases read
    have first := small a (by simp)
    have second := small b (by simp)
    have third := small c (by simp)
    have fourth := small d (by simp)
    intro piece member
    simp only [List.mem_cons, List.not_mem_nil, or_false] at member
    rcases member with rfl | rfl <;> omega
  · cases read

theorem pieces?_lt {mayEmbed : Bool} {texts : List (List Char)} {pieces : List Nat}
    (read : pieces? mayEmbed texts = some pieces) : ∀ piece ∈ pieces, piece < 65536 := by
  induction texts generalizing pieces with
  | nil =>
    cases read
    nofun
  | cons text rest ih =>
    cases rest with
    | nil =>
      rw [pieces?] at read
      split at read
      · exact embedded?_lt read
      · obtain ⟨piece, known, rfl⟩ := Option.map_eq_some_iff.mp read
        intro other member
        rw [List.mem_singleton.mp member]
        exact piece?_lt known
    | cons next rest =>
      simp only [pieces?, Option.bind_eq_bind, Option.bind_eq_some_iff, Option.some.injEq] at read
      obtain ⟨first, known, others, later, rfl⟩ := read
      intro piece member
      rcases List.mem_cons.mp member with rfl | member
      · exact piece?_lt known
      · exact ih later piece member

theorem run?_lt {mayEmbed : Bool} {text : List Char} {pieces : List Nat}
    (read : run? mayEmbed text = some pieces) : ∀ piece ∈ pieces, piece < 65536 := by
  unfold run? at read
  split at read
  · cases read
    nofun
  · exact pieces?_lt read

theorem isAddress_of_parse? {text : List Char} {pieces : List Nat} (read : parse? text = some pieces) :
    IsAddress pieces := by
  unfold parse? at read
  split at read
  · simp only [Option.bind_eq_bind, Option.bind_eq_some_iff] at read
    obtain ⟨whole, known, read⟩ := read
    split at read
    · rename_i length
      cases read
      exact ⟨length, run?_lt known⟩
    · cases read
  · simp only [Option.bind_eq_bind, Option.bind_eq_some_iff] at read
    obtain ⟨front, before, back, after, read⟩ := read
    split at read
    · cases read
      refine ⟨?_, fun piece member => ?_⟩
      · simp only [List.length_append, List.length_replicate]
        omega
      · simp only [List.mem_append, List.mem_replicate] at member
        rcases member with (member | ⟨-, rfl⟩) | member
        · exact run?_lt before piece member
        · decide
        · exact run?_lt after piece member
    · cases read

def digits (piece : Nat) : List Char :=
  Nat.toDigits 16 piece

theorem hexValue?_digitChar {value : Nat} (fits : value < 16) :
    Ascii.hexValue? value.digitChar = some value :=
  (show ∀ value < 16, Ascii.hexValue? (Nat.digitChar value) = some value by decide) value fits

/-- The digits spell a number. -/
theorem exists_mapM_digits (piece : Nat) : ∃ values, (digits piece).mapM Ascii.hexValue? = some values ∧
    readOn 0 values = piece ∧ values.length = (digits piece).length := by
  induction piece using Nat.strongRecOn with
  | _ piece ih =>
    rw [digits, Nat.toDigits_eq_if (by decide)]
    split
    · rename_i small
      refine ⟨[piece], ?_, by simp [readOn], rfl⟩
      simp [hexValue?_digitChar small]
    · rename_i large
      have smaller : piece / 16 < piece := by omega
      obtain ⟨values, read, number, length⟩ := ih (piece / 16) smaller
      refine ⟨values ++ [piece % 16], ?_, ?_, ?_⟩
      · rw [digits] at read
        rw [List.mapM_append, read]
        simp [hexValue?_digitChar (Nat.mod_lt piece (by decide : 16 > 0))]
      · rw [readOn] at number ⊢
        rw [List.foldl_append, number]
        simp only [List.foldl_cons, List.foldl_nil]
        omega
      · rw [digits] at length
        rw [List.length_append, List.length_append, length]
        rfl

theorem piece?_digits {piece : Nat} (fits : piece < 65536) : piece? (digits piece) = some piece := by
  obtain ⟨values, read, number, length⟩ := exists_mapM_digits piece
  have short : (digits piece).length ≤ 4 :=
    (Nat.length_toDigits_le_iff (by decide) (by decide)).mpr fits
  have nonempty : values ≠ [] := by
    rintro rfl
    exact Nat.toDigits_ne_nil (List.eq_nil_of_length_eq_zero length.symm)
  have bounded : (values.isEmpty || decide (4 < values.length)) = false := by
    rw [length]
    simp [nonempty, short]
  simp only [piece?, read, Option.bind_eq_bind, Option.bind_some, bounded, Bool.false_eq_true, if_false]
  exact congrArg some number

theorem isSome_of_mapM {α β : Type} {f : α → Option β} {items : List α} {values : List β}
    (read : items.mapM f = some values) : ∀ item ∈ items, (f item).isSome = true := by
  induction items generalizing values with
  | nil => nofun
  | cons item items ih =>
    simp only [List.mapM_cons, Option.bind_eq_bind, Option.bind_eq_some_iff] at read
    obtain ⟨first, known, rest, others, -⟩ := read
    intro other member
    rcases List.mem_cons.mp member with rfl | later
    · rw [known]
      rfl
    · exact ih others other later

theorem isSome_of_mem_digits {piece : Nat} {c : Char} (member : c ∈ digits piece) :
    (Ascii.hexValue? c).isSome = true := by
  obtain ⟨values, read, -⟩ := exists_mapM_digits piece
  exact isSome_of_mapM read c member

theorem not_mem_digits {c : Char} (other : Ascii.hexValue? c = none) (piece : Nat) : c ∉ digits piece := by
  intro member
  have digit := isSome_of_mem_digits member
  rw [other] at digit
  cases digit

theorem exists_digits (piece : Nat) : ∃ first rest, digits piece = first :: rest ∧ first ≠ ':' := by
  cases written : digits piece with
  | nil => exact absurd written Nat.toDigits_ne_nil
  | cons first rest =>
    refine ⟨first, rest, rfl, ?_⟩
    rintro rfl
    exact not_mem_digits (c := ':') (by decide) piece (by rw [written]; exact List.mem_cons_self)

def joined : List Nat → List Char
  | [] => []
  | [piece] => digits piece
  | piece :: next :: rest => digits piece ++ ':' :: joined (next :: rest)

theorem toList_colons (pieces : List Nat) : (colons pieces).toList = joined pieces := by
  induction pieces with
  | nil => rfl
  | cons piece rest ih =>
    cases rest with
    | nil =>
      rw [colons, List.map_cons, List.map_nil, String.intercalate_singleton, hexText, String.toList_ofList]
      rfl
    | cons next rest =>
      rw [colons, List.map_cons] at ih ⊢
      rw [List.map_cons, String.intercalate_cons_cons, String.toList_append, String.toList_append, ih,
        joined, hexText, String.toList_ofList, List.append_assoc]
      rfl

theorem exists_joined (piece : Nat) (rest : List Nat) :
    ∃ first text, joined (piece :: rest) = first :: text ∧ first ≠ ':' := by
  obtain ⟨first, text, written, other⟩ := exists_digits piece
  cases rest with
  | nil => exact ⟨first, text, written, other⟩
  | cons next rest => exact ⟨first, _, by rw [joined, written]; rfl, other⟩

theorem onEvery_joined (piece : Nat) (rest : List Nat) :
    Split.onEvery (· == ':') (joined (piece :: rest)) = (piece :: rest).map digits := by
  induction rest generalizing piece with
  | nil => exact Split.onEvery_of_not_mem (not_mem_digits (by decide) piece)
  | cons next rest ih =>
    rw [joined, Split.onEvery_append (not_mem_digits (by decide) piece), ih, List.map_cons (a := piece)]

theorem pieces?_digits (mayEmbed : Bool) {pieces : List Nat} (fits : ∀ piece ∈ pieces, piece < 65536) :
    pieces? mayEmbed (pieces.map digits) = some pieces := by
  induction pieces with
  | nil => rfl
  | cons piece rest ih =>
    have first := piece?_digits (fits piece List.mem_cons_self)
    have others := ih fun other member => fits other (List.mem_cons_of_mem _ member)
    cases rest with
    | nil =>
      have whole : '.' ∉ digits piece := not_mem_digits (by decide) piece
      simp [pieces?, whole, first]
    | cons next rest =>
      rw [List.map_cons] at others
      simp [pieces?, first, others]

/-- Pieces between colons are read as they were written. -/
theorem run?_joined (mayEmbed : Bool) {pieces : List Nat} (fits : ∀ piece ∈ pieces, piece < 65536) :
    run? mayEmbed (joined pieces) = some pieces := by
  cases pieces with
  | nil => rfl
  | cons piece rest =>
    obtain ⟨first, text, written, -⟩ := exists_joined piece rest
    have nonempty : (joined (piece :: rest)).isEmpty = false := by
      rw [written]
      rfl
    simp only [run?, nonempty, Bool.false_eq_true, if_false, onEvery_joined]
    exact pieces?_digits mayEmbed fits

theorem splitGap_cons {c : Char} {rest : List Char} (other : c ≠ ':' ∨ ∀ after, rest ≠ ':' :: after) :
    splitGap (c :: rest) = (splitGap rest).map fun (before, after) => (c :: before, after) := by
  rw [splitGap]
  rintro after rfl rfl
  rcases other with other | other
  · exact other rfl
  · exact other after rfl

theorem splitGap_append {before : List Char} (clear : ':' ∉ before) (rest : List Char) :
    splitGap (before ++ rest) =
      (splitGap rest).map fun (first, after) => (before ++ first, after) := by
  induction before with
  | nil => simp
  | cons c before ih =>
    rw [List.mem_cons, not_or] at clear
    rw [List.cons_append, splitGap_cons (.inl (Ne.symm clear.1)), ih clear.2, Option.map_map]
    rfl

theorem splitGap_digits (piece : Nat) (rest : List Char) : splitGap (digits piece ++ rest) =
    (splitGap rest).map fun (first, after) => (digits piece ++ first, after) :=
  splitGap_append (not_mem_digits (by decide) piece) rest

/-- Between single colons there is no gap. -/
theorem splitGap_joined (pieces : List Nat) : splitGap (joined pieces) = none := by
  induction pieces with
  | nil => rfl
  | cons piece rest ih =>
    cases rest with
    | nil =>
      have alone := splitGap_digits piece []
      rw [List.append_nil] at alone
      rw [joined, alone]
      rfl
    | cons next rest =>
      obtain ⟨first, text, written, other⟩ := exists_joined next rest
      have single : ∀ after, joined (next :: rest) ≠ ':' :: after := by
        intro after same
        rw [written] at same
        exact other (List.cons.inj same).1
      rw [joined, splitGap_digits, splitGap_cons (.inr single), ih]
      rfl

/-- The gap is found where it was written. -/
theorem splitGap_gap (front : List Nat) (back : List Char) :
    splitGap (joined front ++ ':' :: ':' :: back) = some (joined front, back) := by
  induction front with
  | nil => rfl
  | cons piece rest ih =>
    cases rest with
    | nil =>
      rw [joined, splitGap_digits, splitGap]
      simp
    | cons next rest =>
      obtain ⟨first, text, written, other⟩ := exists_joined next rest
      have single : ∀ after, joined (next :: rest) ++ ':' :: ':' :: back ≠ ':' :: after := by
        intro after same
        rw [written] at same
        exact other (List.cons.inj same).1
      rw [joined, List.append_assoc, List.cons_append, splitGap_digits, splitGap_cons (.inr single), ih]
      rfl

theorem exists_zeroRun (pieces : List Nat) :
    ∃ after, pieces = List.replicate (zeroRun pieces) 0 ++ after := by
  refine ⟨pieces.dropWhile (· == 0), ?_⟩
  have zeros : pieces.takeWhile (· == 0) = List.replicate (zeroRun pieces) 0 := by
    rw [List.eq_replicate_iff]
    refine ⟨rfl, fun piece member => ?_⟩
    exact beq_iff_eq.mp (List.all_eq_true.mp (List.all_takeWhile (p := (· == 0))) piece member)
  rw [← zeros, List.takeWhile_append_dropWhile]

/-- The run that is found stands where it is said to, and consists of zeros. -/
theorem exists_longestZeros (index : Nat) (pieces : List Nat) : ∃ before after,
    pieces = before ++ List.replicate (longestZeros index pieces).2 0 ++ after ∧
      (longestZeros index pieces).1 = index + before.length := by
  induction pieces generalizing index with
  | nil => exact ⟨[], [], rfl, rfl⟩
  | cons piece rest ih =>
    rw [longestZeros]
    split
    · obtain ⟨after, parted⟩ := exists_zeroRun (piece :: rest)
      exact ⟨[], after, parted, rfl⟩
    · obtain ⟨before, after, parted, start⟩ := ih (index + 1)
      refine ⟨piece :: before, after, ?_, ?_⟩
      · rw [List.cons_append, List.cons_append, ← parted]
      · rw [start, List.length_cons]
        omega

/-- What is written for an address: its pieces, with or without a gap in place of zeros. -/
theorem toList_text (pieces : List Nat) : (text pieces).toList = joined pieces ∨
    ∃ before zeros after, 2 ≤ zeros ∧ pieces = before ++ List.replicate zeros 0 ++ after ∧
      (text pieces).toList = joined before ++ ':' :: ':' :: joined after := by
  obtain ⟨before, after, parted, start⟩ := exists_longestZeros 0 pieces
  generalize found : longestZeros 0 pieces = run at parted start
  rw [text, found]
  dsimp only
  split
  · exact .inl (toList_colons pieces)
  · rename_i several
    refine .inr ⟨before, run.2, after, Nat.not_lt.mp several, parted, ?_⟩
    have front : pieces.take run.1 = before := by
      rw [parted, start, Nat.zero_add, List.append_assoc, List.take_left]
    have back : pieces.drop (run.1 + run.2) = after := by
      have length : run.1 + run.2 = (before ++ List.replicate run.2 0).length := by
        rw [List.length_append, List.length_replicate, start, Nat.zero_add]
      rw [length]
      conv_lhs => rw [parted]
      exact List.drop_left
    rw [front, back, String.toList_append, String.toList_append, toList_colons, toList_colons]
    simp

theorem mem_joined {c : Char} {pieces : List Nat} (member : c ∈ joined pieces) :
    c = ':' ∨ (Ascii.hexValue? c).isSome = true := by
  induction pieces with
  | nil => cases member
  | cons piece rest ih =>
    cases rest with
    | nil => exact .inr (isSome_of_mem_digits member)
    | cons next rest =>
      rw [joined, List.mem_append, List.mem_cons] at member
      rcases member with digit | colon | later
      · exact .inr (isSome_of_mem_digits digit)
      · exact .inl colon
      · exact ih later

/-- The text of an address has no other characters than digits and colons. -/
theorem mem_text {c : Char} {pieces : List Nat} (member : c ∈ (text pieces).toList) :
    c = ':' ∨ (Ascii.hexValue? c).isSome = true := by
  rcases toList_text pieces with whole | ⟨before, zeros, after, -, -, gap⟩
  · rw [whole] at member
    exact mem_joined member
  · rw [gap, List.mem_append, List.mem_cons, List.mem_cons] at member
    rcases member with front | colon | colon | back
    · exact mem_joined front
    · exact .inl colon
    · exact .inl colon
    · exact mem_joined back

/-- Every address is read back from its text. -/
theorem parse?_text {pieces : List Nat} (address : IsAddress pieces) :
    parse? (text pieces).toList = some pieces := by
  rcases toList_text pieces with whole | ⟨before, zeros, after, several, rfl, gap⟩
  · rw [whole, parse?, splitGap_joined]
    simp [run?_joined true address.fits, address.length]
  · have front : run? false (joined before) = some before :=
      run?_joined false fun piece member => address.fits piece (by simp [member])
    have back : run? true (joined after) = some after :=
      run?_joined true fun piece member => address.fits piece (by simp [member])
    have length := address.length
    simp only [List.length_append, List.length_replicate] at length
    have fewer : before.length + after.length < 8 := by omega
    have missing : 8 - before.length - after.length = zeros := by omega
    rw [gap, parse?, splitGap_gap]
    simp only [front, back, Option.bind_eq_bind, Option.bind_some, fewer, if_true, missing]

end BearerIdentity.Url.Ipv6
