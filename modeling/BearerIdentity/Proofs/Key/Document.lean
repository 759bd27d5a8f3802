import BearerIdentity.Proofs.Json.Part
import BearerIdentity.Proofs.Key.Suitability

set_option autoImplicit false

namespace BearerIdentity

namespace WebKey

open Json

variable {entry : Value} {key : WebKey}

/-- An entry is declared for signatures, or for no use. In an array, the use has the fourth place. -/
def IsDeclared (entry : Value) : Prop :=
  entry.part? "use" 3 = none ∨ entry.part? "use" 3 = some .null ∨ entry.part? "use" 3 = some (.string "sig")

theorem owns_usage : Record.Owns fields "use" 3 (.option .string) usage where
  distinct := by decide
  own := ⟨_, rfl, rfl, Record.fills_of_set fun _ _ => rfl⟩
  spares := by
    simp only [fields, List.forall_mem_cons, List.not_mem_nil, false_implies, implies_true, and_true]
    refine ⟨?_, ?_, ?_, fun other => absurd rfl other, ?_, ?_, ?_, ?_, ?_, ?_, ?_⟩
    all_goals exact fun _ => Record.spares_of_set fun _ _ => rfl

theorem usage_of_decoded (decoded : decodeFrom decoder entry = .ok key) :
    Gives IsText ((entry.part? "use" 3).map Node.ofValue) key.usage := by
  rw [← part?_ofValue]
  exact Record.gives_of_decoder isText_of_read owns_usage rfl decoded

theorem isForSignatures_of_decoded (decoded : decodeFrom decoder entry = .ok key) :
    key.isForSignatures = true ↔ IsDeclared entry := by
  rw [isForSignatures_iff, IsDeclared]
  rcases givesText_ofValue_iff.mp (usage_of_decoded decoded) with
    ⟨absent, usage⟩ | ⟨null, usage⟩ | ⟨text, named, usage⟩
  · simp [absent, usage]
  · simp [null, usage]
  · simp [named, usage]

def Lasts (key : WebKey) (now : Instant) : Prop :=
  ∀ expiry, key.expiry = some expiry → now.millis < expiry * 1000

theorem Lasts.earlier {now later : Instant} (lasts : key.Lasts later) (before : now ≤ later) :
    key.Lasts now :=
  fun expiry declared => Int.lt_of_le_of_lt before (lasts expiry declared)

end WebKey

namespace KeySet

open Json

variable {document entry : Value} {entries padded : List Value} {keys : List WebKey} {set : KeySet}
  {key : WebKey} {kid : String} {now : Instant}

/-- An entry can be read as a key, and is declared for signatures or for no use. -/
structure Denotes (entry : Value) (key : WebKey) : Prop where
  decoded : decodeFrom WebKey.decoder entry = .ok key
  declared : WebKey.IsDeclared entry

theorem denotes_iff : Denotes entry key ↔ ofEntry? entry = some key := by
  rw [ofEntry?_eq_some]
  constructor
  · rintro ⟨decoded, declared⟩
    exact ⟨decoded, (WebKey.isForSignatures_of_decoded decoded).mpr declared⟩
  · rintro ⟨decoded, usable⟩
    exact ⟨decoded, (WebKey.isForSignatures_of_decoded decoded).mp usable⟩

/-- These are the keys of the entries that denote one, in the same order. -/
inductive Retains : List Value → List WebKey → Prop where
  | nil : Retains [] []
  | keep {entry : Value} {key : WebKey} {entries : List Value} {keys : List WebKey}
      (denotes : Denotes entry key) (rest : Retains entries keys) : Retains (entry :: entries) (key :: keys)
  | skip {entry : Value} {entries : List Value} {keys : List WebKey}
      (mute : ∀ key, ¬ Denotes entry key) (rest : Retains entries keys) : Retains (entry :: entries) keys

theorem ofEntry?_of_mute (mute : ∀ key, ¬ Denotes entry key) : ofEntry? entry = none :=
  Option.eq_none_iff_forall_ne_some.mpr fun key stands => mute key (denotes_iff.mpr stands)

theorem Retains.filterMap_eq (retains : Retains entries keys) : entries.filterMap ofEntry? = keys := by
  induction retains with
  | nil => rfl
  | keep denotes rest same => rw [List.filterMap_cons_some (denotes_iff.mp denotes), same]
  | skip mute rest same => rw [List.filterMap_cons_none (ofEntry?_of_mute mute), same]

theorem retains_filterMap (entries : List Value) : Retains entries (entries.filterMap ofEntry?) := by
  induction entries with
  | nil => exact .nil
  | cons entry rest retains =>
    cases stands : ofEntry? entry with
    | none =>
      rw [List.filterMap_cons_none stands]
      refine .skip (fun key denotes => ?_) retains
      rw [denotes_iff.mp denotes] at stands
      cases stands
    | some key =>
      rw [List.filterMap_cons_some stands]
      exact .keep (denotes_iff.mpr stands) retains

theorem entries?_eq_some :
    entries? document = some entries ↔ document.member? "keys" = some (.array entries) := by
  unfold entries?
  cases document.member? "keys" with
  | none => simp
  | some value => cases value <;> simp [Value.items?]

theorem ofDocument_of_listed (listed : document.member? "keys" = some (.array entries)) :
    ofDocument document =
      match entries.filterMap ofEntry? with
      | [] => .error (.keySetUnavailable .noSignatureKeys)
      | keys => .ok ⟨keys⟩ := by
  rw [ofDocument, listed]
  rfl

theorem ofDocument_eq_ok : ofDocument document = .ok set ↔ ∃ entries,
    document.member? "keys" = some (.array entries) ∧ Retains entries set.keys ∧ set.keys ≠ [] := by
  constructor
  · intro read
    obtain ⟨entries, listed, same⟩ := keys_of_ofDocument read
    rw [entries?_eq_some] at listed
    refine ⟨entries, listed, same ▸ retains_filterMap entries, fun empty => ?_⟩
    rw [ofDocument_of_listed listed, ← same, empty] at read
    cases read
  · rintro ⟨entries, listed, retains, filled⟩
    rw [ofDocument_of_listed listed, retains.filterMap_eq]
    split
    · rename_i empty
      exact absurd empty filled
    · rfl

/-- Entries that denote no key have been inserted anywhere. -/
inductive Padded : List Value → List Value → Prop where
  | nil : Padded [] []
  | keep {entries padded : List Value} (entry : Value) (rest : Padded entries padded) :
      Padded (entry :: entries) (entry :: padded)
  | insert {entry : Value} {entries padded : List Value} (mute : ∀ key, ¬ Denotes entry key)
      (rest : Padded entries padded) : Padded entries (entry :: padded)

theorem Padded.filterMap_eq (inserted : Padded entries padded) :
    padded.filterMap ofEntry? = entries.filterMap ofEntry? := by
  induction inserted with
  | nil => rfl
  | keep entry rest same => rw [List.filterMap_cons, List.filterMap_cons, same]
  | insert mute rest same => rw [List.filterMap_cons_none (ofEntry?_of_mute mute), same]

structure Reading (document : Value) : Prop where
  /-- A document is read if it has an array of keys, and at least one of its entries denotes a key. -/
  succeeds : (∃ set, ofDocument document = .ok set) ↔
    ∃ entries, document.member? "keys" = some (.array entries) ∧ ∃ entry ∈ entries, ∃ key, Denotes entry key
  /-- The keys of such entries are then the keys of the set. -/
  keys : ∀ set, ofDocument document = .ok set →
    ∃ entries, document.member? "keys" = some (.array entries) ∧ Retains entries set.keys
  /-- Other entries make no difference, wherever they are inserted. -/
  padding : ∀ other entries padded, document.member? "keys" = some (.array entries) →
    other.member? "keys" = some (.array padded) → Padded entries padded →
      ofDocument other = ofDocument document

theorem reading (document : Value) : Reading document where
  succeeds := by
    constructor
    · rintro ⟨set, read⟩
      obtain ⟨entries, listed, retains, filled⟩ := ofDocument_eq_ok.mp read
      obtain ⟨key, member⟩ := List.exists_mem_of_ne_nil _ filled
      rw [← retains.filterMap_eq, List.mem_filterMap] at member
      obtain ⟨entry, present, stands⟩ := member
      exact ⟨entries, listed, entry, present, key, denotes_iff.mpr stands⟩
    · rintro ⟨entries, listed, entry, present, key, denotes⟩
      have member : key ∈ entries.filterMap ofEntry? :=
        List.mem_filterMap.mpr ⟨entry, present, denotes_iff.mp denotes⟩
      exact ⟨⟨entries.filterMap ofEntry?⟩, ofDocument_eq_ok.mpr
        ⟨entries, listed, retains_filterMap entries, List.ne_nil_of_mem member⟩⟩
  keys := by
    intro set read
    obtain ⟨entries, listed, retains, -⟩ := ofDocument_eq_ok.mp read
    exact ⟨entries, listed, retains⟩
  padding := by
    intro other entries padded listed listed' inserted
    rw [ofDocument_of_listed listed, ofDocument_of_listed listed', inserted.filterMap_eq]

structure Answering (set : KeySet) : Prop where
  /-- A search finds the first key that has the id and lasts. -/
  found : ∀ kid now key, set.find? kid now = some key ↔ ∃ before after, set.keys = before ++ key :: after ∧
    (key.id = some kid ∧ key.Lasts now) ∧ ∀ other ∈ before, ¬ (other.id = some kid ∧ other.Lasts now)
  /-- It finds none only if there is none. -/
  missed : ∀ kid now, set.find? kid now = none ↔ ∀ key ∈ set.keys, key.id = some kid → ¬ key.Lasts now
  valid : ∀ now, set.hasValidKey now = true ↔ ∃ key ∈ set.keys, key.Lasts now
  /-- The keys are stale exactly if no search can succeed, and no key without an id lasts either. -/
  stale : ∀ {σ : Type} (source : KeySource) now, ∃ stale,
    (source.renewal : Renewal σ KeySet).isStale set now = .ok stale ∧
      (stale = true ↔ (∀ kid, set.find? kid now = none) ∧ ∀ key ∈ set.keys, key.id = none → ¬ key.Lasts now)
  /-- Once all of them have expired, they stay stale. -/
  stays : ∀ {σ : Type} (source : KeySource) now, (∀ key ∈ set.keys, ¬ key.Lasts now) → ∀ later, now ≤ later →
    (source.renewal : Renewal σ KeySet).isStale set later = .ok true

theorem matches_iff : (key.id == some kid && key.isValidAt now) = true ↔ key.id = some kid ∧ key.Lasts now := by
  rw [Bool.and_eq_true, beq_iff_eq, WebKey.isValidAt_iff]
  rfl

theorem find?_eq_some_iff : set.find? kid now = some key ↔
    ∃ before after, set.keys = before ++ key :: after ∧ (key.id = some kid ∧ key.Lasts now) ∧
      ∀ other ∈ before, ¬ (other.id = some kid ∧ other.Lasts now) := by
  rw [find?, List.find?_eq_some_iff_append, matches_iff]
  constructor
  · rintro ⟨fits, before, after, split, others⟩
    refine ⟨before, after, split, fits, fun other listed => ?_⟩
    rw [← matches_iff, Bool.not_eq_true, ← Bool.not_eq_true']
    exact others other listed
  · rintro ⟨before, after, split, fits, others⟩
    refine ⟨fits, before, after, split, fun other listed => ?_⟩
    rw [Bool.not_eq_true', Bool.eq_false_iff, Ne, matches_iff]
    exact others other listed

theorem find?_eq_none_iff : set.find? kid now = none ↔
    ∀ key ∈ set.keys, key.id = some kid → ¬ key.Lasts now := by
  simp only [find?, List.find?_eq_none, matches_iff, not_and]

theorem hasValidKey_iff : set.hasValidKey now = true ↔ ∃ key ∈ set.keys, key.Lasts now := by
  simp only [hasValidKey, List.any_eq_true, WebKey.isValidAt_iff]
  rfl

theorem hasValidKey_eq_false_iff : set.hasValidKey now = false ↔ ∀ key ∈ set.keys, ¬ key.Lasts now := by
  rw [Bool.eq_false_iff, Ne, hasValidKey_iff]
  simp only [not_exists, not_and]

theorem answering (set : KeySet) : Answering set where
  found := fun _ _ _ => find?_eq_some_iff
  missed := fun _ _ => find?_eq_none_iff
  valid := fun _ => hasValidKey_iff
  stale := by
    intro σ source now
    refine ⟨!set.hasValidKey now, rfl, ?_⟩
    rw [Bool.not_eq_true', hasValidKey_eq_false_iff]
    constructor
    · intro expired
      exact ⟨fun kid => find?_eq_none_iff.mpr fun key listed _ => expired key listed,
        fun key listed _ => expired key listed⟩
    · rintro ⟨missed, unnamed⟩ key listed
      cases named : key.id with
      | none => exact unnamed key listed named
      | some kid => exact find?_eq_none_iff.mp (missed kid) key listed named
  stays := by
    intro σ source now expired later passed
    have none : set.hasValidKey later = false :=
      hasValidKey_eq_false_iff.mpr fun key listed lasts => expired key listed (lasts.earlier passed)
    show Except.ok (!set.hasValidKey later) = _
    rw [none]
    rfl

/-- What a document is read as, and what the keys are used for. -/
theorem reading_and_answering (document : Value) (set : KeySet) : Reading document ∧ Answering set :=
  ⟨reading document, answering set⟩

/-- A text is no key, and one for encryption does not count. An array may stand for a key. -/
example : (ofDocument (.ofMembers [("keys", .array [.string "k", .array [.string "oct", .string "k"],
    .ofMembers [("kty", .string "RSA"), ("kid", .string "k"), ("use", .string "enc")]])])).toOption =
      some ⟨[{ WebKey.blank with type := "oct", id := some "k" }]⟩ := by
  decide +kernel

end KeySet

end BearerIdentity
