import BearerIdentity.Proofs.Json.Layout
import BearerIdentity.Token.Signed

set_option autoImplicit false

/- What a token takes from its segments. It says of its signature, its issuer, its type and its dates what the
members of the two documents say, and is otherwise kept as it was received. -/

namespace BearerIdentity

open Json

namespace TokenHeader

variable {header : TokenHeader} {node : Node} {depth : Nat}

/-- The header names the algorithm and the key that a document names. -/
structure Transcribes (header : TokenHeader) (node : Node) : Prop where
  algorithm : node.part? "alg" 0 = some (.string (some header.algorithm))
  keyId : Gives IsText (node.part? "kid" 1) header.keyId

theorem owns_algorithm : Record.Owns fields "alg" 0 .string algorithm where
  distinct := by decide
  own := ⟨_, rfl, rfl, Record.fills_of_set fun _ _ => rfl⟩
  spares := by
    simp only [fields, List.forall_mem_cons, List.not_mem_nil, false_implies, implies_true, and_true]
    refine ⟨fun other => absurd rfl other, ?_, ?_⟩
    all_goals exact fun _ => Record.spares_of_set fun _ _ => rfl

theorem owns_keyId : Record.Owns fields "kid" 1 (.option .string) keyId where
  distinct := by decide
  own := ⟨_, rfl, rfl, Record.fills_of_set fun _ _ => rfl⟩
  spares := by
    simp only [fields, List.forall_mem_cons, List.not_mem_nil, false_implies, implies_true, and_true]
    refine ⟨?_, fun other => absurd rfl other, ?_⟩
    all_goals exact fun _ => Record.spares_of_set fun _ _ => rfl

theorem transcribes_of_decoded (decoded : decoder depth node = .ok header) : header.Transcribes node where
  algorithm := by
    obtain ⟨told, found⟩ := Record.exists_of_required 0 rfl rfl rfl decoded
    rcases Record.part_of_decoder owns_algorithm decoded with ⟨absent, -⟩ | ⟨text, level, present, read⟩
    · cases found.symm.trans absent
    · rw [string_eq_ok.mp read] at present
      exact present
  keyId := Record.gives_of_decoder isText_of_read owns_keyId rfl decoded

end TokenHeader

namespace Claims

variable {claims : Claims} {node : Node} {depth : Nat}

/-- The claims have the issuer, the type and the dates that a document has. -/
structure Transcribes (claims : Claims) (members : List (Option String × Node)) : Prop where
  issuer : Gives IsText (members.lookup (some "iss")) claims.issuer
  type : Gives IsText (members.lookup (some "typ")) claims.type
  expiry : Gives IsValue (members.lookup (some "exp")) claims.expiry
  issueDate : Gives IsValue (members.lookup (some "iat")) claims.issueDate
  startDate : Gives IsValue (members.lookup (some "nbf")) claims.startDate

theorem distinct_fields : (fields.map (·.name)).Nodup := by decide

/-- A field leaves the parts of other names as they are. -/
theorem spares_of_ne : ∀ field ∈ fields,
    (field.name ≠ "iss" → Record.Spares issuer field.read) ∧
      (field.name ≠ "typ" → Record.Spares type field.read) ∧
      (field.name ≠ "exp" → Record.Spares expiry field.read) ∧
      (field.name ≠ "iat" → Record.Spares issueDate field.read) ∧
      (field.name ≠ "nbf" → Record.Spares startDate field.read) := by
  simp only [fields, List.forall_mem_cons, List.not_mem_nil, false_implies, implies_true, and_true]
  refine ⟨?_, ?_, ?_, ?_, ?_, ?_, ?_, ?_, ?_, ?_, ?_, ?_⟩
  all_goals refine ⟨?_, ?_, ?_, ?_, ?_⟩
  all_goals first
    | exact fun other => absurd rfl other
    | exact fun _ => Record.spares_of_set fun _ _ => rfl

theorem owns_issuer : Record.Owns fields "iss" 0 (.option .string) issuer where
  distinct := distinct_fields
  own := ⟨_, rfl, rfl, Record.fills_of_set fun _ _ => rfl⟩
  spares := fun field listed => (spares_of_ne field listed).1

theorem owns_type : Record.Owns fields "typ" 7 (.option .string) type where
  distinct := distinct_fields
  own := ⟨_, rfl, rfl, Record.fills_of_set fun _ _ => rfl⟩
  spares := fun field listed => (spares_of_ne field listed).2.1

theorem owns_expiry : Record.Owns fields "exp" 3 (.option decodeValue) expiry where
  distinct := distinct_fields
  own := ⟨_, rfl, rfl, Record.fills_of_set fun _ _ => rfl⟩
  spares := fun field listed => (spares_of_ne field listed).2.2.1

theorem owns_issueDate : Record.Owns fields "iat" 4 (.option decodeValue) issueDate where
  distinct := distinct_fields
  own := ⟨_, rfl, rfl, Record.fills_of_set fun _ _ => rfl⟩
  spares := fun field listed => (spares_of_ne field listed).2.2.2.1

theorem owns_startDate : Record.Owns fields "nbf" 5 (.option decodeValue) startDate where
  distinct := distinct_fields
  own := ⟨_, rfl, rfl, Record.fills_of_set fun _ _ => rfl⟩
  spares := fun field listed => (spares_of_ne field listed).2.2.2.2

theorem sparesUnknown_keepOther {β : Type} {part : Claims → β}
    (same : ∀ (claims : Claims) others, part { claims with others } = part claims) :
    Record.SparesUnknown part keepOther := by
  intro name depth node claims claims' given
  obtain ⟨value, -, rfl⟩ := map_eq_ok.mp given
  exact same claims _

theorem transcribes_of_decoded (decoded : decoder depth node = .ok claims) :
    ∃ members, node = .object members true ∧ claims.Transcribes members := by
  obtain ⟨level, members, seen, -, rfl, read, -⟩ := Record.object_of_ofObject decoded
  exact ⟨members, rfl, {
    issuer := Record.gives_of_readMembers isText_of_read owns_issuer
      (sparesUnknown_keepOther fun _ _ => rfl) rfl read
    type := Record.gives_of_readMembers isText_of_read owns_type
      (sparesUnknown_keepOther fun _ _ => rfl) rfl read
    expiry := Record.gives_of_readMembers isValue_of_read owns_expiry
      (sparesUnknown_keepOther fun _ _ => rfl) rfl read
    issueDate := Record.gives_of_readMembers isValue_of_read owns_issueDate
      (sparesUnknown_keepOther fun _ _ => rfl) rfl read
    startDate := Record.gives_of_readMembers isValue_of_read owns_startDate
      (sparesUnknown_keepOther fun _ _ => rfl) rfl read }⟩

end Claims

namespace SignedToken

variable {raw : String} {token : SignedToken} {segment : List Char} {α : Type} {decoder : Decoder α}

/-- A segment is a document with this tree, and nothing but blanks after it. -/
def Spells (segment : List Char) (node : Node) : Prop :=
  ∃ bytes rest, segmentBytes? segment = some bytes ∧ read bytes = (node, some rest) ∧
    ∀ byte ∈ rest, isBlankByte byte = true

/-- The token is kept as it was received, in three segments, and says what its first two spell. -/
structure Transcribes (token : SignedToken) (raw : String) : Prop where
  kept : token.raw = raw
  spelt : ∃ first second signature header claims, segments raw = [first, second, signature] ∧
    Spells first header ∧ token.header.Transcribes header ∧
    Spells second (.object claims true) ∧ token.claims.Transcribes claims

theorem spells_of_decodeSegment {part : TokenPart} {value : α}
    (decoded : decodeSegment decoder part segment = .ok value) :
    ∃ node, Spells segment node ∧ decoder depthLimit node = .ok value := by
  unfold decodeSegment at decoded
  split at decoded
  · cases decoded
  · rename_i bytes spelt
    cases whole : decodeAll decoder bytes with
    | error flaw =>
      rw [whole] at decoded
      cases decoded
    | ok found =>
      rw [whole] at decoded
      cases decoded
      obtain ⟨given, ended⟩ := decodeAll_eq_ok.mp whole
      obtain ⟨rest, left, blank⟩ := map_skipBlanks_eq_some_nil_iff.mp ended
      exact ⟨(read bytes).1, ⟨bytes, rest, spelt, Prod.ext rfl left, blank⟩, given⟩

theorem decoded_of_parse (read : parse raw = .ok token) : token.raw = raw ∧
    ∃ first second signature, segments raw = [first, second, signature] ∧
      decodeSegment TokenHeader.decoder .header first = .ok token.header ∧
      decodeSegment Claims.decoder .claims second = .ok token.claims := by
  unfold parse at read
  split at read
  · rename_i first second signature parted
    cases header : decodeSegment TokenHeader.decoder .header first with
    | error flaw =>
      rw [header] at read
      cases read
    | ok found =>
      cases claims : decodeSegment Claims.decoder .claims second with
      | error flaw =>
        rw [header, claims] at read
        cases read
      | ok others =>
        rw [header, claims] at read
        cases read
        exact ⟨rfl, first, second, signature, parted, header, claims⟩
  · cases read

theorem transcribes_of_parse (read : parse raw = .ok token) : token.Transcribes raw := by
  obtain ⟨kept, first, second, signature, parted, header, claims⟩ := decoded_of_parse read
  obtain ⟨node, spelt, decoded⟩ := spells_of_decodeSegment header
  obtain ⟨node', spelt', decoded'⟩ := spells_of_decodeSegment claims
  obtain ⟨members, rfl, transcribes⟩ := Claims.transcribes_of_decoded decoded'
  exact ⟨kept, first, second, signature, node, members, parted, spelt,
    TokenHeader.transcribes_of_decoded decoded, spelt', transcribes⟩

end SignedToken

end BearerIdentity
