import BearerIdentity.Proofs.Http.Explanation
import Mathlib.Data.List.Infix
import Mathlib.Tactic.FinCases

set_option autoImplicit false

/- What decides the meaning of an answer without success. There are five things to judge it by, and the
first of them that says anything decides, so a known error code is never overruled. Within a text, the
hints at a bad grant count before those at a bad client, at a scope and at a passing condition. -/

namespace BearerIdentity

namespace Ascii

theorem occursIn_iff (part text : List Char) : occursIn part text = true ↔ part <:+: text := by
  induction text with
  | nil => rw [occursIn, List.isEmpty_iff, List.infix_nil]
  | cons c rest ih => rw [occursIn, Bool.or_eq_true, List.isPrefixOf_iff_prefix, ih, List.infix_cons_iff]

end Ascii

namespace Refusal

variable {kind : Refusal} {text : String}

/-- A judgement says of some kinds that the refusal is of that kind. -/
abbrev Judgement := Refusal → Prop

/-- The first of several judgements that says anything is this one. -/
inductive FirstOf : List Judgement → Judgement where
  | here {judgement : Judgement} {others : List Judgement} {kind : Refusal} (told : judgement kind) :
    FirstOf (judgement :: others) kind
  | later {judgement : Judgement} {others : List Judgement} {kind : Refusal}
    (silent : ∀ other, ¬ judgement other) (first : FirstOf others kind) : FirstOf (judgement :: others) kind

theorem not_firstOf_nil : ¬ FirstOf [] kind := nofun

theorem firstOf_cons_iff {judgement : Judgement} {others : List Judgement} :
    FirstOf (judgement :: others) kind ↔
      judgement kind ∨ (∀ other, ¬ judgement other) ∧ FirstOf others kind := by
  constructor
  · rintro (told | ⟨silent, first⟩)
    · exact .inl told
    · exact .inr ⟨silent, first⟩
  · rintro (told | ⟨silent, first⟩)
    · exact .here told
    · exact .later silent first

/-- Judgements that are made one after another are tried in this order. -/
theorem or_eq_some_iff {judgement : Judgement} {others : List Judgement} {found later : Option Refusal}
    (judges : ∀ kind, found = some kind ↔ judgement kind)
    (judgeLater : ∀ kind, later = some kind ↔ FirstOf others kind) (kind : Refusal) :
    found.or later = some kind ↔ FirstOf (judgement :: others) kind := by
  rw [firstOf_cons_iff, ← judges, ← judgeLater, Option.or_eq_some_iff, Option.eq_none_iff_forall_ne_some]
  simp only [ne_eq, judges]

def codes : Refusal → List String
  | grant => ["invalid_grant", "access_denied"]
  | client => ["invalid_client", "unauthorized_client"]
  | scope => ["invalid_scope", "insufficient_scope"]
  | passing => ["temporarily_unavailable", "server_error"]

def IsCode (text : String) (kind : Refusal) : Prop :=
  ∃ code ∈ kind.codes, Ascii.sameFold text code = true

def words : Refusal → List String
  | grant => ["invalid_grant"]
  | client => ["invalid_client"]
  | scope => ["insufficient_scope", "invalid_scope"]
  | passing => ["temporarily_unavailable", "retry"]

def Hints (text : List Char) (kind : Refusal) : Prop :=
  ∃ word ∈ kind.words, word.toList <:+: Ascii.lower text

def order : List Refusal :=
  [grant, client, scope, passing]

/-- The kind that a text hints at most strongly. -/
def HintsFirst (text : List Char) : Judgement :=
  FirstOf (order.map fun strong kind => kind = strong ∧ Hints text strong)

inductive HasStatus : (status : Nat) → Judgement where
  | badRequest : HasStatus 400 grant
  | unauthorized : HasStatus 401 client
  | forbidden : HasStatus 403 scope
  | notFound : HasStatus 404 grant
  | gone : HasStatus 410 grant
  | other {status : Nat} (unknown : status ∉ [400, 401, 403, 404, 410]) : HasStatus status passing

theorem ofCode?_eq_some (text : String) (kind : Refusal) : ofCode? text = some kind ↔ IsCode text kind := by
  have lowered : ∀ code ∈ kind.codes, Ascii.lower code.toList = code.toList := by
    cases kind <;> decide
  have same : IsCode text kind ↔ String.ofList (Ascii.lower text.toList) ∈ kind.codes := by
    constructor
    · rintro ⟨code, known, same⟩
      rw [beq_iff_eq.mp same, lowered code known, String.ofList_toList]
      exact known
    · intro known
      refine ⟨_, known, beq_iff_eq.mpr ?_⟩
      rw [lowered _ known, String.toList_ofList]
  rw [same, ofCode?]
  generalize String.ofList (Ascii.lower text.toList) = code
  constructor
  · intro found
    obtain ⟨before, after, parted, -⟩ := List.lookup_eq_some_iff.mp found
    have listed : (code, kind) ∈ order.flatMap fun kind => kind.codes.map (·, kind) := by
      change (code, kind) ∈ [_, _, _, _, _, _, _, _]
      rw [parted]
      simp
    have known : kind ∈ order ∧ code ∈ kind.codes := by simpa using listed
    exact known.2
  · revert code
    cases kind <;> decide

theorem hints_eq : hints = order.flatMap fun kind => kind.words.map (·, kind) := rfl

theorem find?_words (text : List Char) (strong kind : Refusal) :
    ((strong.words.map (·, strong)).find? fun (hint, _) =>
      Ascii.occursIn hint.toList (Ascii.lower text)).map (·.2) = some kind ↔
        kind = strong ∧ Hints text strong := by
  have found_iff : (strong.words.find? fun word => Ascii.occursIn word.toList (Ascii.lower text)).isSome =
      true ↔ Hints text strong := by
    simp only [List.find?_isSome, Ascii.occursIn_iff, Hints]
  rw [List.find?_map, Option.map_map, Option.map_eq_some_iff, ← found_iff, Option.isSome_iff_exists]
  constructor
  · rintro ⟨word, found, rfl⟩
    exact ⟨rfl, word, found⟩
  · rintro ⟨rfl, word, found⟩
    exact ⟨word, found, rfl⟩

theorem ofHint?_eq_some (text : List Char) (kind : Refusal) :
    ofHint? text = some kind ↔ HintsFirst text kind := by
  rw [ofHint?, hints_eq, HintsFirst]
  generalize order = kinds
  induction kinds generalizing kind with
  | nil => simp [not_firstOf_nil]
  | cons strong kinds ih =>
    rw [List.flatMap_cons, List.find?_append, Option.map_or, List.map_cons]
    exact or_eq_some_iff (find?_words text strong) ih kind

theorem HasStatus.ofStatus_eq {status : Nat} (has : HasStatus status kind) : ofStatus status = kind := by
  cases has with
  | other unknown =>
    simp only [List.mem_cons, List.not_mem_nil, or_false, not_or] at unknown
    simp [ofStatus, unknown]
  | _ => rfl

theorem hasStatus_ofStatus (status : Nat) : HasStatus status (ofStatus status) := by
  by_cases known : status ∈ [400, 401, 403, 404, 410]
  · fin_cases known
    · exact .badRequest
    · exact .unauthorized
    · exact .forbidden
    · exact .notFound
    · exact .gone
  · rw [(HasStatus.other known).ofStatus_eq]
    exact .other known

theorem ofStatus_eq_iff {status : Nat} : ofStatus status = kind ↔ HasStatus status kind := by
  constructor
  · rintro rfl
    exact hasStatus_ofStatus status
  · exact HasStatus.ofStatus_eq

/-- A word is in a text that is cut off exactly if it is in what is left of it. -/
theorem hints_append_mark (text : List Char) : Hints (text ++ ['…']) kind ↔ Hints text kind := by
  have plain : ∀ word ∈ kind.words, word.toList ≠ [] ∧ '…' ∉ word.toList := by
    cases kind <;> decide
  have lowered : Ascii.lower (text ++ ['…']) = Ascii.lower text ++ ['…'] := List.map_append
  rw [Hints, Hints, lowered]
  refine exists_congr fun word => and_congr_right fun known => ?_
  obtain ⟨nonempty, clear⟩ := plain word known
  have stays : ¬ word.toList <:+ Ascii.lower text ++ ['…'] := by
    rw [List.suffix_concat_iff]
    rintro (empty | ⟨start, cut, -⟩)
    · exact nonempty empty
    · rw [cut] at clear
      exact clear (List.mem_append_right _ List.mem_cons_self)
  rw [List.infix_concat_iff, or_iff_right stays]

theorem ofHint?_preview (text : List Char) : ofHint? (preview text) = ofHint? (text.take previewLength) := by
  rw [preview]
  split
  next short => rw [List.take_of_length_le short]
  next long =>
    refine Option.ext fun kind => ?_
    rw [ofHint?_eq_some, ofHint?_eq_some, HintsFirst, HintsFirst]
    simp only [hints_append_mark]

/-- What one of the members in the explanation says of the kind. -/
def Tells (response : Response) (member : Report → Option String) (judge : String → Judgement) : Judgement :=
  fun kind => ∃ report text, Explains response.body report ∧ member report = some text ∧ judge text kind

/-- All that the meaning of an answer is judged by, the strongest first. -/
def evidence (response : Response) : List Judgement :=
  [Tells response Report.code IsCode,
    Tells response Report.description IsCode,
    Tells response Report.description (HintsFirst ·.toList),
    HintsFirst ((Utf8.decodeLossy response.body).take 256),
    HasStatus response.status]

theorem Report.member_ofBody {member : Report → Option String} (absent : member ⟨none, none⟩ = none)
    (body : Bytes) : member (ofBody body) = some text ↔
      ∃ report, Explains body report ∧ member report = some text := by
  simp only [ofBody, ← decodeAll_eq_ok_iff_explains]
  cases decoded : Json.decodeAll (Json.Record.decoder fields ⟨none, none⟩) body with
  | error => simp [absent]
  | ok report => simp

theorem bind_member_eq_some {judge? : String → Option Refusal} {judge : String → Judgement}
    (judges : ∀ text kind, judge? text = some kind ↔ judge text kind) (member : Report → Option String)
    (absent : member ⟨none, none⟩ = none) (response : Response) (kind : Refusal) :
    (member (Report.ofBody response.body)).bind judge? = some kind ↔ Tells response member judge kind := by
  simp only [Option.bind_eq_some_iff, Report.member_ofBody absent, judges, Tells]
  constructor
  · rintro ⟨text, ⟨report, explains, member⟩, judged⟩
    exact ⟨report, text, explains, member, judged⟩
  · rintro ⟨report, text, explains, member, judged⟩
    exact ⟨text, ⟨report, explains, member⟩, judged⟩

/-- The first evidence that says anything decides. -/
theorem ofResponse_eq_iff (response : Response) (kind : Refusal) :
    ofResponse response = kind ↔ FirstOf (evidence response) kind := by
  have isCode := bind_member_eq_some ofCode?_eq_some
  have hints := bind_member_eq_some fun text => ofHint?_eq_some text.toList
  have chain : some (ofResponse response) =
      ((Report.ofBody response.body).code.bind ofCode?).or
        (((Report.ofBody response.body).description.bind ofCode?).or
          (((Report.ofBody response.body).description.bind fun text => ofHint? text.toList).or
            ((ofHint? ((Utf8.decodeLossy response.body).take previewLength)).or
              (some (ofStatus response.status))))) := by
    rw [ofResponse, ofHint?_preview]
    simp only [Option.or_assoc, ← Option.or_some]
  rw [← Option.some.injEq, chain, evidence]
  refine or_eq_some_iff (isCode Report.code rfl response) (fun kind => ?_) kind
  refine or_eq_some_iff (isCode Report.description rfl response) (fun kind => ?_) kind
  refine or_eq_some_iff (hints Report.description rfl response) (fun kind => ?_) kind
  refine or_eq_some_iff (ofHint?_eq_some _) (fun kind => ?_) kind
  simp [firstOf_cons_iff, not_firstOf_nil, ofStatus_eq_iff]

end Refusal

namespace Error

inductive Means : Error → Refusal → Prop where
  | grant (reason : String) : Means (.invalidGrant reason) .grant
  | client (reason : String) : Means (.invalidClient reason) .client
  | scope (reason : String) : Means (.insufficientScope reason) .scope
  | passing (reason : String) (status : Nat) (retryAfter : Option Int) :
    Means (.transient (.unexpectedResponse reason status retryAfter)) .passing

theorem Means.unique {cause : Error} {kind other : Refusal} (means : cause.Means kind)
    (meansOther : cause.Means other) : kind = other := by
  cases means <;> cases meansOther <;> rfl

end Error

namespace Response

open Refusal

theorem means_refusal (response : Response) : response.refusal.Means (ofResponse response) := by
  unfold refusal
  cases ofResponse response with
  | grant => exact .grant _
  | client => exact .client _
  | scope => exact .scope _
  | passing => exact .passing _ _ _

theorem means_refusal_iff (response : Response) (kind : Refusal) :
    response.refusal.Means kind ↔ FirstOf (evidence response) kind := by
  rw [← ofResponse_eq_iff]
  constructor
  · exact response.means_refusal.unique
  · rintro rfl
    exact response.means_refusal

/-- What an answer without success is taken for. -/
structure IsJudged (response : Response) : Prop where
  /-- It is taken for one thing, which the first evidence that says anything decides. -/
  one : ∃! kind, response.refusal.Means kind
  first : ∀ kind, response.refusal.Means kind ↔ FirstOf (evidence response) kind
  /-- With known codes for one kind, two answers are taken for that, whatever else they say. -/
  sameCode : ∀ (other : Response) (report report' : Refusal.Report) (code code' : String) (kind : Refusal),
    Explains response.body report → report.code = some code → IsCode code kind →
    Explains other.body report' → report'.code = some code' → IsCode code' kind →
      response.refusal.Means kind ∧ other.refusal.Means kind
  /-- Of a body that is no explanation, only the start counts. -/
  sameStart : ∀ other : Response,
    (∀ report, ¬ Explains response.body report) → (∀ report, ¬ Explains other.body report) →
    (Utf8.decodeLossy response.body).take 256 = (Utf8.decodeLossy other.body).take 256 →
    response.status = other.status → ∀ kind, response.refusal.Means kind ↔ other.refusal.Means kind
  /-- A passing condition is reported with the status and with the time after which to try again. -/
  passing : ∀ cause, response.refusal = .transient cause →
    ∃ reason, cause = .unexpectedResponse reason response.status response.retryAfter

theorem means_of_code {response : Response} {report : Refusal.Report} {code : String} {kind : Refusal}
    (explains : Explains response.body report) (named : report.code = some code)
    (known : IsCode code kind) : response.refusal.Means kind :=
  (response.means_refusal_iff kind).mpr (.here ⟨report, code, explains, named, known⟩)

theorem means_of_unexplained {response : Response}
    (unexplained : ∀ report, ¬ Explains response.body report) (kind : Refusal) :
    response.refusal.Means kind ↔
      FirstOf [HintsFirst ((Utf8.decodeLossy response.body).take 256), HasStatus response.status] kind := by
  have silent (member : Refusal.Report → Option String) (judge : String → Judgement) (kind : Refusal) :
      ¬ Tells response member judge kind := by
    rintro ⟨report, text, explains, -⟩
    exact unexplained report explains
  have skip {member : Refusal.Report → Option String} {judge : String → Judgement} {others : List Judgement} :
      FirstOf (Tells response member judge :: others) kind ↔ FirstOf others kind := by
    rw [firstOf_cons_iff, or_iff_right (silent member judge kind)]
    exact and_iff_right (silent member judge)
  rw [means_refusal_iff, evidence, skip, skip, skip]

theorem isJudged (response : Response) : response.IsJudged where
  one := ⟨_, response.means_refusal, fun _ means => means.unique response.means_refusal⟩
  first := response.means_refusal_iff
  sameCode := by
    intro other report report' code code' kind explains named known explains' named' known'
    exact ⟨means_of_code explains named known, means_of_code explains' named' known'⟩
  sameStart := by
    intro other unexplained unexplained' start status kind
    rw [means_of_unexplained unexplained, means_of_unexplained unexplained', start, status]
  passing := by
    intro cause refused
    unfold refusal at refused
    cases judged : ofResponse response with
    | passing =>
      rw [judged] at refused
      cases refused
      exact ⟨_, rfl⟩
    | _ =>
      rw [judged] at refused
      cases refused

/-- A hint in the description counts before the status, but not before a known code. Where nothing else gives
a hint, the code overrules the status, also if it stands in its place in an array. -/
example : ofResponse ⟨400, none, Utf8.ofString "\x7b\"error_description\":\"Please RETRY.\"\x7d"⟩ = .passing ∧
    ofResponse ⟨400, none, Utf8.ofString
      "\x7b\"error\":\"Invalid_Client\",\"error_description\":\"Please RETRY.\"\x7d"⟩ = .client ∧
    ofResponse ⟨500, none, Utf8.ofString "\x7b\"error\":\"Access_Denied\"\x7d"⟩ = .grant ∧
    ofResponse ⟨404, none, Utf8.ofString "[\"server_error\",null]"⟩ = .passing := by
  decide +kernel

end Response

end BearerIdentity
