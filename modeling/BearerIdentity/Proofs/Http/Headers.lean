import BearerIdentity.Http.Request
import BearerIdentity.Proofs.Keyed
import BearerIdentity.Proofs.Text.Ascii

set_option autoImplicit false

namespace BearerIdentity.Request

variable {request : Request} {headers : List (String × String)}

/-- Headers are told apart by their names in small letters. -/
def foldedName (header : String × String) : List Char :=
  Ascii.lower header.1.toList

theorem headers_withHeader (request : Request) (name value : String) :
    (request.withHeader name value).headers = Keyed.put foldedName request.headers (name, value) :=
  rfl

theorem header?_eq (request : Request) (name : String) :
    request.header? name =
      (request.headers.find? (foldedName · == Ascii.lower name.toList)).map (·.2) :=
  rfl

theorem header?_withHeader (request : Request) (name value other : String) :
    (request.withHeader name value).header? other =
      if Ascii.sameFold name other then some value else request.header? other := by
  rw [header?_eq, headers_withHeader, Keyed.find?_put]
  by_cases same : Ascii.sameFold name other = true
  · have found : (foldedName (name, value) == Ascii.lower other.toList) = true := same
    rw [if_pos same, if_pos found, Option.map_some]
  · have differs : ¬ (foldedName (name, value) == Ascii.lower other.toList) = true := same
    rw [if_neg same, if_neg differs, header?_eq]

theorem filter_withHeader (request : Request) (name value : String) :
    (request.withHeader name value).headers.filter (Ascii.sameFold ·.1 name) = [(name, value)] := by
  have self : Ascii.sameFold name name = true := Ascii.sameFold_iff.mpr rfl
  rw [withHeader, List.filter_append, List.filter_filter]
  simp [self]

inductive Step where
  | header (name value : String)
  | basic (user password : String)
  | bearer (token : String)

namespace Step

def entry : Step → String × String
  | header name value => (name, value)
  | basic user password => ("Authorization", basicCredentials user password)
  | bearer token => ("Authorization", "Bearer " ++ token)

/-- A step gives a header of this name, in whatever case. -/
abbrev Names (step : Step) (name : String) : Prop :=
  Ascii.SameUpToCase step.entry.1 name

/-- The value that the last of the steps gives under a name. -/
def lastValue? (steps : List Step) (name : String) : Option String :=
  (steps.filter (·.Names name)).getLast?.map (·.entry.2)

theorem lastValue?_concat (steps : List Step) (step : Step) (name : String) :
    lastValue? (steps ++ [step]) name =
      if step.Names name then some step.entry.2 else lastValue? steps name := by
  rw [lastValue?, List.filter_append, List.getLast?_append]
  by_cases names : step.Names name
  · simp [names]
  · simp [names, lastValue?]

end Step

def take (request : Request) : Step → Request
  | .header name value => request.withHeader name value
  | .basic user password => request.withBasic user password
  | .bearer token => request.withBearer token

def takeAll (request : Request) (steps : List Step) : Request :=
  steps.foldl take request

theorem take_eq (request : Request) (step : Step) :
    request.take step = request.withHeader step.entry.1 step.entry.2 := by
  cases step with
  | header name value => rfl
  | basic user password => rfl
  | bearer token => rfl

/-- A request was made with a method, a URL and a form, and has taken these steps since. -/
structure HasTaken (method : Method) (url : Url) (form : Option (List (String × String)))
    (steps : List Step) (request : Request) : Prop where
  /-- No two headers have the same name. -/
  distinct : request.headers.Pairwise fun header other => ¬ Ascii.SameUpToCase header.1 other.1
  /-- Under each name, in whatever case, the value that was given last is found, if any was given. -/
  last : ∀ name, request.header? name = Step.lastValue? steps name
  /-- The headers are spelled as they were given, and stand in this order. -/
  ordered : request.headers.Sublist (steps.map Step.entry)
  method : request.method = method
  url : request.url = url
  form : request.form = form

theorem pairwise_iff_nodup : headers.Pairwise (fun header other => ¬ Ascii.SameUpToCase header.1 other.1) ↔
    (headers.map foldedName).Nodup := by
  rw [List.Nodup, List.pairwise_map]
  simp only [ne_eq, foldedName, Ascii.lower_eq_iff]

section Taking

variable {method : Method} {url : Url} {form : Option (List (String × String))} {earlier : List Step}

theorem HasTaken.take (taken : HasTaken method url form earlier request) (step : Step) :
    HasTaken method url form (earlier ++ [step]) (request.take step) := by
  -- Each kind of step sets one header, so the method, the URL and the form are those of before.
  rw [take_eq]
  refine ⟨?_, ?_, ?_, taken.method, taken.url, taken.form⟩
  · rw [pairwise_iff_nodup, headers_withHeader]
    exact Keyed.nodup_put foldedName (pairwise_iff_nodup.mp taken.distinct) step.entry
  · intro name
    rw [header?_withHeader, Step.lastValue?_concat, taken.last]
    simp only [Ascii.sameFold_iff_sameUpToCase]
  · have kept := (List.filter_sublist (p := (foldedName · != foldedName step.entry))).trans taken.ordered
    rw [headers_withHeader, List.map_append]
    exact kept.append (List.Sublist.refl [step.entry])

theorem HasTaken.takeAll (taken : HasTaken method url form earlier request) (steps : List Step) :
    HasTaken method url form (earlier ++ steps) (request.takeAll steps) := by
  -- What has been taken grows by one step for each that is left.
  induction steps generalizing earlier request with
  | nil =>
    rw [List.append_nil]
    exact taken
  | cons step later ih =>
    have whole := ih (taken.take step)
    rw [List.append_assoc] at whole
    exact whole

theorem hasTaken_bare (method : Method) (url : Url) (form : Option (List (String × String))) :
    HasTaken method url form [] ⟨method, url, [], form⟩ where
  distinct := List.Pairwise.nil
  last := fun _ => rfl
  ordered := List.Sublist.refl []
  method := rfl
  url := rfl
  form := rfl

end Taking

/-- Whatever headers a new request is given, each name has one of them at most, which is the last, and nothing
else of the request changes. -/
theorem hasTaken_takeAll (url : Url) (form : List (String × String)) (steps : List Step) :
    HasTaken .get url none steps ((get url).takeAll steps) ∧
      HasTaken .post url (some form) steps ((postForm url form).takeAll steps) := by
  have got : HasTaken .get url none [] (get url) := hasTaken_bare .get url none
  have posted : HasTaken .post url (some form) [] (postForm url form) :=
    hasTaken_bare .post url (some form)
  exact ⟨got.takeAll steps, posted.takeAll steps⟩

example (url : Url) (form : List (String × String)) (user password token : String) :
    ((postForm url form).takeAll
      [.basic user password, .header "Accept" "*/*", .bearer token]).headers =
        [("Accept", "*/*"), ("Authorization", "Bearer " ++ token)] :=
  rfl

end BearerIdentity.Request
