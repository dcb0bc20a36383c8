import XmlCollation.Sources.Source

/-!
Contract: which source serves which endpoint.

Owns:
- the register, in which the endpoint for local files is served by files from the
  beginning;
- registration, which replaces and refuses what is no source, and removal.

Does not own: reading from sources.
-/

namespace XmlCollation.Sources

open XmlCollation.Text

def localEndpoint : String := "local"

/-- Sources by endpoint. -/
structure Registry where
  entries : List (String × Source)
deriving Repr

/-- What is offered as a source: a source, or a value that is none. -/
inductive Offer where
  | source (source : Source)
  | foreign (value : Value)

/-- A value that is no source. -/
structure OfferFault where
  value : Value

def OfferFault.message (fault : OfferFault) : String :=
  fault.value.shown ++ " does not implement read_text(path, encoding)"

namespace Registry

/-- The register in which nothing was registered yet. -/
def initial : Registry :=
  ⟨[(localEndpoint, .files)]⟩

def get? (registry : Registry) (endpoint : String) : Option Source :=
  registry.entries.lookup endpoint

def unregister (registry : Registry) (endpoint : String) : Registry :=
  ⟨registry.entries.filter (·.1 != endpoint)⟩

def put (registry : Registry) (endpoint : String) (source : Source) : Registry :=
  ⟨(endpoint, source) :: (registry.unregister endpoint).entries⟩

/-- Registers what is offered, if it is a source. -/
def register (registry : Registry) (endpoint : String) (offer : Offer) :
    Except OfferFault Registry :=
  match offer with
  | .source source => .ok (registry.put endpoint source)
  | .foreign value => .error ⟨value⟩

/-- The register after several registrations, of which the first that is refused counts. -/
def ofOffers (offers : List (String × Offer)) : Except OfferFault Registry :=
  offers.foldlM (fun registry offer => registry.register offer.1 offer.2) initial

/-- Puts an endpoint among endpoints in rising order. -/
def insertEndpoint (endpoint : String) : List String → List String
  | [] => [endpoint]
  | other :: rest =>
      if endpoint < other then endpoint :: other :: rest
      else other :: insertEndpoint endpoint rest

def endpoints (registry : Registry) : List String :=
  (registry.entries.map (·.1)).foldr insertEndpoint []

private theorem lookup_filter_self (entries : List (String × Source)) (endpoint : String) :
    (entries.filter (·.1 != endpoint)).lookup endpoint = none := by
  induction entries with
  | nil => rfl
  | cons entry rest inductionHypothesis =>
      obtain ⟨key, source⟩ := entry
      by_cases same : key = endpoint
      · simp [same, inductionHypothesis]
      · have kept : (key != endpoint) = true := by simpa using same
        have missed : (endpoint == key) = false := by
          simpa using fun equal : endpoint = key => same equal.symm
        simp [List.lookup_cons, kept, missed, inductionHypothesis]

private theorem lookup_filter_other
    (entries : List (String × Source))
    {endpoint other : String}
    (different : endpoint ≠ other) :
    (entries.filter (·.1 != endpoint)).lookup other = entries.lookup other := by
  induction entries with
  | nil => rfl
  | cons entry rest inductionHypothesis =>
      obtain ⟨key, source⟩ := entry
      by_cases same : key = endpoint
      · have missed : (other == key) = false := by
          simpa [same] using fun equal : other = endpoint => different equal.symm
        rw [List.filter_cons_of_neg (by simp [same]), inductionHypothesis, List.lookup_cons, missed]
      · rw [List.filter_cons_of_pos (by simpa using same), List.lookup_cons, List.lookup_cons,
          inductionHypothesis]

theorem get?_put_same (registry : Registry) (endpoint : String) (source : Source) :
    (registry.put endpoint source).get? endpoint = some source := by
  simp [put, get?]

theorem get?_unregister_same (registry : Registry) (endpoint : String) :
    (registry.unregister endpoint).get? endpoint = none :=
  lookup_filter_self registry.entries endpoint

theorem get?_unregister_other
    (registry : Registry)
    {endpoint other : String}
    (different : endpoint ≠ other) :
    (registry.unregister endpoint).get? other = registry.get? other :=
  lookup_filter_other registry.entries different

end Registry

end XmlCollation.Sources
