import XmlCollation.Sources.Registry

/-!
Contract: registers after histories of requests.

Owns:
- requests to a register, what each of them leaves at an endpoint, and the register after a
  history of requests, of which those that are refused change nothing;
- which source serves an endpoint after a history: the one that was registered last, unless
  the endpoint was given up since;
- the endpoint for local files, which is served in every history but those that give it up.

Does not own: what is read from the sources.

## Giving up the endpoint for local files

Removal treats all endpoints alike.  Files serve the endpoint for local files only because
they are put there in the beginning, and nothing puts them back.
-/

namespace XmlCollation.Sources

open XmlCollation.Text

/-! ## Requests -/

/-- A request to a register. -/
inductive Request where
  | register (endpoint : String) (offer : Offer)
  | unregister (endpoint : String)

/-- What a request leaves at an endpoint: nothing if it leaves the endpoint alone, else the
source that is there afterwards, if there is one. -/
def Request.effect (endpoint : String) : Request → Option (Option Source)
  | .register other (.source source) => if other = endpoint then some (some source) else none
  | .register _ (.foreign _) => none
  | .unregister other => if other = endpoint then some none else none

/-- The offers that a register is made of, as requests. -/
def registrations (offers : List (String × Offer)) : List Request :=
  offers.map fun offer => .register offer.1 offer.2

theorem Request.effect_eq_some {endpoint : String} {request : Request} {source : Source} :
    request.effect endpoint = some (some source) ↔
      request = .register endpoint (.source source) := by
  unfold effect
  split
  · rename_i other offered
    simp only [Option.ite_none_right_eq_some, Option.some.injEq, Request.register.injEq,
      Offer.source.injEq]
  · simp
  · simp

theorem Request.effect_eq_none {endpoint : String} {request : Request} :
    request.effect endpoint = some none ↔ request = .unregister endpoint := by
  unfold effect
  split
  · simp
  · simp
  · simp

namespace Registry

/-- The register after a request.  What is refused changes nothing. -/
def after (registry : Registry) : Request → Registry
  | .register endpoint offer =>
      match registry.register endpoint offer with
      | .ok changed => changed
      | .error _ => registry
  | .unregister endpoint => registry.unregister endpoint

/-- The register after one request after the other. -/
def run (registry : Registry) (history : List Request) : Registry :=
  history.foldl after registry

theorem get?_put_other (registry : Registry) {endpoint other : String} (source : Source)
    (different : endpoint ≠ other) :
    (registry.put endpoint source).get? other = registry.get? other := by
  have missed : (other == endpoint) = false := beq_false_of_ne different.symm
  rw [← get?_unregister_other registry different, put, get?, get?, List.lookup_cons, missed]

/-- At every endpoint stands what the request left there, or else what stood there before. -/
theorem get?_after (registry : Registry) (request : Request) (endpoint : String) :
    (registry.after request).get? endpoint =
      (request.effect endpoint).getD (registry.get? endpoint) := by
  cases request with
  | register other offer =>
      cases offer with
      | source source =>
          show (registry.put other source).get? endpoint = _
          rw [Request.effect]
          by_cases same : other = endpoint
          · rw [if_pos same, same, get?_put_same, Option.getD_some]
          · rw [if_neg same, get?_put_other registry source same, Option.getD_none]
      | foreign value => rfl
  | unregister other =>
      show (registry.unregister other).get? endpoint = _
      rw [Request.effect]
      by_cases same : other = endpoint
      · rw [if_pos same, same, get?_unregister_same, Option.getD_some]
      · rw [if_neg same, get?_unregister_other registry same, Option.getD_none]

/-- After a history, what the last request that did not leave an endpoint alone left there
stands there. -/
theorem get?_run (registry : Registry) (history : List Request) (endpoint : String) :
    (registry.run history).get? endpoint =
      (history.reverse.findSome? (Request.effect endpoint)).getD (registry.get? endpoint) := by
  induction history generalizing registry with
  | nil => rfl
  | cons request rest inductionHypothesis =>
      rw [run, List.foldl_cons, ← run, inductionHypothesis, get?_after, List.reverse_cons,
        List.findSome?_append, List.findSome?_singleton]
      cases rest.reverse.findSome? (Request.effect endpoint) with
      | none => rfl
      | some outcome => rfl

/-- Registrations of which none is refused are a history. -/
theorem eq_run_of_foldlM {offers : List (String × Offer)} {start registry : Registry}
    (made : offers.foldlM (fun registry offer => registry.register offer.1 offer.2) start =
      .ok registry) :
    registry = start.run (registrations offers) := by
  induction offers generalizing start with
  | nil => exact (Except.ok.inj made).symm
  | cons offer rest inductionHypothesis =>
      rw [List.foldlM_cons] at made
      rw [registrations, List.map_cons, run, List.foldl_cons, ← run, ← registrations]
      cases registered : start.register offer.1 offer.2 with
      | error fault =>
          rw [registered] at made
          cases made
      | ok changed =>
          rw [registered] at made
          have step : start.after (.register offer.1 offer.2) = changed := by
            simp only [after, registered]
          rw [step]
          exact inductionHypothesis made

end Registry

/-! ## Histories -/

/-- A source was registered for an endpoint, and nothing since replaced or removed it. -/
def StandsFor (history : List Request) (endpoint : String) (source : Source) : Prop :=
  ∃ before since, history = before ++ .register endpoint (.source source) :: since ∧
    ∀ request ∈ since, request.effect endpoint = none

/-- An endpoint was given up, and nothing was registered for it since. -/
def IsVacated (history : List Request) (endpoint : String) : Prop :=
  ∃ before since, history = before ++ .unregister endpoint :: since ∧
    ∀ request ∈ since, request.effect endpoint = none

/-- No request concerns an endpoint, or only such as are refused. -/
def IsUntouched (history : List Request) (endpoint : String) : Prop :=
  ∀ request ∈ history, request.effect endpoint = none

section Histories

variable {history : List Request} {endpoint : String}

theorem findSome?_reverse_eq_some {outcome : Option Source} :
    history.reverse.findSome? (Request.effect endpoint) = some outcome ↔
      ∃ before request since, history = before ++ request :: since ∧
        request.effect endpoint = some outcome ∧
          ∀ later ∈ since, later.effect endpoint = none := by
  rw [List.findSome?_eq_some_iff]
  constructor
  · rintro ⟨since, request, before, split, leaves, later⟩
    refine ⟨before.reverse, request, since.reverse, ?_, leaves, fun request member =>
      later request (List.mem_reverse.1 member)⟩
    rw [← List.reverse_reverse history, split]
    simp
  · rintro ⟨before, request, since, rfl, leaves, later⟩
    exact ⟨since.reverse, request, before.reverse, by simp, leaves, fun request member =>
      later request (List.mem_reverse.1 member)⟩

theorem standsFor_iff {source : Source} :
    StandsFor history endpoint source ↔
      history.reverse.findSome? (Request.effect endpoint) = some (some source) := by
  rw [findSome?_reverse_eq_some]
  constructor
  · rintro ⟨before, since, split, later⟩
    exact ⟨before, _, since, split, Request.effect_eq_some.2 rfl, later⟩
  · rintro ⟨before, request, since, split, leaves, later⟩
    rw [Request.effect_eq_some.1 leaves] at split
    exact ⟨before, since, split, later⟩

theorem isVacated_iff :
    IsVacated history endpoint ↔
      history.reverse.findSome? (Request.effect endpoint) = some none := by
  rw [findSome?_reverse_eq_some]
  constructor
  · rintro ⟨before, since, split, later⟩
    exact ⟨before, _, since, split, Request.effect_eq_none.2 rfl, later⟩
  · rintro ⟨before, request, since, split, leaves, later⟩
    rw [Request.effect_eq_none.1 leaves] at split
    exact ⟨before, since, split, later⟩

theorem isUntouched_iff :
    IsUntouched history endpoint ↔
      history.reverse.findSome? (Request.effect endpoint) = none := by
  rw [List.findSome?_eq_none_iff]
  exact ⟨fun untouched request member => untouched request (List.mem_reverse.1 member),
    fun untouched request member => untouched request (List.mem_reverse.2 member)⟩

end Histories

/-! ## Which source serves an endpoint -/

/-- In the beginning, files serve local files, and no other endpoint is served. -/
theorem Registry.get?_initial (endpoint : String) :
    Registry.initial.get? endpoint = if endpoint = localEndpoint then some .files else none := by
  rw [Registry.initial, Registry.get?, List.lookup_cons]
  by_cases isLocal : endpoint = localEndpoint
  · rw [if_pos isLocal, beq_iff_eq.2 isLocal]
  · rw [if_neg isLocal, beq_false_of_ne isLocal, List.lookup_nil]

/-- After any history, an endpoint is served by the source that was registered for it last, if
it was not removed since.  The endpoint for local files is served by files if nothing concerned
it, and by nothing if and only if it was given up: removal does not bring the files back. -/
theorem Registry.served_iff {offers : List (String × Offer)} {registry : Registry}
    (made : Registry.ofOffers offers = .ok registry) (requests : List Request) :
    (∀ endpoint source, endpoint ≠ localEndpoint →
      ((registry.run requests).get? endpoint = some source ↔
        StandsFor (registrations offers ++ requests) endpoint source)) ∧
    (∀ source, (registry.run requests).get? localEndpoint = some source ↔
      StandsFor (registrations offers ++ requests) localEndpoint source ∨
        (IsUntouched (registrations offers ++ requests) localEndpoint ∧ source = .files)) ∧
    ((registry.run requests).get? localEndpoint = none ↔
      IsVacated (registrations offers ++ requests) localEndpoint) := by
  generalize whole_eq : registrations offers ++ requests = history
  have served (endpoint : String) :
      (registry.run requests).get? endpoint =
        (history.reverse.findSome? (Request.effect endpoint)).getD
          (if endpoint = localEndpoint then some .files else none) := by
    have whole : registry.run requests = Registry.initial.run history := by
      rw [Registry.eq_run_of_foldlM made, ← whole_eq, Registry.run, Registry.run, Registry.run,
        ← List.foldl_append]
    rw [whole, Registry.get?_run, Registry.get?_initial]
  refine ⟨?_, ?_, ?_⟩
  · intro endpoint source notLocal
    rw [served, if_neg notLocal, standsFor_iff]
    cases history.reverse.findSome? (Request.effect endpoint) with
    | none => simp
    | some outcome => simp
  · intro source
    rw [served, if_pos rfl, standsFor_iff, isUntouched_iff]
    cases history.reverse.findSome? (Request.effect localEndpoint) with
    | none => simp [eq_comm]
    | some outcome => simp
  · rw [served, if_pos rfl, isVacated_iff]
    cases history.reverse.findSome? (Request.effect localEndpoint) with
    | none => simp
    | some outcome => simp

/-- An offer for a further endpoint. -/
def agentText : List (String × Offer) :=
  [("agent", .source (.fixed "<r/>" []))]

/-- A request that is refused, and one that gives up local files. -/
def givingUp : List Request :=
  [.register "agent" (.foreign .none), .unregister localEndpoint]

/-- The refused request leaves the further endpoint as it was. -/
theorem Registry.served_givingUp :
    ∃ registry, Registry.ofOffers agentText = .ok registry ∧
      (registry.run givingUp).get? "agent" = some (.fixed "<r/>" []) ∧
      StandsFor (registrations agentText ++ givingUp) "agent" (.fixed "<r/>" []) ∧
      IsVacated (registrations agentText ++ givingUp) localEndpoint := by
  have facts := @Registry.served_iff agentText _ rfl givingUp
  exact ⟨_, rfl, by decide, (facts.1 "agent" _ (by decide)).1 (by decide), facts.2.2.1 (by decide)⟩

/-- The endpoint for local files is not available once it was removed. -/
theorem Registry.not_served_unregistered :
    ∃ registry, Registry.ofOffers [] = .ok registry ∧
      registry.get? localEndpoint = some .files ∧
      (registry.run [.unregister localEndpoint]).get? localEndpoint = none :=
  ⟨_, rfl, rfl, rfl⟩

end XmlCollation.Sources
