import XmlCollation.Proofs.Sources.Bodies
import XmlCollation.Sources.Loader

/-!
Contract: readings from a remote agent whose transport may fail.

Owns:
- the outcomes that a script has in store, the script after some requests, and the first
  answer among the outcomes;
- the requests of one reading: they go on up to the first answer, but not beyond the limit, and
  the last of them decides what is read;
- texts that are loaded one after the other from the endpoint of an agent: every reading counts
  afresh, from where the reading before it stopped.

Does not own: the texts of the bodies that are delivered.
-/

namespace XmlCollation.Sources

open XmlCollation.Text

/-! ## Outcomes in store -/

/-- An answer, whatever its number. -/
def Outcome.isAnswer : Outcome → Bool
  | .answer _ _ => true
  | .broken _ _ => false

/-- The outcome of the request with an index, counted from the next one.  The last outcome of
a script repeats. -/
def Script.outcome (script : Script) (index : Nat) : Outcome :=
  (script.next :: script.later).getD index (script.later.getLastD script.next)

/-- The script after a number of requests. -/
def Script.after : Nat → Script → Script
  | 0, script => script
  | requests + 1, script => script.step.2.after requests

/-- The index of the first request that is answered, if any is. -/
def Script.firstAnswer? (script : Script) : Option Nat :=
  (script.next :: script.later).findIdx? Outcome.isAnswer

theorem Outcome.exists_answer {outcome : Outcome} (answers : outcome.isAnswer = true) :
    ∃ status body, outcome = .answer status body := by
  cases outcome with
  | answer status body => exact ⟨status, body, rfl⟩
  | broken kind message => cases answers

theorem Outcome.exists_broken {outcome : Outcome} (breaks : outcome.isAnswer = false) :
    ∃ kind message, outcome = .broken kind message := by
  cases outcome with
  | answer status body => cases breaks
  | broken kind message => exact ⟨kind, message, rfl⟩

namespace Script

/-- A request leaves the outcomes that come after its own. -/
theorem outcome_succ (script : Script) (index : Nat) :
    script.outcome (index + 1) = script.step.2.outcome index := by
  obtain ⟨next, later⟩ := script
  cases later with
  | nil =>
      cases index with
      | zero => rfl
      | succ index => rfl
  | cons following rest =>
      have stepped : (step ⟨next, following :: rest⟩).2 = ⟨following, rest⟩ := rfl
      rw [stepped, outcome, outcome, List.getLastD_cons, List.getD_cons_succ]

theorem after_after (script : Script) (first second : Nat) :
    (script.after first).after second = script.after (first + second) := by
  induction first generalizing script with
  | zero => rw [after, Nat.zero_add]
  | succ first inductionHypothesis => rw [after, inductionHypothesis, Nat.succ_add, after]

theorem firstAnswer?_of_answered {script : Script} (answers : script.next.isAnswer = true) :
    script.firstAnswer? = some 0 := by
  rw [firstAnswer?, List.findIdx?_cons, if_pos answers]

/-- If the next request breaks, the first answer is one request closer after it. -/
theorem firstAnswer?_of_broken {script : Script} (breaks : script.next.isAnswer = false) :
    script.firstAnswer? = script.step.2.firstAnswer?.map (· + 1) := by
  obtain ⟨next, later⟩ := script
  have passed : firstAnswer? ⟨next, later⟩ = (later.findIdx? Outcome.isAnswer).map (· + 1) := by
    rw [firstAnswer?, List.findIdx?_cons, if_neg (by rw [breaks]; decide)]
  cases later with
  | nil =>
      have stays : step ⟨next, []⟩ = (next, ⟨next, []⟩) := rfl
      rw [stays, passed]
      rfl
  | cons outcome rest => exact passed

/-- The first answer is an answer, and what comes before it breaks. -/
theorem firstAnswer?_eq_some {script : Script} {index : Nat}
    (first : script.firstAnswer? = some index) :
    (script.outcome index).isAnswer = true ∧
      ∀ earlier < index, (script.outcome earlier).isAnswer = false := by
  induction index generalizing script with
  | zero =>
      refine ⟨?_, fun earlier before => absurd before (Nat.not_lt_zero earlier)⟩
      cases answers : script.next.isAnswer with
      | true => exact answers
      | false =>
          rw [firstAnswer?_of_broken answers] at first
          obtain ⟨_, _, impossible⟩ := Option.map_eq_some_iff.1 first
          exact absurd impossible (Nat.succ_ne_zero _)
  | succ index inductionHypothesis =>
      cases answers : script.next.isAnswer with
      | true =>
          rw [firstAnswer?_of_answered answers] at first
          cases first
      | false =>
          rw [firstAnswer?_of_broken answers] at first
          obtain ⟨found, later, same⟩ := Option.map_eq_some_iff.1 first
          obtain rfl : found = index := Nat.succ.inj same
          obtain ⟨isAnswer, breaks⟩ := inductionHypothesis later
          refine ⟨by rwa [outcome_succ], fun earlier before => ?_⟩
          cases earlier with
          | zero => exact answers
          | succ earlier =>
              rw [outcome_succ]
              exact breaks earlier (Nat.lt_of_succ_lt_succ before)

/-- Where no outcome of a script is an answer, every request breaks. -/
theorem isAnswer_outcome_of_none {script : Script} (none : script.firstAnswer? = none)
    (index : Nat) : (script.outcome index).isAnswer = false := by
  refine List.findIdx?_eq_none_iff.1 none _ ?_
  rw [outcome, List.getD_eq_getElem?_getD]
  cases found : (script.next :: script.later)[index]? with
  | none => exact List.getLastD_mem_cons
  | some outcome => exact List.mem_of_getElem? found

/-! ## The requests of a reading -/

/-- The number of requests of a reading: up to the first answer, but not beyond the limit. -/
def requestsWithin (limit : Nat) (script : Script) : Nat :=
  match script.firstAnswer? with
  | some index => min limit (index + 1)
  | none => limit

theorem requestsWithin_zero (script : Script) : script.requestsWithin 0 = 0 := by
  rw [requestsWithin]
  cases script.firstAnswer? with
  | none => rfl
  | some index => exact Nat.zero_min _

theorem requestsWithin_of_answered {script : Script} (answers : script.next.isAnswer = true)
    (limit : Nat) : script.requestsWithin (limit + 1) = 1 := by
  rw [requestsWithin, firstAnswer?_of_answered answers]
  exact Nat.min_eq_right (Nat.le_add_left 1 limit)

theorem requestsWithin_of_broken {script : Script} (breaks : script.next.isAnswer = false)
    (limit : Nat) :
    script.requestsWithin (limit + 1) = script.step.2.requestsWithin limit + 1 := by
  rw [requestsWithin, firstAnswer?_of_broken breaks, requestsWithin]
  cases script.step.2.firstAnswer? with
  | none => rfl
  | some index => exact Nat.succ_min_succ limit (index + 1)

theorem requestsWithin_pos (script : Script) (limit : Nat) :
    0 < script.requestsWithin (limit + 1) := by
  cases answers : script.next.isAnswer with
  | true =>
      rw [requestsWithin_of_answered answers]
      exact Nat.one_pos
  | false =>
      rw [requestsWithin_of_broken answers]
      exact Nat.succ_pos _

end Script

/-- What a request delivers. -/
def Outcome.delivered (refusal : Int → AgentFault) : Outcome → Except AgentFault (List UInt8)
  | .answer status body => if isSuccess status then .ok body else .error (refusal status)
  | .broken kind message => .error (.broken kind message)

namespace Script

theorem step_fst (script : Script) : script.step.1 = script.next := by
  rw [step]
  cases script.later with
  | nil => rfl
  | cons following rest => rfl

/-- A reading ends with the next request if that is answered, or if it is the last one. -/
theorem fetch_of_ends (refusal : Int → AgentFault) {limit : Nat} {script : Script}
    (ends : script.next.isAnswer = true ∨ limit = 0) :
    script.fetch refusal (limit + 1) = ⟨script.next.delivered refusal, 1, script.step.2⟩ := by
  have asked : script.step = (script.next, script.step.2) := Prod.ext script.step_fst rfl
  rw [fetch, asked]
  cases found : script.next with
  | answer status body => rfl
  | broken kind message =>
      have last : limit = 0 := ends.resolve_left (by rw [found]; exact Bool.false_ne_true)
      exact if_pos last

/-- A reading whose next request breaks goes on with one request less, if that leaves any. -/
theorem fetch_of_broken (refusal : Int → AgentFault) (limit : Nat) {script : Script}
    (breaks : script.next.isAnswer = false) :
    script.fetch refusal (limit + 2) =
      { script.step.2.fetch refusal (limit + 1) with
        requests := (script.step.2.fetch refusal (limit + 1)).requests + 1 } := by
  have asked : script.step = (script.next, script.step.2) := Prod.ext script.step_fst rfl
  obtain ⟨kind, message, found⟩ := Outcome.exists_broken breaks
  rw [fetch, asked, found]
  exact if_neg (Nat.succ_ne_zero limit)

/-- The last request of a reading decides what it delivers, and all its requests are taken from
the script. -/
theorem fetch_eq (refusal : Int → AgentFault) (limit : Nat) (script : Script) :
    script.fetch refusal (limit + 1) =
      ⟨(script.outcome (script.requestsWithin (limit + 1) - 1)).delivered refusal,
        script.requestsWithin (limit + 1),
        script.after (script.requestsWithin (limit + 1))⟩ := by
  induction limit generalizing script with
  | zero =>
      have once : script.requestsWithin 1 = 1 := by
        cases answers : script.next.isAnswer with
        | true => exact requestsWithin_of_answered answers 0
        | false => rw [requestsWithin_of_broken answers, requestsWithin_zero]
      rw [fetch_of_ends refusal (.inr rfl), once]
      rfl
  | succ limit inductionHypothesis =>
      cases answers : script.next.isAnswer with
      | true =>
          rw [fetch_of_ends refusal (.inl answers), requestsWithin_of_answered answers]
          rfl
      | false =>
          have positive := requestsWithin_pos script.step.2 limit
          have shifted : script.step.2.requestsWithin (limit + 1) - 1 + 1 =
              script.step.2.requestsWithin (limit + 1) := Nat.sub_add_cancel positive
          rw [fetch_of_broken refusal limit answers, inductionHypothesis,
            requestsWithin_of_broken answers, Nat.add_sub_cancel, after, ← outcome_succ, shifted]

end Script

/-! ## Readings -/

/-- The agent after a number of requests. -/
def Agent.after (requests : Nat) (agent : Agent) : Agent :=
  { agent with script := agent.script.after requests }

/-- The text that a request brings, or the reason why it brings none. -/
def Outcome.text (refusal : Int → AgentFault) (codecs : Codecs) (charset : String)
    (outcome : Outcome) : Except ReadFault String :=
  match outcome.delivered refusal with
  | .ok bytes => decodeNamed codecs charset bytes
  | .error fault => .error (.remote fault)

theorem Agent.readText_eq {agent : Agent} (connected : agent.isClosed = false) (codecs : Codecs)
    (path charset : String) :
    agent.readText codecs path charset =
      ((agent.script.outcome (agent.script.requestsWithin agent.attempts - 1)).text
          (agent.refusal path) codecs charset,
        agent.script.requestsWithin agent.attempts,
        agent.after (agent.script.requestsWithin agent.attempts)) := by
  have fetched : agent.script.fetch (agent.refusal path) agent.attempts =
      ⟨(agent.script.outcome (agent.script.requestsWithin agent.attempts - 1)).delivered
          (agent.refusal path),
        agent.script.requestsWithin agent.attempts,
        agent.script.after (agent.script.requestsWithin agent.attempts)⟩ := by
    obtain ⟨limit, limited⟩ := Nat.exists_eq_succ_of_ne_zero (Nat.ne_of_gt agent.attempts_pos)
    rw [limited]
    exact Script.fetch_eq (agent.refusal path) limit agent.script
  have notClosed : ¬agent.isClosed = true := by rw [connected]; exact Bool.false_ne_true
  rw [readText, fetch, if_neg notClosed, fetched, Outcome.text]
  cases (agent.script.outcome _).delivered (agent.refusal path) with
  | ok bytes => rfl
  | error fault => rfl

/-- What came of loading a text, and how many requests that took. -/
structure Reading where
  result : Except LoadFailure String
  requests : Nat

/-- A reading that has a body gives the text of the body, or fails at the location with the
reason why the body has none. -/
structure Reading.Delivers (reading : Reading) (codecs : Codecs) (charset : String)
    (location : Location) (body : List UInt8) : Prop where
  ok_iff : ∀ text, reading.result = .ok text ↔ Decodes codecs charset body text
  refuses : ∀ failure, reading.result = .error failure →
    failure.location = location ∧ Refuses codecs charset body failure.fault

/-- A reading at a location of an agent goes as its script has it: the requests end with the
first answer, or at the limit.  A successful answer delivers its body, any other one its
number, and the last request its failure if none is answered.  Each failure names the
location. -/
structure Reading.Follows (reading : Reading) (agent : Agent) (codecs : Codecs) (charset : String)
    (location : Location) : Prop where
  requests_eq : reading.requests = agent.script.requestsWithin agent.attempts
  answered : ∀ index, agent.script.firstAnswer? = some index → index < agent.attempts →
    ∃ status body, agent.script.outcome index = .answer status body ∧
      (200 ≤ status ∧ status ≤ 299 → reading.Delivers codecs charset location body) ∧
      (¬(200 ≤ status ∧ status ≤ 299) → reading.result =
        .error ⟨location, .remote (.status status (agent.urlOf location.path) agent.guide)⟩)
  broken : (∀ index, agent.script.firstAnswer? = some index → agent.attempts ≤ index) →
    ∃ kind message, agent.script.outcome (agent.attempts - 1) = .broken kind message ∧
      reading.result = .error ⟨location, .remote (.broken kind message)⟩

theorem isSuccess_eq_true_iff (status : Int) :
    isSuccess status = true ↔ 200 ≤ status ∧ status ≤ 299 := by
  rw [isSuccess, Bool.and_eq_true, decide_eq_true_iff, decide_eq_true_iff]

theorem Reading.delivers_decodeNamed (codecs : Codecs) (charset : String) (location : Location)
    (body : List UInt8) (requests : Nat) :
    Reading.Delivers ⟨(decodeNamed codecs charset body).mapError (⟨location, ·⟩), requests⟩
      codecs charset location body := by
  obtain ⟨text, decoded, decodes⟩ | ⟨fault, failed, refuses⟩ :=
    decodes_or_refuses codecs charset body
  · rw [decoded]
    refine ⟨fun other => ⟨fun same => ?_, fun otherDecodes => ?_⟩, nofun⟩
    · obtain rfl : text = other := Except.ok.inj same
      exact decodes
    · have same : text = other := Except.ok.inj (decoded.symm.trans otherDecodes.decodeNamed_eq)
      rw [same]
      rfl
  · rw [failed]
    refine ⟨fun other => ⟨nofun, fun otherDecodes => ?_⟩, fun failure same => ?_⟩
    · cases failed.symm.trans otherDecodes.decodeNamed_eq
    · obtain rfl : ⟨location, fault⟩ = failure := Except.error.inj same
      exact ⟨rfl, refuses⟩

/-- Whatever the last request brings, the reading goes as the script has it. -/
theorem Reading.follows_of_last {agent : Agent} (codecs : Codecs) (charset : String)
    (location : Location) :
    Reading.Follows
      ⟨((agent.script.outcome (agent.script.requestsWithin agent.attempts - 1)).text
          (agent.refusal location.path) codecs charset).mapError (⟨location, ·⟩),
        agent.script.requestsWithin agent.attempts⟩
      agent codecs charset location where
  requests_eq := rfl
  answered index first within := by
    have last : agent.script.requestsWithin agent.attempts - 1 = index := by
      rw [Script.requestsWithin, first]
      show min agent.attempts (index + 1) - 1 = index
      exact (congrArg (· - 1) (Nat.min_eq_right within)).trans (Nat.add_sub_cancel index 1)
    obtain ⟨status, body, found⟩ :=
      Outcome.exists_answer (Script.firstAnswer?_eq_some first).1
    refine ⟨status, body, found, fun success => ?_, fun refused => ?_⟩
    · rw [last, found, Outcome.text, Outcome.delivered,
        if_pos ((isSuccess_eq_true_iff status).2 success)]
      exact Reading.delivers_decodeNamed codecs charset location body _
    · rw [last, found, Outcome.text, Outcome.delivered,
        if_neg fun success => refused ((isSuccess_eq_true_iff status).1 success)]
      rfl
  broken noAnswer := by
    have last : agent.script.requestsWithin agent.attempts = agent.attempts := by
      rw [Script.requestsWithin]
      cases first : agent.script.firstAnswer? with
      | none => rfl
      | some index => exact Nat.min_eq_left (Nat.le_succ_of_le (noAnswer index first))
    have breaks : (agent.script.outcome (agent.attempts - 1)).isAnswer = false := by
      cases first : agent.script.firstAnswer? with
      | none => exact Script.isAnswer_outcome_of_none first _
      | some index =>
          have before : agent.attempts - 1 < index :=
            Nat.sub_one_lt_of_le agent.attempts_pos (noAnswer index first)
          exact (Script.firstAnswer?_eq_some first).2 _ before
    obtain ⟨kind, message, found⟩ := Outcome.exists_broken breaks
    refine ⟨kind, message, found, ?_⟩
    rw [last, found]
    rfl

/-! ## Texts from an agent -/

namespace Loader

/-- The requests that are made when a text is loaded: those of the agent that serves the
endpoint, if one does. -/
def requestsFor (loader : Loader) (location : Location) : Nat :=
  match loader.registry.get? location.endpoint with
  | some (.agent agent) => (agent.readText loader.codecs location.path loader.charset).2.1
  | _ => 0

/-- Loads one text after the other. -/
def readings : Loader → List Location → List Reading
  | _, [] => []
  | loader, location :: rest =>
      ⟨(loader.loadText location).1, loader.requestsFor location⟩ ::
        (loader.loadText location).2.readings rest

end Loader

/-- The requests of several readings. -/
def totalRequests : List Reading → Nat
  | [] => 0
  | reading :: rest => reading.requests + totalRequests rest

namespace Loader

section Served

variable {loader : Loader} {agent : Agent}

/-- Loading a text from an agent is a reading that goes as the script has it, and the agent goes
on from where the reading stopped. -/
theorem follows_loadText (location : Location)
    (serves : loader.registry.get? location.endpoint = some (.agent agent))
    (connected : agent.isClosed = false) :
    Reading.Follows ⟨(loader.loadText location).1, loader.requestsFor location⟩ agent
        loader.codecs loader.charset location ∧
      (loader.loadText location).2.registry.get? location.endpoint =
        some (.agent (agent.after (loader.requestsFor location))) ∧
      (loader.loadText location).2.charset = loader.charset ∧
      (loader.loadText location).2.codecs = loader.codecs := by
  have read := Agent.readText_eq connected loader.codecs location.path loader.charset
  have counted : loader.requestsFor location = agent.script.requestsWithin agent.attempts := by
    rw [requestsFor, serves]
    show (agent.readText loader.codecs location.path loader.charset).2.1 = _
    rw [read]
  refine ⟨?_, ?_, ?_, ?_⟩
  · rw [counted, loadText, serves]
    simp only [Source.readText, read]
    exact Reading.follows_of_last loader.codecs loader.charset location
  · rw [counted, loadText, serves]
    simp only [Source.readText, read]
    exact Registry.get?_put_same _ _ _
  · rw [loadText, serves]
    rfl
  · rw [loadText, serves]
    rfl

/-- Texts that are loaded one after the other are readings that go as the script has it. -/
theorem follows_readings {endpoint : String}
    (serves : loader.registry.get? endpoint = some (.agent agent))
    (connected : agent.isClosed = false) {paths : List String}
    {index : Nat} {path : String} (atIndex : paths[index]? = some path) :
    ∃ reading, (loader.readings (paths.map (⟨·, endpoint⟩)))[index]? = some reading ∧
      reading.Follows
        (agent.after (totalRequests ((loader.readings (paths.map (⟨·, endpoint⟩))).take index)))
        loader.codecs loader.charset ⟨path, endpoint⟩ := by
  induction paths generalizing loader agent index with
  | nil => cases atIndex
  | cons first rest inductionHypothesis =>
      obtain ⟨follows, servesAfter, sameCharset, sameCodecs⟩ :=
        follows_loadText ⟨first, endpoint⟩ serves connected
      rw [List.map_cons, readings]
      cases index with
      | zero =>
          obtain rfl : first = path := Option.some.inj atIndex
          exact ⟨_, List.getElem?_cons_zero, follows⟩
      | succ index =>
          rw [List.getElem?_cons_succ] at atIndex
          obtain ⟨reading, found, followsLater⟩ :=
            inductionHypothesis servesAfter connected atIndex
          refine ⟨reading, by rwa [List.getElem?_cons_succ], ?_⟩
          rw [sameCharset, sameCodecs] at followsLater
          rw [List.take_succ_cons, totalRequests, Agent.after, ← Script.after_after]
          exact followsLater

end Served

/-- Every reading goes as the script has it, from where the readings before it stopped, and it
counts its requests afresh. -/
theorem readings_follow {attempts : Int} (allowed : 1 ≤ attempts) (baseUrl guide : String)
    (script : Script) :
    ∃ agent, Agent.make baseUrl guide attempts script = .ok agent ∧
      agent.script = script ∧ (agent.attempts : Int) = attempts ∧
      ∀ (loader : Loader) (endpoint : String),
        loader.registry.get? endpoint = some (.agent agent) →
        ∀ (paths : List String) (index : Nat) (path : String), paths[index]? = some path →
          ∃ reading, (loader.readings (paths.map (⟨·, endpoint⟩)))[index]? = some reading ∧
            reading.Follows
              (agent.after (totalRequests
                ((loader.readings (paths.map (⟨·, endpoint⟩))).take index)))
              loader.codecs loader.charset ⟨path, endpoint⟩ := by
  have positive : 0 < attempts.toNat := by omega
  refine ⟨⟨withoutSlashes baseUrl, guide, attempts.toNat, positive, script, false⟩,
    dif_pos positive, rfl, Int.toNat_of_nonneg (by omega), ?_⟩
  intro loader endpoint serves paths index path atIndex
  exact follows_readings serves rfl atIndex

/-- A transport that breaks, delivers a file, refuses one, and then breaks for good. -/
def unreliable : Script :=
  ⟨.broken "ConnectError" "refused",
    [.answer 200 [60, 114, 62, 195, 169, 60, 47, 114, 62], .answer 404 [],
      .broken "ReadTimeout" "slow"]⟩

/-- A loader that reads from one agent besides local files, without further codecs. -/
def ofAgent (agent : Agent) : Loader :=
  { codecs := fun _ => none, registry := Registry.initial.put "agent" (.agent agent) }

/-- Two requests bring the first text.  Those and one more come before the third reading, which
breaks twice. -/
theorem readings_unreliable :
    (1 : Int) ≤ 2 ∧ ∃ agent first third,
      Agent.make "http://agent/" "http://guide/" 2 unreliable = .ok agent ∧
      (ofAgent agent).registry.get? "agent" = some (.agent agent) ∧
      ((ofAgent agent).readings (["a", "b", "c"].map (⟨·, "agent"⟩)))[0]? = some first ∧
      first.Follows agent (ofAgent agent).codecs "utf-8" ⟨"a", "agent"⟩ ∧
      first.result = .ok "<r>é</r>" ∧ first.requests = 2 ∧
      ((ofAgent agent).readings (["a", "b", "c"].map (⟨·, "agent"⟩)))[2]? = some third ∧
      third.Follows (agent.after 3) (ofAgent agent).codecs "utf-8" ⟨"c", "agent"⟩ ∧
      third.result = .error ⟨⟨"c", "agent"⟩, .remote (.broken "ReadTimeout" "slow")⟩ ∧
      third.requests = 2 := by
  have allowed : (1 : Int) ≤ 2 := by decide
  obtain ⟨agent, made, _, _, follow⟩ :=
    readings_follow allowed "http://agent/" "http://guide/" unreliable
  obtain rfl := Except.ok.inj made
  obtain ⟨first, foundFirst, firstFollows⟩ :=
    follow (ofAgent _) "agent" rfl ["a", "b", "c"] 0 "a" rfl
  obtain ⟨third, foundThird, thirdFollows⟩ :=
    follow (ofAgent _) "agent" rfl ["a", "b", "c"] 2 "c" rfl
  obtain rfl := Option.some.inj foundFirst
  obtain rfl := Option.some.inj foundThird
  exact ⟨allowed, _, _, _, made, rfl, rfl, firstFollows, rfl, rfl, rfl,
    thirdFollows, rfl, rfl⟩

end Loader

end XmlCollation.Sources
