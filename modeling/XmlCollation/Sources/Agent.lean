import XmlCollation.Text.Charset
import XmlCollation.Text.Quoted

/-!
Contract: remote agents that serve files over a network.

Owns:
- the address of a file on an agent, with the path as an encoded parameter;
- the outcomes of requests, given one after the other by a script of which the last
  outcome repeats;
- attempts: a request whose transport fails is repeated up to a limit, and any
  answer ends the reading;
- the end of the connection, after which nothing is requested;
- the reports of answers that are no success.

Does not own: time, connections, and the decoding of what was read.
-/

namespace XmlCollation.Sources

open XmlCollation.Text

/-! ## Addresses -/

/-- Characters that stand for themselves in an encoded parameter. -/
def isUnreserved (b : UInt8) : Bool :=
  let c := Char.ofNat b.toNat
  c.isAlphanum || c == '-' || c == '.' || c == '_' || c == '~'

def encodeByte (b : UInt8) : List Char :=
  if isUnreserved b then [Char.ofNat b.toNat]
  else if b == 32 then ['+']
  else '%' :: ((List.replicate (2 - (Nat.toDigits 16 b.toNat).length) '0'
    ++ Nat.toDigits 16 b.toNat).map Char.toUpper)

def encodeParameter (text : String) : String :=
  String.ofList (text.toUTF8.toList.flatMap encodeByte)

def withoutSlashes (url : String) : String :=
  String.ofList (url.toList.reverse.dropWhile (· == '/')).reverse

/-! ## Outcomes -/

/-- What comes of a request: an answer, or a failure on the way. -/
inductive Outcome where
  | answer (status : Int) (body : List UInt8)
  | broken (kind message : String)
deriving DecidableEq, Repr

/-- Outcomes of requests in order; the last one repeats. -/
structure Script where
  next : Outcome
  later : List Outcome
deriving DecidableEq, Repr

/-- The outcome of the next request, and the script after it. -/
def Script.step (script : Script) : Outcome × Script :=
  match script.later with
  | [] => (script.next, script)
  | outcome :: rest => (script.next, ⟨outcome, rest⟩)

/-- A remote agent.  The client words a refused request with the address of a guide to the
numbers of answers. -/
structure Agent where
  baseUrl : String
  guide : String
  attempts : Nat
  attempts_pos : 0 < attempts
  script : Script
  isClosed : Bool
deriving DecidableEq, Repr

/-- A number of attempts that allows none. -/
structure AttemptsFault where
  attempts : Int
deriving DecidableEq, Repr

def AttemptsFault.message (fault : AttemptsFault) : String :=
  "max_attempts must be >= 1, got " ++ toString fault.attempts

def Agent.make (baseUrl guide : String) (attempts : Int) (script : Script) :
    Except AttemptsFault Agent :=
  if positive : 0 < attempts.toNat then
    .ok ⟨withoutSlashes baseUrl, guide, attempts.toNat, positive, script, false⟩
  else
    .error ⟨attempts⟩

def Agent.shown (agent : Agent) : String :=
  "HttpSource(base_url=" ++ quoted agent.baseUrl ++ ")"

/-- Ends the connection to an agent, after which it is asked no more. -/
def Agent.close (agent : Agent) : Agent :=
  { agent with isClosed := true }

def Agent.urlOf (agent : Agent) (path : String) : String :=
  agent.baseUrl ++ "/files?path=" ++ encodeParameter path

/-! ## Answers -/

/-- The phrases that go with the numbers of answers. -/
def phrases : List (Int × String) :=
  [
    (100, "Continue"), (101, "Switching Protocols"), (102, "Processing"), (103, "Early Hints"),
    (200, "OK"), (201, "Created"), (202, "Accepted"), (203, "Non-Authoritative Information"),
    (204, "No Content"), (205, "Reset Content"), (206, "Partial Content"), (207, "Multi-Status"),
    (208, "Already Reported"), (226, "IM Used"), (300, "Multiple Choices"),
    (301, "Moved Permanently"), (302, "Found"), (303, "See Other"), (304, "Not Modified"),
    (305, "Use Proxy"), (307, "Temporary Redirect"), (308, "Permanent Redirect"),
    (400, "Bad Request"), (401, "Unauthorized"), (402, "Payment Required"), (403, "Forbidden"),
    (404, "Not Found"), (405, "Method Not Allowed"), (406, "Not Acceptable"),
    (407, "Proxy Authentication Required"), (408, "Request Timeout"), (409, "Conflict"),
    (410, "Gone"), (411, "Length Required"), (412, "Precondition Failed"),
    (413, "Request Entity Too Large"), (414, "Request-URI Too Long"),
    (415, "Unsupported Media Type"), (416, "Requested Range Not Satisfiable"),
    (417, "Expectation Failed"), (418, "I'm a teapot"), (421, "Misdirected Request"),
    (422, "Unprocessable Entity"), (423, "Locked"), (424, "Failed Dependency"),
    (425, "Too Early"), (426, "Upgrade Required"), (428, "Precondition Required"),
    (429, "Too Many Requests"), (431, "Request Header Fields Too Large"),
    (451, "Unavailable For Legal Reasons"), (500, "Internal Server Error"),
    (501, "Not Implemented"), (502, "Bad Gateway"), (503, "Service Unavailable"),
    (504, "Gateway Timeout"), (505, "HTTP Version Not Supported"),
    (506, "Variant Also Negotiates"), (507, "Insufficient Storage"), (508, "Loop Detected"),
    (510, "Not Extended"), (511, "Network Authentication Required")]

/-- The phrase of an answer; an unknown number has none. -/
def phraseOf (status : Int) : String :=
  (phrases.lookup status).getD ""

/-- What kind of answer a number stands for, if it is no success. -/
def failureClass (status : Int) : String :=
  match Int.fdiv status 100 with
  | 1 => "Informational response"
  | 3 => "Redirect response"
  | 4 => "Client error"
  | 5 => "Server error"
  | _ => "Invalid status code"

def isSuccess (status : Int) : Bool :=
  200 ≤ status && status ≤ 299

/-- Why an agent delivers nothing. -/
inductive AgentFault where
  | status (status : Int) (url guide : String)
  | broken (kind message : String)
  | closed
deriving DecidableEq, Repr

def AgentFault.message : AgentFault → String
  | .status number url guide =>
      failureClass number ++ " '" ++ toString number ++ " " ++ phraseOf number ++ "' for url '"
        ++ url ++ "'\nFor more information check: " ++ guide ++ toString number
  | .broken _ message => message
  | .closed => "Cannot send a request, as the client has been closed."

/-- Why an answer that is no success delivers nothing. -/
def Agent.refusal (agent : Agent) (path : String) (status : Int) : AgentFault :=
  .status status (agent.urlOf path) agent.guide

/-! ## Reading -/

/-- What reading has come to: the outcome, the number of requests, and the script
that is left. -/
structure Fetched where
  result : Except AgentFault (List UInt8)
  requests : Nat
  script : Script

/-- Makes up to `attempts` requests, until one is answered. -/
def Script.fetch (refusal : Int → AgentFault) : Nat → Script → Fetched
  | 0, script => ⟨.error (.broken "" ""), 0, script⟩
  | attempts + 1, script =>
      match script.step with
      | (.answer status body, rest) =>
          ⟨if isSuccess status then .ok body else .error (refusal status), 1, rest⟩
      | (.broken kind message, rest) =>
          if attempts = 0 then ⟨.error (.broken kind message), 1, rest⟩
          else
            let later := rest.fetch refusal attempts
            { later with requests := later.requests + 1 }

/-- Reads the file at a path, and tells how many requests that took. -/
def Agent.fetch (agent : Agent) (path : String) : Except AgentFault (List UInt8) × Nat × Agent :=
  if agent.isClosed then (.error .closed, 0, agent)
  else
    let fetched := agent.script.fetch (agent.refusal path) agent.attempts
    (fetched.result, fetched.requests, { agent with script := fetched.script })

example : encodeParameter "a b/é" = "a+b%2F%C3%A9" := by decide +kernel

end XmlCollation.Sources
