import SampleTypes.Json.Display
import SampleTypes.Json.Reader
import SampleTypes.Log
import SampleTypes.Search.Request

/-!
# Records from replies

* `Reply`          what comes back for a request;
* `Fault`          why a reply gives no records;
* `Stop`           a fault, or something that ends the whole run;
* `Client ε`       what requests are made and bodies are read with;
* `Client.hitsOf`  the records of a reply;
* `Client.fetch`   the records for a query, given how requests are answered;
* `fetch`          the same by the means of this project.
-/

namespace SampleTypes.Search

/-- what comes back for a request: a status with a body, no reply at all, or the refusal to send
anything to such an address -/
inductive Reply where
  | response (status : Nat) (body : List Nat)
  | unreachable (reason : String)
  | badAddress

inductive Fault where
  | status (index : String) (code : Nat) (text : String)
  | unreachable (index reason : String)
  | notJson (index : String) (f : Json.BytesFault)
  | notRecord (index kind : String)
  | noHits (index : String)
  deriving DecidableEq, Repr

def Fault.message : Fault → String
  | .status index code text =>
    "Algolia returned HTTP " ++ toString code ++ " for index " ++ index ++ ": " ++ text
  | .unreachable index reason => "Failed to reach Algolia for index " ++ index ++ ": " ++ reason
  | .notJson index f =>
    "Algolia returned a non-JSON response for index " ++ index ++ ": " ++ f.message
  | .notRecord index kind =>
    "Unexpected Algolia response for index " ++ index ++ ": expected an object, got " ++ kind
  | .noHits index => "No hits found in Algolia index: " ++ index

/-- a fault, or what ends the whole run; something of type `ε` that a client ends in is no fault -/
inductive Stop (ε : Type := Empty) where
  | fault (f : Fault)
  /-- the hits are a number or a truth value -/
  | hitsNotListed
  | badAddress
  /-- a time to wait has no number of seconds -/
  | endlessWait
  | escaped (e : ε)
  deriving DecidableEq, Repr

/-- what requests are made and bodies are read with -/
structure Client (ε : Type) where
  /-- the JSON of a body; it may go down too deeply -/
  json : List Nat → Except ε (Except Json.BytesFault Json)
  /-- a query has a text without an encoding, so that no request can be made for it -/
  unsendable : Query → Option ε := fun _ => none

def Client.own : Client Empty where
  json body := .ok (Json.readBytes body)

section
variable {ε : Type}

/-- the records among hits; neither the keys of a record nor the characters of a text are any -/
def recordsAmongHits : Json → Except (Stop ε) (List Record)
  | .arr xs => .ok (xs.filterMap Json.record?)
  | .obj _ => .ok []
  | .str _ => .ok []
  | v => if v.isTruthy then .error .hitsNotListed else .ok []

/-- the records of the value that a body is read as -/
def hitsOfValue (index : String) : Except Json.BytesFault Json → Except (Stop ε) (List Record)
  | .error f => .error (.fault (.notJson index f))
  | .ok (.obj fs) => do
    match ← recordsAmongHits ((fs.lookup "hits").getD .null) with
    | [] => throw (.fault (.noHits index))
    | rs => return rs
  | .ok v => .error (.fault (.notRecord index v.kindName))

/-- whether a status tells of success -/
def isSuccess (status : Nat) : Bool := 200 ≤ status && status ≤ 299

/-- the records of a reply -/
def Client.hitsOf (client : Client ε) (index : String) : Reply → Except (Stop ε) (List Record)
  | .response status body =>
    if isSuccess status then
      match client.json body with
      | .error e => .error (.escaped e)
      | .ok v => hitsOfValue index v
    else .error (.fault (.status index status (Text.lenient body)))
  | .unreachable reason => .error (.fault (.unreachable index reason))
  | .badAddress => .error .badAddress

def fetchingEntry (q : Query) : Entry :=
  { level := .debug, text := "Fetching " ++ toString q.hits ++ " sample hits from " ++ q.url }

/-- how the first record names itself -/
def firstName (rs : List Record) : String :=
  match (rs.headD []).lookup "objectID" with
  | some v => v.display
  | none => "N/A"

def fetchedEntry (rs : List Record) : Entry :=
  { level := .debug,
    text := "Fetched " ++ toString rs.length ++ " hits, first objectID: " ++ firstName rs }

/-- records that were asked for, with the log -/
structure Fetched (ε : Type := Empty) where
  result : Except (Stop ε) (List Record)
  log : Log := []

/-- the records for a query and the reply to it -/
def Client.received (client : Client ε) (q : Query) (reply : Reply) : Fetched ε :=
  match client.hitsOf q.indexName reply with
  | .ok rs => ⟨.ok rs, [fetchingEntry q, fetchedEntry rs]⟩
  | .error s => ⟨.error s, [fetchingEntry q]⟩

/-- the records for a query, where `ask` answers requests; a request that cannot be made, or cannot
say how long to wait, is not sent -/
def Client.fetch {σ : Type} (client : Client ε) (ask : Request → σ → Reply × σ) (q : Query)
    (s : σ) : Fetched ε × σ :=
  match client.unsendable q with
  | some e => (⟨.error (.escaped e), []⟩, s)
  | none =>
    if q.request.waits.areFinite then
      let (reply, s) := ask q.request s
      (client.received q reply, s)
    else (⟨.error .endlessWait, [fetchingEntry q]⟩, s)

end

/-- the records for a query, by the means of this project -/
def fetch {σ : Type} (ask : Request → σ → Reply × σ) (q : Query) (s : σ) : Fetched × σ :=
  Client.own.fetch ask q s

end SampleTypes.Search
