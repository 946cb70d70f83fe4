import SampleTypes.Config.Basic
import SampleTypes.Number.Double
import SampleTypes.Text.Percent

/-!
# Requests for sample records

* `Query`            what is asked of an index: any records, up to a number;
* `readAddress`      the address of the host to ask: the first custom one that takes searches,
                     or the application's own;
* `Waits.areFinite`  whether the times to wait have a number of seconds at all;
* `Query.request`    the request that is sent for a query.
-/

namespace SampleTypes.Search

/-- what is asked of an index -/
structure Query where
  appId : String
  searchKey : String
  indexName : String
  hosts : Option (List Host) := none
  hits : Int := defaultSampleSize
  timeout : Option Timeout := none

/-- the query for the samples of an output file -/
def Query.ofGenerator (g : Generator) : Query :=
  ⟨g.appId, g.searchKey, g.indexName, g.hosts, g.sampleSize, g.timeout⟩

/-- how long to wait in seconds -/
structure Waits where
  connect : Double
  read : Double
  write : Double
  pool : Double
  deriving DecidableEq, Repr

/-- whether all times have a number of seconds; very long ones have none -/
def Waits.areFinite (w : Waits) : Bool :=
  [w.connect, w.read, w.write, w.pool].all Double.isFinite

structure Request where
  url : String
  headers : List (String × String)
  params : String
  waits : Waits
  deriving DecidableEq, Repr

/-- the headers of a request -/
def headers (appId searchKey : String) : List (String × String) := [
  ("X-Algolia-Application-Id", appId), ("X-Algolia-API-Key", searchKey),
  ("Content-Type", "application/json")]

/-- the address of an application's own host -/
def ownAddress (appId : String) : String := "https://" ++ appId ++ "-dsn.algolia.net"

/-- the address of the host to ask -/
def readAddress (appId : String) (hosts : Option (List Host)) : String :=
  match (hosts.getD []).find? (·.access.reads) with
  | some h => h.address
  | none => ownAddress appId

def seconds (milliseconds : Nat) : Double := .ofRatio false milliseconds 1000

/-- the time to connect, and the time for everything after it -/
def waits (timeout : Option Timeout) : Waits :=
  let t := timeout.getD {}
  ⟨seconds t.connect, seconds t.request, seconds t.request, seconds t.request⟩

def Query.url (q : Query) : String :=
  readAddress q.appId q.hosts ++ "/1/indexes/" ++ Text.percentEncode q.indexName ++ "/query"

/-- the request for a query -/
def Query.request (q : Query) : Request :=
  ⟨q.url, headers q.appId q.searchKey, "query=&hitsPerPage=" ++ toString q.hits, waits q.timeout⟩

end SampleTypes.Search
