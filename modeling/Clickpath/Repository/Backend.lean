import Clickpath.Json.Reader
import Clickpath.Repository
import Clickpath.Web

/-! # Tests of a designer backend

A backend lists tests as data under one address. They are fetched anew for every question, and
nothing can be saved. Entries that no test can be made of are passed over.
-/

namespace Clickpath.Repository

/-- A backend at an address without slashes at its end, and the seconds to wait for it. -/
structure Backend where
  url : String
  timeout : Binary64

namespace Backend

def defaultTimeout : Binary64 := .ofFloat 10

def ofUrl (url : String) (timeout : Binary64) : Backend :=
  ⟨String.ofList (url.toList.reverse.dropWhile (· == '/')).reverse, timeout⟩

def listUrl (b : Backend) : String := b.url ++ "/api/tests"

def dataOf (text : List Char) : Except Fault Datum :=
  (Json.read (glyphsOf text)).mapError fun fault =>
    if fault.complaint = .tooDeep then .tooDeep else .noAnswer fault.message

def dataIn (b : Backend) : WebResponse → Except Fault Datum
  | .refused status words => .error (.noAnswer (WebResponse.refusal status words))
  | .unreachable reason => .error (.noAnswer (WebResponse.silence reason))
  | .answer status body =>
    if status != 200 then .error (.badStatus status b.listUrl)
    else match Utf8.decode body with
      | .error fault => .error (.noAnswer fault.message)
      | .ok text => dataOf text

def entriesIn (b : Backend) (response : WebResponse) : Except Fault (List Datum) := do
  match ← b.dataIn response with
  | .list items => .ok items
  | _ => .error (.notAList b.listUrl)

def entryName (fields : List (Datum × Datum)) : Datum :=
  (Datum.lookup? fields "id").getD (.text "?")

variable {τ : Type} [Textual τ] [DecidableEq τ]

/-- The tests of entries, one after the other, after those of the reply so far. -/
def readEntries (tests : List (Test τ)) (skipped : List Datum) :
    List Datum → Supply → Reply (List (Test τ))
  | [], supply => ⟨.ok tests, skipped, supply⟩
  | .map fields :: rest, supply =>
    match Designer.readTest fields supply with
    | (.ok (test : Test τ), supply) => readEntries (tests ++ [test]) skipped rest supply
    | (.error cause, supply) =>
      if (Fault.record cause).isOfOneTest then
        readEntries tests (skipped ++ [entryName fields]) rest supply
      else ⟨.error (.record cause), skipped, supply⟩
  | item :: rest, supply => readEntries tests (skipped ++ [item]) rest supply

def list (b : Backend) (web : Web) (supply : Supply) : Reply (List (Test τ)) × Web :=
  let (response, web) := web.fetch ⟨b.listUrl, b.timeout⟩
  match b.entriesIn response with
  | .error fault => (⟨.error fault, [], supply⟩, web)
  | .ok entries => ((readEntries [] [] entries supply).andThen inOrder, web)

/-- The newest test with an identifier. -/
def get (b : Backend) (web : Web) (id : τ) (supply : Supply) : Reply (Test τ) × Web :=
  let (reply, web) := b.list web supply
  (reply.andThen fun tests => testWithId tests id, web)

def save (b : Backend) (_ : Test τ) : Fault := .readOnly b.url

/-- Steps are never replaced; a test that is not there and steps that are not sound are reported
first. -/
def replaceSteps (b : Backend) (web : Web) (id : τ) (steps : Datum) (supply : Supply) :
    Reply (Test τ) × Web :=
  let (reply, web) := b.get web id supply
  (reply.andThen fun test => do
    let updated ← withSteps test steps
    .error (b.save updated), web)

end Backend

end Clickpath.Repository
