import Clickpath.Decimal.Binary64

/-! # Requests to the web

A program asks for the content of an address and gets an answer, or learns why there is none. What
was asked is remembered.
-/

namespace Clickpath

/-- A request for the content of an address, with the seconds after which it is given up. -/
structure WebRequest where
  url : String
  timeout : Binary64

inductive WebResponse where
  /-- A status and the bytes of the content. -/
  | answer (status : Int) (body : List Nat)
  /-- The server refuses, with a status and words for it. -/
  | refused (status : Int) (words : String)
  /-- No server answers. -/
  | unreachable (reason : String)

def WebResponse.refusal (status : Int) (words : String) : String :=
  "HTTP Error " ++ toString status ++ ": " ++ words

def WebResponse.silence (reason : String) : String := "<urlopen error " ++ reason ++ ">"

/-- What answers requests, and the requests made so far. -/
structure Web where
  respond : WebRequest → WebResponse
  asked : List WebRequest

def Web.fetch (web : Web) (request : WebRequest) : WebResponse × Web :=
  (web.respond request, { web with asked := web.asked ++ [request] })

end Clickpath
