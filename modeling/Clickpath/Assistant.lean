import Clickpath.Json.Reader
import Clickpath.Record.Designer

/-! # Tests by a language model

A language model is asked to turn a description into a test, and its reply is read as a stored
record. Models sometimes put a fence of three grave accents around their reply, which is taken off.
The script target is not left to the model. A reply reaches the program in a format that can hold
halves of pairs, so it is a loose text.
-/

namespace Clickpath

/-- A question to a language model: general instructions and a description. -/
structure ChatRequest where
  model : String
  instructions : String
  description : String

/-- What answers questions, possibly with nothing, and the questions asked so far. -/
structure Chat where
  reply : ChatRequest → Option Loose
  asked : List ChatRequest

def Chat.ask (chat : Chat) (request : ChatRequest) : Option Loose × Chat :=
  (chat.reply request, { chat with asked := chat.asked ++ [request] })

namespace Assistant

/-- Why a reply makes no test. -/
inductive Fault where
  | noReply
  | notJson (cause : Json.Fault)
  | notFields
  | record (cause : Record.Fault)

def instructionLines : List String :=
  ["You are an expert AQE (Automated Quality Engineer). Your goal is to convert natural " ++
      "language test intent into a structured JSON Test.",
   "",
   "Reply with a single JSON object of this shape:",
   "\x7b",
   "  \"name\": \"Short name for the test\",",
   "  \"steps\": [",
   "    \x7b",
   "      \"kind\": \"navigate\" | \"click\" | \"type_text\" | \"assert_text\" | \"screenshot\",",
   "      \"name\": \"Short human readable label for the step\",",
   "      \"selector\": \x7b\"kind\": \"id\" | \"name\" | \"linkText\" | \"partialLinkText\" | " ++
      "\"css\" | \"xpath\" | \"text\", \"raw\": \"selector value\"\x7d,",
   "      \"value\": \"Value for the step\"",
   "    \x7d",
   "  ]",
   "\x7d",
   "",
   "Guidelines:",
   "1. Reply with the JSON object only, no markdown fences and no commentary.",
   "2. Supported step kinds:",
   "   - 'navigate': Load a URL. value = URL. No selector.",
   "   - 'click': Click an element. selector required. No value.",
   "   - 'type_text': Type text into an element. selector required, value = text.",
   "   - 'assert_text': Check an element's text. selector required, value = expected substring.",
   "   - 'screenshot': Capture the page. value = file name (optional). No selector.",
   "3. Prefer 'id' selectors, then 'name', then 'css'. Use 'text' only for visible labels.",
   "4. Omit \"selector\" and \"value\" keys a step kind does not take."]

def instructions : String := "\n" ++ "\n".intercalate instructionLines ++ "\n"

def temperature : Binary64 := .ofFloat 0

def fence : List Glyph := glyphsOf ['\x60', '\x60', '\x60']

/-- The text without the opening fence, the word for the format and the blanks behind it. -/
def withoutOpening (s : List Glyph) : List Glyph :=
  match Chars.after? fence s with
  | none => s
  | some rest =>
    Chars.stripStart Glyph.isBlank ((Chars.after? (glyphsOf "json".toList) rest).getD rest)

/-- The text without the closing fence and the blanks before it. -/
def withoutClosing (s : List Glyph) : List Glyph :=
  match Chars.after? fence s.reverse with
  | none => s
  | some rest => Chars.stripEnd Glyph.isBlank rest.reverse

def unfenced (reply : Loose) : List Glyph := withoutClosing (withoutOpening reply.trim.glyphs)

def fieldsIn (reply : Option Loose) : Except Fault (List (Datum × Datum)) := do
  match reply with
  | none => .error .noReply
  | some text =>
    match ← (Json.read (unfenced text)).mapError .notJson with
    | .map entries => .ok entries
    | _ => .error .notFields

def withTarget (tool platform : Datum) (entries : List (Datum × Datum)) : List (Datum × Datum) :=
  Datum.insert (Datum.insert entries (.text "automation_tool") tool) (.text "target_platform")
    platform

variable {τ : Type} [Textual τ]

def readReply (reply : Option Loose) (tool platform : Datum) (supply : Supply) :
    Except Fault (Test τ) × Supply :=
  match fieldsIn reply with
  | .error fault => (.error fault, supply)
  | .ok entries =>
    let (test, supply) := Designer.readTest (withTarget tool platform entries) supply
    (test.mapError .record, supply)

/-- Asks a model for the test that a description means. -/
def parse (chat : Chat) (model description : String) (tool platform : Datum) (supply : Supply) :
    Except Fault (Test τ) × Supply × Chat :=
  let (reply, chat) := chat.ask ⟨model, instructions, description⟩
  let (test, supply) := readReply reply tool platform supply
  (test, supply, chat)

end Assistant

end Clickpath
