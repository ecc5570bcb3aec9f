import Clickpath.Script.Emitter
import Clickpath.Script.Identifier

/-! # JavaScript scripts

A script for Playwright in JavaScript is an asynchronous function and a call of it.
-/

namespace Clickpath.Script.JavaScript

def locator (s : Selector) : Statement :=
  [.code "page.locator(", .literal s.native, .code ")"]

def missingMessage (target : Selector) (expected : String) : String :=
  "Assertion failed! Expected text \"" ++ expected ++ "\" not found in selector \""
    ++ target.raw ++ "\"."

/-- The statement for a capture, in a file or under a name that is made when the script runs. -/
def capture : Option String → Statement
  | some file => [.code "await page.screenshot(\x7b path: ", .literal file, .code " \x7d);"]
  | none => [.code "await page.screenshot(\x7b path: `screenshot-$\x7bDate.now()\x7d.png` \x7d);"]

def statements : Action → List Statement
  | .navigate url => [[.code "await page.goto(", .literal url, .code ");"]]
  | .click target => [.code "await " :: locator target ++ [.code ".click();"]]
  | .typeText target text =>
    [.code "await " :: locator target ++ [.code ".pressSequentially(", .literal text, .code ");"]]
  | .assertText target expected =>
    [.code "if (!(await " :: locator target ++
        [.code ".innerText()).includes(", .literal expected, .code ")) \x7b"],
     [.code "    throw new Error(", .literal (missingMessage target expected), .code ");"],
     [.code "\x7d"]]
  | .screenshot file => [capture (file.bind Text.nonempty?)]

def preamble (test : Test) : List String :=
  ["const \x7b chromium \x7d = require('playwright');",
   "",
   "async function " ++ className test.name ++ "() \x7b",
   "    const browser = await chromium.launch(\x7b headless: false \x7d);",
   "    const context = await browser.newContext();",
   "    const page = await context.newPage();",
   "    try \x7b"]

def postamble (test : Test) : List String :=
  ["    \x7d finally \x7b",
   "        await browser.close();",
   "    \x7d",
   "\x7d",
   "",
   className test.name ++ "();"]

def playwright : Emitter where
  name := "playwright/javascript"
  commentMark := "//"
  indent := "        "
  asciiLiterals := true
  emptyBody := none
  preamble := preamble
  postamble := postamble
  locator := locator
  statements := statements

end Clickpath.Script.JavaScript
