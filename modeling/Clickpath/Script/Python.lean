import Clickpath.Script.Emitter
import Clickpath.Script.Identifier
import Clickpath.Selector.XPath

/-! # Python scripts

A script in Python is a test function, for Selenium or for Playwright. A pair of letter codes would
stand for two characters there, so literals hold characters beyond ASCII as they are.
-/

namespace Clickpath.Script.Python

def opening (test : Test) : List String :=
  ["# Test Case: " ++ Text.collapseBlanks test.name,
   "def " ++ functionName test.name ++ "():"]

/-- The expression for a capture's name that is made when the script runs. -/
def generatedFile : String := "f\"screenshot-\x7bint(time.time() * 1000)\x7d.png\""

def fileName : Option String → Piece
  | some file => .literal file
  | none => .code generatedFile

namespace Selenium

def finder : Option SelectorKind → String
  | some .id => "By.ID"
  | some .name => "By.NAME"
  | some .linkText => "By.LINK_TEXT"
  | some .partialLinkText => "By.PARTIAL_LINK_TEXT"
  | some .xpath | some .text => "By.XPATH"
  | some .css | none => "By.CSS_SELECTOR"

def locator (s : Selector) : Statement :=
  [.code (finder s.kind), .code ", ",
   .literal (if s.kind = some .text then XPath.withText s.raw else s.raw)]

def element (s : Selector) : Statement :=
  .code "driver.find_element(" :: locator s ++ [.code ")"]

def statement : Action → Statement
  | .navigate url => [.code "driver.get(", .literal url, .code ")"]
  | .click target => element target ++ [.code ".click()"]
  | .typeText target text => element target ++ [.code ".send_keys(", .literal text, .code ")"]
  | .assertText target expected =>
    [.code "assert ", .literal expected, .code " in "] ++ element target ++ [.code ".text"]
  | .screenshot file =>
    [.code "driver.save_screenshot(", fileName (file.bind Text.nonempty?), .code ")"]

def preamble (test : Test) : List String :=
  ["import time",
   "",
   "from selenium import webdriver",
   "from selenium.webdriver.common.by import By",
   "",
   ""] ++ opening test ++
  ["    driver = webdriver.Chrome()",
   "    try:"]

end Selenium

namespace Playwright

def locator (s : Selector) : Statement :=
  [.code "page.locator(", .literal s.native, .code ")"]

def statement : Action → Statement
  | .navigate url => [.code "page.goto(", .literal url, .code ")"]
  | .click target => locator target ++ [.code ".click()"]
  | .typeText target text =>
    locator target ++ [.code ".press_sequentially(", .literal text, .code ")"]
  | .assertText target expected =>
    .code "expect(" :: locator target ++
      [.code ").to_contain_text(", .literal expected, .code ")"]
  | .screenshot file =>
    [.code "page.screenshot(path=", fileName (file.bind Text.nonempty?), .code ")"]

def preamble (test : Test) : List String :=
  ["import time",
   "",
   "from playwright.sync_api import expect, sync_playwright",
   "",
   ""] ++ opening test ++
  ["    with sync_playwright() as p:",
   "        browser = p.chromium.launch(headless=False)",
   "        page = browser.new_page()"]

end Playwright

def selenium : Emitter where
  name := "selenium/python"
  commentMark := "#"
  indent := "        "
  asciiLiterals := false
  emptyBody := some "pass"
  preamble := Selenium.preamble
  postamble := fun _ => ["    finally:", "        driver.quit()"]
  locator := Selenium.locator
  statements := fun action => [Selenium.statement action]

def playwright : Emitter where
  name := "playwright/python"
  commentMark := "#"
  indent := "        "
  asciiLiterals := false
  emptyBody := some "pass"
  preamble := Playwright.preamble
  postamble := fun _ => ["        browser.close()"]
  locator := Playwright.locator
  statements := fun action => [Playwright.statement action]

end Clickpath.Script.Python
