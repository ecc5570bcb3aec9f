import Clickpath.Script.Emitter
import Clickpath.Script.Identifier
import Clickpath.Selector.XPath

/-! # Java scripts

A script for Selenium in Java is a class with a main method. Letter codes are understood everywhere
in its text, so literals are limited to ASCII.
-/

namespace Clickpath.Script.Java

def finder : Option SelectorKind → String
  | some .id => "By.id"
  | some .name => "By.name"
  | some .linkText => "By.linkText"
  | some .partialLinkText => "By.partialLinkText"
  | some .xpath | some .text => "By.xpath"
  | some .css | none => "By.cssSelector"

def finderText (s : Selector) : String :=
  if s.kind = some .text then XPath.withText s.raw else s.raw

def locator (s : Selector) : Statement :=
  [.code (finder s.kind), .code "(", .literal (finderText s), .code ")"]

def element (s : Selector) : Statement :=
  .code "driver.findElement(" :: locator s ++ [.code ")"]

def missingMessage (target : Selector) (expected : String) : String :=
  "Expected text \"" ++ expected ++ "\" not found in selector \"" ++ target.raw ++ "\""

def statements : Action → List Statement
  | .navigate url => [[.code "driver.get(", .literal url, .code ");"]]
  | .click target => [element target ++ [.code ".click();"]]
  | .typeText target text =>
    [element target ++ [.code ".sendKeys(", .literal text, .code ");"]]
  | .assertText target expected =>
    [.code "if (!" :: element target ++
        [.code ".getText().contains(", .literal expected, .code ")) \x7b"],
     [.code "    throw new AssertionError(", .literal (missingMessage target expected),
      .code ");"],
     [.code "\x7d"]]
  | .screenshot _ => [[.code "// Add screenshot logic here"]]

def preamble (test : Test) : List String :=
  ["import org.openqa.selenium.By;",
   "import org.openqa.selenium.WebDriver;",
   "import org.openqa.selenium.chrome.ChromeDriver;",
   "",
   "public class " ++ className test.name ++ " \x7b",
   "    public static void main(String[] args) \x7b",
   "        WebDriver driver = new ChromeDriver();",
   "        try \x7b"]

def postamble : List String :=
  ["        \x7d finally \x7b",
   "            driver.quit();",
   "        \x7d",
   "    \x7d",
   "\x7d"]

def selenium : Emitter where
  name := "selenium/java"
  commentMark := "//"
  indent := "            "
  asciiLiterals := true
  emptyBody := none
  preamble := preamble
  postamble := fun _ => postamble
  locator := locator
  statements := statements

end Clickpath.Script.Java
