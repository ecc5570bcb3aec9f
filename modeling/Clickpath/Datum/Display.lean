import Clickpath.Datum
import Clickpath.Decimal.Reader

/-! # Showing data

Messages show a datum in one line. A text is shown as it is when it is the whole message part, and
in quotation marks inside a list or map.
-/

namespace Clickpath

namespace Datum

/-- Bytes in quotation marks, those that are no visible ASCII characters by their codes. -/
def quoteBytes (bytes : List Nat) : String :=
  let mark := if bytes.contains 0x27 && !bytes.contains 0x22 then '\x22' else '\''
  let one (byte : Nat) : List Char :=
    let c := Char.ofNat byte
    if byte < 0x80 then Text.quoteChar mark c else '\\' :: 'x' :: Chars.hexDigits 2 byte
  String.ofList ('b' :: mark :: bytes.flatMap one ++ [mark])

/-- A span of minutes, as whole days and the seconds left over. -/
def showSpan (minutes : Int) : String :=
  let days := minutes / 1440
  let seconds := minutes % 1440 * 60
  let parts := (if days == 0 then [] else ["days=" ++ toString days])
    ++ (if seconds == 0 then [] else ["seconds=" ++ toString seconds])
  "datetime.timedelta(" ++ ", ".intercalate parts ++ ")"

def showOffset (minutes : Int) : String :=
  if minutes == 0 then "datetime.timezone.utc" else "datetime.timezone(" ++ showSpan minutes ++ ")"

def showMoment (m : Moment) : String :=
  let clock :=
    if m.micro != 0 then [m.hour, m.minute, m.second, m.micro]
    else if m.second != 0 then [m.hour, m.minute, m.second]
    else [m.hour, m.minute]
  let parts := ([m.year, m.month, m.day] ++ clock).map toString
    ++ (match m.offset with
      | none => []
      | some minutes => ["tzinfo=" ++ showOffset minutes])
  "datetime.datetime(" ++ ", ".intercalate parts ++ ")"

mutual

/-- A datum as the inside of a list or map shows it. -/
def quoted : Datum → String
  | null => "None"
  | bool b => if b then "True" else "False"
  | int i => toString i
  | float x => String.ofList x.write
  | text s => Text.quoted s
  | torn t => t.val.quoted
  | binary bytes => quoteBytes bytes
  | date y m d => "datetime.date(" ++ ", ".intercalate ([y, m, d].map toString) ++ ")"
  | moment m => showMoment m
  | list items => "[" ++ ", ".intercalate (quotedItems items) ++ "]"
  | set items =>
    if items.isEmpty then "set()" else "\x7b" ++ ", ".intercalate (quotedItems items) ++ "\x7d"
  | map entries => "\x7b" ++ ", ".intercalate (quotedEntries entries) ++ "\x7d"

def quotedItems : List Datum → List String
  | [] => []
  | item :: rest => quoted item :: quotedItems rest

def quotedEntries : List (Datum × Datum) → List String
  | [] => []
  | (key, value) :: rest => (quoted key ++ ": " ++ quoted value) :: quotedEntries rest

end

/-- A datum as a message shows it. -/
def display : Datum → String
  | text s => s
  | torn t => t.val.shown
  | date y m d => String.ofList (Binary64.padded 4 y ++ '-' :: Moment.two m ++ '-' :: Moment.two d)
  | moment m => String.ofList (m.writeDate ++ ' ' :: m.writeTime
      ++ (m.offset.map Moment.writeOffset).getD [])
  | d => quoted d

/-- What a datum shows as a text. Halves of pairs are kept. -/
def displayed : Datum → Loose
  | torn t => t.val
  | d => .ofString d.display

mutual

/-- No whole number in the datum has too many digits to be written out. -/
def isShowable : Datum → Bool
  | int i => (Nat.toDigits 10 i.natAbs).length ≤ Decimal.digitLimit
  | list items | set items => areShowable items
  | map entries => entriesAreShowable entries
  | _ => true

def areShowable : List Datum → Bool
  | [] => true
  | item :: rest => isShowable item && areShowable rest

def entriesAreShowable : List (Datum × Datum) → Bool
  | [] => true
  | (key, value) :: rest => isShowable key && isShowable value && entriesAreShowable rest

end

end Datum

end Clickpath
