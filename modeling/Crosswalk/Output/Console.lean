import Crosswalk.Output.Summary
import Crosswalk.Text.Blank

/-!
# Printing for people and for programs

Everything a command prints is one of a few kinds of items.  Messages, headings and tables are for
people and do not appear in the other formats; a quiet console drops those that only tell of
progress.  Data appear in every format.
-/

set_option autoImplicit false

namespace Crosswalk

/-! ## Colours -/

/-- Codes of the terminal for the look of a text. -/
inductive Paint where
  | blue
  | green
  | yellow
  | red
  | brightBlue
  | dimmed
  | bold
  | boldRed
  deriving DecidableEq, Repr

namespace Paint

def code : Paint → String
  | .blue => "34"
  | .green => "32"
  | .yellow => "33"
  | .red => "31"
  | .brightBlue => "94"
  | .dimmed => "2"
  | .bold => "1"
  | .boldRed => "1;31"

def start (paint : Paint) : List Char :=
  '\x1b' :: '[' :: paint.code.toList ++ ['m']

/-- The code that ends every look. -/
def stop : List Char :=
  ['\x1b', '[', '0', 'm']

/-- Start the look again wherever the text itself ends one. -/
def resume (paint : Paint) : List Char → List Char
  | '\x1b' :: '[' :: '0' :: 'm' :: rest => stop ++ paint.start ++ resume paint rest
  | c :: rest => c :: resume paint rest
  | [] => []

def apply (paint : Paint) (s : String) : String :=
  String.ofList (paint.start ++ resume paint s.toList ++ stop)

end Paint

/-! ## Tables -/

namespace TextTable

/-- A text followed by blanks up to a width in characters. -/
def padded (width : Nat) (s : String) : String :=
  s ++ String.ofList (List.replicate (width - s.length) ' ')

/-- The greatest size in bytes of the texts in a column, so that no text is wider. -/
def columnWidth (column : Nat) (headers : List String) (rows : List (List String)) : Nat :=
  ((headers :: rows).map fun row => ((row[column]?).map String.utf8ByteSize).getD 0).foldl max 0

def widths (headers : List String) (rows : List (List String)) : List Nat :=
  (List.range headers.length).map fun column => columnWidth column headers rows

/-- The cells of a row up to their widths; cells beyond the last column stand as they are. -/
def cells : List Nat → List String → List String
  | width :: widths, cell :: rest => padded width cell :: cells widths rest
  | [], rest => rest
  | _ :: _, [] => []

def rowText (widths : List Nat) (row : List String) : String :=
  " │ ".intercalate (cells widths row)

def ruleText (widths : List Nat) : String :=
  "─┼─".intercalate (widths.map fun width => String.ofList (List.replicate width '─'))

end TextTable

/-! ## Items -/

/-- What can be printed. -/
inductive Printed where
  | info (message : String)
  | success (message : String)
  | warning (message : String)
  | error (message : String)
  | heading (title : String)
  /-- Text as it is. -/
  | raw (text : String)
  /-- Text as it is, on a line of its own. -/
  | line (text : String)
  | data (value : Json)
  | record (index : Nat) (value : Json)
  | failure (index : Nat) (message : String)
  | catalogSummary (summary : CatalogSummary)
  | batchSummary (summary : BatchSummary)
  | table (headers : List String) (rows : List (List String))

/-- How things are printed. -/
structure Console where
  format : OutputFormat
  color : Bool
  quiet : Bool
  deriving DecidableEq, Repr

namespace Console

def onLine (s : String) : String :=
  s ++ "\n"

/-- A text, in colour or with a word before it. -/
def marked (console : Console) (paint : Paint) (word message : String) : String :=
  onLine (if console.color then paint.apply message else word ++ message)

/-- Messages of progress are printed. -/
def chatty (console : Console) : Bool :=
  !console.quiet && console.format == .human

def dataText (console : Console) (value : Json) : String :=
  let text := console.format.write value
  if text.toList.getLast? = some '\n' then text else onLine text

def summaryText (text : String) : String :=
  onLine (String.ofList (Text.trimEnd text.toList))

def tableText (console : Console) (headers : List String) (rows : List (List String)) :
    String :=
  let widths := TextTable.widths headers rows
  let header := TextTable.rowText widths headers
  onLine (if console.color then Paint.bold.apply header else header)
    ++ onLine (TextTable.ruleText widths)
    ++ String.join (rows.map fun row => onLine (TextTable.rowText widths row))

/-- The text that an item comes out as. -/
def text (console : Console) : Printed → String
  | .info message =>
    if !console.chatty then ""
    else onLine ((if console.color then Paint.blue.apply "ℹ" ++ " " else "INFO: ") ++ message)
  | .success message =>
    if console.chatty then console.marked .green "" message else ""
  | .warning message =>
    if console.format = .human then console.marked .yellow "WARNING: " message else ""
  | .error message =>
    if console.format = .human then console.marked .red "ERROR: " message else ""
  | .heading title =>
    if !console.chatty then ""
    else
      onLine "" ++ onLine
        (if console.color then Paint.brightBlue.apply ("═══ " ++ title ++ " ═══")
        else "=== " ++ title ++ " ===")
  | .raw text => text
  | .line text => onLine text
  | .data value => console.dataText value
  | .record index value =>
    if console.format = .human then
      let label := "[" ++ toString index ++ "]"
      onLine ((if console.color then Paint.dimmed.apply label else label) ++ " " ++ value.compact)
    else
      console.dataText value
  | .failure index message =>
    if console.format = .human then
      console.marked .red "ERROR: " ("record " ++ toString index ++ ": " ++ message)
    else ""
  | .catalogSummary summary => summaryText (summary.text console.format)
  | .batchSummary summary => summaryText (summary.text console.format)
  | .table headers rows => if console.chatty then console.tableText headers rows else ""

end Console

end Crosswalk
