import Inventory.Text.Space
import Inventory.Time.Duration
/-!
# Summaries

Human-readable summaries of a collection and of an upload, each drawn as a box 60
characters wide: a top border, the title, a rule, one line per line of content, and a bottom
border. Every line inside is padded with spaces to 56 characters; a longer line is cut to 53
characters followed by `...`.

The texts are bytes and need not be UTF-8: a probe command or a reply may hold any bytes.
Widths count characters as UTF-8 reads them, each byte that starts no well-formed sequence
counting as one (`Utf8.runeCount`). A line that is cut is written back from the characters
read, so a stray byte before the cut comes out as `U+FFFD`.

The collection summary names the probe, its run time rounded to the millisecond, whether the
manifest was included, the size of the document, and its first five top-level keys (with a
count of the rest). The upload summary names the endpoint, the status and the reply, trimmed
and cut to 40 characters.
-/

set_option autoImplicit false

namespace Inventory.Summary

/-- The width of a box. -/
def boxWidth : Nat := 60

/-- How many keys a summary lists. -/
def maxKeys : Nat := 5

/-- **Cutting a text** to at most `width` characters, ending in `...` when cut. -/
def truncate (s : Bytes) (width : Nat) : Bytes :=
  if Utf8.runeCount s ≤ width then s
  else Utf8.encode ((Utf8.chars s).take (width - 3)) ++ Utf8.ofString "..."

/-- Pad with spaces on the right to `width` characters. -/
def padRight (s : Bytes) (width : Nat) : Bytes :=
  s ++ List.replicate (width - Utf8.runeCount s) 0x20

/-- The horizontal edge of a box, between its corners. -/
def border : Bytes := Utf8.encode (List.replicate (boxWidth - 2) '─')

/-- One line of a box. -/
def boxLine (s : Bytes) : Bytes := Utf8.ofString "│ " ++ padRight s (boxWidth - 4) ++ Utf8.ofString " │\n"

/-- **A box** with a title and the lines of its content. -/
def box (title content : Bytes) : Bytes :=
  Utf8.ofString "┌" ++ border ++ Utf8.ofString "┐\n" ++ boxLine title ++
    Utf8.ofString "├" ++ border ++ Utf8.ofString "┤\n" ++
    ((content.splitOn 0x0A).map fun l => boxLine (truncate l (boxWidth - 4))).flatten ++
    Utf8.ofString "└" ++ border ++ Utf8.ofString "┘\n"

/-- Drop one trailing line end. -/
def dropFinalNewline (s : Bytes) : Bytes :=
  if s.getLast? = some 0x0A then s.dropLast else s

/-- The lines naming the keys: how many there are, the first `maxKeys` of them, and how many
more there are. -/
def keySection (keys : List String) : Bytes :=
  if keys.isEmpty then []
  else
    Utf8.ofString ("\nTop-level keys (" ++ toString keys.length ++ "):\n") ++
      ((keys.take maxKeys).map fun k => Utf8.ofString ("  • " ++ k ++ "\n")).flatten ++
      (if keys.length > maxKeys then
        Utf8.ofString ("  ... and " ++ toString (keys.length - maxKeys) ++ " more\n")
      else [])

/-- **The text of a collection's summary**; `duration` is the probe's run time when known. -/
def reportText (command : Bytes) (duration : Option Duration) (manifestIncluded : Bool)
    (size : Nat) (keys : List String) : Bytes :=
  Utf8.ofString "Probe:     " ++ command ++ Utf8.ofString "\n" ++
    (match duration with
      | some d => Utf8.ofString ("Duration:  " ++ (d.round 1000000).text ++ "\n")
      | none => []) ++
    Utf8.ofString (if manifestIncluded then "Manifest:  included\n" else "Manifest:  absent\n") ++
    Utf8.ofString ("Size:      " ++ toString size ++ " bytes\n") ++
    keySection keys

/-- **The summary of a collection.** -/
def report (command : Bytes) (duration : Option Duration) (manifestIncluded : Bool)
    (size : Nat) (keys : List String) : Bytes :=
  box (Utf8.ofString "SYSTEM INFO") (dropFinalNewline (reportText command duration manifestIncluded size keys))

/-- **The text of an upload's summary**: the endpoint, the status, and the reply trimmed and cut,
when it is not blank. -/
def uploadText (target : Bytes) (status : Int) (body : Bytes) : Bytes :=
  let reply := Text.trimBytes body
  Utf8.ofString "URL:     " ++ target ++ Utf8.ofString "\n" ++
    Utf8.ofString ("Status:  " ++ toString status ++ "\n") ++
    (if reply.isEmpty then [] else Utf8.ofString "Reply:   " ++ truncate reply 40 ++ Utf8.ofString "\n")

/-- **The summary of an upload.** -/
def upload (target : Bytes) (status : Int) (body : Bytes) : Bytes :=
  box (Utf8.ofString "UPLOAD") (dropFinalNewline (uploadText target status body))

end Inventory.Summary
