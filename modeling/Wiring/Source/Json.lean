import Wiring.Json.Fields
import Wiring.Json.Limits
import Wiring.Json.Reader
import Wiring.Json.Writer
import Wiring.Source.Basic
set_option autoImplicit false

namespace Wiring.Source

def toJson : Source → Json
  | .label t => .ofFields [("kind", .ofText "label"), ("label", .ofText t)]
  | .callSite s =>
      .ofFields [("kind", .ofText "call_site"), ("file", .ofText s.file), ("line", .ofWord s.line),
        ("column", .ofWord s.column)]

def toText (s : Source) : String := s.toJson.text

def ofFields? (fs : Json.Fields) : Option Source := do
  match ← (← fs.only? "kind").text? with
  | "label" => pure (.label (← (← fs.only? "label").text?))
  | "call_site" =>
      pure (.callSite ⟨← (← fs.only? "file").text?, ← (← fs.only? "line").word?,
        ← (← fs.only? "column").word?⟩)
  | _ => none

def ofItems? : List Json → Option Source
  | kind :: items => do
      match ← kind.text?, items with
      | "label", [t] => pure (.label (← t.text?))
      | "call_site", [file, line, column] =>
          pure (.callSite ⟨← file.text?, ← line.word?, ← column.word?⟩)
      | _, _ => none
  | [] => none

/-- All of the value is taken in, also the fields that are strangers, when `depth` more containers
may be opened. -/
def ofJson? (depth : Nat) (j : Json) : Option Source :=
  if j.isWithin depth then
    match j with
    | .object ms => do ofFields? (← Json.fields? ms)
    | .array xs => ofItems? xs
    | _ => none
  else none

def ofText? (text : String) : Option Source := do ofJson? Json.maxDepth (← Json.read? text)

end Wiring.Source
