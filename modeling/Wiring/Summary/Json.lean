import Wiring.Source.Json
import Wiring.Summary.Basic
set_option autoImplicit false

namespace Wiring.Summary

def detailField (name : String) : Option String → Json.Fields
  | none => []
  | some d => [(name, .ofText d)]

def toJson (s : Summary) : Json :=
  .ofFields <|
    [("source", s.source.toJson), ("key", .ofText s.key), ("target", .ofText s.target.name)] ++
    detailField "target_detail" s.targetDetail ++
    [("scoping", .ofText s.scoping.name)] ++
    detailField "scoping_detail" s.scopingDetail

def toText (s : Summary) : String := s.toJson.text

/-- A kind is written as its name, or as an object that has the name alone, for null. -/
def kindName? : Json → Option String
  | .object [(name, .null)] => JsonSymbol.decode? name
  | j => j.text?

def targetKind? (j : Json) : Option TargetKind := do TargetKind.ofName? (← kindName? j)

def scopingKind? (j : Json) : Option ScopingKind := do ScopingKind.ofName? (← kindName? j)

/-- The summary's own container is open when its source is read. -/
def source? (j : Json) : Option Source := Source.ofJson? (Json.maxDepth - 1) j

def ofFields? (fs : Json.Fields) : Option Summary := do
  pure
    { source := ← source? (← fs.only? "source")
      key := ← (← fs.only? "key").text?
      target := ← targetKind? (← fs.only? "target")
      targetDetail := ← fs.optionalText? "target_detail"
      scoping := ← scopingKind? (← fs.only? "scoping")
      scopingDetail := ← fs.optionalText? "scoping_detail" }

def ofItems? : List Json → Option Summary
  | [source, key, target, targetDetail, scoping] => do
      pure ⟨← source? source, ← key.text?, ← targetKind? target, ← targetDetail.optionalText?,
        ← scopingKind? scoping, none⟩
  | [source, key, target, targetDetail, scoping, scopingDetail] => do
      pure ⟨← source? source, ← key.text?, ← targetKind? target, ← targetDetail.optionalText?,
        ← scopingKind? scoping, ← scopingDetail.optionalText?⟩
  | _ => none

def ofJson? : Json → Option Summary
  | .object ms => do ofFields? (← Json.fields? ms)
  | .array xs => ofItems? xs
  | _ => none

def ofText? (text : String) : Option Summary := do ofJson? (← Json.read? text)

end Wiring.Summary
