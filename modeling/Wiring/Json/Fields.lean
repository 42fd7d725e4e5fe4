import Wiring.Json.Basic
set_option autoImplicit false

namespace Wiring.Json

abbrev Fields := List (String × Json)

def fields? (members : List (List JsonSymbol × Json)) : Option Fields :=
  members.mapM fun m => (JsonSymbol.decode? m.1).map (·, m.2)

def optionalText? : Json → Option (Option String)
  | .null => some none
  | j => j.text?.map some

namespace Fields

def named (fs : Fields) (name : String) : List Json :=
  (fs.filter (·.1 == name)).map (·.2)

/-- The value of a name that stands there exactly once. -/
def only? (fs : Fields) (name : String) : Option Json :=
  match fs.named name with
  | [x] => some x
  | _ => none

def optionalText? (fs : Fields) (name : String) : Option (Option String) :=
  match fs.named name with
  | [] => some none
  | [x] => x.optionalText?
  | _ => none

theorem named_perm {fs gs : Fields} (h : fs.Perm gs) (name : String) :
    (fs.named name).Perm (gs.named name) :=
  (h.filter _).map _

end Fields
end Wiring.Json
