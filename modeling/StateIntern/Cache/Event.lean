import StateIntern.Cache.Property

/-! What a cache tells about its work. -/
namespace StateIntern

inductive Event where
  | normalized (text result : String)
  | stored (id : StateId) (key : String)
  | reused (id : StateId)
  | derived (property : Property) (id : StateId) (value : property.Value)

namespace Event

inductive Level where
  | debug
  | trace
  deriving DecidableEq, Repr

/-- The part of the library that an event comes from. -/
inductive Origin where
  | scheme
  | cache
  deriving DecidableEq, Repr

def level : Event → Level
  | .normalized _ _ => .trace
  | _ => .debug

def origin : Event → Origin
  | .normalized _ _ => .scheme
  | _ => .cache

def message : Event → String
  | .normalized text result =>
    "normalize(" ++ Text.quoted text ++ ") = " ++ Text.quoted result
  | .stored id key => "intern: new state " ++ id.text ++ " = " ++ key
  | .reused id => "intern: reusing state " ++ id.text
  | .derived .text id key => "string_of(" ++ id.text ++ ") = " ++ key
  | .derived .common id vars => "common_vars(" ++ id.text ++ ") = " ++ vars.text
  | .derived .divergent id vars => "non_equiv_vars(" ++ id.text ++ ") = " ++ vars.text

end Event

end StateIntern
