/-
StatusRegistry/Event.lean

What the registry reports of itself.  Nothing is reported when all goes well:
an event is a look-up that found nothing, or a number that has no class.
Every event carries the value at fault.
-/

namespace StatusRegistry

/-- How much an event matters. -/
inductive Level where
  | debug
  | trace
deriving DecidableEq, Repr

/-- The written form of the level. -/
def Level.label : Level → String
  | debug => "DEBUG"
  | trace => "TRACE"

/-- A reported event. -/
inductive Event where
  /-- No code has the name. -/
  | nameMiss (name : String)
  /-- No code has the value. -/
  | valueMiss (value : UInt16)
  /-- The number, saturated to 64 bits, lies outside of all classes. -/
  | outOfRange (code : Int64)
deriving DecidableEq, Repr

namespace Event

/-- The level at which the event is reported. -/
def level : Event → Level
  | nameMiss _ | valueMiss _ => .debug
  | outOfRange _ => .trace

/-- The part of the program that reports the event. -/
def target : Event → String
  | nameMiss _ | valueMiss _ => "http_status::registry"
  | outOfRange _ => "http_status::class"

/-- What happened, in words. -/
def message : Event → String
  | nameMiss _ => "No status code registered under this name"
  | valueMiss _ => "No status code registered with this value"
  | outOfRange _ => "Status code is outside of the 100-599 range"

/-- The values at fault, each under its key. -/
def fields : Event → List (String × String)
  | nameMiss name => [("name", name)]
  | valueMiss value => [("value", toString value.toNat)]
  | outOfRange code => [("code", toString code.toInt)]

end Event

end StatusRegistry
