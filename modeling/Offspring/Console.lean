/-!
# Console buffers

A console buffer gathers output in memory. Handles to one buffer form a family: a clone shares the
octets of what it was cloned from. `Sinks` holds the octets of every family; a `Sink` says which family a
handle belongs to. `Bindings` gives handles names, which can be bound anew; the octets of a family do not
depend on which names are left.
-/

namespace Offspring

/-- Which family of handles one belongs to. -/
structure Sink where
  index : Nat
  deriving DecidableEq, Inhabited

/-- The octets of every family, by its index. -/
structure Sinks where
  contents : Array ByteArray := #[]

namespace Sinks

/-- A new family, with no octets. -/
def fresh (s : Sinks) : Sink × Sinks :=
  (⟨s.contents.size⟩, ⟨s.contents.push .empty⟩)

/-- The octets that every handle of a family sees. -/
def get (s : Sinks) (sink : Sink) : ByteArray :=
  s.contents.getD sink.index .empty

/-- Adds octets at the end of a family's. -/
def append (s : Sinks) (sink : Sink) (bytes : ByteArray) : Sinks :=
  ⟨s.contents.modify sink.index (· ++ bytes)⟩

/-- Removes the octets of a family. -/
def clear (s : Sinks) (sink : Sink) : Sinks :=
  ⟨s.contents.modify sink.index fun _ => .empty⟩

end Sinks

/-- Named handles to console buffers; a name is bound at most once. -/
structure Bindings where
  sinks : Sinks := {}
  names : List (String × Sink) := []

namespace Bindings

/-- The handle with a name. -/
def find? (b : Bindings) (name : String) : Option Sink :=
  b.names.lookup name

/-- The octets seen through the handle with a name. -/
def get? (b : Bindings) (name : String) : Option ByteArray :=
  (b.find? name).map b.sinks.get

/-- Binds a name to a handle, anew if it was bound. -/
def bind (b : Bindings) (name : String) (sink : Sink) : Bindings :=
  { b with names := b.names.filter (·.1 != name) ++ [(name, sink)] }

/-- Binds a name to a new buffer. -/
def create (b : Bindings) (name : String) : Bindings :=
  let (sink, sinks) := b.sinks.fresh
  { b with sinks }.bind name sink

/-- Binds a name to a clone of the handle with another. -/
def clone (b : Bindings) (name source : String) : Bindings :=
  match b.find? source with
  | some sink => b.bind name sink
  | none => b

/-- Drops the handle with a name. -/
def drop (b : Bindings) (name : String) : Bindings :=
  { b with names := b.names.filter (·.1 != name) }

/-- Adds octets through the handle with a name. -/
def append (b : Bindings) (name : String) (bytes : ByteArray) : Bindings :=
  match b.find? name with
  | some sink => { b with sinks := b.sinks.append sink bytes }
  | none => b

/-- Removes the octets of the handle with a name. -/
def clear (b : Bindings) (name : String) : Bindings :=
  match b.find? name with
  | some sink => { b with sinks := b.sinks.clear sink }
  | none => b

/-- The handle with a name, which is bound to a new buffer if it was not bound. -/
def obtain (b : Bindings) (name : String) : Sink × Bindings :=
  match b.find? name with
  | some sink => (sink, b)
  | none =>
    let (sink, sinks) := b.sinks.fresh
    (sink, { b with sinks }.bind name sink)

/-- The name of a handle of a family. -/
def nameOf? (b : Bindings) (sink : Sink) : Option String :=
  (b.names.find? (·.2 = sink)).map (·.1)

end Bindings

end Offspring
