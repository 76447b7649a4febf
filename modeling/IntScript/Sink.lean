/-!
# Output sinks

A sink receives the printed text.  It may have room for a limited number of bytes only; a
write that does not fit stores the part for which there is room, and is refused for a reason
that belongs to the sink.
-/

namespace IntScript

/-- The `text` received so far, the `room` for further bytes, where `none` means that there is no
limit, and the `reason` for which writes are refused. -/
structure Sink where
  text : String
  room : Option Nat
  reason : String
deriving DecidableEq

/-- The characters at the front of a text that are encoded in no more than `room` bytes. -/
def fitting : (room : Nat) → List Char → List Char
  | _, [] => []
  | room, c :: rest => if c.utf8Size ≤ room then c :: fitting (room - c.utf8Size) rest else []

namespace Sink

/-- A sink that has received nothing, and refuses writes beyond `room` for `reason`. -/
def fresh (room : Option Nat) (reason : String) : Sink :=
  ⟨"", room, reason⟩

/-- A fresh sink that refuses writes beyond `room` because it is closed. -/
def start (room : Option Nat) : Sink :=
  fresh room "closed"

/-- Whether there is room for the whole of `text`. -/
def accepts (sink : Sink) (text : String) : Bool :=
  match sink.room with
  | none => true
  | some room => text.utf8ByteSize ≤ room

/-- The sink after a write of `text`, of which as much is stored as fits.  There is no room left
behind a part. -/
def write (sink : Sink) (text : String) : Sink :=
  match sink.room with
  | none => { sink with text := sink.text ++ text }
  | some room =>
    if text.utf8ByteSize ≤ room then
      { sink with text := sink.text ++ text, room := some (room - text.utf8ByteSize) }
    else
      { sink with text := sink.text ++ String.ofList (fitting room text.toList), room := some 0 }

end Sink

end IntScript
