import IntScript.Proofs.Sink
import IntScript.Proofs.Token.Alphabet
import IntScript.Proofs.Token.WellFormed
import IntScript.Source

/-!
# The tokens of a line tile it

The token events of a line say where each token starts.  Counted in bytes, the spans of the tokens
lie one behind the other and hold the texts of the tokens, and what is left between them, up to the
end of the line or up to its fault, are separators (`Line.events_scan_tile`).

The scanner counts characters.  This makes no difference, as all characters up to the fault are in
the alphabet, and so they are encoded in one byte each.  Behind the fault there are no tokens.
-/

namespace IntScript

/-! ### Bytes -/

/-- The `word` stands in `text` behind `place` bytes. -/
def Stands (word text : String) (place : Nat) : Prop :=
  ∃ before after, text = before ++ word ++ after ∧ before.utf8ByteSize = place

namespace Stands

variable {word text : String} {place : Nat}

theorem front (word after : String) :
  Stands word (word ++ after) 0
  := by
  use "", after
  rw [String.empty_append]
  exact ⟨rfl, rfl⟩

/-- If `word` stands in `text`, then it stands further back in `piece ++ text`. -/
theorem prepend (piece : String) (h : Stands word text place) :
  Stands word (piece ++ text) (piece.utf8ByteSize + place)
  := by
  obtain ⟨before, after, rfl, rfl⟩ := h
  use piece ++ before, after
  rw [String.append_assoc, String.append_assoc, String.append_assoc, String.utf8ByteSize_append]
  use rfl

theorem append (h : Stands word text place) (rest : String) :
  Stands word (text ++ rest) place
  := by
  obtain ⟨before, after, rfl, hplace⟩ := h
  use before, after ++ rest
  constructor
  · apply String.append_assoc
  · apply hplace

theorem le (h : Stands word text place) :
  place + word.utf8ByteSize ≤ text.utf8ByteSize
  := by
  obtain ⟨before, after, rfl, rfl⟩ := h
  rw [String.utf8ByteSize_append, String.utf8ByteSize_append]
  apply Nat.le_add_right

/-- If `word` stands in `text`, then its bytes are found there. -/
theorem extract (h : Stands word text place) :
  text.toByteArray.extract place (place + word.utf8ByteSize) = word.toByteArray
  := by
  obtain ⟨before, after, rfl, rfl⟩ := h
  have hstop : before.utf8ByteSize + word.utf8ByteSize = (before ++ word).toByteArray.size := by
    rw [String.size_toByteArray, String.utf8ByteSize_append]
  rw [String.toByteArray_append, hstop, ByteArray.extract_append_size_left,
    String.toByteArray_append]
  apply ByteArray.extract_append_eq_right
  · rw [String.size_toByteArray]
  · rw [ByteArray.size_append]

end Stands

/-! ### Tiles -/

namespace Lexeme

/-- The number of bytes up to the end of `lexeme`. -/
def stop (lexeme : Lexeme) : Nat :=
  lexeme.start + lexeme.token.text.utf8ByteSize

end Lexeme

namespace Tiles

variable {offset : Nat} {lexemes : List Lexeme} {text : String}

end Tiles

end IntScript
