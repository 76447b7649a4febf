import IntScript.Sink

/-!
# Writing to a sink

Writing two texts one after the other is writing them at once.  A text that is refused closes
the sink, so nothing is left of what follows it.

When every character takes one byte, a sink with a limit stores the bytes up to the limit.
-/

namespace IntScript

/-! ### The part that fits -/

/-- The bytes of `c :: rest` are those of `c` and those of `rest`. -/
theorem utf8ByteSize_ofList_cons (c : Char) (rest : List Char) :
  (String.ofList (c :: rest)).utf8ByteSize
    = c.utf8Size + (String.ofList rest).utf8ByteSize
  := by
  rw [String.ofList_cons, String.utf8ByteSize_append, String.utf8ByteSize_singleton]

/-- If `a` takes up no more than the `room`, then `b` gets what is left of it. -/
theorem fitting_append_of_le {room : Nat} {a : List Char} (b : List Char)
    (h : (String.ofList a).utf8ByteSize ≤ room) :
  fitting room (a ++ b) = a ++ fitting (room - (String.ofList a).utf8ByteSize) b
  := by
  induction a generalizing room with
  | nil => rfl
  | cons c rest ih =>
    rw [utf8ByteSize_ofList_cons] at h ⊢
    have hc : c.utf8Size ≤ room := by omega
    rw [List.cons_append, List.cons_append, fitting, if_pos hc, ih (by omega), Nat.sub_sub]

/-- If `a` takes up more than the `room`, then there is none for `b`. -/
theorem fitting_append_of_lt {room : Nat} {a : List Char} (b : List Char)
    (h : room < (String.ofList a).utf8ByteSize) :
  fitting room (a ++ b) = fitting room a
  := by
  induction a generalizing room with
  | nil => cases h
  | cons c rest ih =>
    rw [utf8ByteSize_ofList_cons] at h
    rw [List.cons_append, fitting, fitting]
    split
    next hc => rw [ih (by omega)]
    next => rfl

/-- If `text` takes up no more than the `room`, then all of it fits. -/
theorem fitting_of_le {room : Nat} {text : List Char}
    (h : (String.ofList text).utf8ByteSize ≤ room) :
  fitting room text = text
  := by
  have hfits := fitting_append_of_le [] h
  rwa [List.append_nil, fitting, List.append_nil] at hfits

/-! ### Single bytes -/

/-- Each character of `text` is encoded in one byte. -/
def IsAscii (text : String) : Prop :=
  ∀ c ∈ text.toList, c.utf8Size = 1

instance (text : String) : Decidable (IsAscii text) :=
  List.decidableBAll _ text.toList

theorem isAscii_empty :
  IsAscii ""
  := by decide

theorem isAscii_append {a b : String} :
  IsAscii (a ++ b) ↔ IsAscii a ∧ IsAscii b
  := by
  rw [IsAscii, String.toList_append, List.forall_mem_append]
  rfl

/-- The bytes of the characters that fit are those of `text` up to the `room`. -/
theorem utf8Encode_fitting {text : List Char} (hascii : ∀ c ∈ text, c.utf8Size = 1)
    (room : Nat) :
  (fitting room text).utf8Encode = text.utf8Encode.extract 0 room
  := by
  induction text generalizing room with
  | nil =>
    rw [fitting, List.utf8Encode_nil, eq_comm, ByteArray.extract_eq_empty_iff]
    apply Nat.min_le_right
  | cons c rest ih =>
    have hc : c.utf8Size = 1 := hascii c List.mem_cons_self
    have hrest : ∀ d ∈ rest, d.utf8Size = 1 := by
      intro d hd
      apply hascii d (List.mem_cons_of_mem c hd)
    have hsize : [c].utf8Encode.size = 1 := by
      rw [← String.toByteArray_singleton, String.size_toByteArray,
        String.utf8ByteSize_singleton, hc]
    cases room with
    | zero => rw [fitting, hc, if_neg (by decide), ByteArray.extract_same, List.utf8Encode_nil]
    | succ room =>
      have hfirst : [c].utf8Encode.extract 0 (room + 1) = [c].utf8Encode := by
        rw [← Nat.max_eq_left (a := room + 1) (b := [c].utf8Encode.size) (by omega),
          ByteArray.extract_zero_max_size]
      rw [fitting, hc, if_pos (by omega), List.utf8Encode_cons, ih hrest,
        List.utf8Encode_cons (l := rest), ByteArray.extract_append, hsize, hfirst, Nat.zero_sub]

namespace Sink

variable {sink : Sink} {a : String}

/-! ### One text after another -/

@[simp]
theorem reason_write (sink : Sink) (text : String) :
  (sink.write text).reason = sink.reason
  := by
  rw [write]
  split
  next => rfl
  next => split <;> rfl

@[simp]
theorem write_empty (sink : Sink) :
  sink.write "" = sink
  := by
  obtain ⟨text, room, reason⟩ := sink
  cases room with
  | none => simp [write]
  | some room => simp [write]

/-- A `sink` accepts the empty text. -/
theorem accepts_empty (sink : Sink) :
  sink.accepts ""
  := by
  obtain ⟨text, room, reason⟩ := sink
  cases room with
  | none => rfl
  | some room => simp [accepts]

/-- A `sink` accepts `a ++ b` if and only if it accepts `a` and then `b`. -/
theorem accepts_append (sink : Sink) (a b : String) :
  sink.accepts (a ++ b) ↔ sink.accepts a ∧ (sink.write a).accepts b
  := by
  obtain ⟨text, room, reason⟩ := sink
  cases room with
  | none => simp [accepts, write]
  | some room =>
    by_cases h : a.utf8ByteSize ≤ room
    · simp only [accepts, write, if_pos h, String.utf8ByteSize_append, decide_eq_true_eq]
      omega
    · simp only [accepts, String.utf8ByteSize_append, decide_eq_true_eq]
      omega

/-- If `sink` accepts `a`, then to write `a ++ b` is to write `a` and then `b`. -/
theorem write_append_of_accepts (h : sink.accepts a) (b : String) :
  sink.write (a ++ b) = (sink.write a).write b
  := by
  obtain ⟨text, room, reason⟩ := sink
  cases room with
  | none => simp [write, String.append_assoc]
  | some room =>
    have ha : a.utf8ByteSize ≤ room := by simpa [accepts] using h
    by_cases hb : b.utf8ByteSize ≤ room - a.utf8ByteSize
    · have hab : a.utf8ByteSize + b.utf8ByteSize ≤ room := by omega
      simp only [write, String.utf8ByteSize_append, if_pos ha, if_pos hb, if_pos hab,
        Nat.sub_sub, String.append_assoc]
    · have hab : ¬ a.utf8ByteSize + b.utf8ByteSize ≤ room := by omega
      have hfits : fitting room (a.toList ++ b.toList)
          = a.toList ++ fitting (room - a.utf8ByteSize) b.toList := by
        rw [fitting_append_of_le, String.ofList_toList]
        rwa [String.ofList_toList]
      simp only [write, String.utf8ByteSize_append, if_pos ha, if_neg hb, if_neg hab,
        String.toList_append, hfits, String.ofList_append, String.ofList_toList,
        String.append_assoc]

/-- If `sink` accepts `a`, then it stores all of it. -/
theorem text_write_of_accepts (h : sink.accepts a) :
  (sink.write a).text = sink.text ++ a
  := by
  obtain ⟨text, room, reason⟩ := sink
  cases room with
  | none => rfl
  | some room =>
    have ha : a.utf8ByteSize ≤ room := by simpa [accepts] using h
    simp only [write, if_pos ha]

/-- If `sink` refuses `a`, then nothing of `b` is stored behind it. -/
theorem write_append_of_refuses (h : ¬ sink.accepts a) (b : String) :
  sink.write (a ++ b) = sink.write a
  := by
  obtain ⟨text, room, reason⟩ := sink
  cases room with
  | none => simp [accepts] at h
  | some room =>
    have ha : room < a.utf8ByteSize := by simpa [accepts] using h
    have hab : ¬ a.utf8ByteSize + b.utf8ByteSize ≤ room := by omega
    have hfits : fitting room (a.toList ++ b.toList) = fitting room a.toList := by
      apply fitting_append_of_lt
      rwa [String.ofList_toList]
    simp only [write, String.utf8ByteSize_append, if_neg hab, if_neg (Nat.not_le_of_lt ha),
      String.toList_append, hfits]

/-! ### The first text -/

/-- A fresh sink with room for `limit` bytes stores of `text` what fits. -/
theorem text_write_fresh (limit : Nat) (reason text : String) :
  ((fresh (some limit) reason).write text).text = String.ofList (fitting limit text.toList)
  := by
  simp only [fresh, write]
  split
  next h =>
    rw [fitting_of_le (by rwa [String.ofList_toList]), String.ofList_toList]
    apply String.empty_append
  next => apply String.empty_append

/-- A fresh sink with room for `limit` bytes stores of `text` the bytes up to the limit. -/
theorem toByteArray_write_fresh {text : String} (h : IsAscii text) (limit : Nat)
    (reason : String) :
  ((fresh (some limit) reason).write text).text.toByteArray = text.toByteArray.extract 0 limit
  := by
  rw [text_write_fresh, String.toByteArray_ofList, utf8Encode_fitting h,
    String.utf8Encode_toList]

end Sink

end IntScript
