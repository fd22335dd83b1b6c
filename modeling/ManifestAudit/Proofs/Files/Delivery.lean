import ManifestAudit.Files.Sink

/-!
# What an output accepts

Writing texts one after the other is the same as writing the one text that they
make together: the same bytes are accepted, the same room is left, and the answer
is the same. So it does not matter into how many pieces a report is cut or where
the room of an output ends among them, be it inside a piece or inside a character.

A delivery can end in three ways only. The bytes do not fit, and those that do
are accepted; all are accepted and flushing fails; all are accepted and flushed.
-/

namespace ManifestAudit.Sink

/-- So many more bytes fit into an output. -/
def Fits (sink : Sink) (size : Nat) : Prop := ∀ room, sink.room = some room → size ≤ room

/-- The output after it has accepted some bytes. -/
def keep (sink : Sink) (new : Array UInt8) : Sink :=
  { sink with room := sink.room.map (· - new.size), accepted := sink.accepted ++ new }

/-- The bytes of two texts laid end to end are those of the texts. -/
theorem bytes_append (left right : String) : bytes (left ++ right) = bytes left ++ bytes right := by
  simp [bytes, ByteArray.data_append]

/-- Accepting some bytes and then others is accepting them together. -/
theorem keep_append (sink : Sink) (first second : Array UInt8) :
    sink.keep (first ++ second) = (sink.keep first).keep second := by
  simp [keep, Function.comp_def, Nat.sub_sub]

/-- Either so many bytes fit, or the output has less room than they need. -/
theorem fits_or_short (sink : Sink) (size : Nat) :
    sink.Fits size ∨ ∃ room, sink.room = some room ∧ room < size := by
  cases limited : sink.room with
  | none => exact .inl fun room bounded => absurd (limited.symm.trans bounded) (by simp)
  | some room =>
    rcases Nat.lt_or_ge room size with short | enough
    · exact .inr ⟨room, rfl, short⟩
    · refine .inl fun other bounded => ?_
      have same : room = other := Option.some.inj (limited.symm.trans bounded)
      exact same ▸ enough

/-- A text whose bytes fit is accepted as a whole. -/
theorem write_of_fits {sink : Sink} {text : String} (fits : sink.Fits (bytes text).size) :
    sink.write text = (sink.keep (bytes text), .ok ()) := by
  obtain ⟨room, fullError, flushError, accepted⟩ := sink
  cases room with
  | none => rfl
  | some room =>
    have enough : (bytes text).size ≤ room := fits room rfl
    simp [write, keep, enough]

/-- Of a text whose bytes do not fit, as many are accepted as fit. -/
theorem write_of_short {sink : Sink} {text : String} {room : Nat} (limited : sink.room = some room)
    (short : room < (bytes text).size) :
    sink.write text = (sink.keep ((bytes text).take room), .error sink.fullError) := by
  have tooMuch : ¬ (bytes text).size ≤ room := Nat.not_le_of_gt short
  have used : room - min room (bytes text).size = 0 := by omega
  simp [write, keep, limited, tooMuch, used]

/-- The empty text changes nothing. -/
theorem write_empty (sink : Sink) : sink.write "" = (sink, .ok ()) := by
  have fits : sink.Fits (bytes "").size := fun room _ => Nat.zero_le room
  rw [write_of_fits fits]
  obtain ⟨room, fullError, flushError, accepted⟩ := sink
  cases room <;> simp [keep, bytes]

/-- Of two texts, a cut inside the first keeps nothing of the second. -/
theorem take_append_left {left right : Array UInt8} {room : Nat} (inside : room ≤ left.size) :
    (left ++ right).take room = left.take room := by
  simp [Nat.sub_eq_zero_of_le inside]

/-- Of two texts, a cut behind the first keeps all of it. -/
theorem take_append_right {left right : Array UInt8} {room : Nat} (behind : left.size ≤ room) :
    (left ++ right).take room = left ++ right.take (room - left.size) := by
  simp [Array.extract_eq_self_of_le behind]

/-- Writing two texts as one is writing the first and, if it gets through, the
second. The room ends in the first text, in the second, or behind both. -/
theorem write_append (sink : Sink) (left right : String) :
    sink.write (left ++ right) =
      match sink.write left with
      | (cut, .error cause) => (cut, .error cause)
      | (grown, .ok ()) => grown.write right := by
  have both : bytes (left ++ right) = bytes left ++ bytes right := bytes_append left right
  have sizes : (bytes (left ++ right)).size = (bytes left).size + (bytes right).size := by
    rw [both, Array.size_append]
  rcases sink.fits_or_short (bytes left).size with leftFits | ⟨room, limited, leftShort⟩
  · rw [write_of_fits leftFits]
    rcases sink.fits_or_short (bytes (left ++ right)).size with bothFit | ⟨room, limited, short⟩
    · have rightFits : (sink.keep (bytes left)).Fits (bytes right).size := by
        intro rest bounded
        obtain ⟨room, limited, rfl⟩ := Option.map_eq_some_iff.1 bounded
        have enough : (bytes (left ++ right)).size ≤ room := bothFit room limited
        omega
      rw [write_of_fits bothFit, both, keep_append]
      exact (write_of_fits rightFits).symm
    · have enough : (bytes left).size ≤ room := leftFits room limited
      have rest : (sink.keep (bytes left)).room = some (room - (bytes left).size) := by
        simp [keep, limited]
      have rightShort : room - (bytes left).size < (bytes right).size := by omega
      rw [write_of_short limited short, both, take_append_right enough, keep_append]
      exact (write_of_short rest rightShort).symm
  · have short : room < (bytes (left ++ right)).size := by omega
    rw [write_of_short limited leftShort, write_of_short limited short, both,
      take_append_left (Nat.le_of_lt leftShort)]

/-- Writing texts one after the other is writing the text that they make. -/
theorem writeAll_eq_write_join (sink : Sink) (texts : List String) :
    sink.writeAll texts = sink.write (String.join texts) := by
  induction texts generalizing sink with
  | nil => exact (write_empty sink).symm
  | cons text rest inductionHypothesis =>
    rw [String.join_cons, write_append, writeAll]
    rcases sink.write text with ⟨reached, _ | _⟩
    · rfl
    · exact inductionHypothesis reached

/-- Texts that do not fit are cut where the room ends, and flushing is not tried. -/
theorem deliver_of_short {sink : Sink} {texts : List String} {room : Nat}
    (limited : sink.room = some room) (short : room < (bytes (String.join texts)).size) :
    sink.deliver texts =
      (sink.keep ((bytes (String.join texts)).take room), .error sink.fullError) := by
  rw [deliver, writeAll_eq_write_join, write_of_short limited short]

/-- Texts that fit are accepted as a whole, and flushing decides. -/
theorem deliver_of_fits {sink : Sink} {texts : List String}
    (fits : sink.Fits (bytes (String.join texts)).size) :
    sink.deliver texts = (sink.keep (bytes (String.join texts)), sink.flush) := by
  rw [deliver, writeAll_eq_write_join, write_of_fits fits]
  rfl

end ManifestAudit.Sink
