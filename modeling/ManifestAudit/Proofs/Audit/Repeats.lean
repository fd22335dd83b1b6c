import ManifestAudit.Audit.Rule
import Mathlib.Data.List.Induction
import Mathlib.Data.List.Nodup

/-!
# Second listings

The duplicate rule walks the entries once and keeps two growing lists of names:
those it has met and those it has reported. `Tracks` says what the two lists know
about the entries above; one step keeps it, and so a whole walk reports exactly
the entries above which their name stands once.

Appending an entry changes nothing about the entries above it, so facts about a
whole walk follow by induction from the end of the list.
-/

namespace ManifestAudit.Rule

/-- The two lists of a walk agree with the names listed so far: the first holds
the names that were listed, the second those that were listed again. -/
structure Tracks (listed seen repeated : List String) : Prop where
  seen_iff : ∀ name, name ∈ seen ↔ 0 < listed.count name
  repeated_iff : ∀ name, name ∈ repeated ↔ 1 < listed.count name

/-- Before the first entry nothing was listed and both lists are empty. -/
theorem tracks_nil : Tracks [] [] [] := ⟨by simp, by simp⟩

/-- A name put at the end of a list is listed once more, every other name as
often as before. -/
theorem count_concat (listed : List String) (last name : String) :
    (listed ++ [last]).count name = listed.count name + if last = name then 1 else 0 := by
  simp [List.count_append, List.count_singleton]

/-- The lists agree with one name more if they know every other name as before, have
met the new one, and report it exactly if it was listed already. -/
theorem Tracks.grow {listed seen repeated met reported : List String} {last : String}
    (tracked : Tracks listed seen repeated)
    (othersMet : ∀ name, name ≠ last → (name ∈ met ↔ name ∈ seen))
    (othersReported : ∀ name, name ≠ last → (name ∈ reported ↔ name ∈ repeated))
    (lastMet : last ∈ met) (lastReported : last ∈ reported ↔ 0 < listed.count last) :
    Tracks (listed ++ [last]) met reported := by
  constructor
  · intro name
    rw [count_concat]
    by_cases same : last = name
    · subst same
      simp [lastMet]
    · rw [othersMet name (Ne.symm same), tracked.seen_iff]
      simp [same]
  · intro name
    rw [count_concat]
    by_cases same : last = name
    · subst same
      simp [lastReported]
    · rw [othersReported name (Ne.symm same), tracked.repeated_iff]
      simp [same]

/-- What a walk reports of one entry: the entry itself at its second listing. -/
def secondListing (listed : List String) (entry : Entry) : List Entry :=
  if listed.count entry.name = 1 then [entry] else []

/-- One step of a walk reports the entry exactly at its second listing, and the
lists that it goes on with know of the entry too. -/
theorem firstRepeats_cons {listed seen repeated : List String}
    (tracked : Tracks listed seen repeated) (entry : Entry) :
    ∃ met reported, Tracks (listed ++ [entry.name]) met reported ∧
      ∀ rest, firstRepeats seen repeated (entry :: rest) =
        secondListing listed entry ++ firstRepeats met reported rest := by
  have met := tracked.seen_iff entry.name
  have reported := tracked.repeated_iff entry.name
  by_cases known : entry.name ∈ seen
  · have before : 0 < listed.count entry.name := met.1 known
    by_cases told : entry.name ∈ repeated
    · have later : listed.count entry.name ≠ 1 := by
        have twice := reported.1 told
        omega
      refine ⟨seen, repeated, ?_, fun rest => ?_⟩
      · apply tracked.grow (fun _ _ => Iff.rfl) (fun _ _ => Iff.rfl) known
        exact iff_of_true told before
      · simp [firstRepeats, secondListing, known, told, later]
    · have second : listed.count entry.name = 1 := by
        have notTwice := mt reported.2 told
        omega
      refine ⟨seen, entry.name :: repeated, ?_, fun rest => ?_⟩
      · apply tracked.grow (fun _ _ => Iff.rfl) (fun _ other => by simp [other]) known
        exact iff_of_true List.mem_cons_self before
      · simp [firstRepeats, secondListing, known, told, second]
  · have first : listed.count entry.name = 0 := by
      have notBefore := mt met.2 known
      omega
    have untold : entry.name ∉ repeated := by
      intro told
      have twice := reported.1 told
      omega
    refine ⟨entry.name :: seen, repeated, ?_, fun rest => ?_⟩
    · apply tracked.grow (fun _ other => by simp [other]) (fun _ _ => Iff.rfl) List.mem_cons_self
      exact iff_of_false untold (by omega)
    · simp [firstRepeats, secondListing, known, first]

/-- An entry at the end of a walk is reported exactly at its second listing, and
what was reported above it stays. -/
theorem firstRepeats_concat {listed seen repeated : List String}
    (tracked : Tracks listed seen repeated) (above : List Entry) (last : Entry) :
    firstRepeats seen repeated (above ++ [last]) =
      firstRepeats seen repeated above ++
        secondListing (listed ++ above.map Entry.name) last := by
  induction above generalizing listed seen repeated with
  | nil =>
    obtain ⟨met, reported, _, step⟩ := firstRepeats_cons tracked last
    simp [step, firstRepeats]
  | cons entry rest inductionHypothesis =>
    obtain ⟨met, reported, grown, step⟩ := firstRepeats_cons tracked entry
    rw [List.cons_append, step, step, inductionHypothesis grown]
    simp

/-- A walk from the first entry on reports its last entry exactly where the name
stands once above it. -/
theorem firstRepeats_nil_concat (above : List Entry) (last : Entry) :
    firstRepeats [] [] (above ++ [last]) =
      firstRepeats [] [] above ++ secondListing (above.map Entry.name) last :=
  firstRepeats_concat tracks_nil above last

/-- A walk reports nothing exactly if no name is listed twice. -/
theorem firstRepeats_eq_nil_iff (entries : List Entry) :
    firstRepeats [] [] entries = [] ↔ (entries.map Entry.name).Nodup := by
  induction entries using List.reverseRecOn with
  | nil => simp [firstRepeats]
  | append_singleton above last inductionHypothesis =>
    rw [firstRepeats_nil_concat, List.append_eq_nil_iff, inductionHypothesis, List.map_append,
      List.map_singleton, List.nodup_append_comm, List.singleton_append, List.nodup_cons,
      and_comm]
    refine and_congr_left fun distinct => ?_
    have atMostOnce : (above.map Entry.name).count last.name ≤ 1 :=
      List.nodup_iff_count_le_one.1 distinct last.name
    rw [← List.count_eq_zero, secondListing]
    split
    · rename_i once
      simp [once]
    · rename_i notOnce
      simp only [true_iff]
      omega

end ManifestAudit.Rule
