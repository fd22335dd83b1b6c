import ManifestAudit.Failure.Basic

/-!
# What a failure tells of its causes

Below an error there may be another one that led to it. Going down from a failure one error
at a time comes to an end, and there is one way to go. A failure that speaks for itself stands
for its cause: its text is the outermost one, the way down starts below that cause and not at
it, and spelled out it is that text and then the text of every error on the way, each of them
once. A failure of input or output has an error of the system below it, which it names in its
own text, so spelling it out adds nothing.

It also stops there. Most errors of input or output have nothing below them, and the one that
the failure names is then the only one on the way. An error that a caller made out of another
one has for its own whatever is below that one, and this is where the failure falls silent: what
it leaves out is exactly the texts of those errors.
-/

namespace ManifestAudit

namespace Cause

/-- All texts of a cause, the outermost first. -/
def texts (cause : Cause) : List String := cause.message :: cause.sources

/-- The texts of a cause leave nothing of it open. -/
theorem eq_of_texts_eq {cause other : Cause} (same : cause.texts = other.texts) :
    cause = other := by
  induction cause generalizing other with
  | first text =>
    cases other with
    | first otherText =>
      obtain ⟨textSame, -⟩ := List.cons.inj same
      exact congrArg first textSame
    | during otherContext otherBelow => simp [texts, sources] at same
  | during context below inductionHypothesis =>
    cases other with
    | first otherText => simp [texts, sources] at same
    | during otherContext otherBelow =>
      obtain ⟨contextSame, belowSame⟩ := List.cons.inj same
      obtain rfl : context = otherContext := contextSame
      rw [inductionHypothesis belowSame]

/-- Wrapping a cause puts the contexts in front of its texts, the last one first. -/
theorem texts_within (cause : Cause) (contexts : List String) :
    (cause.within contexts).texts = contexts.reverse ++ cause.texts := by
  induction contexts generalizing cause with
  | nil => rfl
  | cons context rest inductionHypothesis =>
    have wrapped : cause.within (context :: rest) = (during context cause).within rest := rfl
    rw [wrapped, inductionHypothesis, List.reverse_cons, List.append_assoc]
    rfl

/-- A cause is a first one wrapped into contexts exactly if its texts are the contexts, the last
one first, and then the text of the first cause. -/
theorem eq_within_iff {cause : Cause} {text : String} {contexts : List String} :
    cause = (first text).within contexts ↔ cause.texts = contexts.reverse ++ [text] := by
  have wrapped : ((first text).within contexts).texts = contexts.reverse ++ [text] :=
    texts_within (first text) contexts
  constructor
  · rintro rfl
    exact wrapped
  · intro told
    exact eq_of_texts_eq (told.trans wrapped.symm)

/-- Spelled out, a cause is its outermost text and then the texts below it. -/
theorem spelledOut_eq (cause : Cause) :
    cause.spelledOut = cause.message ++ String.join (cause.sources.map (": " ++ ·)) := by
  induction cause with
  | first text => exact String.append_empty.symm
  | during context below inductionHypothesis =>
    rw [spelledOut, inductionHypothesis, sources, List.map_cons, String.join_cons, message,
      String.append_assoc, String.append_assoc]

end Cause

/-- An error that is met on the way down from a failure. -/
inductive Link
  /-- What went wrong in the system. -/
  | io (error : IoError)
  /-- A context, with what it was put around below it, or a first cause. -/
  | cause (cause : Cause)

namespace Link

/-- What the error says. -/
def text : Link → String
  | io error => error.message
  | cause reason => reason.message

/-- The error right below. An error of input or output stands for the one that it was made of,
and has below it what that one has. -/
def source? : Link → Option Link
  | io error => error.asCause.below?.map cause
  | cause reason => reason.below?.map cause

end Link

/-- The error right below a failure. Where the failure stands for its cause, that is the one
right below the cause. -/
def Failure.source? : Failure → Option Link
  | manifestRead _ cause => some (.io cause)
  | io cause => some (.io cause)
  | other cause => cause.below?.map .cause

/-- What a failure says before it comes to the errors below. -/
def Failure.head : Failure → String
  | manifestRead path _ => "Failed to read manifest at " ++ path
  | io _ => "IO error"
  | other cause => (other cause).message

/-- The texts of the errors below the one that a failure names. -/
def Failure.untold : Failure → List String
  | manifestRead _ cause => cause.sources
  | io cause => cause.sources
  | other _ => []

/-- Going down one error at a time, until there is none below. -/
inductive Descent : Option Link → List Link → Prop
  | ended : Descent none []
  | onward {link : Link} {links : List Link} (below : Descent link.source? links) :
      Descent (some link) (link :: links)

/-- There is one way down. -/
theorem Descent.unique {start : Option Link} {links others : List Link}
    (descent : Descent start links) (another : Descent start others) : others = links := by
  induction descent generalizing others with
  | ended =>
    cases another
    rfl
  | onward below inductionHypothesis =>
    cases another with
    | onward otherBelow => rw [inductionHypothesis otherBelow]

/-- The way down from a cause comes to an end, with the texts of the sources on it. -/
theorem Cause.exists_descent (cause : Cause) :
    ∃ links, Descent (cause.below?.map .cause) links ∧ cause.sources = links.map Link.text := by
  induction cause with
  | first text => exact ⟨[], .ended, rfl⟩
  | during context below inductionHypothesis =>
    obtain ⟨links, descent, told⟩ := inductionHypothesis
    refine ⟨.cause below :: links, .onward descent, ?_⟩
    rw [sources, told, List.map_cons, Link.text]

namespace Failure

/-- The way down from an error of input or output, which it begins with. -/
theorem exists_descent_io (cause : IoError) :
    ∃ below, Descent (some (.io cause)) (.io cause :: below) ∧
      cause.sources = below.map Link.text := by
  obtain ⟨below, descent, told⟩ := cause.asCause.exists_descent
  exact ⟨below, .onward descent, told⟩

/-- The way down from a failure comes to an end, with the texts of the sources on it. -/
theorem exists_descent (failure : Failure) :
    ∃ links, Descent failure.source? links ∧ failure.sources = links.map Link.text := by
  have named (cause : IoError) : ∃ links, Descent (some (.io cause)) links ∧
      cause.message :: cause.sources = links.map Link.text := by
    obtain ⟨below, descent, told⟩ := exists_descent_io cause
    exact ⟨.io cause :: below, descent, congrArg (cause.message :: ·) told⟩
  cases failure with
  | manifestRead path cause => exact named cause
  | io cause => exact named cause
  | other cause => exact cause.exists_descent

/-- Spelled out, and with what it leaves untold, a failure is its head and then the texts of its
sources. -/
theorem spelledOut_append_untold (failure : Failure) :
    failure.spelledOut ++ String.join (failure.untold.map (": " ++ ·)) =
      failure.head ++ String.join (failure.sources.map (": " ++ ·)) := by
  have named (head text : String) (below : List String) :
      head ++ ": " ++ text ++ String.join (below.map (": " ++ ·)) =
        head ++ String.join ((text :: below).map (": " ++ ·)) := by
    rw [List.map_cons, String.join_cons, String.append_assoc, String.append_assoc,
      String.append_assoc]
  cases failure with
  | manifestRead path cause => exact named _ _ _
  | io cause => exact named "IO error" _ _
  | other cause => exact String.append_empty.trans cause.spelledOut_eq

/-- Texts that are led in by a colon each come to nothing only where there are none. -/
theorem join_map_eq_empty_iff {texts : List String} :
    String.join (texts.map (": " ++ ·)) = "" ↔ texts = [] := by
  cases texts with
  | nil => exact iff_of_true rfl rfl
  | cons text rest =>
    rw [List.map_cons, String.join_cons]
    simp

/-- What a failure tells of the errors on the way down from it. -/
structure Tells (failure : Failure) (links : List Link) : Prop where
  /-- Its sources are the texts of these errors. -/
  sources_eq : failure.sources = links.map Link.text
  /-- Spelled out, it is its head and then the text of each of these errors, exactly if it leaves
  nothing untold. -/
  spelledOut_iff :
    failure.spelledOut = failure.head ++ String.join (links.map fun link => ": " ++ link.text) ↔
      failure.untold = []
  /-- What it leaves untold is what is missing at the end. -/
  spelledOut_append :
    failure.spelledOut ++ String.join (failure.untold.map (": " ++ ·)) =
      failure.head ++ String.join (links.map fun link => ": " ++ link.text)
  /-- A manifest that could not be read has the error of the system below it, which its own text
  names. Nothing else is below it exactly if nothing is below that error. -/
  manifestRead : ∀ path cause, failure = .manifestRead path cause →
    failure.message = failure.spelledOut ∧ links.head? = some (.io cause) ∧
      (links = [.io cause] ↔ cause.sources = [])
  /-- A report that could not be written has the error of the system below it, which its own text
  names. Nothing else is below it exactly if nothing is below that error. -/
  io : ∀ cause, failure = .io cause →
    failure.message = failure.spelledOut ∧ links.head? = some (.io cause) ∧
      (links = [.io cause] ↔ cause.sources = [])
  /-- Any other failure leaves nothing untold. Its text and those below it are the contexts of the
  first cause, the outermost of them first, and then the first cause. Nothing else has these
  texts. -/
  other : ∀ cause, failure = .other cause → failure.untold = [] ∧ ∀ text contexts,
    cause = (Cause.first text).within contexts ↔
      failure.message :: links.map Link.text = contexts.reverse ++ [text]

/-- Below an error of input or output there is what it has below it and nothing else. -/
theorem head?_of_descent_io {cause : IoError} {links : List Link}
    (descent : Descent (some (.io cause)) links) :
    links.head? = some (.io cause) ∧ (links = [.io cause] ↔ cause.sources = []) := by
  obtain ⟨below, onWay, told⟩ := exists_descent_io cause
  obtain rfl := onWay.unique descent
  refine ⟨rfl, ?_⟩
  rw [told, List.map_eq_nil_iff, List.cons_inj_right]

/-- On the way down from a failure everything is met that it tells, and what it leaves untold. -/
theorem tells_of_descent {failure : Failure} {links : List Link}
    (descent : Descent failure.source? links) (told : failure.sources = links.map Link.text) :
    Tells failure links := by
  have whole : failure.spelledOut ++ String.join (failure.untold.map (": " ++ ·)) =
      failure.head ++ String.join (links.map fun link => ": " ++ link.text) := by
    rw [spelledOut_append_untold, told, List.map_map]
    rfl
  constructor
  · exact told
  · rw [← whole, ← join_map_eq_empty_iff]
    exact eq_comm.trans String.append_eq_left_iff
  · exact whole
  · rintro path cause rfl
    exact ⟨rfl, head?_of_descent_io descent⟩
  · rintro cause rfl
    exact ⟨rfl, head?_of_descent_io descent⟩
  · rintro cause rfl
    refine ⟨rfl, fun text contexts => ?_⟩
    rw [← told]
    exact Cause.eq_within_iff

/-- A failure has one way down, and tells of the errors on it. -/
theorem exists_tells (failure : Failure) :
    ∃ links, (∀ others, Descent failure.source? others ↔ others = links) ∧
      Tells failure links := by
  obtain ⟨links, descent, told⟩ := failure.exists_descent
  refine ⟨links, fun others => ⟨descent.unique, ?_⟩, tells_of_descent descent told⟩
  rintro rfl
  exact descent

/-- The outermost of two contexts is the text of the failure and no source of it. -/
example :
    let failure := other ((Cause.first "pipe closed").within ["inner", "outer"])
    failure.message = "outer" ∧ failure.sources = ["inner", "pipe closed"] ∧
      failure.spelledOut = "outer: inner: pipe closed" :=
  ⟨rfl, rfl, rfl⟩

end Failure

end ManifestAudit
