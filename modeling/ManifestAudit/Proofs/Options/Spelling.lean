import Mathlib.Data.List.Forall2
import Mathlib.Data.List.Nodup
import ManifestAudit.Proofs.Options.DebugFlag

/-!
# Spelling options out

Options are asked for by settings, one for each option that is not left as it is by default.
A setting may be spelled in several ways, each of which takes up one argument or two, and the
settings may stand in any order. Reading the arguments gives back the options that they were
made for. A value is never taken for an option, whatever it looks like, and no option for a
value.

Reading a spelling settles what is pending and then either gives the option its value or
leaves it pending with the value. Since every spelling and the end of the list settle first,
it makes no difference which: reading spelled settings is the same as making them one after
the other (`readAll_spelled`). An option that was set is refused when its turn comes again.
-/

namespace ManifestAudit

/-- One option as it is asked for, with its value if it takes one. -/
inductive Setting
  | project (root : String)
  | form (form : ReportForm)
  | raise (flag : Flag)
deriving DecidableEq, Repr

namespace Setting

/-- The option that is set. -/
def option : Setting → ValueOption ⊕ Flag
  | project _ => .inl .project
  | form _ => .inl .form
  | raise flag => .inr flag

/-- The spellings of a setting, each as the arguments that it takes up. A value in an argument
of its own must not look like an option, and one that directly follows the letter must not
start with the equals sign that may stand between them. -/
inductive Spells : Setting → List String → Prop
  | longJoined {root : String} (nonempty : root ≠ "") :
      Spells (project root) ["--project=" ++ root]
  | longApart {root : String} (nonempty : root ≠ "") (plain : root.toList.head? ≠ some '-') :
      Spells (project root) ["--project", root]
  | shortApart {root : String} (nonempty : root ≠ "") (plain : root.toList.head? ≠ some '-') :
      Spells (project root) ["-p", root]
  | shortEquals {root : String} (nonempty : root ≠ "") : Spells (project root) ["-p=" ++ root]
  | shortJoined {root : String} (nonempty : root ≠ "")
      (noEquals : root.toList.head? ≠ some '=') : Spells (project root) ["-p" ++ root]
  | formJoined (asked : ReportForm) : Spells (form asked) ["--format=" ++ asked.name]
  | formApart (asked : ReportForm) : Spells (form asked) ["--format", asked.name]
  | listRules : Spells (raise .listRules) ["--list-rules"]
  | debug : Spells (raise .debug) ["--debug"]

/-- A project without a name has no spelling. -/
theorem Spells.ne_project_empty {setting : Setting} {word : List String}
    (spells : Spells setting word) : setting ≠ project "" := by
  rintro rfl
  cases spells <;> contradiction

/-- Among spelled settings no project is without a name. -/
theorem ne_project_empty_of_spelled {settings : List Setting} {words : List (List String)}
    (spelled : List.Forall₂ Spells settings words) :
    ∀ setting ∈ settings, setting ≠ project "" := by
  induction spelled with
  | nil => exact fun _ none => absurd none List.not_mem_nil
  | cons spells _ inductionHypothesis =>
    exact List.forall_mem_cons.2 ⟨spells.ne_project_empty, inductionHypothesis⟩

end Setting

/-- What is wrong if an option is given that was given before. -/
def UsageError.repeated : ValueOption ⊕ Flag → UsageError
  | .inl option => .repeatedOption option
  | .inr flag => .repeatedFlag flag

/-- The settings that ask for some options. The form may be said or left out. -/
def Options.settings (options : Options) (formSaid : Bool) : List Setting :=
  options.project.toList.map Setting.project ++
    (if formSaid then [.form options.form] else []) ++
    (if options.listRules then [.raise .listRules] else []) ++
    (if options.debug then [.raise .debug] else [])

namespace Argument

/-- A text that is not empty and does not start with a dash is no option. -/
theorem ofString_plain {text : String} (nonempty : text ≠ "")
    (plain : text.toList.head? ≠ some '-') : ofString text = .plain text := by
  have characters : text.toList ≠ [] := fun empty => nonempty (String.toList_eq_nil_iff.1 empty)
  unfold ofString ofList
  split
  · simp_all
  · simp_all
  · simp_all
  · rw [String.ofList_toList]

/-- Two dashes, a name and an equals sign are followed by a value. -/
theorem ofString_longJoined {name : String} (free : '=' ∉ name.toList) (value : String) :
    ofString ("--" ++ name ++ "=" ++ value) = .long name (some value) := by
  have characters : ("--" ++ name ++ "=" ++ value).toList =
      '-' :: '-' :: (name.toList ++ '=' :: value.toList) := by
    simp [String.toList_append]
  have spelled : ofList ('-' :: '-' :: (name.toList ++ '=' :: value.toList)) =
      longOf (name.toList ++ '=' :: value.toList) := by
    cases behind : name.toList ++ '=' :: value.toList with
    | nil => simp at behind
    | cons first others => rfl
  rw [ofString, characters, spelled, longOf, Text.cutAt_append free, Option.map_some,
    String.ofList_toList, String.ofList_toList]

/-- What directly follows the letter of the project is attached to it. -/
theorem ofString_shortJoined (attached : String) :
    ofString ("-p" ++ attached) = .short 'p' attached := by
  have characters : ("-p" ++ attached).toList = '-' :: 'p' :: attached.toList := by
    rw [String.toList_append]
    rfl
  have spelled : ofList ('-' :: 'p' :: attached.toList) =
      .short 'p' (String.ofList attached.toList) := rfl
  rw [ofString, characters, spelled, String.ofList_toList]

/-- An equals sign in front of an attached value is not part of it. -/
theorem attachedValue_equals (value : String) : attachedValue ("=" ++ value) = some value := by
  have characters : ("=" ++ value).toList = '=' :: value.toList := by
    rw [String.toList_append]
    rfl
  simp only [attachedValue, characters, String.ofList_toList]

/-- An attached text that is not empty and starts with no equals sign is the value. -/
theorem attachedValue_joined {value : String} (nonempty : value ≠ "")
    (noEquals : value.toList.head? ≠ some '=') : attachedValue value = some value := by
  unfold attachedValue
  split
  · simp_all
  · simp_all
  · simp

end Argument

namespace Progress

/-- Make a setting when nothing is pending. -/
def set (progress : Progress) : Setting → Except UsageError Progress
  | .project root => progress.assign .project root
  | .form form => progress.assign .form form.name
  | .raise flag => progress.raise flag

/-- The setting that was made of an option. -/
def made? (progress : Progress) : ValueOption ⊕ Flag → Option Setting
  | .inl .project => progress.project.map .project
  | .inl .form => progress.form.map .form
  | .inr .listRules => if progress.listRules then some (.raise .listRules) else none
  | .inr .debug => if progress.debug then some (.raise .debug) else none

/-- The progress with one setting more. -/
def including (progress : Progress) : Setting → Progress
  | .project root => { progress with project := some root }
  | .form form => { progress with form := some form }
  | .raise .listRules => { progress with listRules := true }
  | .raise .debug => { progress with debug := true }

/-- One setting more is the one that was made of its option, and those of the other options
stay. -/
theorem made?_including (progress : Progress) (setting : Setting) (option : ValueOption ⊕ Flag) :
    (progress.including setting).made? option =
      if option = setting.option then some setting else progress.made? option := by
  rcases setting with root | form | (_ | _) <;> rcases option with (_ | _) | (_ | _) <;> rfl

/-- One setting more leaves nothing else pending. -/
theorem pending_including (progress : Progress) (setting : Setting) :
    (progress.including setting).pending = progress.pending := by
  rcases setting with root | form | (_ | _) <;> rfl

/-- A setting that was made of an option is one of this option. -/
theorem option_of_made? {progress : Progress} {option : ValueOption ⊕ Flag} {setting : Setting}
    (made : progress.made? option = some setting) : setting.option = option := by
  rcases option with (_ | _) | (_ | _)
  · obtain ⟨root, _, rfl⟩ := Option.map_eq_some_iff.1 made
    rfl
  · obtain ⟨form, _, rfl⟩ := Option.map_eq_some_iff.1 made
    rfl
  · obtain ⟨_, ⟨⟩⟩ := Option.ite_none_right_eq_some.1 made
    rfl
  · obtain ⟨_, ⟨⟩⟩ := Option.ite_none_right_eq_some.1 made
    rfl

/-- A setting is made unless one of the same option was made before. -/
theorem set_eq {setting : Setting} (named : setting ≠ .project "") (progress : Progress) :
    progress.set setting =
      if (progress.made? setting.option).isSome then .error (.repeated setting.option)
      else .ok (progress.including setting) := by
  cases setting with
  | project root =>
    have nonempty : root ≠ "" := fun empty => named (congrArg Setting.project empty)
    cases given : progress.project <;>
      simp [set, assign, made?, Setting.option, given, nonempty, including, UsageError.repeated]
  | form asked =>
    have nonempty : asked.name ≠ "" := by cases asked <;> decide
    cases given : progress.form <;>
      simp [set, assign, made?, Setting.option, given, nonempty, including, UsageError.repeated]
  | raise flag =>
    cases flag with
    | listRules =>
      cases raised : progress.listRules <;>
        simp [set, raise, made?, Setting.option, raised, including, UsageError.repeated]
    | debug =>
      cases raised : progress.debug <;>
        simp [set, raise, made?, Setting.option, raised, including, UsageError.repeated]

/-- The progress is what some settings have made of the start. -/
def Carries (progress : Progress) (settings : List Setting) : Prop :=
  ∀ setting, progress.made? setting.option = some setting ↔ setting ∈ settings

/-- The start carries no settings. -/
theorem carries_start : start.Carries [] := by
  intro setting
  rcases setting with root | form | (_ | _) <;> simp [made?, start, Setting.option]

/-- An option was set exactly if a setting of it is carried. -/
theorem Carries.isSome_made? {progress : Progress} {settings : List Setting}
    (carries : progress.Carries settings) (option : ValueOption ⊕ Flag) :
    (progress.made? option).isSome = true ↔ option ∈ settings.map Setting.option := by
  rw [Option.isSome_iff_exists, List.mem_map]
  constructor
  · rintro ⟨setting, made⟩
    have same : setting.option = option := option_of_made? made
    subst same
    exact ⟨setting, (carries setting).1 made, rfl⟩
  · rintro ⟨setting, member, rfl⟩
    exact ⟨setting, (carries setting).2 member⟩

/-- A setting of an option that was not set is carried along with the others. -/
theorem Carries.including {progress : Progress} {settings : List Setting} {setting : Setting}
    (carries : progress.Carries settings) (fresh : setting.option ∉ settings.map Setting.option) :
    (progress.including setting).Carries (settings ++ [setting]) := by
  intro other
  rw [made?_including, List.mem_append, List.mem_singleton]
  split
  · rename_i same
    have absent : other ∉ settings := fun member => fresh (same ▸ List.mem_map_of_mem member)
    simp [absent, eq_comm]
  · rename_i apart
    have distinct : other ≠ setting := fun same => apart (congrArg Setting.option same)
    simp [distinct, carries other]

/-- Settings of different options are all made. -/
theorem Carries.foldlM_set {progress : Progress} {made settings : List Setting}
    (carries : progress.Carries made) (named : ∀ setting ∈ settings, setting ≠ .project "")
    (distinct : ((made ++ settings).map Setting.option).Nodup) :
    ∃ last, settings.foldlM set progress = .ok last ∧ last.Carries (made ++ settings) := by
  induction settings generalizing progress made with
  | nil => exact ⟨progress, rfl, by rwa [List.append_nil]⟩
  | cons setting rest inductionHypothesis =>
    obtain ⟨firstNamed, restNamed⟩ := List.forall_mem_cons.1 named
    have fresh : setting.option ∉ made.map Setting.option := by
      rw [List.map_append, List.map_cons] at distinct
      exact fun member => (List.nodup_append.1 distinct).2.2 _ member _ List.mem_cons_self rfl
    have notMade : (progress.made? setting.option).isSome = false :=
      Bool.eq_false_iff.2 (mt (carries.isSome_made? _).1 fresh)
    rw [← List.singleton_append, ← List.append_assoc] at distinct ⊢
    obtain ⟨last, done, lastCarries⟩ :=
      inductionHypothesis (carries.including fresh) restNamed distinct
    refine ⟨last, ?_, lastCarries⟩
    rw [List.singleton_append, List.foldlM_cons, set_eq firstNamed, notMade]
    exact done

/-- Behind settings of different options, the first of an option that was set is refused. -/
theorem foldlM_set_of_repeated {front back : List Setting} {again : Setting}
    (named : ∀ setting ∈ front ++ again :: back, setting ≠ .project "")
    (distinct : (front.map Setting.option).Nodup)
    (known : again.option ∈ front.map Setting.option) :
    (front ++ again :: back).foldlM set start = .error (.repeated again.option) := by
  obtain ⟨frontNamed, othersNamed⟩ := List.forall_mem_append.1 named
  obtain ⟨last, done, carries⟩ := carries_start.foldlM_set frontNamed distinct
  have made : (last.made? again.option).isSome = true := (carries.isSome_made? _).2 known
  rw [List.foldlM_append, done]
  show (again :: back).foldlM set last = _
  rw [List.foldlM_cons, set_eq (othersNamed again List.mem_cons_self), made]
  rfl

/-- One setting more between settings of different options is refused if its option is among
theirs: at its own turn if the other one was made before, else at the turn of the other
one. -/
theorem foldlM_set_inserted {above below : List Setting} {again : Setting}
    (named : ∀ setting ∈ above ++ again :: below, setting ≠ .project "")
    (distinct : ((above ++ below).map Setting.option).Nodup)
    (known : again.option ∈ (above ++ below).map Setting.option) :
    (above ++ again :: below).foldlM set start = .error (.repeated again.option) := by
  rw [List.map_append] at distinct known
  rcases List.mem_append.1 known with before | behind
  · exact foldlM_set_of_repeated named (distinct.sublist (List.sublist_append_left _ _)) before
  · obtain ⟨other, member, same⟩ := List.mem_map.1 behind
    obtain ⟨between, rest, rfl⟩ := List.append_of_mem member
    have frontDistinct : ((above ++ again :: between).map Setting.option).Nodup := by
      rw [List.map_append, List.map_cons, ← List.append_assoc, List.nodup_middle] at distinct
      rw [List.map_append, List.map_cons, ← same, List.nodup_middle]
      exact distinct.sublist ((List.sublist_append_left _ _).cons_cons _)
    have together : above ++ again :: (between ++ other :: rest) =
        (above ++ again :: between) ++ other :: rest := by simp
    rw [together] at named ⊢
    rw [← same]
    apply foldlM_set_of_repeated named frontDistinct
    rw [same]
    exact List.mem_map_of_mem (List.mem_append_right _ List.mem_cons_self)

/-- With nothing pending there is nothing to settle. -/
theorem settle_of_settled {progress : Progress} (settled : progress.pending = none) :
    progress.settle = .ok progress := by
  rw [settle, settled]

/-- Giving an option its value changes nothing about what is pending. -/
theorem pending_of_assign {progress next : Progress} {option : ValueOption} {value : String}
    (done : progress.assign option value = .ok next) : next.pending = progress.pending := by
  cases option with
  | project =>
    simp only [assign] at done
    split at done
    · cases done
    · split at done
      · cases done
      · obtain rfl := Except.ok.inj done
        rfl
  | form =>
    simp only [assign] at done
    split at done
    · cases done
    · split at done
      · cases done
      · split at done
        · cases done
        · obtain rfl := Except.ok.inj done
          rfl

/-- Settling leaves nothing pending. -/
theorem pending_of_settle {progress settled : Progress} (done : progress.settle = .ok settled) :
    settled.pending = none := by
  unfold settle at done
  split at done
  · rename_i nonePending
    obtain rfl := Except.ok.inj done
    exact nonePending
  · cases done
  · exact pending_of_assign done

/-- Making a setting leaves nothing pending. -/
theorem settle_after_set {setting : Setting} (named : setting ≠ .project "") {settled : Progress}
    (nonePending : settled.pending = none) :
    (settled.set setting).bind settle = settled.set setting := by
  rw [set_eq named]
  split
  · rfl
  · exact settle_of_settled ((pending_including settled setting).trans nonePending)

/-- Settling an option that is pending with its value gives it the value. -/
theorem settle_pending {settled : Progress} (nonePending : settled.pending = none)
    (option : ValueOption) (value : String) :
    ({ settled with pending := some (option, some value) } : Progress).settle =
      settled.assign option value := by
  obtain ⟨project, form, listRules, debug, pending⟩ := settled
  obtain rfl : pending = none := nonePending
  rfl

/-- What reading some arguments does once what was pending is settled. -/
def Reads (word : List String) (take : Progress → Except UsageError Progress) : Prop :=
  ∀ (progress : Progress) (rest : List String), progress.readAll (word ++ rest) =
    (orUsage (progress.settle.bind take)).bind fun next => next.readAll rest

/-- An option with its value attached is given the value. -/
theorem reads_attached {argument : String} {spelled : Argument} {option : ValueOption}
    {value : String} (isSpelled : Argument.ofString argument = spelled)
    (noSeparator : spelled ≠ .separator)
    (meant : ∀ progress : Progress,
      progress.read spelled = orUsage (progress.readOption option (some value))) :
    Reads [argument] fun settled => settled.assign option value := by
  intro progress rest
  subst isSpelled
  rw [List.singleton_append, readAll_cons noSeparator, meant, readOption_eq]

/-- An option without a value attached is pending with the text behind it. -/
theorem reads_apart {argument value : String} {spelled : Argument} {option : ValueOption}
    (isSpelled : Argument.ofString argument = spelled) (noSeparator : spelled ≠ .separator)
    (meant : ∀ progress : Progress,
      progress.read spelled = orUsage (progress.readOption option none))
    (isPlain : Argument.ofString value = .plain value) :
    Reads [argument, value] fun settled =>
      .ok { settled with pending := some (option, some value) } := by
  intro progress rest
  subst isSpelled
  rw [List.cons_append, List.singleton_append, readAll_cons noSeparator, meant, readOption_eq]
  cases progress.settle with
  | error failure => rfl
  | ok settled =>
    show ({ settled with pending := some (option, none) } : Progress).readAll (value :: rest) = _
    rw [readAll_cons (by rw [isPlain]; nofun), isPlain]
    rfl

/-- A flag is raised. -/
theorem reads_flag {argument : String} {spelled : Argument} {flag : Flag}
    (isSpelled : Argument.ofString argument = spelled) (noSeparator : spelled ≠ .separator)
    (meant : ∀ progress : Progress, progress.read spelled = orUsage (progress.readFlag flag)) :
    Reads [argument] fun settled => settled.raise flag := by
  intro progress rest
  subst isSpelled
  rw [List.singleton_append, readAll_cons noSeparator, meant, readFlag_eq]

/-- A spelling makes its setting or leaves it pending, which comes to the same once that is
settled too. -/
theorem exists_reads_of_spells {setting : Setting} {word : List String}
    (spells : setting.Spells word) :
    ∃ take : Progress → Except UsageError Progress, Reads word take ∧
      ∀ settled : Progress, settled.pending = none →
        (take settled).bind settle = settled.set setting := by
  have made : ∀ settled : Progress, settled.pending = none →
      (settled.set setting).bind settle = settled.set setting :=
    fun _ nonePending => settle_after_set spells.ne_project_empty nonePending
  cases spells with
  | @longJoined root nonempty =>
    have free : '=' ∉ "project".toList := by decide
    have spelled : Argument.ofString ("--project=" ++ root) = .long "project" (some root) :=
      Argument.ofString_longJoined free root
    exact ⟨_, reads_attached spelled nofun fun _ => rfl, made⟩
  | @longApart root nonempty plain =>
    exact ⟨_, reads_apart rfl nofun (fun _ => rfl) (Argument.ofString_plain nonempty plain),
      fun _ nonePending => settle_pending nonePending .project root⟩
  | @shortApart root nonempty plain =>
    exact ⟨_, reads_apart rfl nofun (fun _ => rfl) (Argument.ofString_plain nonempty plain),
      fun _ nonePending => settle_pending nonePending .project root⟩
  | @shortEquals root nonempty =>
    have spelled : Argument.ofString ("-p=" ++ root) = .short 'p' ("=" ++ root) := by
      rw [← Argument.ofString_shortJoined, ← String.append_assoc]
      rfl
    have meant (progress : Progress) : progress.read (.short 'p' ("=" ++ root)) =
        orUsage (progress.readOption .project (some root)) := by
      rw [← Argument.attachedValue_equals]
      rfl
    exact ⟨_, reads_attached spelled nofun meant, made⟩
  | @shortJoined root nonempty noEquals =>
    have meant (progress : Progress) : progress.read (.short 'p' root) =
        orUsage (progress.readOption .project (some root)) := by
      rw [← Argument.attachedValue_joined nonempty noEquals]
      rfl
    exact ⟨_, reads_attached (Argument.ofString_shortJoined root) nofun meant, made⟩
  | formJoined asked =>
    have free : '=' ∉ "format".toList := by decide
    have spelled : Argument.ofString ("--format=" ++ asked.name) =
        .long "format" (some asked.name) := Argument.ofString_longJoined free asked.name
    exact ⟨_, reads_attached spelled nofun fun _ => rfl, made⟩
  | formApart asked =>
    have plain : Argument.ofString asked.name = .plain asked.name := by cases asked <;> rfl
    exact ⟨_, reads_apart rfl nofun (fun _ => rfl) plain,
      fun _ nonePending => settle_pending nonePending .form asked.name⟩
  | listRules => exact ⟨_, reads_flag rfl nofun fun _ => rfl, made⟩
  | debug => exact ⟨_, reads_flag rfl nofun fun _ => rfl, made⟩

/-- Reading spelled settings is settling what is pending and making the settings one after the
other. The induction is on the settings: what the first leaves pending is settled by the
next, or by the end. -/
theorem readAll_spelled {settings : List Setting} {words : List (List String)}
    (spelled : List.Forall₂ Setting.Spells settings words) (progress : Progress) :
    progress.readAll words.flatten =
      orUsage (progress.settle.bind fun settled => settings.foldlM set settled) := by
  induction spelled generalizing progress with
  | nil =>
    rw [List.flatten_nil, readAll]
    cases progress.settle <;> rfl
  | @cons setting word settings words spells _ inductionHypothesis =>
    obtain ⟨take, reads, settledAfter⟩ := exists_reads_of_spells spells
    rw [List.flatten_cons, reads]
    cases done : progress.settle with
    | error failure => rfl
    | ok settled =>
      have madeNext : (setting :: settings).foldlM set settled =
          ((take settled).bind settle).bind fun next => settings.foldlM set next := by
        rw [settledAfter settled (pending_of_settle done)]
        rfl
      show (orUsage (take settled)).bind _ = orUsage ((setting :: settings).foldlM set settled)
      rw [madeNext]
      cases take settled with
      | error failure => rfl
      | ok next => exact inductionHypothesis next

end Progress

namespace Options

/-- Which settings ask for some options. -/
theorem mem_settings {options : Options} {formSaid : Bool} (setting : Setting) :
    setting ∈ options.settings formSaid ↔
      match setting with
      | .project root => options.project = some root
      | .form form => formSaid = true ∧ options.form = form
      | .raise .listRules => options.listRules = true
      | .raise .debug => options.debug = true := by
  obtain ⟨project, form, listRules, debug⟩ := options
  rcases setting with root | asked | (_ | _) <;> cases formSaid <;> cases listRules <;>
    cases debug <;> simp [settings, eq_comm]

/-- No two of the settings are of the same option. -/
theorem nodup_settings (options : Options) (formSaid : Bool) :
    ((options.settings formSaid).map Setting.option).Nodup := by
  obtain ⟨project, form, listRules, debug⟩ := options
  cases project <;> cases formSaid <;> cases listRules <;> cases debug <;>
    simp [settings, Setting.option]

/-- What carries the settings for some options gives these options. -/
theorem eq_of_carries {progress : Progress} {settings : List Setting} {options : Options}
    {formSaid : Bool} (carries : progress.Carries settings)
    (order : settings.Perm (options.settings formSaid))
    (leftOut : formSaid = false → options.form = .human) : progress.options = options := by
  have asked (setting : Setting) := (carries setting).trans
    (order.mem_iff.trans (mem_settings setting))
  have sameProject : progress.project = options.project := by
    refine Option.ext fun root => ?_
    simpa [Progress.made?, Setting.option] using asked (.project root)
  have sameForm : progress.form.getD .human = options.form := by
    have said (form : ReportForm) :
        progress.form = some form ↔ formSaid = true ∧ options.form = form := by
      simpa [Progress.made?, Setting.option] using asked (.form form)
    cases formSaid with
    | true => rw [(said options.form).2 ⟨rfl, rfl⟩, Option.getD_some]
    | false =>
      have unsaid : progress.form = none :=
        Option.eq_none_iff_forall_ne_some.2 fun form found => nomatch ((said form).1 found).1
      rw [unsaid, leftOut rfl, Option.getD_none]
  have sameListRules : progress.listRules = options.listRules := by
    rw [Bool.eq_iff_iff]
    simpa [Progress.made?, Setting.option] using asked (.raise .listRules)
  have sameDebug : progress.debug = options.debug := by
    rw [Bool.eq_iff_iff]
    simpa [Progress.made?, Setting.option] using asked (.raise .debug)
  rw [Progress.options, sameProject, sameForm, sameListRules, sameDebug]

/-- Reading spelled settings is making them from the start on. -/
theorem parse_flatten {settings : List Setting} {words : List (List String)}
    (spelled : List.Forall₂ Setting.Spells settings words) :
    parse words.flatten =
      (Progress.orUsage (settings.foldlM Progress.set .start)).map Progress.options := by
  rw [parse, Progress.readAll_spelled spelled]
  rfl

/-- Reading undoes spelling. Whatever the options, the settings that ask for them may stand in
any order, each in any of its spellings, and the form may be left out if it is the one for
people: the same options come out. If one of these settings' options is given once more, in
any spelling and anywhere between two settings, in front of them or behind them, the arguments
are refused because it is repeated. -/
theorem parse_spelled {options : Options} {formSaid : Bool}
    (leftOut : formSaid = false → options.form = .human) {settings : List Setting}
    (order : settings.Perm (options.settings formSaid)) {words : List (List String)}
    (spelled : List.Forall₂ Setting.Spells settings words) :
    parse words.flatten = .ok options ∧
      ∀ (again : Setting) (word : List String) (above below : List (List String)),
        again.option ∈ settings.map Setting.option → again.Spells word →
          words = above ++ below →
            parse (above ++ word :: below).flatten =
              .error (.usage (.repeated again.option)) := by
  have distinct : (settings.map Setting.option).Nodup :=
    (order.map Setting.option).nodup_iff.2 (nodup_settings options formSaid)
  constructor
  · obtain ⟨last, made, carries⟩ :=
      Progress.carries_start.foldlM_set (Setting.ne_project_empty_of_spelled spelled) distinct
    rw [parse_flatten spelled, made]
    exact congrArg Except.ok (eq_of_carries carries order leftOut)
  · rintro again word above below known spells rfl
    have spelledAbove := List.forall₂_take_append settings above below spelled
    have spelledBelow := List.forall₂_drop_append settings above below spelled
    have spelledAgain := List.rel_append spelledAbove (.cons spells spelledBelow)
    rw [← List.take_append_drop above.length settings] at distinct known
    rw [parse_flatten spelledAgain,
      Progress.foldlM_set_inserted (Setting.ne_project_empty_of_spelled spelledAgain) distinct
        known]
    rfl

/-- A project that looks like a flag stands attached behind a flag and a form, and a project
that looks like a form is given once more between them. -/
theorem parse_spelled_disguised :
    let options : Options := ⟨some "--debug", .json, true, false⟩
    let settings : List Setting := [.raise .listRules, .form .json, .project "--debug"]
    let words := [["--list-rules"], ["--format", "json"], ["-p--debug"]]
    settings.Perm (options.settings true) ∧ List.Forall₂ Setting.Spells settings words ∧
      parse ["--list-rules", "--format", "json", "-p--debug"] = .ok options ∧
      parse ["--list-rules", "-p", "json", "--format", "json", "-p--debug"] =
        .error (.usage (.repeatedOption .project)) := by
  intro options settings words
  have order : settings.Perm (options.settings true) := by decide
  have spelled : List.Forall₂ Setting.Spells settings words :=
    .cons .listRules (.cons (.formApart .json) (.cons (.shortJoined (by decide) (by decide)) .nil))
  have said : true = false → options.form = .human := nofun
  obtain ⟨parsed, refused⟩ := parse_spelled said order spelled
  have known : (Setting.project "json").option ∈ settings.map Setting.option :=
    List.mem_map.2 ⟨.project "--debug", by decide, rfl⟩
  exact ⟨order, spelled, parsed, refused (.project "json") ["-p", "json"] [["--list-rules"]]
    [["--format", "json"], ["-p--debug"]] known (.shortApart (by decide) (by decide)) rfl⟩

end Options

end ManifestAudit
