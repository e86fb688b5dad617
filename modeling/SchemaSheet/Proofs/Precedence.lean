import SchemaSheet.Proofs.Growth
import SchemaSheet.Proofs.Help

/-! The command line comes before the environment. An option that is given has its value when the
environment is asked, so the value of its variable decides nothing: two runs in environments that
differ in that variable leave the same files, tell the same and end alike. Only the help text shows
what the environment holds, and only where it shows that value. A misused command line is found out
before anything is done. -/

namespace SchemaSheet

/-- Two environments have the same values, but perhaps for one name. -/
def Environment.AgreesExcept (name : Text) (env env' : Environment) : Prop :=
  ∀ n, n ≠ name → env.value? n = env'.value? n

theorem Environment.agreesExcept_of_singleton (name value : Text) :
    AgreesExcept name [(name, value)] [] := by
  intro n hn
  have hne : (n == name) = false := by simpa using hn
  rw [value?, List.lookup_cons, hne]
  rfl

theorem Environment.AgreesExcept.symm {name : Text} {env env' : Environment}
    (h : env.AgreesExcept name env') : env'.AgreesExcept name env :=
  fun n hn => (h n hn).symm

/-- No file of settings stands in the working directory or above it. -/
def EnvFile.Absent (fs : Files) : Prop :=
  ∀ p, p <+: fs.here → ∀ bytes, fs.find? (p ++ [fileName]) ≠ some (.file bytes)

theorem Files.nearest?_eq_none {fs : Files} {name : Text} {names : List Text}
    (h : ∀ p, p <+: names.reverse → ∀ bytes, fs.find? (p ++ [name]) ≠ some (.file bytes)) :
    fs.nearest? name names = none := by
  induction names with
  | nil =>
    rw [nearest?]
    split
    · next bytes hfile => exact absurd hfile (h [] (List.nil_prefix) bytes)
    · rfl
  | cons last above ih =>
    rw [nearest?]
    split
    · next bytes hfile => exact absurd hfile (h _ (List.prefix_refl _) bytes)
    · apply ih
      intro p hp
      rw [List.reverse_cons] at h
      exact h p (hp.trans (List.prefix_append _ _))

theorem EnvFile.absent_of_root {fs : Files} (hhere : fs.here = [])
    (h : fs.find? [fileName] = none) : Absent fs := by
  intro p hp bytes
  rw [hhere, List.prefix_nil] at hp
  rw [hp, List.nil_append, h]
  exact nofun

theorem Command.Invocation.settled_of_absent {i : Invocation} (h : EnvFile.Absent i.files) :
    i.settled = i.environment := by
  rw [settled, Files.nearest?_eq_none (by rw [List.reverse_reverse]; exact h), EnvFile.load]

namespace CommandOption

/-- The argument is the option, alone or with a value behind an equals sign. -/
def GivenBy (o : CommandOption) (argument : Text) : Prop :=
  argument = "--".toList ++ o.name ∨ ∃ value, argument = "--".toList ++ (o.name ++ '=' :: value)

/-- The option stands among the arguments. -/
def Given (o : CommandOption) (arguments : List Text) : Prop := ∃ a ∈ arguments, o.GivenBy a

theorem equals_not_mem_name (o : CommandOption) : '=' ∉ o.name := by
  cases o <;> decide

theorem find?_name (o : CommandOption) : all.find? (·.name == o.name) = some o := by
  cases o <;> decide

theorem name_ne_nil (o : CommandOption) : o.name ≠ [] := by
  cases o <;> decide

theorem GivenBy.ne_dashes {o : CommandOption} {argument : Text} (h : o.GivenBy argument) :
    argument ≠ "--".toList := by
  rcases h with rfl | ⟨value, rfl⟩
  · intro h
    exact o.name_ne_nil (List.append_right_eq_self.1 h)
  · intro h
    exact List.append_ne_nil_of_left_ne_nil o.name_ne_nil _ (List.append_right_eq_self.1 h)

end CommandOption

namespace Arguments

variable {a b : Arguments} {o : CommandOption}

/-- An option that is given a value has one, and no other option is touched. -/
theorem has_give {value : Text} (h : a.give o value = .ok b) (p : CommandOption) :
    b.has p = (decide (p = o) || a.has p) := by
  cases o with
  | schemaPath =>
    simp only [give] at h
    split at h
    · cases h
    · cases h
      cases p <;> rfl
  | output =>
    simp only [give] at h
    split at h
    · cases h
    · cases h
      cases p <;> rfl
  | format =>
    simp only [give] at h
    split at h
    · cases h
      cases p <;> rfl
    · cases h

theorem has_takeOption {value : Option Text} (h : a.takeOption o value = .ok b)
    (p : CommandOption) : b.has p = (decide (p = o) || a.has p) := by
  cases value with
  | none => cases h
  | some value =>
    rw [takeOption] at h
    split at h
    · cases h
    · exact has_give h p

end Arguments

namespace ArgumentReader

variable {r r' : ArgumentReader} {a : Arguments} {o : CommandOption}

/-- The option was met, be it that it is still pending. -/
def Met (r : ArgumentReader) (o : CommandOption) : Prop :=
  r.given.has o = true ∨ ∃ value, r.pending = some (o, value)

/-- What one argument that is not the last word makes of the reader. -/
inductive Advances (r : ArgumentReader) : ArgumentReader → Prop
  | value {p : CommandOption} {value : Text} : r.pending = some (p, none) →
    Advances r { r with pending := some (p, some value) }
  | option {a : Arguments} {p : CommandOption} : r.settle = .ok a → Advances r ⟨a, some (p, none)⟩
  | valued {a b : Arguments} {p : CommandOption} {value : Text} : r.settle = .ok a →
    a.takeOption p (some value) = .ok b → Advances r ⟨b, none⟩
  | flag {a b : Arguments} : r.settle = .ok a → (∀ p, b.has p = a.has p) → Advances r ⟨b, none⟩

theorem has_of_settle (h : r.settle = .ok a) (hr : r.Met o) : a.has o = true := by
  unfold settle at h
  cases hp : r.pending with
  | none =>
    rw [hp] at h
    cases h
    rcases hr with hr | ⟨value, hr⟩
    · exact hr
    · rw [hp] at hr
      cases hr
  | some pending =>
    obtain ⟨p, value⟩ := pending
    rw [hp] at h
    rw [Arguments.has_takeOption h o, Bool.or_eq_true, decide_eq_true_eq]
    rcases hr with hr | ⟨value', hr⟩
    · exact Or.inr hr
    · rw [hp] at hr
      cases hr
      exact Or.inl rfl

theorem Advances.met (h : Advances r r') (hr : r.Met o) : r'.Met o := by
  cases h with
  | value hp =>
    rcases hr with hr | ⟨value', hr⟩
    · exact Or.inl hr
    · rw [hp] at hr
      cases hr
      exact Or.inr ⟨_, rfl⟩
  | option hs => exact Or.inl (has_of_settle hs hr)
  | valued hs hb =>
    refine Or.inl ?_
    rw [Arguments.has_takeOption hb o, has_of_settle hs hr, Bool.or_true]
  | flag hs hb =>
    refine Or.inl ?_
    rw [hb o]
    exact has_of_settle hs hr

/-- A flag is taken behind what was pending; it is set, or it stops the reader. -/
theorem takeFlag_eq_ok {f : Flag} {step : Step} (h : r.takeFlag f = .ok step) :
    (∃ r', step = .more r' ∧ r.Advances r') ∨ step = .stop .help ∨ step = .stop .version := by
  obtain ⟨a, hs, h⟩ := bind_eq_ok.1 h
  cases f with
  | minimal =>
    simp only at h
    split at h
    · cases h
    · cases h
      exact Or.inl ⟨_, rfl, .flag hs fun p => by cases p <;> rfl⟩
  | strict =>
    simp only at h
    split at h
    · cases h
    · cases h
      exact Or.inl ⟨_, rfl, .flag hs fun p => by cases p <;> rfl⟩
  | help =>
    cases h
    exact Or.inr (Or.inl rfl)
  | version =>
    cases h
    exact Or.inr (Or.inr rfl)

theorem takeLong_eq_ok {name : Text} {value : Option Text} {step : Step}
    (h : r.takeLong name value = .ok step) :
    (∃ r', step = .more r' ∧ r.Advances r') ∨ step = .stop .help ∨ step = .stop .version := by
  unfold takeLong at h
  split at h
  · obtain ⟨a, hs, h⟩ := bind_eq_ok.1 h
    obtain ⟨b, hb, h⟩ := bind_eq_ok.1 h
    cases h
    exact Or.inl ⟨_, rfl, .valued hs hb⟩
  · obtain ⟨a, hs, h⟩ := bind_eq_ok.1 h
    cases h
    exact Or.inl ⟨_, rfl, .option hs⟩
  · exact takeFlag_eq_ok h
  · cases h
  · cases h

theorem takeShort_eq_ok {letter : Char} {step : Step} (h : r.takeShort letter = .ok step) :
    (∃ r', step = .more r' ∧ r.Advances r') ∨ step = .stop .help ∨ step = .stop .version := by
  unfold takeShort at h
  split at h
  · exact takeFlag_eq_ok h
  · split at h
    · exact takeFlag_eq_ok h
    · cases h

theorem takeValue_eq_ok {value : Text} {step : Step} (h : r.takeValue value = .ok step) :
    ∃ r', step = .more r' ∧ r.Advances r' := by
  unfold takeValue at h
  split at h
  · next hp =>
    cases h
    exact ⟨_, rfl, .value hp⟩
  · cases h

theorem take_eq_ok {argument : Text} {step : Step} (h : r.take argument = .ok step) :
    (∃ r', step = .more r' ∧ r.Advances r') ∨ step = .stop .help ∨ step = .stop .version := by
  unfold take at h
  split at h
  · exact takeLong_eq_ok h
  · exact takeShort_eq_ok h
  · exact Or.inl (takeValue_eq_ok h)

theorem split_of_not_mem {name : Text} (h : '=' ∉ name) : split name = (name, none) := by
  have hall : ∀ c ∈ name, (c != '=') = true := fun c hc => by
    rw [bne_iff_ne]
    rintro rfl
    exact h hc
  simp [split, List.takeWhile_eq_self_iff.2 hall, List.dropWhile_eq_nil_iff.2 hall]

theorem split_append {name : Text} (h : '=' ∉ name) (value : Text) :
    split (name ++ '=' :: value) = (name, some value) := by
  have hall : ∀ c ∈ name, (c != '=') = true := fun c hc => by
    rw [bne_iff_ne]
    rintro rfl
    exact h hc
  simp [split, List.takeWhile_append_of_pos hall, List.dropWhile_append_of_pos hall]

theorem met_of_take {argument : Text} (h : r.take argument = .ok (.more r'))
    (ho : o.GivenBy argument) : r'.Met o := by
  rcases ho with rfl | ⟨value, rfl⟩
  · change (r.takeLong (split o.name).1 (split o.name).2) = _ at h
    rw [split_of_not_mem o.equals_not_mem_name] at h
    unfold takeLong at h
    rw [o.find?_name] at h
    obtain ⟨a, hs, h⟩ := bind_eq_ok.1 h
    cases h
    exact Or.inr ⟨none, rfl⟩
  · change (r.takeLong (split (o.name ++ '=' :: value)).1
      (split (o.name ++ '=' :: value)).2) = _ at h
    rw [split_append o.equals_not_mem_name] at h
    unfold takeLong at h
    rw [o.find?_name] at h
    obtain ⟨a, hs, h⟩ := bind_eq_ok.1 h
    obtain ⟨b, hb, h⟩ := bind_eq_ok.1 h
    cases h
    refine Or.inl ?_
    rw [Arguments.has_takeOption hb o]
    simp

/-- Whatever stands around it, an option that is given has a value if the arguments are
understood. -/
theorem has_of_takeAll {arguments : List Text} (h : r.takeAll arguments = .ok (.run a))
    (ho : r.Met o ∨ o.Given arguments) : a.has o = true := by
  -- along the arguments: the option is met already, or is still to come
  induction arguments generalizing r with
  | nil =>
    obtain ⟨b, hs, h⟩ := bind_eq_ok.1 h
    cases h
    rcases ho with hr | ⟨argument, hmem, -⟩
    · exact has_of_settle hs hr
    · cases hmem
  | cons argument rest ih =>
    unfold takeAll at h
    split at h
    · next hdashes =>
      -- nothing may follow a double dash, so the option was met before it
      cases rest with
      | cons extra more => cases h
      | nil =>
        obtain ⟨b, hs, h⟩ := bind_eq_ok.1 h
        cases h
        rcases ho with hr | ⟨given, hmem, hgiven⟩
        · exact has_of_settle hs hr
        · exact absurd ((List.mem_singleton.1 hmem).trans hdashes) hgiven.ne_dashes
    · cases ht : r.take argument with
      | error e =>
        rw [ht] at h
        cases h
      | ok step =>
        rw [ht] at h
        rcases take_eq_ok ht with ⟨r', rfl, hadv⟩ | rfl | rfl
        · apply ih h
          rcases ho with hr | ⟨given, hmem, hgiven⟩
          · exact Or.inl (hadv.met hr)
          · rcases List.mem_cons.1 hmem with rfl | hrest
            · exact Or.inl (met_of_take ht hgiven)
            · exact Or.inr ⟨given, hrest, hgiven⟩
        · cases h
        · cases h

end ArgumentReader

namespace Arguments

variable {a b : Arguments} {o : CommandOption} {env env' : Environment}

theorem has_fromEnvironment {p : CommandOption} (h : fromEnvironment env a p = .ok b)
    (ho : a.has o = true) : b.has o = true := by
  unfold fromEnvironment at h
  split at h
  · cases h
    exact ho
  · split at h
    · rw [has_give h o, ho, Bool.or_true]
    · cases h
      exact ho

/-- An option that has a value is not looked for in the environment. -/
theorem fromEnvironment_congr (h : env.AgreesExcept o.variableName env') (ho : a.has o = true)
    (p : CommandOption) : fromEnvironment env a p = fromEnvironment env' a p := by
  unfold fromEnvironment
  split
  · rfl
  · next hp =>
    have hne : p.variableName ≠ o.variableName := by
      cases p <;> cases o <;> first | exact absurd ho hp | decide
    rw [h _ hne]

theorem foldlM_fromEnvironment_congr (h : env.AgreesExcept o.variableName env')
    (ho : a.has o = true) (options : List CommandOption) :
    options.foldlM (fromEnvironment env) a = options.foldlM (fromEnvironment env') a := by
  induction options generalizing a with
  | nil => rfl
  | cons p options ih =>
    rw [List.foldlM_cons, List.foldlM_cons, ← fromEnvironment_congr h ho p]
    cases hp : fromEnvironment env a p with
    | error e => rfl
    | ok b => exact ih (has_fromEnvironment hp ho)

theorem read_congr {arguments : List Text} (hgiven : o.Given arguments)
    (h : env.AgreesExcept o.variableName env') : read env arguments = read env' arguments := by
  unfold read
  cases ht : ArgumentReader.takeAll {} arguments with
  | error e => rfl
  | ok order =>
    cases order with
    | help => rfl
    | version => rfl
    | run a =>
      have ho : a.has o = true := ArgumentReader.has_of_takeAll ht (Or.inr hgiven)
      change (CommandOption.all.foldlM (fromEnvironment env) a >>= _) =
        (CommandOption.all.foldlM (fromEnvironment env') a >>= _)
      rw [foldlM_fromEnvironment_congr h ho]

theorem read_eq_ok_help_iff {arguments : List Text} :
    read env arguments = .ok .help ↔ ArgumentReader.takeAll {} arguments = .ok .help := by
  unfold read
  cases ht : ArgumentReader.takeAll {} arguments with
  | error e => exact ⟨nofun, nofun⟩
  | ok order =>
    cases order with
    | help => exact ⟨fun _ => rfl, fun _ => rfl⟩
    | version => exact ⟨nofun, nofun⟩
    | run a =>
      refine ⟨fun h => ?_, nofun⟩
      change (CommandOption.all.foldlM (fromEnvironment env) a >>= _) = _ at h
      obtain ⟨b, -, hb⟩ := bind_eq_ok.1 h
      cases hb

end Arguments

namespace Command

variable {env env' : Environment} {o : CommandOption}

theorem logFilter_congr (h : env.AgreesExcept o.variableName env') :
    logFilter env = logFilter env' := by
  rw [logFilter, logFilter, h logVariable (by cases o <;> decide)]

theorem keepsStyles_congr (h : env.AgreesExcept o.variableName env') :
    keepsStyles env = keepsStyles env' := by
  rw [keepsStyles, keepsStyles, h "NO_COLOR".toList (by cases o <;> decide),
    h "CLICOLOR_FORCE".toList (by cases o <;> decide)]

theorem usageText_congr (h : env.AgreesExcept o.variableName env') (e : UsageFault)
    (advice : Text) : usageText env e advice = usageText env' e advice := by
  rw [usageText, usageText, keepsStyles_congr h]

end Command

namespace Help

variable {env env' : Environment} {o : CommandOption}

theorem ofOption_congr (h : env.AgreesExcept o.variableName env') {p : CommandOption}
    (hp : p ≠ o) : ofOption env p = ofOption env' p := by
  have hname : p.variableName ≠ o.variableName := by
    cases p <;> cases o <;> first | exact absurd rfl hp | decide
  rw [ofOption, ofOption, valueOf, valueOf, h _ hname]

theorem before_congr (h : env.AgreesExcept o.variableName env') : before env o = before env' o := by
  have hentries : (CommandOption.all.takeWhile (· != o)).flatMap (ofOption env) =
      (CommandOption.all.takeWhile (· != o)).flatMap (ofOption env') := by
    refine List.flatMap_congr fun p hp => ofOption_congr h ?_
    simpa using List.mem_takeWhile_imp hp
  rw [before, before, hentries]

theorem after_congr (h : env.AgreesExcept o.variableName env') : after env o = after env' o := by
  have hentries : ((CommandOption.all.dropWhile (· != o)).drop 1).flatMap (ofOption env) =
      ((CommandOption.all.dropWhile (· != o)).drop 1).flatMap (ofOption env') := by
    refine List.flatMap_congr fun p hp => ofOption_congr h ?_
    rintro rfl
    cases p <;> exact absurd hp (by decide)
  rw [after, after, hentries]

theorem shownBefore_congr (h : env.AgreesExcept o.variableName env') :
    shownBefore env o = shownBefore env' o := by
  rw [shownBefore, shownBefore, Command.keepsStyles_congr h, before_congr h]

theorem shownAfter_congr (h : env.AgreesExcept o.variableName env') :
    shownAfter env o = shownAfter env' o := by
  rw [shownAfter, shownAfter, Command.keepsStyles_congr h, after_congr h]

end Help

namespace Command

/-- A request that is carried out is no misuse of the command line. -/
theorem status_report_ne (filter : LogFilter) (r : Request)
    (done : Except ExtractFault Summary × List LogRecord) : (report filter r done).status ≠ 2 := by
  obtain ⟨_ | _, _⟩ := done
  · exact (by decide : (1 : Nat) ≠ 2)
  · exact (by decide : (0 : Nat) ≠ 2)

/-- A misused command line is reported before anything is done. -/
theorem files_run_of_status {i : Invocation} (h : (run i).1.status = 2) : (run i).2 = i.files := by
  rw [run_eq] at h ⊢
  cases hread : Arguments.read i.settled i.arguments with
  | error e => rfl
  | ok order =>
    cases order with
    | help => rfl
    | version => rfl
    | run a =>
      rw [hread] at h
      exact absurd h (status_report_ne _ _ _)

/-- Two runs of a command line that gives an option, in environments that differ in the variable of
that option. Unless the command line asks for help, the runs leave the same report and the same
files: the same status, output, remarks and log. If it does, they differ in their output at most,
which is the printed help. The outputs are the same up to the place where the entry of that option
shows the value of its variable. If the value holds no escape character, with which it could begin a
control sequence that takes away what follows, they are the same behind it too; and it is shown as
it is if it holds no control characters at all. No misused command line changes a file. -/
theorem run_of_given (i : Invocation) (env : Environment) (o : CommandOption)
    (hgiven : o.Given i.arguments) (hfiles : EnvFile.Absent i.files)
    (henv : i.environment.AgreesExcept o.variableName env) :
    let other := run { i with environment := env }
    (ArgumentReader.takeAll {} i.arguments ≠ .ok .help → other = run i) ∧
    (ArgumentReader.takeAll {} i.arguments = .ok .help →
      (run i).1.output = helpText i.environment ∧
      other = ({ (run i).1 with output := helpText env }, (run i).2) ∧
      ∃ before after,
        " [env: ".toList ++ o.variableName ++ ['='] <:+ before ∧
        ∀ e, e = i.environment ∨ e = env →
          before <+: helpText e ∧
          ('\x1B' ∉ Help.valueOf e o →
            helpText e = before ++ Help.shownValue e o ++ after) ∧
          ((∀ c ∈ Help.valueOf e o, Terminal.Place.isControl c = false) →
            Help.shownValue e o = Help.valueOf e o)) ∧
    ∀ j : Invocation, (run j).1.status = 2 → (run j).2 = j.files := by
  intro other
  have hread := Arguments.read_congr hgiven henv
  have hfilter := logFilter_congr henv
  have hsettled (e : Environment) : Invocation.settled { i with environment := e } = e :=
    Invocation.settled_of_absent hfiles
  have hown : i.settled = i.environment := Invocation.settled_of_absent hfiles
  refine ⟨fun hhelp => ?_, fun hhelp => ?_, fun j => files_run_of_status⟩
  · show run { i with environment := env } = run i
    rw [run_eq, run_eq, hsettled, hown, ← hread]
    simp only [← hfilter]
    cases hr : Arguments.read i.environment i.arguments with
    | error e => simp only [usageText_congr henv]
    | ok order =>
      cases order with
      | help => exact absurd (Arguments.read_eq_ok_help_iff.1 hr) hhelp
      | version => rfl
      | run a => rfl
  · -- help is given before any value is looked at, whatever else the arguments say
    have hr : Arguments.read i.environment i.arguments = .ok .help :=
      Arguments.read_eq_ok_help_iff.2 hhelp
    have hrun (e : Environment) (he : Arguments.read e i.arguments = .ok .help) :
        run { i with environment := e } =
          ({ status := 0, output := helpText e, warnings := (logFilter e).warnings }, i.files) := by
      rw [run_eq]
      simp only [hsettled, he]
    have hfirst : run i = _ := hrun i.environment hr
    have hother : other = _ := hrun env (hread ▸ hr)
    have hbefore := Help.shownBefore_congr henv
    have hafter := Help.shownAfter_congr henv
    refine ⟨by rw [hfirst], by rw [hfirst, hother, hfilter], Help.shownBefore i.environment o,
      Help.shownAfter i.environment o, Help.suffix_shownBefore _ _, ?_⟩
    rintro e (rfl | rfl)
    · exact ⟨Help.shownBefore_prefix _ _, Help.helpText_eq, Help.shownValue_of_visible⟩
    · rw [hbefore, hafter]
      exact ⟨Help.shownBefore_prefix _ _, Help.helpText_eq, Help.shownValue_of_visible⟩

/-- A command line that asks for json, in an environment that asks for something unknown. -/
def Invocation.overriding : Invocation where
  arguments := ["--schema-path=s".toList, "--format".toList, "json".toList, "--strict".toList]
  environment := [(CommandOption.format.variableName, "ods".toList)]
  files := {
    entries := [([['s']], .file (Text.Utf8.encode "model A \x7b\nx T\n\x7d".toList))] }

/-- The same command line, but for a request for help at its end. -/
def Invocation.inquiring : Invocation :=
  { Invocation.overriding with
    arguments := Invocation.overriding.arguments ++ ["--help".toList] }

theorem run_of_given_overriding :
    let i := Invocation.overriding
    let asking := Invocation.inquiring
    run { i with environment := [] } = run i ∧ (run i).1.status = 0 ∧
    (∃ before after, " [env: DBDEF_FORMAT=".toList <:+ before ∧
      (run asking).1.output = before ++ "ods".toList ++ after ∧
      (run { asking with environment := [] }).1.output = before ++ after) ∧
    (run { i with arguments := i.arguments.take 1 }).1.status = 2 ∧
    (run { i with arguments := i.arguments.take 1 }).2 = i.files := by
  intro i asking
  have hgiven : CommandOption.format.Given i.arguments :=
    ⟨"--format".toList, by decide, Or.inl rfl⟩
  have hasking : CommandOption.format.Given asking.arguments :=
    ⟨"--format".toList, by decide, Or.inl rfl⟩
  have hfiles : EnvFile.Absent i.files := EnvFile.absent_of_root rfl (by decide)
  have henv : i.environment.AgreesExcept CommandOption.format.variableName [] :=
    Environment.agreesExcept_of_singleton _ _
  obtain ⟨hsame, -, hmisuse⟩ := run_of_given i [] .format hgiven hfiles henv
  obtain ⟨houtput, hother, before, after, hsuffix, hshown⟩ :=
    (run_of_given asking [] .format hasking hfiles henv).2.1 (by decide +kernel)
  have hvalue : Help.valueOf asking.environment .format = ['o', 'd', 's'] := by decide
  have hplain : ∀ c ∈ ['o', 'd', 's'], Terminal.Place.isControl c = false := by
    have hall : ['o', 'd', 's'].all (!Terminal.Place.isControl ·) = true := by decide
    simpa using hall
  obtain ⟨-, hset, hods⟩ := hshown _ (Or.inl rfl)
  obtain ⟨-, hunset, hnone⟩ := hshown _ (Or.inr rfl)
  have hstatus : (run { i with arguments := i.arguments.take 1 }).1.status = 2 := by
    decide +kernel
  refine ⟨hsame (by decide +kernel), by decide +kernel, ⟨before, after, hsuffix, ?_, ?_⟩,
    hstatus, hmisuse _ hstatus⟩
  · rw [houtput, hset (by decide), hods (hvalue ▸ hplain), hvalue]
    rfl
  · have hempty : Help.valueOf [] .format = [] := rfl
    rw [hother, hunset (by decide), hnone (by simp [hempty]), hempty, List.append_nil]

/-- The help text tells what the environment holds for an option that is given. -/
theorem output_run_ne_of_help :
    let i : Invocation := { arguments := ["--output".toList, ['a'], "--help".toList] }
    let env : Environment := [(CommandOption.output.variableName, ['b'])]
    CommandOption.output.Given i.arguments ∧ EnvFile.Absent i.files ∧
    i.environment.AgreesExcept CommandOption.output.variableName env ∧
    (run { i with environment := env }).1.output ≠ (run i).1.output := by
  intro i env
  exact ⟨⟨"--output".toList, by decide, Or.inl rfl⟩, EnvFile.absent_of_root rfl (by decide),
    (Environment.agreesExcept_of_singleton _ _).symm, by decide +kernel⟩

end Command

end SchemaSheet
