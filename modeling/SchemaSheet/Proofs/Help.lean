import Mathlib.Data.List.Basic
import SchemaSheet.Command.Run

/-! What the help text shows of the environment, as it is printed. Before the value of an option's
variable everything is printed whatever the value is, and behind it everything is if the value has
no control characters; with one it may begin a control sequence, which takes away what follows. -/

namespace SchemaSheet

namespace Terminal.Stripper

theorem strip_append (s : Stripper) (t u : Text) :
    s.strip (t ++ u) = s.strip t ++ (t.foldl next s).strip u := by
  induction t generalizing s with
  | nil => rfl
  | cons c t ih =>
    rw [List.cons_append, strip, strip, ih, List.foldl_cons]
    split <;> rfl

theorem next_of_visible {s : Stripper} {c : Char} (hs : s.place = .outside)
    (hc : Place.isControl c = false) : s.next c = ⟨.outside, true⟩ := by
  have hshows : Place.outside.shows c = true := by simp [Place.shows, hc]
  have hnext : Place.outside.next c = .outside := by
    simp [Place.next, hc, Place.afterVisible, Place.afterWide]
  unfold next
  rw [hs, hshows, hnext]
  split <;> simp

/-- A text without control characters is shown as it is. -/
theorem strip_of_visible {s : Stripper} (hs : s.place = .outside) {t : Text}
    (ht : ∀ c ∈ t, Place.isControl c = false) : s.strip t = t := by
  induction t generalizing s with
  | nil => rfl
  | cons c t ih =>
    rw [strip, next_of_visible hs (ht c List.mem_cons_self)]
    exact congrArg (c :: ·) (ih rfl fun d hd => ht d (List.mem_cons_of_mem c hd))

theorem foldl_next_of_visible {s : Stripper} (hs : s.place = .outside) {t : Text}
    (ht : ∀ c ∈ t, Place.isControl c = false) :
    t.foldl next s = if t = [] then s else ⟨.outside, true⟩ := by
  induction t generalizing s with
  | nil => rfl
  | cons c t ih =>
    rw [List.foldl_cons, next_of_visible hs (ht c List.mem_cons_self),
      ih rfl fun d hd => ht d (List.mem_cons_of_mem c hd)]
    simp

/-- Only an escape character begins a sequence. -/
theorem place_next {s : Stripper} {c : Char} (hs : s.place = .outside) (hc : c ≠ '\x1B') :
    (s.next c).place = .outside := by
  unfold next
  split
  · simp [hs]
  · simp [hs, Place.next, Place.afterControl, Place.afterVisible, Place.afterWide, hc]

theorem place_foldl_next {s : Stripper} (hs : s.place = .outside) {t : Text}
    (ht : '\x1B' ∉ t) : (t.foldl next s).place = .outside := by
  induction t generalizing s with
  | nil => exact hs
  | cons c t ih =>
    rw [List.mem_cons, not_or] at ht
    exact ih (place_next hs (Ne.symm ht.1)) ht.2

/-- Turning styles off leads out of every sequence. -/
theorem foldl_next_reset (s : Stripper) : Style.reset.foldl next s = ⟨.outside, false⟩ := by
  obtain ⟨place, shown⟩ := s
  cases place <;> cases shown <;> decide

end Terminal.Stripper

namespace Help

open Terminal

/-- What stands in the entry of an option between its name and the value of its variable. -/
def label (o : CommandOption) : Text :=
  o.shown.dropWhile (· != ' ') ++ List.replicate (aboutColumn - 6 - o.shown.length) ' ' ++
    indented (o.about ++ " [env: ".toList ++ o.variableName ++ ['='])

/-- What stands in the entry of an option behind the value of its variable. -/
def tail (o : CommandOption) : Text :=
  indented (']' :: defaultNote o) ++ ['\n']

theorem indented_append (t u : Text) : indented (t ++ u) = indented t ++ indented u :=
  List.flatMap_append

theorem indented_of_visible {t : Text} (h : ∀ c ∈ t, Place.isControl c = false) :
    indented t = t := by
  induction t with
  | nil => rfl
  | cons c t ih =>
    have hbreak : c ≠ '\n' := by
      rintro rfl
      exact absurd (h '\n' List.mem_cons_self) (by decide)
    have htail := ih fun d hd => h d (List.mem_cons_of_mem c hd)
    rw [indented, List.flatMap_cons, if_neg hbreak, ← indented, htail, List.singleton_append]

/-- The help text up to the value that the environment has for an option. -/
def before (env : Environment) (o : CommandOption) : Text :=
  usage ++ (CommandOption.all.takeWhile (· != o)).flatMap (ofOption env) ++
    "      ".toList ++ Style.literal.start ++ o.shown.takeWhile (· != ' ') ++ Style.reset ++ label o

def after (env : Environment) (o : CommandOption) : Text :=
  tail o ++ ((CommandOption.all.dropWhile (· != o)).drop 1).flatMap (ofOption env) ++
    Flag.all.flatMap ofFlag

theorem entry_none (shown about : Text) :
    entry none shown about = "      ".toList ++ Style.literal.on (shown.takeWhile (· != ' ')) ++
      shown.dropWhile (· != ' ') ++ List.replicate (aboutColumn - 6 - shown.length) ' ' ++
      indented about ++ ['\n'] := rfl

theorem ofOption_eq (env : Environment) (o : CommandOption) :
    ofOption env o = "      ".toList ++ Style.literal.start ++ o.shown.takeWhile (· != ' ') ++
      Style.reset ++ label o ++ indented (valueOf env o) ++ tail o := by
  have hparts :
      o.about ++ " [env: ".toList ++ o.variableName ++ ['='] ++ valueOf env o ++ [']'] ++
          defaultNote o =
        (o.about ++ " [env: ".toList ++ o.variableName ++ ['=']) ++ valueOf env o ++
          (']' :: defaultNote o) := by simp
  rw [ofOption, hparts, entry_none, indented_append, indented_append, label, tail, Style.on]
  simp only [List.append_assoc]

theorem text_eq (env : Environment) (o : CommandOption) :
    text env = before env o ++ indented (valueOf env o) ++ after env o := by
  have hall : CommandOption.all =
      CommandOption.all.takeWhile (· != o) ++ o ::
        (CommandOption.all.dropWhile (· != o)).drop 1 := by cases o <;> rfl
  have hentries : CommandOption.all.flatMap (ofOption env) =
      (CommandOption.all.takeWhile (· != o)).flatMap (ofOption env) ++ (ofOption env o ++
        ((CommandOption.all.dropWhile (· != o)).drop 1).flatMap (ofOption env)) := by
    rw [← List.flatMap_cons, ← List.flatMap_append, ← hall]
  rw [text, hentries, ofOption_eq, before, after]
  simp only [List.append_assoc]

theorem isControl_of_all {t : Text} (h : t.all (!Place.isControl ·) = true) :
    ∀ c ∈ t, Place.isControl c = false := by
  simpa using h

theorem isControl_label (o : CommandOption) : ∀ c ∈ label o, Place.isControl c = false :=
  isControl_of_all (by cases o <;> decide)

theorem suffix_label (o : CommandOption) :
    " [env: ".toList ++ o.variableName ++ ['='] <:+ label o := by
  have hname := isControl_of_all (t := " [env: ".toList ++ o.variableName ++ ['='])
    (by cases o <;> decide)
  rw [label, List.append_assoc o.about, List.append_assoc o.about, indented_append,
    indented_of_visible hname, ← List.append_assoc]
  exact List.suffix_append _ _

/-- Before the value nothing is left open, whatever the other values are. -/
theorem foldl_next_before (env : Environment) (o : CommandOption) (s : Stripper) :
    (before env o).foldl Stripper.next s = ⟨.outside, true⟩ := by
  have hne : label o ≠ [] := by cases o <;> decide
  rw [before, List.foldl_append, List.foldl_append, Stripper.foldl_next_reset,
    Stripper.foldl_next_of_visible rfl (isControl_label o), if_neg hne]

/-- The printed help up to the value that the environment has for an option. -/
def shownBefore (env : Environment) (o : CommandOption) : Text :=
  if Command.keepsStyles env then before env o else plain (before env o)

/-- What is printed of that value, which may be the end of it. -/
def shownValue (env : Environment) (o : CommandOption) : Text :=
  if Command.keepsStyles env then indented (valueOf env o)
  else Stripper.strip ⟨.outside, true⟩ (indented (valueOf env o))

/-- The printed help behind that value, unless the value takes something of it away. -/
def shownAfter (env : Environment) (o : CommandOption) : Text :=
  if Command.keepsStyles env then after env o
  else Stripper.strip ⟨.outside, true⟩ (after env o)

theorem plain_text (env : Environment) (o : CommandOption) :
    plain (text env) = plain (before env o) ++
      Stripper.strip ⟨.outside, true⟩ (indented (valueOf env o) ++ after env o) := by
  rw [text_eq env o, plain, List.append_assoc, Stripper.strip_append, foldl_next_before, plain]

theorem suffix_shownBefore (env : Environment) (o : CommandOption) :
    " [env: ".toList ++ o.variableName ++ ['='] <:+ shownBefore env o := by
  refine (suffix_label o).trans ?_
  unfold shownBefore
  split
  · exact List.suffix_append _ _
  · rw [before, plain, Stripper.strip_append, List.foldl_append, Stripper.foldl_next_reset,
      Stripper.strip_of_visible rfl (isControl_label o)]
    exact List.suffix_append _ _

theorem shownBefore_prefix (env : Environment) (o : CommandOption) :
    shownBefore env o <+: Command.helpText env := by
  unfold shownBefore Command.helpText
  split
  · rw [text_eq env o, List.append_assoc]
    exact List.prefix_append _ _
  · rw [plain_text env o]
    exact List.prefix_append _ _

theorem not_mem_indented {t : Text} (h : '\x1B' ∉ t) : '\x1B' ∉ indented t := by
  intro hmem
  obtain ⟨c, hc, hin⟩ := List.mem_flatMap.1 hmem
  split at hin
  · next hbreak =>
    subst hbreak
    rcases List.mem_cons.1 hin with heq | hin
    · exact absurd heq (by decide)
    · exact absurd (List.eq_of_mem_replicate hin) (by decide)
  · rw [List.mem_singleton] at hin
    exact h (hin ▸ hc)

/-- The value is followed by a bracket, with which everything is shown again. -/
theorem strip_after {s : Stripper} (hs : s.place = .outside) (env : Environment)
    (o : CommandOption) :
    s.strip (after env o) = Stripper.strip ⟨.outside, true⟩ (after env o) := by
  have hvisible : Place.isControl ']' = false := by decide
  obtain ⟨rest, hrest⟩ : ∃ rest, after env o = ']' :: rest := ⟨_, rfl⟩
  rw [hrest, Stripper.strip, Stripper.strip, Stripper.next_of_visible hs hvisible,
    Stripper.next_of_visible rfl hvisible]

/-- A value without an escape character takes nothing away. -/
theorem helpText_eq {env : Environment} {o : CommandOption} (h : '\x1B' ∉ valueOf env o) :
    Command.helpText env = shownBefore env o ++ shownValue env o ++ shownAfter env o := by
  unfold shownBefore shownValue shownAfter Command.helpText
  split
  · exact text_eq env o
  · have hplace := Stripper.place_foldl_next (s := ⟨.outside, true⟩) rfl (not_mem_indented h)
    rw [plain_text env o, Stripper.strip_append, strip_after hplace, List.append_assoc]

/-- A value without control characters is printed as it is. -/
theorem shownValue_of_visible {env : Environment} {o : CommandOption}
    (h : ∀ c ∈ valueOf env o, Place.isControl c = false) : shownValue env o = valueOf env o := by
  unfold shownValue
  rw [indented_of_visible h, Stripper.strip_of_visible rfl h, ite_self]

end Help

end SchemaSheet
