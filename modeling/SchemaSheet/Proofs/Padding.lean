import Mathlib.Data.List.Forall2
import SchemaSheet.Proofs.Reading

/-! Blanks around a line. The reader sees lines trimmed, and trimming a line takes off what padding
was put around it, whatever the line itself begins and ends with. A carriage return before a line
feed is such padding, so that it does not matter how lines end. -/

namespace SchemaSheet

namespace Text

def Padded (core t : Text) : Prop :=
  ∃ before after, (∀ c ∈ before, isBlank c = true) ∧ (∀ c ∈ after, isBlank c = true) ∧
    t = before ++ (core ++ after)

/-- Two lines that differ in nothing but the blanks at their ends. -/
def DifferInPadding (s t : Text) : Prop := ∃ core, Padded core s ∧ Padded core t

/-- The text with a line feed in place of each carriage return that a line feed follows, and of this
line feed. -/
def unifiedBreaks : Text → Text
  | [] => []
  | '\r' :: '\n' :: t => '\n' :: unifiedBreaks t
  | c :: t => c :: unifiedBreaks t

theorem trimStart_append {a : Text} (h : ∀ c ∈ a, isBlank c = true) (t : Text) :
    trimStart (a ++ t) = trimStart t :=
  List.dropWhile_append_of_pos h

theorem trimEnd_append_blanks {a : Text} (h : ∀ c ∈ a, isBlank c = true) (t : Text) :
    trimEnd (t ++ a) = trimEnd t := by
  have hreverse : ∀ c ∈ a.reverse, isBlank c = true := fun c hc => h c (List.mem_reverse.1 hc)
  unfold trimEnd
  rw [List.reverse_append, List.dropWhile_append_of_pos hreverse]

theorem trimStart_eq_nil {a : Text} (h : ∀ c ∈ a, isBlank c = true) : trimStart a = [] :=
  List.dropWhile_eq_nil_iff.2 h

/-- What is left of the end of a text when its start is trimmed. -/
theorem trimEnd_trimStart_append {a : Text} (h : ∀ c ∈ a, isBlank c = true) (t : Text) :
    trimEnd (trimStart (t ++ a)) = trimEnd (trimStart t) := by
  have hcut : trimStart (t ++ a) =
      if (trimStart t).isEmpty then trimStart a else trimStart t ++ a :=
    List.dropWhile_append
  rw [hcut]
  split
  · -- the text is blank altogether, and nothing is left of it
    next hempty => rw [List.isEmpty_iff.1 hempty, trimStart_eq_nil h]
  · exact trimEnd_append_blanks h (trimStart t)

/-- Trimming takes padding off, also if the text has blanks of its own at its ends. -/
theorem Padded.trim_eq {core t : Text} (h : Padded core t) : trim t = trim core := by
  obtain ⟨before, after, hbefore, hafter, rfl⟩ := h
  unfold trim
  rw [trimStart_append hbefore, trimEnd_trimStart_append hafter]

theorem DifferInPadding.trim_eq {s t : Text} (h : DifferInPadding s t) : trim s = trim t := by
  obtain ⟨core, hs, ht⟩ := h
  exact hs.trim_eq.trans ht.trim_eq.symm

theorem Padded.of_all {core t : Text} (before after : Text) (hbefore : before.all isBlank = true)
    (hafter : after.all isBlank = true) (ht : t = before ++ (core ++ after)) : Padded core t :=
  ⟨before, after, List.all_eq_true.1 hbefore, List.all_eq_true.1 hafter, ht⟩

theorem Padded.refl (t : Text) : Padded t t := .of_all [] [] rfl rfl (List.append_nil t).symm

/-- Line by line, the text with other breaks lacks at most a carriage return at the end. -/
theorem lines_unifiedBreaks (t : Text) :
    List.Forall₂ (fun l l' => l = l' ∨ l = l' ++ ['\r']) (lines t) (lines (unifiedBreaks t)) := by
  fun_induction unifiedBreaks t with
  | case1 => simp [lines]
  | case2 t ih =>
    have hfirst : lines ('\r' :: '\n' :: t) = ['\r'] :: lines t := rfl
    have hother : lines ('\n' :: unifiedBreaks t) = [] :: lines (unifiedBreaks t) := rfl
    rw [hfirst, hother]
    exact .cons (Or.inr rfl) ih
  | case3 c t hne ih =>
    unfold lines at ih ⊢
    rw [pieces_cons, pieces_cons]
    split
    · exact .cons (Or.inl rfl) ih
    · obtain ⟨p, ps, hp⟩ := List.exists_cons_of_ne_nil (pieces_ne_nil '\n' t)
      obtain ⟨q, qs, hq⟩ := List.exists_cons_of_ne_nil (pieces_ne_nil '\n' (unifiedBreaks t))
      rw [hp, hq] at ih ⊢
      obtain ⟨hfirst, hrest⟩ := List.forall₂_cons.1 ih
      refine .cons ?_ hrest
      rcases hfirst with rfl | rfl
      · exact Or.inl rfl
      · exact Or.inr rfl

theorem differInPadding_unifiedBreaks (t : Text) :
    List.Forall₂ DifferInPadding (lines t) (lines (unifiedBreaks t)) := by
  refine (lines_unifiedBreaks t).imp fun l l' h => ⟨l', ?_, Padded.refl l'⟩
  rcases h with rfl | rfl
  · exact Padded.refl l
  · exact .of_all [] ['\r'] rfl rfl rfl

end Text

open Text

theorem Reading.ofText_congr {s t : Text} (h : s.trimmedLines = t.trimmedLines) :
    ofText s = ofText t := by
  rw [ofText_eq, ofText_eq, h]

theorem Text.trimmedLines_congr {s t : Text}
    (h : List.Forall₂ DifferInPadding (lines s) (lines t)) : s.trimmedLines = t.trimmedLines := by
  have htrim : List.Forall₂ (· = ·) s.trimmedLines t.trimmedLines := by
    unfold trimmedLines
    rw [List.forall₂_map_left_iff, List.forall₂_map_right_iff]
    exact h.imp fun l l' hl => hl.trim_eq
  rwa [List.forall₂_eq_eq_eq] at htrim

/-- Two schemas whose lines differ, one by one, in the blanks around them give the same reading: the
same tables, and the same notices down to the texts that they quote. So does a schema whose lines
end in carriage returns and line feeds, and the one with line feeds only. -/
theorem Reading.ofText_padding :
    (∀ s t, List.Forall₂ DifferInPadding (lines s) (lines t) → ofText s = ofText t) ∧
    ∀ t, ofText (unifiedBreaks t) = ofText t := by
  constructor
  · intro s t h
    exact ofText_congr (trimmedLines_congr h)
  · intro t
    exact (ofText_congr (trimmedLines_congr (differInPadding_unifiedBreaks t))).symm

/-- Tabs, a space that does not break, and a line that is blank in one of the schemas only by
padding; what stands inside of a line is quoted as it is. -/
theorem Reading.ofText_padding_quoted :
    let s : Text := "\tmodel A \x7b\r\n\u00a0 ?\r? \n\n\x7d".toList
    let t : Text := "model A \x7b\n?\r?\u2003\n \t\r\n\x7d\u3000".toList
    List.Forall₂ DifferInPadding (lines s) (lines t) ∧ ofText s = ofText t ∧
    (ofText s).notices = [.malformedField 2 ['A'] ['?', '\r', '?']] := by
  intro s t
  have h : List.Forall₂ DifferInPadding (lines s) (lines t) :=
    .cons ⟨"model A \x7b".toList, .of_all ['\t'] ['\r'] rfl rfl rfl, Padded.refl _⟩
      (.cons ⟨"?\r?".toList, .of_all ['\u00a0', ' '] [' '] rfl rfl rfl,
        .of_all [] ['\u2003'] rfl rfl rfl⟩
      (.cons ⟨[], Padded.refl _, .of_all [' ', '\t', '\r'] [] rfl rfl rfl⟩
      (.cons ⟨['}'], Padded.refl _, .of_all [] ['\u3000'] rfl rfl rfl⟩ .nil)))
  exact ⟨h, ofText_padding.1 s t h, by decide +kernel⟩

end SchemaSheet
