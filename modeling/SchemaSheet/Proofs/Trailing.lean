import SchemaSheet.Proofs.Comment
import SchemaSheet.Proofs.Default
import SchemaSheet.Proofs.Marker

/-! A comment put behind a text of attributes. Markers and defaults begin with an at sign, of which
the comment has none, and neither goes on over a slash; a default that is closed does not see what
is behind it. So each of the scans finds what it found before, and the comment is new. A slash at
the end of the text only makes the comment begin with one slash more, which it loses again. -/

namespace SchemaSheet

open Text

namespace Attributes

/-- Every default that the text opens first is closed by the parenthesis that matches. -/
def DefaultCloses (t : Text) : Prop :=
  ∀ body, OpensFirst t body → ∃ v r, Balanced v ∧ body = v ++ ')' :: r

/-- What has no slash in it does not go on over one. -/
theorem exists_of_append_slash_eq {p t s body : Text} (hp : '/' ∉ p)
    (h : t ++ '/' :: s = p ++ body) : ∃ u, t = p ++ u ∧ body = u ++ '/' :: s := by
  rcases List.append_eq_append_iff.1 h with ⟨u, rfl, hu⟩ | ⟨u, rfl, rfl⟩
  · cases u with
    | nil => exact ⟨[], by simp, hu.symm⟩
    | cons d u =>
      obtain ⟨rfl, -⟩ := List.cons.inj hu
      exact absurd (List.mem_append_right t List.mem_cons_self) hp
  · exact ⟨u, rfl, rfl⟩

theorem opens_append_slash_iff {t s body : Text} :
    Opens (t ++ '/' :: s) body ↔ ∃ u, Opens t u ∧ body = u ++ '/' :: s := by
  constructor
  · rintro ⟨gap, hgap, hcut⟩
    have hslash : '/' ∉ "@default".toList ++ (gap ++ ['(']) := by
      rw [List.mem_append, List.mem_append]
      rintro (h | h | h)
      · exact absurd h (by decide)
      · exact absurd (hgap '/' h) (by decide)
      · exact absurd h (by decide)
    have happend : t ++ '/' :: s = "@default".toList ++ (gap ++ ['(']) ++ body := by
      simpa using hcut
    obtain ⟨u, rfl, rfl⟩ := exists_of_append_slash_eq hslash happend
    exact ⟨u, ⟨gap, hgap, by simp⟩, rfl⟩
  · rintro ⟨u, ⟨gap, hgap, rfl⟩, rfl⟩
    exact ⟨gap, hgap, by simp⟩

theorem opened?_append_slash (t s : Text) :
    opened? (t ++ '/' :: s) = (opened? t).map (· ++ '/' :: s) := by
  apply Option.ext
  intro body
  rw [Option.map_eq_some_iff, opened?_eq_some_iff, opens_append_slash_iff]
  exact exists_congr fun u => and_congr opened?_eq_some_iff.symm eq_comm

theorem default?_append_slash {s : Text} (hs : '@' ∉ s) (t : Text) :
    default? (t ++ '/' :: s) = (default? t).map (· ++ '/' :: s) := by
  induction t with
  | nil => exact default?_of_not_mem (by simpa using hs)
  | cons c t ih =>
    have hopened := opened?_append_slash (c :: t) s
    rw [List.cons_append] at hopened ⊢
    rw [default?, default?, hopened, ih]
    cases opened? (c :: t) <;> rfl

theorem argument_append_of_closes {body : Text} (h : ∃ v r, Balanced v ∧ body = v ++ ')' :: r)
    (s : Text) : argument (body ++ s) = argument body := by
  obtain ⟨v, r, hv, rfl⟩ := h
  rw [argument_append hv, List.append_assoc, List.cons_append, argument_append hv]

theorem marked_append_slash {w s : Text} (hw : ∀ c ∈ w, isWord c = true) (hs : '@' ∉ s)
    (t : Text) : marked ('@' :: w) (t ++ '/' :: s) = marked ('@' :: w) t := by
  have hat : '@' ∉ '/' :: s := by simpa using hs
  rw [marked_append_of_stops hw (stops_cons (by decide)), marked_of_not_mem hat, Bool.or_false]

/-- The comment behind a text without one begins at the slashes, or one slash before them. -/
theorem comment?_append_slashes {l : Literal} {t : Text} (hnone : comment? l t = none)
    (hend : l.after t = .outside) (s : Text) :
    comment? l (t ++ '/' :: '/' :: s) = some s ∨
      comment? l (t ++ '/' :: '/' :: s) = some ('/' :: s) := by
  induction t generalizing l with
  | nil =>
    cases hend
    exact .inl (comment?_slashes s)
  | cons d t ih =>
    have hhere : ¬ Begins l [] (d :: t) := fun h =>
      comment?_eq_none_iff_not_begins.1 hnone ⟨[], d :: t, rfl, h⟩
    rw [comment?_cons hhere] at hnone
    by_cases hseam : Begins l [] (d :: (t ++ '/' :: '/' :: s))
    · obtain ⟨rfl, r, hcut⟩ := hseam
      cases t with
      | nil =>
        cases hcut
        exact .inr (comment?_slashes _)
      | cons e t =>
        -- both slashes would stand in the text itself
        rw [List.cons_append, List.cons.injEq, List.cons.injEq] at hcut
        obtain ⟨rfl, rfl, -⟩ := hcut
        exact absurd ⟨rfl, t, rfl⟩ hhere
    · rw [List.cons_append, comment?_cons hseam]
      exact ih hnone hend

theorem tidy_slash (s : Text) : tidy ('/' :: s) = tidy s := rfl

/-- A comment without at signs changes nothing but the comment, if there was none before, if the
text ends outside of literals and if its default is closed. -/
theorem ofText_append_comment {t s : Text}
    (hcomment : ¬ ∃ p r, t = p ++ r ∧ Begins .outside p r)
    (hliteral : Literal.outside.after t = .outside) (hdefault : DefaultCloses t) (hat : '@' ∉ s) :
    ofText (t ++ ("//".toList ++ s)) =
      { ofText t with comment := trim (s.dropWhile (· == '/')) } := by
  have hslash : '@' ∉ '/' :: s := by simpa using hat
  have hid : marked "@id".toList (t ++ '/' :: '/' :: s) = marked "@id".toList t :=
    marked_append_slash isWord_of_mem_id hslash t
  have hunique : marked "@unique".toList (t ++ '/' :: '/' :: s) = marked "@unique".toList t :=
    marked_append_slash isWord_of_mem_unique hslash t
  have hvalue : (default? (t ++ '/' :: '/' :: s)).map argument = (default? t).map argument := by
    rw [default?_append_slash hslash, Option.map_map]
    refine Option.map_congr fun body hbody => ?_
    exact argument_append_of_closes (hdefault body (default?_eq_some_iff.1 hbody)) _
  have htidy : (comment? .outside (t ++ '/' :: '/' :: s)).map tidy = some (tidy s) := by
    rcases comment?_append_slashes (comment?_eq_none_iff_not_begins.2 hcomment) hliteral s with
      h | h
    · rw [h, Option.map_some]
    · rw [h, Option.map_some, tidy_slash]
  have hjoin : t ++ ("//".toList ++ s) = t ++ '/' :: '/' :: s := rfl
  rw [hjoin, ofText, ofText, trailingComment?_eq, hid, hunique, hvalue, htidy]
  rfl

/-- A text that ends in a marker and one that ends in a slash, with slashes and a parenthesis in the
literal of a default, and a comment of quotes, parentheses and slashes. -/
theorem ofText_append_comment_slashes :
    let t : Text := "@default(f(\"//)\")) @id".toList
    let s : Text := "/ \"(// b ".toList
    let found : Attributes :=
      { primaryKey := true, defaultValue := "f(\"//)\")".toList, comment := "\"(// b".toList }
    ofText (t ++ ("//".toList ++ s)) = found ∧
      ofText ((t ++ ['/']) ++ ("//".toList ++ s)) = found := by
  intro t s found
  have hbalanced : Balanced "f(\"//)\")".toList := balanced_iff.2 (by decide)
  have hcloses {u r : Text} (h : default? u = some ("f(\"//)\")".toList ++ ')' :: r)) :
      DefaultCloses u := by
    intro body hfirst
    rw [default?_eq_some_iff.2 hfirst, Option.some.injEq] at h
    exact ⟨_, r, hbalanced, h⟩
  have hmarker := ofText_append_comment (t := t) (s := s)
    (comment?_eq_none_iff_not_begins.1 (by decide)) (by decide)
    (hcloses (r := " @id".toList) (by decide)) (by decide)
  have hslash := ofText_append_comment (t := t ++ ['/']) (s := s)
    (comment?_eq_none_iff_not_begins.1 (by decide)) (by decide)
    (hcloses (r := " @id/".toList) (by decide)) (by decide)
  exact ⟨hmarker.trans (by decide), hslash.trans (by decide)⟩

end Attributes

end SchemaSheet
