import SchemaSheet.Files.Path
import SchemaSheet.Proofs.Text
import SchemaSheet.Proofs.Utf8

/-! The name that a path ends in, and the extension of the name. Directories before the name, and
slashes and lone dots behind it, change nothing. A path is made of bytes, of which slashes and dots
tell where its pieces are, so that it need not be a text. -/

namespace SchemaSheet

open Text

namespace Path

theorem lastPiece?_eq_find? (p : Path) :
    lastPiece? p = (pieces '/' p).reverse.find? (!isIdle ·) := by
  unfold lastPiece?
  obtain ⟨first, rest, h⟩ := List.exists_cons_of_ne_nil (pieces_ne_nil '/' p)
  rw [h, List.reverse_cons, List.find?_append]
  simp only
  cases rest.reverse.find? (!isIdle ·) with
  | some q => rfl
  | none => cases hidle : isIdle first <;> simp [hidle]

section Pieces

variable {q : Text}

/-- Nothing before the last slash matters if there is a name behind it. -/
theorem lastPiece?_append (hslash : '/' ∉ q) (hidle : isIdle q = false) (d : Path) :
    lastPiece? (d ++ '/' :: q) = some q := by
  rw [lastPiece?_eq_find?, pieces_append_cons, pieces_of_not_mem hslash, List.reverse_append]
  simp [hidle]

theorem lastPiece?_self (hslash : '/' ∉ q) (hidle : isIdle q = false) : lastPiece? q = some q := by
  rw [lastPiece?_eq_find?, pieces_of_not_mem hslash]
  simp [hidle]

theorem lastPiece?_append_idle (hslash : '/' ∉ q) (hidle : isIdle q = true) (p : Path) :
    lastPiece? (p ++ '/' :: q) = lastPiece? p := by
  rw [lastPiece?_eq_find?, lastPiece?_eq_find?, pieces_append_cons, pieces_of_not_mem hslash,
    List.reverse_append]
  simp [hidle]

end Pieces

section Extension

variable {p q : Path} {s t e : Text}

theorem extension?_congr (h : lastPiece? p = lastPiece? q) : extension? p = extension? q := by
  rw [extension?, extension?, fileName?, fileName?, h]

theorem extension?_of_up (h : lastPiece? p = some "..".toList) : extension? p = none := by
  rw [extension?, fileName?, h]
  rfl

theorem fileName?_of_ne (h : lastPiece? p = some s) (hup : s ≠ "..".toList) :
    fileName? p = some s := by
  rw [fileName?, h, Option.filter_some, if_pos (bne_iff_ne.2 hup)]

theorem extension?_of_fileName? (h : fileName? p = some s) :
    extension? p = match s.reverse.dropWhile (· != '.') with
      | _ :: _ :: _ => some (s.reverse.takeWhile (· != '.')).reverse
      | _ => none := by
  rw [extension?, h]
  rfl

theorem extension?_of_plain (h : lastPiece? p = some s) (hs : '.' ∉ s) : extension? p = none := by
  have hup : s ≠ "..".toList := by
    rintro rfl
    exact hs (by decide)
  have hdrop : s.reverse.dropWhile (· != '.') = [] := by
    rw [List.dropWhile_eq_nil_iff]
    intro c hc
    exact bne_iff_ne.2 (ne_of_mem_of_not_mem (List.mem_reverse.1 hc) hs)
  rw [extension?_of_fileName? (fileName?_of_ne h hup), hdrop]

theorem reverse_cut (he : '.' ∉ e) (t : Text) :
    (t ++ '.' :: e).reverse.takeWhile (· != '.') = e.reverse ∧
      (t ++ '.' :: e).reverse.dropWhile (· != '.') = '.' :: t.reverse := by
  have hpos : ∀ c ∈ e.reverse, (c != '.') = true := fun c hc =>
    bne_iff_ne.2 (ne_of_mem_of_not_mem (List.mem_reverse.1 hc) he)
  have hstop : Stops (· != '.') ('.' :: t.reverse) := stops_cons rfl
  rw [List.reverse_append, List.reverse_cons, List.append_assoc, List.singleton_append]
  exact ⟨takeWhile_append hpos hstop, dropWhile_append hpos hstop⟩

theorem extension?_of_hidden (h : lastPiece? p = some ('.' :: e)) (he : '.' ∉ e) :
    extension? p = none := by
  have hup : '.' :: e ≠ "..".toList := by
    intro heq
    cases heq
    exact he List.mem_cons_self
  have hcut := (reverse_cut he []).2
  rw [List.nil_append, List.reverse_nil] at hcut
  rw [extension?_of_fileName? (fileName?_of_ne h hup), hcut]

theorem extension?_of_dotted (h : lastPiece? p = some (t ++ '.' :: e)) (ht : t ≠ [])
    (he : '.' ∉ e) (hup : t ++ '.' :: e ≠ "..".toList) : extension? p = some e := by
  obtain ⟨htake, hdrop⟩ := reverse_cut he t
  obtain ⟨c, r, hc⟩ := List.exists_cons_of_ne_nil (List.reverse_ne_nil_iff.2 ht)
  rw [extension?_of_fileName? (fileName?_of_ne h hup), htake, hdrop, hc, List.reverse_reverse]

end Extension

def slash : UInt8 := 0x2F

def dot : UInt8 := 0x2E

theorem slash_ne_dot : slash ≠ dot := by decide

structure IsName (s : List UInt8) : Prop where
  ne_nil : s ≠ []
  no_slash : slash ∉ s
  ne_here : s ≠ [dot]
  ne_up : s ≠ [dot, dot]

/-- Any number of `/` and `/.`. -/
inductive IsIdleTail : List UInt8 → Prop
  | nil : IsIdleTail []
  | add {tail q : List UInt8} (h : IsIdleTail tail) (hq : q = [] ∨ q = [dot]) :
    IsIdleTail (tail ++ slash :: q)

/-- Whether a path ends in a name, whatever idle pieces there are behind it. -/
def EndsIn (p s : List UInt8) : Prop :=
  IsName s ∧ ∃ tail, IsIdleTail tail ∧ (p = s ++ tail ∨ ∃ d, p = d ++ slash :: s ++ tail)

theorem EndsIn.add {p q s : List UInt8} (h : EndsIn p s) (hq : q = [] ∨ q = [dot]) :
    EndsIn (p ++ slash :: q) s := by
  obtain ⟨hs, tail, htail, hp⟩ := h
  refine ⟨hs, tail ++ slash :: q, htail.add hq, ?_⟩
  rcases hp with rfl | ⟨d, rfl⟩
  · exact Or.inl (List.append_assoc _ _ _)
  · exact Or.inr ⟨d, List.append_assoc _ _ _⟩

theorem exists_last {b : UInt8} {bytes : List UInt8} (h : b ∈ bytes) :
    ∃ before after, bytes = before ++ b :: after ∧ b ∉ after := by
  obtain ⟨r, l, hbytes, hr⟩ := List.eq_append_cons_of_mem (List.mem_reverse.2 h)
  refine ⟨l.reverse, r.reverse, ?_, by rwa [List.mem_reverse]⟩
  rw [← List.reverse_reverse bytes, hbytes, List.reverse_append, List.reverse_cons,
    List.append_assoc, List.singleton_append]

@[elab_as_elim]
theorem piece_induction {motive : List UInt8 → Prop} (first : ∀ q, slash ∉ q → motive q)
    (further : ∀ d q, slash ∉ q → motive d → motive (d ++ slash :: q)) (p : List UInt8) :
    motive p := by
  induction hlen : p.length using Nat.strongRecOn generalizing p with
  | _ n ih =>
    by_cases hslash : slash ∈ p
    · obtain ⟨d, q, rfl, hq⟩ := exists_last hslash
      rw [List.length_append, List.length_cons] at hlen
      exact further d q hq (ih d.length (by omega) d rfl)
    · exact first p hslash

/-- What stands between two slashes names something, goes up or is idle. -/
theorem isName_or {q : List UInt8} (h : slash ∉ q) :
    IsName q ∨ q = [dot, dot] ∨ q = [] ∨ q = [dot] := by
  by_cases hnil : q = []
  · exact Or.inr (Or.inr (Or.inl hnil))
  by_cases hhere : q = [dot]
  · exact Or.inr (Or.inr (Or.inr hhere))
  by_cases hup : q = [dot, dot]
  · exact Or.inr (Or.inl hup)
  exact Or.inl ⟨hnil, h, hhere, hup⟩

theorem lossy_slash (a b : List UInt8) :
    Utf8.lossy (a ++ slash :: b) = Utf8.lossy a ++ '/' :: Utf8.lossy b :=
  Utf8.lossy_append_ascii (c := '/') (by decide) a b

theorem lossy_dot (a b : List UInt8) :
    Utf8.lossy (a ++ dot :: b) = Utf8.lossy a ++ '.' :: Utf8.lossy b :=
  Utf8.lossy_append_ascii (c := '.') (by decide) a b

theorem slash_not_mem_lossy {s : List UInt8} (h : slash ∉ s) : '/' ∉ Utf8.lossy s :=
  fun hmem => h (Utf8.mem_of_mem_lossy (by decide) hmem)

theorem dot_not_mem_lossy {s : List UInt8} (h : dot ∉ s) : '.' ∉ Utf8.lossy s :=
  fun hmem => h (Utf8.mem_of_mem_lossy (by decide) hmem)

namespace IsName

variable {s : List UInt8}

theorem isIdle_lossy (h : IsName s) : isIdle (Utf8.lossy s) = false := by
  rw [isIdle, Bool.or_eq_false_iff, List.isEmpty_eq_false_iff, beq_eq_false_iff_ne]
  constructor
  · intro hnil
    exact h.ne_nil (Utf8.eq_encode_of_lossy hnil List.not_mem_nil)
  · intro hdot
    exact h.ne_here (Utf8.eq_encode_of_lossy hdot (by decide))

theorem lossy_ne_up (h : IsName s) : Utf8.lossy s ≠ "..".toList := fun hup =>
  h.ne_up (Utf8.eq_encode_of_lossy hup (by decide))

theorem lastPiece?_lossy (h : IsName s) : lastPiece? (Utf8.lossy s) = some (Utf8.lossy s) :=
  lastPiece?_self (slash_not_mem_lossy h.no_slash) h.isIdle_lossy

theorem lastPiece?_lossy_append (h : IsName s) (d : List UInt8) :
    lastPiece? (Utf8.lossy (d ++ slash :: s)) = some (Utf8.lossy s) := by
  rw [lossy_slash]
  exact lastPiece?_append (slash_not_mem_lossy h.no_slash) h.isIdle_lossy _

end IsName

section Lossy

variable {p q s t e : List UInt8}

theorem lastPiece?_lossy_append_idle (hq : q = [] ∨ q = [dot]) (p : List UInt8) :
    lastPiece? (Utf8.lossy (p ++ slash :: q)) = lastPiece? (Utf8.lossy p) := by
  have hidle : '/' ∉ Utf8.lossy q ∧ isIdle (Utf8.lossy q) = true := by
    rcases hq with rfl | rfl
    · rw [Utf8.lossy_nil]
      decide
    · rw [show Utf8.lossy [dot] = ['.'] from Utf8.lossy_encode ['.']]
      decide
  rw [lossy_slash, lastPiece?_append_idle hidle.1 hidle.2]

theorem extension?_lossy_up (h : p = [dot, dot] ∨ ∃ d, p = d ++ slash :: [dot, dot]) :
    extension? (Utf8.lossy p) = none := by
  have hup : Utf8.lossy [dot, dot] = "..".toList := Utf8.lossy_encode "..".toList
  apply extension?_of_up
  rcases h with rfl | ⟨d, rfl⟩
  · rw [hup]
    exact lastPiece?_self (by decide) (by decide)
  · rw [lossy_slash, hup]
    exact lastPiece?_append (by decide) (by decide) _

theorem extension?_lossy_plain (h : IsName s) (hs : dot ∉ s) :
    extension? (Utf8.lossy s) = none :=
  extension?_of_plain h.lastPiece?_lossy (dot_not_mem_lossy hs)

theorem extension?_lossy_hidden (h : IsName (dot :: e)) (he : dot ∉ e) :
    extension? (Utf8.lossy (dot :: e)) = none := by
  have hlossy : Utf8.lossy (dot :: e) = '.' :: Utf8.lossy e := by simpa using lossy_dot [] e
  refine extension?_of_hidden ?_ (dot_not_mem_lossy he)
  rw [h.lastPiece?_lossy, hlossy]

theorem extension?_lossy_dotted (h : IsName (t ++ dot :: e)) (ht : t ≠ []) (he : dot ∉ e) :
    extension? (Utf8.lossy (t ++ dot :: e)) = some (Utf8.lossy e) := by
  have hlast := h.lastPiece?_lossy
  have hup := h.lossy_ne_up
  rw [lossy_dot] at hlast hup
  rw [lossy_dot]
  refine extension?_of_dotted hlast (fun hnil => ht ?_) (dot_not_mem_lossy he) hup
  exact Utf8.eq_encode_of_lossy hnil List.not_mem_nil

end Lossy

end Path

end SchemaSheet
