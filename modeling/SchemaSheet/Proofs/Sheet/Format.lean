import SchemaSheet.Proofs.Extension
import SchemaSheet.Sheet.Format
import Mathlib.Data.List.Forall2

/-! The two ways to choose a format, by its name and by the extension of a path. A name is told
whatever the case of its letters. A path has the format that its extension is a name of, and csv if
there is none; what stands around the extension does not count. -/

namespace SchemaSheet

open Text

namespace Format

open SchemaSheet.Path

def names : Format → List Text
  | csv => ["csv".toList]
  | xlsx => ["xlsx".toList]
  | json => ["json".toList]
  | yaml => ["yaml".toList, "yml".toList]

/-- Whether a text is a name of the format, any letter of which may be a capital. -/
def HasName (f : Format) (t : Text) : Prop :=
  ∃ name ∈ f.names, List.Forall₂ (fun c d => d = c ∨ d = c.toUpper) name t

/-- Whether a character is another one in lower case. A capital among the ASCII letters becomes the
small letter 32 places behind it, and any other character is left as it is. -/
def IsLowered (c d : Char) : Prop :=
  if 'A' ≤ c ∧ c ≤ 'Z' then d.toNat = c.toNat + 32 else d = c

theorem toNat_toLower (c : Char) :
    c.toLower.toNat = if 65 ≤ c.toNat ∧ c.toNat ≤ 90 then c.toNat + 32 else c.toNat := by
  have hval : c.toNat = c.val.toNat := rfl
  unfold Char.toLower
  split
  · next h =>
    have hcapital : 65 ≤ c.toNat ∧ c.toNat ≤ 90 := h
    have hgap : (32 : UInt32).toNat = 32 := rfl
    rw [if_pos hcapital]
    show (c.val + 32).toNat = _
    rw [UInt32.toNat_add, hval, hgap]
    omega
  · next h =>
    have hother : ¬ (65 ≤ c.toNat ∧ c.toNat ≤ 90) := h
    rw [if_neg hother]

theorem isLowered_toLower (c : Char) : IsLowered c c.toLower := by
  unfold IsLowered
  split
  · next h =>
    have hcapital : 65 ≤ c.toNat ∧ c.toNat ≤ 90 := h
    rw [toNat_toLower, if_pos hcapital]
  · next h =>
    have hother : ¬ (65 ≤ c.toNat ∧ c.toNat ≤ 90) := h
    rw [← Char.toNat_inj, toNat_toLower, if_neg hother]

theorem forall₂_isLowered (t : Text) : List.Forall₂ IsLowered t (lowered t) := by
  unfold lowered
  induction t with
  | nil => exact .nil
  | cons c t ih => exact .cons (isLowered_toLower c) ih

theorem toNat_toUpper {c : Char} (h : 97 ≤ c.toNat ∧ c.toNat ≤ 122) :
    c.toUpper.toNat = c.toNat - 32 := by
  have hval : c.toNat = c.val.toNat := rfl
  have hgap : ('A'.val - 'a'.val).toNat = 2 ^ 32 - 32 := rfl
  have hsmall : 'a'.val ≤ c.val ∧ c.val ≤ 'z'.val := h
  unfold Char.toUpper
  rw [dif_pos hsmall]
  show (c.val + ('A'.val - 'a'.val)).toNat = _
  rw [UInt32.toNat_add, hval, hgap]
  omega

theorem toLower_eq_iff {c d : Char} (h : 97 ≤ c.toNat ∧ c.toNat ≤ 122) :
    d.toLower = c ↔ d = c ∨ d = c.toUpper := by
  rw [← Char.toNat_inj, ← Char.toNat_inj, ← Char.toNat_inj, toNat_toLower, toNat_toUpper h]
  split <;> omega

theorem lowered_eq_iff {name t : Text} (h : ∀ c ∈ name, 97 ≤ c.toNat ∧ c.toNat ≤ 122) :
    lowered t = name ↔ List.Forall₂ (fun c d => d = c ∨ d = c.toUpper) name t := by
  unfold lowered
  induction t generalizing name with
  | nil => cases name <;> simp
  | cons d t ih =>
    cases name with
    | nil => simp
    | cons c name =>
      rw [List.forall_mem_cons] at h
      rw [List.map_cons, List.cons.injEq, List.forall₂_cons, toLower_eq_iff h.1, ih h.2]

section Name

variable {f : Format} {t e : Text}

theorem small_of_mem_names {name : Text} (h : name ∈ f.names) :
    ∀ c ∈ name, 97 ≤ c.toNat ∧ c.toNat ≤ 122 := by
  have hall : (f.names.all (·.all fun c => decide (97 ≤ c.toNat ∧ c.toNat ≤ 122))) = true := by
    cases f <;> decide
  simpa using List.all_eq_true.1 (List.all_eq_true.1 hall name h)

theorem ofName?_eq_some_iff_lowered : ofName? t = some f ↔ lowered t ∈ f.names := by
  unfold ofName?
  generalize lowered t = low
  constructor
  · intro h
    simp only at h
    split_ifs at h with hcsv hxlsx hjson hyaml
    all_goals cases h
    · exact List.mem_singleton.2 hcsv
    · exact List.mem_singleton.2 hxlsx
    · exact List.mem_singleton.2 hjson
    · simpa [names] using hyaml
  · intro h
    cases f <;> simp only [names, List.mem_cons, List.not_mem_nil, or_false] at h
    case yaml => rcases h with rfl | rfl <;> rfl
    all_goals
      subst h
      rfl

theorem ofName?_eq_some_iff : ofName? t = some f ↔ f.HasName t := by
  rw [ofName?_eq_some_iff_lowered, HasName]
  constructor
  · intro h
    exact ⟨_, h, (lowered_eq_iff (small_of_mem_names h)).1 rfl⟩
  · rintro ⟨name, hname, hvariant⟩
    rwa [(lowered_eq_iff (small_of_mem_names hname)).2 hvariant]

theorem named_eq_ok_iff : named t = .ok f ↔ f.HasName t := by
  rw [← ofName?_eq_some_iff, named]
  cases ofName? t <;> simp

theorem named_eq_error (h : ∀ f : Format, ¬ f.HasName t) : named t = .error (unknown t) := by
  have hnone : ofName? t = none :=
    Option.eq_none_iff_forall_ne_some.2 fun f hf => h f (ofName?_eq_some_iff.1 hf)
  rw [named, hnone]

theorem HasName.letter (h : f.HasName t) {c : Char} (hc : c ∈ t) :
    65 ≤ c.toNat ∧ c.toNat ≤ 122 := by
  have hsmall := small_of_mem_names (ofName?_eq_some_iff_lowered.1 (ofName?_eq_some_iff.2 h))
    c.toLower (List.mem_map_of_mem hc)
  rw [toNat_toLower] at hsmall
  split at hsmall <;> omega

theorem HasName.not_mem (h : f.HasName t) {c : Char} (hc : c.toNat < 65) :
    c.toNat.toUInt8 ∉ Utf8.encode t := by
  rw [Utf8.mem_encode_iff (by omega)]
  intro hmem
  have := (h.letter hmem).1
  omega

theorem HasName.ne_nil (h : f.HasName t) : t ≠ [] := by
  rintro rfl
  obtain ⟨name, hname, hvariant⟩ := h
  rw [List.forall₂_nil_right_iff] at hvariant
  subst hvariant
  revert hname
  cases f <;> decide

/-- A replacement character belongs to no name, so that only a text can be one. -/
theorem ofName?_lossy (bytes : List UInt8) :
    ofName? (Utf8.lossy bytes) = (Utf8.text? bytes).bind ofName? := by
  cases htext : Utf8.text? bytes with
  | some t => rw [Utf8.text?_eq_some_iff.1 htext, Utf8.lossy_encode, Option.bind_some]
  | none =>
    rw [Option.bind_none, Option.eq_none_iff_forall_ne_some]
    intro f hf
    have hle := ((ofName?_eq_some_iff.1 hf).letter (Utf8.replacement_mem_lossy htext)).2
    exact absurd hle (by decide)

end Name

theorem ofBytes_encode (p : Path) : ofBytes (Utf8.encode p) = ofPath p := by
  rw [ofBytes, Utf8.lossy_encode]

section Extension

variable {p q s t tail : List UInt8} {f : Format}

theorem ofBytes_congr (h : lastPiece? (Utf8.lossy p) = lastPiece? (Utf8.lossy q)) :
    ofBytes p = ofBytes q := by
  rw [ofBytes, ofBytes, ofPath, ofPath, extension?_congr h]

theorem ofBytes_of_none (h : extension? (Utf8.lossy p) = none) : ofBytes p = csv := by
  rw [ofBytes, ofPath, h]
  rfl

theorem ofBytes_append_slash (h : IsName s) (d : List UInt8) :
    ofBytes (d ++ slash :: s) = ofBytes s :=
  ofBytes_congr ((h.lastPiece?_lossy_append d).trans h.lastPiece?_lossy.symm)

theorem ofBytes_append_idle (hq : q = [] ∨ q = [dot]) (p : List UInt8) :
    ofBytes (p ++ slash :: q) = ofBytes p :=
  ofBytes_congr (lastPiece?_lossy_append_idle hq p)

theorem ofBytes_append_tail (h : IsIdleTail tail) (p : List UInt8) :
    ofBytes (p ++ tail) = ofBytes p := by
  induction h with
  | nil => rw [List.append_nil]
  | add _ hq ih => rw [← List.append_assoc, ofBytes_append_idle hq, ih]

/-- A path that ends in no name has no extension. -/
theorem ofBytes_of_nameless (h : ∀ s, ¬ EndsIn p s) : ofBytes p = csv := by
  induction p using piece_induction with
  | first q hq =>
    rcases isName_or hq with hname | rfl | rfl | rfl
    · exact absurd ⟨hname, [], .nil, Or.inl (by simp)⟩ (h q)
    · exact ofBytes_of_none (extension?_lossy_up (Or.inl rfl))
    · rw [← Utf8.encode_nil, ofBytes_encode]
      rfl
    · rw [show [dot] = Utf8.encode ['.'] from rfl, ofBytes_encode]
      rfl
  | further d q hq ih =>
    rcases isName_or hq with hname | rfl | hidle
    · exact absurd ⟨hname, [], .nil, Or.inr ⟨d, by simp⟩⟩ (h q)
    · exact ofBytes_of_none (extension?_lossy_up (Or.inr ⟨d, rfl⟩))
    · rw [ofBytes_append_idle hidle]
      exact ih fun s hs => h s (hs.add hidle)

/-- The extension is what the name of a format is looked for in, and it has to be a text. -/
theorem ofBytes_dotted {e : List UInt8} (h : IsName (t ++ dot :: e)) (ht : t ≠ []) (he : dot ∉ e) :
    ofBytes (t ++ dot :: e) = ((Utf8.text? e).bind ofName?).getD csv := by
  rw [ofBytes, ofPath, extension?_lossy_dotted h ht he, Option.bind_some, ofName?_lossy]

/-- Whether a name consists of something, a dot and then a name of the format. -/
def IsExtensionOf (f : Format) (s : List UInt8) : Prop :=
  ∃ t e, s = t ++ dot :: Utf8.encode e ∧ t ≠ [] ∧ '.' ∉ e ∧ f.HasName e

theorem isExtensionOf_ofBytes (h : IsName s) (hf : ofBytes s ≠ csv) :
    (ofBytes s).IsExtensionOf s := by
  by_cases hdot : dot ∈ s
  · obtain ⟨t, e, rfl, he⟩ := exists_last hdot
    by_cases ht : t = []
    · subst ht
      exact absurd (ofBytes_of_none (extension?_lossy_hidden h he)) hf
    · rw [ofBytes_dotted h ht he] at hf ⊢
      cases hfound : (Utf8.text? e).bind ofName? with
      | none =>
        rw [hfound] at hf
        exact absurd rfl hf
      | some f =>
        obtain ⟨name, hname, hformat⟩ := Option.bind_eq_some_iff.1 hfound
        rw [Utf8.text?_eq_some_iff] at hname
        subst hname
        have hplain : '.' ∉ name := (Utf8.mem_encode_iff (c := '.') (by decide)).not.1 he
        exact ⟨t, name, rfl, ht, hplain, ofName?_eq_some_iff.1 hformat⟩
  · exact absurd (ofBytes_of_none (extension?_lossy_plain h hdot)) hf

theorem isName_dotted {e : Text} (ht : t ≠ []) (hslash : slash ∉ t) (h : f.HasName e) :
    IsName (t ++ dot :: Utf8.encode e) := by
  have hfirst : 0 < t.length := List.length_pos_iff.2 ht
  have hext : 0 < (Utf8.encode e).length :=
    List.length_pos_iff.2 fun hnil => h.ne_nil (Utf8.encode_injective hnil)
  refine ⟨by simp, ?_, fun heq => ?_, fun heq => ?_⟩
  · have hplain : slash ∉ Utf8.encode e := h.not_mem (c := '/') (by decide)
    simp [hslash, hplain, slash_ne_dot]
  all_goals
    have hlen := congrArg List.length heq
    simp only [List.length_append, List.length_cons, List.length_nil] at hlen
    omega

theorem ofBytes_of_hasName {e : Text} (ht : t ≠ []) (hslash : slash ∉ t) (h : f.HasName e) :
    ofBytes (t ++ dot :: Utf8.encode e) = f := by
  have hdot : dot ∉ Utf8.encode e := h.not_mem (c := '.') (by decide)
  rw [ofBytes_dotted (isName_dotted ht hslash h) ht hdot, Utf8.text?_encode, Option.bind_some,
    ofName?_eq_some_iff.2 h, Option.getD_some]

theorem ofBytes_eq_iff (h : IsName s) (hf : f ≠ csv) : ofBytes s = f ↔ f.IsExtensionOf s := by
  constructor
  · rintro rfl
    exact isExtensionOf_ofBytes h hf
  · rintro ⟨t, e, rfl, ht, -, he⟩
    exact ofBytes_of_hasName ht (fun hmem => h.no_slash (List.mem_append_left _ hmem)) he

theorem ofBytes_of_named {e : Text} (ht : t ≠ []) (hlast : t.getLast? ≠ some slash)
    (h : named e = .ok f) : ofBytes (t ++ dot :: Utf8.encode e) = f := by
  have he := named_eq_ok_iff.1 h
  by_cases hslash : slash ∈ t
  · obtain ⟨d, s, rfl, hs⟩ := exists_last hslash
    have hne : s ≠ [] := by
      rintro rfl
      exact hlast (by simp)
    rw [List.append_assoc, List.cons_append, ofBytes_append_slash (isName_dotted hne hs he)]
    exact ofBytes_of_hasName hne hs he
  · exact ofBytes_of_hasName ht hslash he

end Extension

/-- The format of a path is told by the extension of the name it ends in, and agrees with the choice
by name. No directory counts, though it may look like a name with an extension, nor do slashes and
lone dots at the end. What is no name of a format in any case is quoted in lower case. -/
theorem ofBytes_by_extension :
    (∀ d s, IsName s → ofBytes (d ++ slash :: s) = ofBytes s) ∧
    (∀ p tail, IsIdleTail tail → ofBytes (p ++ tail) = ofBytes p) ∧
    (∀ p, (∀ s, ¬ EndsIn p s) → ofBytes p = csv) ∧
    (∀ s, IsName s → ∀ f, f ≠ csv → (ofBytes s = f ↔ f.IsExtensionOf s)) ∧
    (∀ s, IsName s → (∀ f, f ≠ csv → ¬ f.IsExtensionOf s) → ofBytes s = csv) ∧
    (∀ t e f, t ≠ [] → t.getLast? ≠ some slash → named e = .ok f →
      ofBytes (t ++ dot :: Utf8.encode e) = f) ∧
    (∀ e f, named e = .ok f ↔ f.HasName e) ∧
    (∀ e, (∀ f : Format, ¬ f.HasName e) → ∃ low, List.Forall₂ IsLowered e low ∧
      named e = .error ("unknown output format \x60".toList ++ low ++
        "\x60 (expected csv, xlsx, json or yaml)".toList)) ∧
    ∀ p : Path, ofPath p = ofBytes (Utf8.encode p) := by
  refine ⟨fun d s h => ofBytes_append_slash h d, fun p tail h => ofBytes_append_tail h p,
    fun p => ofBytes_of_nameless, fun s h f hf => ofBytes_eq_iff h hf, fun s h hnone => ?_,
    fun t e f => ofBytes_of_named, fun e f => named_eq_ok_iff,
    fun e h => ⟨lowered e, forall₂_isLowered e, named_eq_error h⟩,
    fun p => (ofBytes_encode p).symm⟩
  by_cases hcsv : ofBytes s = csv
  · exact hcsv
  · exact absurd (isExtensionOf_ofBytes h hcsv) (hnone (ofBytes s) hcsv)

/-- A workbook whose name is no text, in a directory that looks like a YAML sheet, with a path that
does not end in the name; a path without a name; a name that starts with its only dot; a path in a
dotted directory against the choice by name; and a name that no format has. -/
theorem ofBytes_by_extension_in_dotted_directory :
    ofBytes (Utf8.encode "db.yaml".toList ++ slash :: (0xFF :: dot :: Utf8.encode "XlSx".toList) ++
      [slash, slash, dot]) = xlsx ∧
    ofBytes [] = csv ∧
    ofBytes (dot :: Utf8.encode "json".toList) = csv ∧
    ofBytes (Utf8.encode "v.1/db".toList ++ dot :: Utf8.encode "Yml".toList) = yaml ∧
    ∃ low, List.Forall₂ IsLowered "TSV".toList low ∧
      named "TSV".toList = .error ("unknown output format \x60".toList ++ low ++
        "\x60 (expected csv, xlsx, json or yaml)".toList) := by
  obtain ⟨hdirectory, htail, hnameless, hname, hother, hagree, hok, hunknown, -⟩ :=
    ofBytes_by_extension
  refine ⟨?_, hnameless _ ?_, hother _ ?_ ?_, hagree _ _ _ ?_ ?_ rfl, hunknown _ ?_⟩
  · have hs : IsName (0xFF :: dot :: Utf8.encode "XlSx".toList) :=
      ⟨by decide, by decide, by decide, by decide⟩
    have hidle : IsIdleTail [slash, slash, dot] :=
      .add (q := [dot]) (.add (q := []) .nil (Or.inl rfl)) (Or.inr rfl)
    have hxlsx : xlsx.HasName "XlSx".toList := ⟨"xlsx".toList, by decide, by decide⟩
    rw [htail _ _ hidle, hdirectory _ _ hs, hname _ hs xlsx (by decide)]
    exact ⟨[0xFF], "XlSx".toList, rfl, by decide, by decide, hxlsx⟩
  · rintro s ⟨hs, tail, -, hnil | ⟨d, hnil⟩⟩
    · exact hs.ne_nil (List.append_eq_nil_iff.1 hnil.symm).1
    · simp at hnil
  · exact ⟨by decide, by decide, by decide, by decide⟩
  · rintro f - ⟨t, e, hcut, ht, -⟩
    obtain ⟨b, t, rfl⟩ := List.exists_cons_of_ne_nil ht
    rw [List.cons_append, List.cons.injEq] at hcut
    have hdot : dot ∈ Utf8.encode "json".toList := by
      rw [hcut.2]
      simp
    exact absurd hdot (by decide)
  · decide
  · decide
  · intro f hf
    cases (hok _ f).2 hf

end Format

end SchemaSheet
