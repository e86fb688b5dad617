import SchemaSheet.Proofs.Growth

/-! What storing a content does to the files: it is at the place that the path leads to from then
on, directories on the way there may be new, and nothing else is. Once it is stored, storing
another finds everything as it needs it and only puts the later bytes in place of the earlier. -/

namespace SchemaSheet

open Text

namespace Text.Utf8

theorem le_foldl_width (n : Nat) (t : Text) : n ≤ t.foldl (fun n c => n + width c) n := by
  induction t generalizing n with
  | nil => exact Nat.le_refl n
  | cons c t ih => exact (Nat.le_add_right n (width c)).trans (ih _)

theorem size_le_of_prefix {s t : Text} (h : s <+: t) : size s ≤ size t := by
  obtain ⟨r, rfl⟩ := h
  unfold size
  rw [List.foldl_append]
  exact le_foldl_width _ r

end Text.Utf8

namespace Path

theorem fault?_eq_none_of_prefix {q path : Path} (h : q <+: path) (hne : q ≠ [])
    (hpath : path.fault? = none) : q.fault? = none := by
  have hsize := Utf8.size_le_of_prefix h
  have hnul : '\x00' ∈ q → '\x00' ∈ path := fun hq => h.subset hq
  unfold fault? at hpath ⊢
  simp only [List.contains_iff_mem, List.isEmpty_iff] at hpath ⊢
  grind

/-- The first path of a chain is what is left without the pieces at the end that name nothing. -/
theorem exists_chain_eq_cons (first : Text) (ps : List Text) :
    ∃ idles rest above, ps = idles ++ rest ∧ chain first ps = assemble first rest :: above := by
  induction ps with
  | nil => exact ⟨[], [], [], rfl, rfl⟩
  | cons p ps ih =>
    rw [chain]
    split
    · obtain ⟨idles, rest, above, hps, hchain⟩ := ih
      exact ⟨p :: idles, rest, above, by rw [hps, List.cons_append], hchain⟩
    · exact ⟨[], p :: ps, _, rfl, rfl⟩

/-- The parents of a path that ends in a name begin with what is before the name. -/
theorem parents_cases {path : Path} {before : List Text} {name : Text}
    (hpieces : pieces '/' path = before ++ [name]) (hname : isIdle name = false) :
    parents path = [] ∨ ∃ first rest idles above, before = first :: (rest ++ idles) ∧
      parents path = assemble first rest.reverse :: above := by
  have hne : path ≠ [] := by
    rintro rfl
    cases before with
    | nil =>
      cases hpieces
      cases hname
    | cons first mid => simp at hpieces
  cases before with
  | nil =>
    left
    simp [parents, ancestors, hne, hpieces, chain]
  | cons first mid =>
    right
    obtain ⟨idles, rest, above, hmid, hchain⟩ := exists_chain_eq_cons first mid.reverse
    have hparents : parents path = chain first mid.reverse := by
      simp [parents, ancestors, hne, hpieces, chain, hname]
    refine ⟨first, rest.reverse, idles.reverse, above, ?_, ?_⟩
    · rw [← List.reverse_append, ← hmid, List.reverse_reverse]
    · rw [hparents, hchain, List.reverse_reverse]

theorem assemble_prefix {path : Path} {first : Text} {rest more : List Text}
    (hpieces : pieces '/' path = (first :: rest) ++ more) (hmore : more ≠ []) :
    assemble first rest.reverse <+: path := by
  have hpath : path = joined ['/'] (first :: rest) ++ ['/'] ++ joined ['/'] more := by
    rw [← joined_append (List.cons_ne_nil _ _) hmore, ← hpieces, joined_pieces]
  unfold assemble
  split
  · next h =>
    simp only [Bool.and_eq_true, List.isEmpty_iff, List.reverse_eq_nil_iff] at h
    rw [hpath, h.1, h.2]
    exact List.prefix_append _ _
  · rw [hpath, List.reverse_reverse, List.append_assoc]
    exact List.prefix_append _ _

theorem assemble_ne_nil (first : Text) (rest : List Text) : assemble first rest ≠ [] := by
  unfold assemble
  split
  · exact List.cons_ne_nil _ _
  · next h =>
    simp only [Bool.and_eq_true, List.isEmpty_iff, not_and] at h
    by_cases hrest : rest = []
    · subst hrest
      exact fun hf => h hf rfl
    · rw [joined_cons _ _ (by simpa using hrest)]
      simp

end Path

namespace Files

/-- Bytes are written where a path leads to. What else is new is directories, each found by a path
on the way there. -/
structure Stores (path : Path) (bytes : List UInt8) (p : Place) (fs fs' : Files) : Prop where
  here : fs'.here = fs.here
  found : fs'.locate path = .ok p
  stored : fs'.find? p = some (.written bytes (fs.find? p))
  free : fs.isDirectory p = false
  kept : ∀ q e, q ≠ p → fs.find? q = some e → fs'.find? q = some e
  added : ∀ q e, q ≠ p → fs'.find? q = some e → fs.find? q = none →
    e = .directory ∧ ∃ d, Path.LeadsTo d path ∧ fs'.locate d = .ok q

/-- Ways lead on if one place, which was no directory, has been taken. -/
theorem leads_of_kept {fs fs' : Files} {p : Place} (hhere : fs'.here = fs.here)
    (hfree : fs.isDirectory p = false) (hthere : (fs'.find? p).isSome = true)
    (hkept : ∀ q e, q ≠ p → fs.find? q = some e → fs'.find? q = some e) : Leads fs fs' where
  here := hhere
  directory := by
    intro q hq
    have hqp : q ≠ p := by
      rintro rfl
      rw [hfree] at hq
      cases hq
    simp only [Files.isDirectory, beq_iff_eq] at hq ⊢
    exact hkept q _ hqp hq
  there := by
    intro q hq
    by_cases hqp : q = p
    · rwa [hqp]
    · obtain ⟨e, he⟩ := Option.isSome_iff_exists.1 hq
      rw [hkept q e hqp he]
      rfl

theorem Stores.leads {path : Path} {bytes : List UInt8} {p : Place} {fs fs' : Files}
    (h : Stores path bytes p fs fs') : Leads fs fs' :=
  leads_of_kept h.here h.free (by rw [h.stored]; rfl) h.kept

theorem Stores.find?_file {path : Path} {bytes bytes' : List UInt8} {p q : Place}
    {fs fs' : Files} (h : Stores path bytes p fs fs') (hq : q ≠ p) :
    fs'.find? q = some (.file bytes') ↔ fs.find? q = some (.file bytes') :=
  find?_file_iff (fun e => h.kept q e hq) fun e he hnone => (h.added q e hq he hnone).1

/-- The bytes are there, unless the null device took them. -/
theorem Stores.find?_place {path : Path} {bytes : List UInt8} {p : Place} {fs fs' : Files}
    (h : Stores path bytes p fs fs') (hsink : fs.find? p ≠ some .sink) :
    fs'.find? p = some (.file bytes) := by
  rw [h.stored]
  unfold Entry.written
  split
  · next hfound => exact absurd hfound hsink
  · rfl

/-- What is written to the null device is gone: only directories are new. -/
theorem Stores.gains {path : Path} {bytes : List UInt8} {p : Place} {fs fs' : Files}
    (h : Stores path bytes p fs fs') (hsink : fs.find? p = some .sink) : Gains path fs fs' where
  here := h.here
  kept := by
    intro q e he
    by_cases hq : q = p
    · subst hq
      rw [hsink, Option.some.injEq] at he
      rw [h.stored, hsink, ← he]
      rfl
    · exact h.kept q e hq he
  added := by
    intro q e he hnone
    refine h.added q e ?_ he hnone
    rintro rfl
    rw [hsink] at hnone
    cases hnone

theorem readText_eq_ok_iff {fs : Files} {path : Path} {t : Text} :
    fs.readText path = .ok t ↔
      ∃ bytes, fs.readFile path = .ok bytes ∧ Utf8.text? bytes = some t := by
  unfold readText SystemFault.textOf
  cases fs.readFile path with
  | error e => simp [Except.bind]
  | ok bytes => cases h : Utf8.text? bytes <;> simp [Except.bind, h]

theorem readFile_congr {fs fs' : Files} {path : Path} {p : Place} (h : fs.locate path = .ok p)
    (h' : fs'.locate path = .ok p) (hfind : fs'.find? p = fs.find? p) :
    fs'.readFile path = fs.readFile path := by
  unfold readFile
  rw [h, h']
  simp only [bind, Except.bind, hfind]

/-- A path that leads to another place reads the same text. -/
theorem Stores.readText {path q : Path} {bytes : List UInt8} {p : Place} {fs fs' : Files}
    {t : Text} (h : Stores path bytes p fs fs') (hq : fs.locate q ≠ .ok p)
    (ht : fs.readText q = .ok t) : fs'.readText q = .ok t := by
  obtain ⟨found, hfound, htext⟩ := readText_eq_ok_iff.1 ht
  obtain ⟨s, hs, hread⟩ := bind_eq_ok.1 hfound
  obtain ⟨e, he⟩ : ∃ e, fs.find? s = some e := by
    cases hfind : fs.find? s with
    | none => simp [hfind] at hread
    | some e => exact ⟨e, rfl⟩
  have hsp : s ≠ p := by
    rintro rfl
    exact hq hs
  have hsame := readFile_congr hs (h.leads.locate hs) ((h.kept s e hsp he).trans he.symm)
  exact readText_eq_ok_iff.2 ⟨found, hsame.trans hfound, htext⟩

theorem replaced_of_lookup {p : Place} {e : Entry} {l : List (Place × Entry)}
    (h : l.lookup p = some e) : replaced p e l = l := by
  induction l with
  | nil => cases h
  | cons x l ih =>
    obtain ⟨q, f⟩ := x
    rw [lookup_cons_eq] at h
    by_cases hq : q = p
    · rw [if_pos hq.symm, Option.some.injEq] at h
      rw [replaced, if_pos hq, h]
    · rw [if_neg (Ne.symm hq)] at h
      rw [replaced, if_neg hq, ih h]

theorem put_of_find? {fs : Files} {p : Place} {e : Entry} (hne : p ≠ [])
    (h : fs.find? p = some e) : fs.put p e = fs := by
  rw [find?, if_neg hne] at h
  rw [put, replaced_of_lookup h]

theorem leads_put {fs : Files} {p : Place} (hne : p ≠ []) (hdir : fs.isDirectory p = false)
    (e : Entry) : Leads fs (fs.put p e) := by
  have hfind (q : Place) := find?_put fs p q e hne
  refine leads_of_kept (here_put fs p e) hdir (by rw [find?_put_self fs hne]; rfl) ?_
  intro q f hq hf
  rw [hfind, if_neg hq, hf]

theorem Leads.slot {fs fs' : Files} (h : Leads fs fs') {path : Path} {p : Place} {name : Text}
    (hs : fs.slot path = .ok (some (p, name))) : fs'.slot path = .ok (some (p, name)) := by
  unfold Files.slot at hs ⊢
  split at hs
  · cases hs
  · split at hs
    · cases hs
    · next last before hdrop =>
      obtain ⟨d, hd, hs⟩ := bind_eq_ok.1 hs
      split at hs
      · next hdir =>
        cases hs
        rw [h.start, h.walk hd]
        simp [bind, Except.bind, h.directory p hdir]
      · cases hs

theorem writeFile_eq_ok_iff {fs fs' : Files} {path : Path} {bytes : List UInt8} :
    fs.writeFile path bytes = .ok fs' ↔ ∃ p name, fs.slot path = .ok (some (p, name)) ∧
      isDots name = false ∧ path.getLast? ≠ some '/' ∧ ¬ Path.maxName < Utf8.size name ∧
      fs.isDirectory (p ++ [name]) = false ∧
      fs' = fs.put (p ++ [name]) (.written bytes (fs.find? (p ++ [name]))) := by
  unfold writeFile
  rw [bind_eq_ok]
  constructor
  · rintro ⟨s, hs, h⟩
    split at h
    · cases h
    · next p name =>
      refine ⟨p, name, hs, ?_⟩
      grind
  · rintro ⟨p, name, hs, hdots, hslash, hsize, hdir, rfl⟩
    refine ⟨_, hs, ?_⟩
    simp [hdots, hslash, hsize, hdir]

theorem start_eq_of_prefix (fs : Files) {q path : Path} (h : q <+: path) (hne : q ≠ []) :
    fs.start q = fs.start path := by
  obtain ⟨c, q, rfl⟩ := List.exists_cons_of_ne_nil hne
  obtain ⟨r, rfl⟩ := h
  rfl

/-- A way that leads somewhere is the way of a path. -/
theorem exists_locate_assemble {fs : Files} {path : Path} {first : Text} {rest more : List Text}
    {p : Place} (hfault : path.fault? = none)
    (hpieces : pieces '/' path = (first :: rest) ++ more) (hmore : more ≠ [])
    (hwalk : fs.walk (fs.start path) (first :: rest) = .ok p) :
    ∃ q, fs.locate (Path.assemble first rest.reverse) = .ok q := by
  have hprefix := Path.assemble_prefix hpieces hmore
  have hne := Path.assemble_ne_nil first rest.reverse
  have hslash : ∀ s ∈ first :: rest, '/' ∉ s := fun s hs =>
    not_mem_of_mem_pieces (hpieces ▸ List.mem_append_left more hs)
  unfold locate
  rw [Path.fault?_eq_none_of_prefix hprefix hne hfault, start_eq_of_prefix fs hprefix hne]
  simp only
  unfold Path.assemble
  split
  · -- the root is written with a slash, which makes two empty pieces
    have hdir := (walk_cons_eq_ok_iff.1 hwalk).1
    have hroot : ∀ s ∈ pieces '/' ['/'], s = [] := by simp [pieces]
    exact ⟨_, walk_empty hroot hdir⟩
  · rw [List.reverse_reverse, pieces_joined (List.cons_ne_nil _ _) hslash]
    exact ⟨p, hwalk⟩

theorem ensureParents_of_slot {fs : Files} {path : Path} {p : Place} {name : Text}
    (h : fs.slot path = .ok (some (p, name))) (hdots : isDots name = false)
    (hslash : path.getLast? ≠ some '/') : fs.ensureParents path = ⟨fs, none⟩ := by
  obtain ⟨hfault, -, hname, before, after, hpieces, hafter, hwalk⟩ := slot_eq_some h
  obtain rfl := eq_nil_of_getLast? hpieces hafter hslash
  have hidle := isIdle_of_isDots hname hdots
  rw [ensureParents_eq]
  rcases Path.parents_cases hpieces hidle with
    hnone | ⟨first, rest, idles, above, hbefore, hparents⟩
  · rw [hnone]
  · rw [hbefore, ← List.cons_append] at hwalk
    rw [hbefore, ← List.cons_append, List.append_assoc] at hpieces
    obtain ⟨q, hq, -⟩ := walk_append_eq_ok_iff.1 hwalk
    obtain ⟨r, hr⟩ := exists_locate_assemble hfault hpieces (by simp) hq
    have hexists : fs.existsAt (Path.assemble first rest.reverse) = true := by
      rw [existsAt, hr]
      rfl
    rw [hparents]
    simp only [hexists, if_true]

theorem save_eq_iff {fs fs' : Files} {path : Path} {bytes : List UInt8} :
    fs.save path bytes = ⟨fs', none⟩ ↔ ∃ made, fs.ensureParents path = ⟨made, none⟩ ∧
      made.writeFile path bytes = .ok fs' := by
  rw [save_eq]
  cases hparents : fs.ensureParents path with
  | mk made fault =>
    cases fault with
    | some e => simp
    | none =>
      simp only
      cases hw : made.writeFile path bytes with
      | error e => simp [hw]
      | ok fs'' => simp [hw]

theorem written_ne_directory (bytes : List UInt8) (e : Option Entry) :
    Entry.written bytes e ≠ .directory := by
  rcases e with _ | _ | _ | _ <;> nofun

/-- Bytes that are written twice are there as if they were written once. -/
theorem written_written (bytes bytes' : List UInt8) (e : Option Entry) :
    Entry.written bytes (some (.written bytes' e)) = .written bytes e := by
  rcases e with _ | _ | _ | _ <;> rfl

theorem isDirectory_put_written (fs : Files) {p : Place} (hne : p ≠ []) (bytes : List UInt8)
    (e : Option Entry) : (fs.put p (.written bytes e)).isDirectory p = false := by
  rw [isDirectory, find?_put_self fs hne, beq_eq_false_iff_ne]
  exact fun h => written_ne_directory bytes e (Option.some.inj h)

/-- What is no directory where only directories are new was there before. -/
theorem Gains.find?_eq {path : Path} {fs fs' : Files} (h : Gains path fs fs') {p : Place}
    (hdir : fs'.isDirectory p = false) : fs'.find? p = fs.find? p := by
  cases hold : fs.find? p with
  | some e => exact h.kept p e hold
  | none =>
    cases hnew : fs'.find? p with
    | none => rfl
    | some e =>
      rw [isDirectory, hnew, (h.added p e hnew hold).1] at hdir
      cases hdir

/-- Bytes that are written are at one place from then on. -/
theorem Gains.stores {fs made fs' : Files} {path : Path} {bytes : List UInt8}
    (h : Gains path fs made) (hwrite : made.writeFile path bytes = .ok fs') :
    ∃ p, Stores path bytes p fs fs' := by
  obtain ⟨p, name, hslot, hdots, hslash, hsize, hdir, rfl⟩ := writeFile_eq_ok_iff.1 hwrite
  have hne : p ++ [name] ≠ [] := by simp
  rw [h.find?_eq hdir]
  generalize hentry : Entry.written bytes (fs.find? (p ++ [name])) = entry
  have hleads := leads_put hne hdir entry
  have hfind (q : Place) := find?_put made (p ++ [name]) q entry hne
  have hself := find?_put_self made hne entry
  refine ⟨p ++ [name], ?_⟩
  constructor
  case here => exact h.here
  case found =>
    exact hleads.locate_slot hslot hdots hsize (by rw [hself]; rfl) (Or.inr hslash)
  case stored => rw [hself, hentry]
  case free =>
    cases hold : fs.isDirectory (p ++ [name]) with
    | false => rfl
    | true =>
      rw [h.toExtends.isDirectory hold] at hdir
      cases hdir
  case kept =>
    intro q e hq he
    rw [hfind, if_neg hq]
    exact h.kept q e he
  case added =>
    intro q e hq he hnone
    rw [hfind, if_neg hq] at he
    obtain ⟨hd, d, hlead, hloc⟩ := h.added q e he hnone
    exact ⟨hd, d, hlead, hleads.locate hloc⟩

theorem save_stores {fs fs' : Files} {path : Path} {bytes : List UInt8}
    (h : fs.save path bytes = ⟨fs', none⟩) : ∃ p, Stores path bytes p fs fs' := by
  obtain ⟨made, hmade, hwrite⟩ := save_eq_iff.1 h
  have hgains := ensureParents_gains fs path
  rw [hmade] at hgains
  exact hgains.stores hwrite

/-- Storing bytes where bytes were stored writes them, and does nothing else. -/
theorem save_again {fs fs' : Files} {path : Path} {bytes : List UInt8} {p : Place}
    (h : fs.save path bytes = ⟨fs', none⟩) (hp : fs'.locate path = .ok p) (later : List UInt8) :
    p ≠ [] ∧ fs'.save path later = ⟨fs'.put p (.written later (fs'.find? p)), none⟩ := by
  obtain ⟨made, -, hwrite⟩ := save_eq_iff.1 h
  obtain ⟨d, name, hslot, hdots, hslash, hsize, hdir, rfl⟩ := writeFile_eq_ok_iff.1 hwrite
  have hne : d ++ [name] ≠ [] := by simp
  generalize hentry : Entry.written bytes (made.find? (d ++ [name])) = entry at *
  have hleads := leads_put hne hdir entry
  have hself := find?_put_self made hne entry
  have hfound := hleads.locate_slot hslot hdots hsize (by rw [hself]; rfl) (Or.inr hslash)
  obtain rfl : p = d ++ [name] := Except.ok.inj (hp.symm.trans hfound)
  have hdir' : (made.put (d ++ [name]) entry).isDirectory (d ++ [name]) = false :=
    hentry ▸ isDirectory_put_written made hne bytes _
  refine ⟨hne, save_eq_iff.2 ⟨_, ensureParents_of_slot (hleads.slot hslot) hdots hslash, ?_⟩⟩
  exact writeFile_eq_ok_iff.2 ⟨d, name, hleads.slot hslot, hdots, hslash, hsize, hdir', rfl⟩

/-- Storing the same bytes once more changes nothing. -/
theorem Stores.put_eq {fs fs' : Files} {path : Path} {bytes : List UInt8} {p : Place}
    (h : Stores path bytes p fs fs') (hne : p ≠ []) :
    fs'.put p (.written bytes (fs'.find? p)) = fs' := by
  refine put_of_find? hne ?_
  rw [h.stored, written_written]

end Files

end SchemaSheet
