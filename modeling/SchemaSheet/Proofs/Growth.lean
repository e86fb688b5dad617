import Mathlib.Data.List.Induction
import Mathlib.Data.List.TakeWhile
import SchemaSheet.Files.Access
import SchemaSheet.Proofs.Text

/-! What an attempt to store a sheet can do to the files before the sheet itself is stored: nothing
but make directories on the way to it. What is there stays, so a path that leads somewhere leads
there afterwards, and a directory that was made is found by the path it was made for. -/

namespace SchemaSheet

open Text

/-- Two computations in a row succeed if and only if each does. -/
theorem bind_eq_ok {ε α β : Type} {x : Except ε α} {f : α → Except ε β} {b : β} :
    x >>= f = .ok b ↔ ∃ a, x = .ok a ∧ f a = .ok b := by
  cases x with
  | error e =>
    constructor
    · intro h
      cases h
    · rintro ⟨a, ha, -⟩
      cases ha
  | ok a =>
    constructor
    · exact fun h => ⟨a, rfl, h⟩
    · rintro ⟨a', ha, h⟩
      cases ha
      exact h

namespace Path

/-- The pieces of a path that count: the first one, and those behind it that name something. -/
def components (path : Path) : List Text :=
  match pieces '/' path with
  | [] => []
  | first :: rest => first :: rest.filter (!isIdle ·)

/-- Whether the components of a path are the first ones of the directory that another is in. -/
def LeadsTo (q path : Path) : Prop := components q <+: (components path).dropLast

theorem components_assemble {first : Text} {rest : List Text} (hf : '/' ∉ first)
    (hr : ∀ p ∈ rest, '/' ∉ p) :
    components (assemble first rest) = first :: rest.reverse.filter (!isIdle ·) := by
  unfold assemble
  split
  · next h =>
    simp only [Bool.and_eq_true, List.isEmpty_iff] at h
    rw [h.1, h.2]
    rfl
  · have hpieces : pieces '/' (joined ['/'] (first :: rest.reverse)) = first :: rest.reverse := by
      apply pieces_joined (List.cons_ne_nil _ _)
      intro p hp
      rcases List.mem_cons.1 hp with rfl | hp
      · exact hf
      · exact hr p (List.mem_reverse.1 hp)
    rw [components, hpieces]

theorem prefix_of_mem_chain {first : Text} {ps : List Text} (hf : '/' ∉ first)
    (hps : ∀ p ∈ ps, '/' ∉ p) {q : Path} (h : q ∈ chain first ps) :
    components q <+: first :: ps.reverse.filter (!isIdle ·) := by
  induction ps with
  | nil =>
    rw [chain, List.mem_singleton] at h
    have hself : components q = first :: [].reverse.filter (!isIdle ·) := by
      rw [h, components_assemble hf hps]
    exact hself ▸ List.prefix_refl _
  | cons p ps ih =>
    have htail := fun h => ih (fun r hr => hps r (List.mem_cons_of_mem p hr)) h
    rw [List.reverse_cons, List.filter_append, ← List.cons_append]
    rw [chain] at h
    split at h
    · exact (htail h).trans (List.prefix_append _ _)
    · rcases List.mem_cons.1 h with rfl | h
      · have hself := components_assemble hf hps
        rw [List.reverse_cons, List.filter_append, ← List.cons_append] at hself
        exact hself ▸ List.prefix_refl _
      · exact (htail h).trans (List.prefix_append _ _)

theorem prefix_of_mem_tail_chain {first : Text} {ps : List Text} (hf : '/' ∉ first)
    (hps : ∀ p ∈ ps, '/' ∉ p) {q : Path} (h : q ∈ (chain first ps).tail) :
    components q <+: (first :: ps.reverse.filter (!isIdle ·)).dropLast := by
  induction ps with
  | nil => cases h
  | cons p ps ih =>
    have hrest : ∀ r ∈ ps, '/' ∉ r := fun r hr => hps r (List.mem_cons_of_mem p hr)
    rw [List.reverse_cons, List.filter_append]
    rw [chain] at h
    split at h
    · next hidle =>
      simpa [hidle] using ih hrest h
    · next hidle =>
      have hp : [p].filter (!isIdle ·) = [p] := by simp [hidle]
      rw [hp, ← List.cons_append, List.dropLast_concat]
      exact prefix_of_mem_chain hf hrest h

theorem leadsTo_of_mem_parents {path q : Path} (h : q ∈ parents path) : LeadsTo q path := by
  unfold parents ancestors at h
  unfold LeadsTo components
  have hslash : ∀ p ∈ pieces '/' path, '/' ∉ p := fun p hp => not_mem_of_mem_pieces hp
  split at h
  · cases h
  · cases hp : pieces '/' path with
    | nil => exact absurd hp (pieces_ne_nil '/' path)
    | cons first rest =>
      rw [hp] at h hslash
      have := prefix_of_mem_tail_chain (hslash first List.mem_cons_self)
        (fun r hr => hslash r (List.mem_cons_of_mem first (List.mem_reverse.1 hr))) h
      rwa [List.reverse_reverse] at this

end Path

namespace Files

/-- Everything in the first tree is in the second as well. -/
structure Extends (fs fs' : Files) : Prop where
  here : fs'.here = fs.here
  kept : ∀ p e, fs.find? p = some e → fs'.find? p = some e

/-- The second tree has everything that the first one has; what else it has is directories, each
found by a path on the way to the given one. -/
structure Gains (path : Path) (fs fs' : Files) : Prop extends Extends fs fs' where
  added : ∀ p e, fs'.find? p = some e → fs.find? p = none →
    e = .directory ∧ ∃ q, Path.LeadsTo q path ∧ fs'.locate q = .ok p

theorem Extends.isDirectory {fs fs' : Files} (h : Extends fs fs') {p : Place}
    (hp : fs.isDirectory p = true) : fs'.isDirectory p = true := by
  simp only [Files.isDirectory, beq_iff_eq] at hp ⊢
  exact h.kept p _ hp

/-- One piece of a path, followed: it names nothing, it goes up, or it goes to what is there. -/
theorem walk_cons_eq_ok_iff {fs : Files} {p q : Place} {name : Text} {rest : List Text} :
    fs.walk p (name :: rest) = .ok q ↔ fs.isDirectory p = true ∧
      ((Path.isIdle name = true ∧ fs.walk p rest = .ok q) ∨
      (Path.isIdle name = false ∧ name = ['.', '.'] ∧ fs.walk p.dropLast rest = .ok q) ∨
      (Path.isIdle name = false ∧ name ≠ ['.', '.'] ∧ ¬ Path.maxName < Utf8.size name ∧
        (fs.find? (p ++ [name])).isSome = true ∧ fs.walk (p ++ [name]) rest = .ok q)) := by
  rw [walk]
  cases fs.isDirectory p with
  | false => simp
  | true =>
    cases Path.isIdle name with
    | true => simp
    | false =>
      by_cases hup : name = ['.', '.']
      · simp [hup]
      · by_cases hsize : Path.maxName < Utf8.size name
        · simp [hup, hsize]
        · cases h : fs.find? (p ++ [name]) <;> simp [hup, hsize]

/-- In the second tree there is something wherever there was, and directories are directories still.
This is all that a way depends on. -/
structure Leads (fs fs' : Files) : Prop where
  here : fs'.here = fs.here
  directory : ∀ p, fs.isDirectory p = true → fs'.isDirectory p = true
  there : ∀ p, (fs.find? p).isSome = true → (fs'.find? p).isSome = true

theorem Leads.walk {fs fs' : Files} (h : Leads fs fs') {names : List Text} {p q : Place}
    (hq : fs.walk p names = .ok q) : fs'.walk p names = .ok q := by
  induction names generalizing p with
  | nil => exact hq
  | cons name names ih =>
    rw [walk_cons_eq_ok_iff] at hq ⊢
    obtain ⟨hdir, hq⟩ := hq
    refine ⟨h.directory p hdir, ?_⟩
    rcases hq with ⟨hidle, hq⟩ | ⟨hidle, hup, hq⟩ | ⟨hidle, hup, hsize, hsome, hq⟩
    · exact Or.inl ⟨hidle, ih hq⟩
    · exact Or.inr (Or.inl ⟨hidle, hup, ih hq⟩)
    · exact Or.inr (Or.inr ⟨hidle, hup, hsize, h.there _ hsome, ih hq⟩)

theorem Leads.start {fs fs' : Files} (h : Leads fs fs') (path : Path) :
    fs'.start path = fs.start path := by
  unfold Files.start
  rw [h.here]

theorem Leads.locate {fs fs' : Files} (h : Leads fs fs') {path : Path} {p : Place}
    (hp : fs.locate path = .ok p) : fs'.locate path = .ok p := by
  unfold Files.locate at hp ⊢
  split at hp
  · cases hp
  · rw [h.start]
    exact h.walk hp

theorem Extends.leads {fs fs' : Files} (h : Extends fs fs') : Leads fs fs' where
  here := h.here
  directory := fun _ hp => h.isDirectory hp
  there := by
    intro p hp
    obtain ⟨e, he⟩ := Option.isSome_iff_exists.1 hp
    rw [h.kept p e he]
    rfl

theorem Extends.trans {fs fs' fs'' : Files} (h : Extends fs fs') (h' : Extends fs' fs'') :
    Extends fs fs'' :=
  ⟨h'.here.trans h.here, fun p e he => h'.kept p e (h.kept p e he)⟩

theorem Gains.refl (path : Path) (fs : Files) : Gains path fs fs where
  here := rfl
  kept := fun _ _ h => h
  added := by
    intro p e h hnone
    rw [hnone] at h
    cases h

theorem Gains.trans {path : Path} {fs fs' fs'' : Files} (h : Gains path fs fs')
    (h' : Gains path fs' fs'') : Gains path fs fs'' where
  toExtends := h.toExtends.trans h'.toExtends
  added := by
    intro p e he hnone
    cases hmid : fs'.find? p with
    | none => exact h'.added p e he hmid
    | some e' =>
      obtain ⟨rfl, q, hq, hloc⟩ := h.added p e' hmid hnone
      have hkept := h'.kept p _ hmid
      rw [hkept, Option.some.injEq] at he
      exact ⟨he.symm, q, hq, h'.toExtends.leads.locate hloc⟩

theorem find?_file_iff {fs fs' : Files} {p : Place}
    (hkept : ∀ e, fs.find? p = some e → fs'.find? p = some e)
    (hadded : ∀ e, fs'.find? p = some e → fs.find? p = none → e = .directory)
    {bytes : List UInt8} :
    fs'.find? p = some (.file bytes) ↔ fs.find? p = some (.file bytes) := by
  constructor
  · intro hc
    cases hold : fs.find? p with
    | none => cases hadded _ hc hold
    | some e =>
      rw [hkept e hold] at hc
      exact hc
  · exact hkept _

theorem Gains.find?_file {path : Path} {fs fs' : Files} (h : Gains path fs fs') {p : Place}
    {bytes : List UInt8} : fs'.find? p = some (.file bytes) ↔ fs.find? p = some (.file bytes) :=
  find?_file_iff (h.kept p) fun e he hnone => (h.added p e he hnone).1

theorem walk_append (fs : Files) (p : Place) (names more : List Text) :
    fs.walk p (names ++ more) = (fs.walk p names >>= fun q => fs.walk q more) := by
  induction names generalizing p with
  | nil => rfl
  | cons name names ih =>
    rw [List.cons_append, walk, walk]
    split
    · rfl
    · split
      · exact ih p
      · split
        · exact ih p.dropLast
        · split
          · rfl
          · split
            · rfl
            · exact ih (p ++ [name])

theorem walk_append_eq_ok_iff {fs : Files} {p q : Place} {names more : List Text} :
    fs.walk p (names ++ more) = .ok q ↔
      ∃ r, fs.walk p names = .ok r ∧ fs.walk r more = .ok q := by
  rw [walk_append, bind_eq_ok]

theorem walk_empty {fs : Files} {names : List Text} (h : ∀ s ∈ names, s = []) {p : Place}
    (hp : fs.isDirectory p = true) : fs.walk p names = .ok p := by
  induction names with
  | nil => rfl
  | cons name names ih =>
    rw [walk_cons_eq_ok_iff]
    refine ⟨hp, Or.inl ⟨?_, ih fun s hs => h s (List.mem_cons_of_mem name hs)⟩⟩
    rw [h name List.mem_cons_self]
    rfl

theorem slot_eq_some {fs : Files} {path : Path} {p : Place} {name : Text}
    (h : fs.slot path = .ok (some (p, name))) :
    path.fault? = none ∧ fs.isDirectory p = true ∧ name ≠ [] ∧
      ∃ before after, pieces '/' path = before ++ name :: after ∧ (∀ s ∈ after, s = []) ∧
        fs.walk (fs.start path) before = .ok p := by
  unfold slot at h
  split at h
  · cases h
  · next hfault =>
    split at h
    · cases h
    · next last before hdrop =>
      obtain ⟨d, hd, h⟩ := bind_eq_ok.1 h
      split at h
      · next hdir =>
        cases h
        have hlast := List.head?_dropWhile_not List.isEmpty (pieces '/' path).reverse
        rw [hdrop] at hlast
        have hcut := List.takeWhile_append_dropWhile
          (p := List.isEmpty) (l := (pieces '/' path).reverse)
        rw [hdrop] at hcut
        have hempty : ∀ s ∈ (pieces '/' path).reverse.takeWhile List.isEmpty, s = [] := by
          intro s hs
          simpa using List.mem_takeWhile_imp hs
        generalize (pieces '/' path).reverse.takeWhile List.isEmpty = after at hcut hempty
        refine ⟨hfault, hdir, ?_, before.reverse, after.reverse, ?_, ?_, hd⟩
        · rintro rfl
          cases hlast
        · rw [← List.reverse_reverse (pieces '/' path), ← hcut]
          simp
        · exact fun s hs => hempty s (List.mem_reverse.1 hs)
      · cases h

theorem isIdle_of_isDots {name : Text} (hname : name ≠ []) (hdots : isDots name = false) :
    Path.isIdle name = false := by
  simp only [isDots, Bool.or_eq_false_iff] at hdots
  simp [Path.isIdle, hname, hdots.1]

theorem eq_nil_of_getLast? {path : Path} {before after : List Text} {name : Text}
    (hpieces : pieces '/' path = before ++ name :: after) (hafter : ∀ s ∈ after, s = [])
    (hslash : path.getLast? ≠ some '/') : after = [] := by
  cases after using List.reverseRecOn with
  | nil => rfl
  | append_singleton as a =>
    have ha : a = [] := hafter a (by simp)
    have hpath : path = joined ['/'] (before ++ name :: as) ++ ['/'] ++ joined ['/'] [[]] := by
      rw [← joined_append (by simp) (List.cons_ne_nil _ _), ← joined_pieces '/' path, hpieces, ha]
      simp
    exact absurd (by rw [hpath]; simp [joined]) hslash

/-- What is put into a slot is found by the path that told the slot. A path that ends in a slash
asks for a directory. -/
theorem Leads.locate_slot {fs fs' : Files} (h : Leads fs fs') {path : Path} {p : Place}
    {name : Text} (hslot : fs.slot path = .ok (some (p, name))) (hdots : isDots name = false)
    (hsize : ¬ Path.maxName < Utf8.size name) (hthere : (fs'.find? (p ++ [name])).isSome = true)
    (hend : fs'.isDirectory (p ++ [name]) = true ∨ path.getLast? ≠ some '/') :
    fs'.locate path = .ok (p ++ [name]) := by
  obtain ⟨hfault, hdir, hname, before, after, hpieces, hafter, hwalk⟩ := slot_eq_some hslot
  have hidle := isIdle_of_isDots hname hdots
  simp only [isDots, Bool.or_eq_false_iff, beq_eq_false_iff_ne] at hdots
  have hstep : fs'.walk (p ++ [name]) after = .ok (p ++ [name]) := by
    rcases hend with hdir' | hslash
    · exact walk_empty hafter hdir'
    · rw [eq_nil_of_getLast? hpieces hafter hslash]
      rfl
  unfold Files.locate
  rw [hfault]
  simp only
  rw [hpieces, walk_append_eq_ok_iff, h.start]
  exact ⟨p, h.walk hwalk, walk_cons_eq_ok_iff.2
    ⟨h.directory p hdir, Or.inr (Or.inr ⟨hidle, hdots.2, hsize, hthere, hstep⟩)⟩⟩

theorem find?_put_self (fs : Files) {p : Place} (hne : p ≠ []) (e : Entry) :
    (fs.put p e).find? p = some e := by
  rw [find?_put fs p p e hne, if_pos rfl]

theorem extends_put {fs : Files} {p : Place} (hne : p ≠ []) (hnone : fs.find? p = none)
    (e : Entry) : Extends fs (fs.put p e) where
  here := here_put fs p e
  kept := by
    intro q f hq
    rw [find?_put fs p q e hne]
    split
    · next heq =>
      rw [heq, hnone] at hq
      cases hq
    · exact hq

theorem makeDirectory_eq_ok {fs fs' : Files} {path : Path} (h : fs.makeDirectory path = .ok fs') :
    ∃ p name, fs.slot path = .ok (some (p, name)) ∧ isDots name = false ∧
      ¬ Path.maxName < Utf8.size name ∧ fs.find? (p ++ [name]) = none ∧
      fs' = fs.put (p ++ [name]) .directory := by
  obtain ⟨s, hs, h⟩ := bind_eq_ok.1 h
  split at h
  · cases h
  · next p name =>
    split at h
    · cases h
    · next hdots =>
      split at h
      · cases h
      · next hsize =>
        split at h
        · cases h
        · next hnone =>
          cases h
          exact ⟨p, name, hs, by simpa using hdots, hsize, by simpa using hnone, rfl⟩

theorem makeDirectory_gains {fs fs' : Files} {path q : Path} (hq : Path.LeadsTo q path)
    (h : fs.makeDirectory q = .ok fs') : Gains path fs fs' := by
  obtain ⟨p, name, hslot, hdots, hsize, hnone, rfl⟩ := makeDirectory_eq_ok h
  have hne : p ++ [name] ≠ [] := by simp
  have hext := extends_put hne hnone .directory
  have hfind := find?_put_self fs hne .directory
  have hloc : (fs.put (p ++ [name]) .directory).locate q = .ok (p ++ [name]) :=
    hext.leads.locate_slot hslot hdots hsize (by rw [hfind]; rfl)
      (Or.inl (by rw [isDirectory, hfind]; rfl))
  refine ⟨hext, fun r e hr hold => ?_⟩
  rw [find?_put fs _ _ _ hne] at hr
  split at hr
  · next heq =>
    rw [Option.some.injEq] at hr
    exact ⟨hr.symm, q, hq, heq ▸ hloc⟩
  · rw [hold] at hr
    cases hr

theorem ensureDirectory_gains (fs : Files) {path q : Path} (hq : Path.LeadsTo q path) :
    Gains path fs (fs.ensureDirectory q).files := by
  rw [ensureDirectory_eq]
  cases h : fs.makeDirectory q with
  | ok fs' => exact makeDirectory_gains hq h
  | error e =>
    simp only
    split <;> exact Gains.refl path fs

/-- However far the directories are made, nothing else is. -/
theorem ensureDirectories_gains (fs : Files) {path : Path} {qs : List Path}
    (hqs : ∀ q ∈ qs, Path.LeadsTo q path) : Gains path fs (fs.ensureDirectories qs).files := by
  induction qs generalizing fs with
  | nil => exact Gains.refl path fs
  | cons q qs ih =>
    have hq := hqs q List.mem_cons_self
    have hfirst := ensureDirectory_gains fs hq
    rw [ensureDirectories_cons]
    cases h : fs.ensureDirectory q with
    | mk fs' fault =>
      rw [h] at hfirst
      cases fault with
      | none => exact hfirst
      | some e =>
        have habove := ih fs' fun r hr => hqs r (List.mem_cons_of_mem q hr)
        simp only
        split
        · cases h' : fs'.ensureDirectories qs with
          | mk fs'' fault' =>
            rw [h'] at habove
            cases fault' with
            | none => exact (hfirst.trans habove).trans (ensureDirectory_gains fs'' hq)
            | some e' => exact hfirst.trans habove
        · exact hfirst

theorem ensureParents_gains (fs : Files) (path : Path) :
    Gains path fs (fs.ensureParents path).files := by
  have hqs : ∀ q ∈ Path.parents path, Path.LeadsTo q path :=
    fun q hq => Path.leadsTo_of_mem_parents hq
  rw [ensureParents_eq]
  cases h : Path.parents path with
  | nil => exact Gains.refl path fs
  | cons parent above =>
    rw [h] at hqs
    simp only
    split
    · exact Gains.refl path fs
    · exact ensureDirectories_gains fs hqs

/-- A sheet that could not be stored leaves at most directories. -/
theorem save_gains {fs : Files} {path : Path} {bytes : List UInt8} {e : SystemFault}
    (h : (fs.save path bytes).fault = some e) : Gains path fs (fs.save path bytes).files := by
  have hparents := ensureParents_gains fs path
  rw [save_eq] at h ⊢
  cases hp : fs.ensureParents path with
  | mk fs' fault =>
    rw [hp] at h hparents
    cases fault with
    | some e' => exact hparents
    | none =>
      simp only at h ⊢
      cases hw : fs'.writeFile path bytes with
      | ok fs'' =>
        rw [hw] at h
        cases h
      | error e' => exact hparents

end Files

end SchemaSheet
