import SchemaSheet.Proofs.Ending
import SchemaSheet.Proofs.Growth

/-! What a failed extraction leaves behind: the files as they were, unless it failed at storing the
sheet; then there may be new directories on the way to it, and nothing else is new or changed. -/

namespace SchemaSheet

/-- A run that stops before it stores anything, or whose sheet is stored or not. -/
theorem extract_cases (b : Build) (now : Nat) (r : Request) (fs : Files) :
    ((extract b now r fs).files = fs ∧ ∃ f, (extract b now r fs).result = .error f) ∨
    ∃ sheet : Sheet,
      let stored := fs.save r.output (sheet.content.bytes (b.archive now))
      (extract b now r fs).files = stored.files ∧
      (extract b now r fs).result =
        match stored.fault with
        | some e => .error (.notWritten r.output (.system e))
        | none => .ok sheet.summary := by
  have hend := ends_extract b now r fs
  generalize extract b now r fs = x at hend ⊢
  cases hend with
  | unreadable _ => exact Or.inl ⟨rfl, _, rfl⟩
  | refused _ _ => exact Or.inl ⟨rfl, _, rfl⟩
  | unrendered _ _ _ => exact Or.inl ⟨rfl, _, rfl⟩
  | unstored _ _ _ hsave => exact Or.inr ⟨_, by rw [hsave], by rw [hsave]⟩
  | stored _ _ _ hsave => exact Or.inr ⟨_, by rw [hsave], by rw [hsave]⟩

/-- A failed extraction damages no file: none is changed, made or removed. Unless the system failed
at storing the sheet, everything is as before; if it did, the files may have gained directories on
the way to the output, and nothing else. -/
theorem files_of_extract_error {b : Build} {now : Nat} {r : Request} {fs : Files}
    {f : ExtractFault} (h : (extract b now r fs).result = .error f) :
    ((∀ cause, f ≠ .notWritten r.output (.system cause)) → (extract b now r fs).files = fs) ∧
    fs.Gains r.output (extract b now r fs).files ∧
    ∀ p bytes, (extract b now r fs).files.find? p = some (.file bytes) ↔
      fs.find? p = some (.file bytes) := by
  rcases extract_cases b now r fs with ⟨hfiles, -⟩ | ⟨sheet, hfiles, hresult⟩
  · rw [hfiles]
    exact ⟨fun _ => rfl, Files.Gains.refl r.output fs, fun _ _ => Iff.rfl⟩
  · rw [h] at hresult
    cases hfault : (fs.save r.output (sheet.content.bytes (b.archive now))).fault with
    | none =>
      rw [hfault] at hresult
      cases hresult
    | some e =>
      rw [hfault, Except.error.injEq] at hresult
      have hgains := Files.save_gains hfault
      rw [hfiles]
      exact ⟨fun hne => absurd hresult (hne e), hgains, fun _ _ => hgains.find?_file⟩

namespace Request

/-- A run that makes a directory and then meets a name that is too long for the next one. -/
def halfway : Request where
  schema := ['s']
  output := ['a', '/'] ++ List.replicate 256 'x' ++ ['/', 'o']

def halfwayFiles : Files where
  entries := [([['s']], .file (Text.Utf8.encode "model A \x7b\n\x7d".toList))]

end Request

theorem files_of_extract_error_halfway :
    let after := extract .plain 0 Request.halfway Request.halfwayFiles
    after.result = .error (.notWritten Request.halfway.output (.system .nameTooLong)) ∧
    Request.halfwayFiles.Gains Request.halfway.output after.files ∧
    after.files.find? [['a']] = some .directory := by
  intro after
  have h : after.result = .error (.notWritten Request.halfway.output (.system .nameTooLong)) := by
    decide +kernel
  exact ⟨h, (files_of_extract_error h).2.1, by decide +kernel⟩

end SchemaSheet
