import SchemaSheet.Extract

/-! The ways in which an extraction can end. Each is told by what the parts of the run gave, and
comes with the whole of what the run tells and leaves. -/

namespace SchemaSheet

def Request.renderingLog (r : Request) (reading : Reading) : List LogRecord :=
  r.readingLog reading ++ [r.renderingRecord reading]

inductive Ends (b : Build) (now : Nat) (r : Request) (fs : Files) : Extraction → Prop
  | unreadable {e : SystemFault} (hread : fs.readText r.schema = .error e) :
    Ends b now r fs ⟨.error (.unreadable r.schema e), [], fs⟩
  | refused {schema : Text} {f : ExtractFault} (hread : fs.readText r.schema = .ok schema)
      (hrefusal : r.refusal? (Reading.ofText schema) = some f) :
    Ends b now r fs ⟨.error f, r.readingLog (Reading.ofText schema), fs⟩
  | unrendered {schema : Text} {f : ExtractFault} (hread : fs.readText r.schema = .ok schema)
      (hrefusal : r.refusal? (Reading.ofText schema) = none)
      (hrender : r.render b.workbooks (Reading.ofText schema) = .error f) :
    Ends b now r fs ⟨.error f, r.renderingLog (Reading.ofText schema), fs⟩
  | unstored {schema : Text} {sheet : Sheet} {fs' : Files} {e : SystemFault}
      (hread : fs.readText r.schema = .ok schema)
      (hrefusal : r.refusal? (Reading.ofText schema) = none)
      (hrender : r.render b.workbooks (Reading.ofText schema) = .ok sheet)
      (hsave : fs.save r.output (sheet.content.bytes (b.archive now)) = ⟨fs', some e⟩) :
    Ends b now r fs ⟨.error (.notWritten r.output (.system e)),
      r.renderingLog (Reading.ofText schema), fs'⟩
  | stored {schema : Text} {sheet : Sheet} {fs' : Files}
      (hread : fs.readText r.schema = .ok schema)
      (hrefusal : r.refusal? (Reading.ofText schema) = none)
      (hrender : r.render b.workbooks (Reading.ofText schema) = .ok sheet)
      (hsave : fs.save r.output (sheet.content.bytes (b.archive now)) = ⟨fs', none⟩) :
    Ends b now r fs ⟨.ok sheet.summary,
      r.renderingLog (Reading.ofText schema) ++ [r.writtenRecord], fs'⟩

/-- A run ends in one of these ways. -/
theorem ends_extract (b : Build) (now : Nat) (r : Request) (fs : Files) :
    Ends b now r fs (extract b now r fs) := by
  rw [extract_eq]
  cases hread : fs.readText r.schema with
  | error e => exact .unreadable hread
  | ok schema =>
    simp only [Request.prepare]
    cases hrefusal : r.refusal? (Reading.ofText schema) with
    | some f => exact .refused hread hrefusal
    | none =>
      simp only
      cases hrender : r.render b.workbooks (Reading.ofText schema) with
      | error f => exact .unrendered hread hrefusal hrender
      | ok sheet =>
        simp only
        cases hsave : fs.save r.output (sheet.content.bytes (b.archive now)) with
        | mk fs' fault =>
          cases fault with
          | some e => exact .unstored hread hrefusal hrender hsave
          | none => exact .stored hread hrefusal hrender hsave

/-- A run ends in one way only. -/
theorem Ends.extract_eq {b : Build} {now : Nat} {r : Request} {fs : Files} {x : Extraction}
    (h : Ends b now r fs x) : extract b now r fs = x := by
  rw [SchemaSheet.extract_eq]
  unfold Request.prepare
  cases h with
  | unreadable hread => simp only [hread]
  | refused hread hrefusal => simp only [hread, hrefusal]
  | unrendered hread hrefusal hrender =>
    simp only [hread, hrefusal, hrender]
    rfl
  | unstored hread hrefusal hrender hsave =>
    simp only [hread, hrefusal, hrender, hsave]
    rfl
  | stored hread hrefusal hrender hsave =>
    simp only [hread, hrefusal, hrender, hsave]
    rfl

end SchemaSheet
