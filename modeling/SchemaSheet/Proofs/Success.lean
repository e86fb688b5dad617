import SchemaSheet.Proofs.Ending
import SchemaSheet.Proofs.Sheet.Rows
import SchemaSheet.Proofs.Store

/-! What a successful extraction leaves behind: the bytes of the sheet of the schema as it was when
the run began, written where the output leads to, with the numbers that a reader of the sheet and of
the schema finds. A second run does the same, unless the first one has written over the schema; the
files stay as they are, but for the bytes of a workbook, which tell when it was archived. -/

namespace SchemaSheet

theorem Request.render_eq_ok {workbooks : Bool} {r : Request} {reading : Reading} {sheet : Sheet}
    (h : r.render workbooks reading = .ok sheet) :
    r.chosenFormat.render workbooks (Row.ofTables reading.tables) r.projection =
      .ok sheet.content ∧
    sheet.summary =
      ⟨reading.tables.length, (Row.ofTables reading.tables).length, r.chosenFormat⟩ := by
  unfold Request.render at h
  simp only at h
  split at h
  · cases h
  · next content hcontent =>
    cases h
    exact ⟨hcontent, rfl⟩

theorem Format.bytes_of_ne_xlsx {workbooks : Bool} {f : Format} {rows : List Row} {p : Projection}
    {c : Content} (h : f.render workbooks rows p = .ok c) (hf : f ≠ .xlsx)
    (archive archive' : Workbook → List UInt8) : c.bytes archive = c.bytes archive' := by
  cases f with
  | csv =>
    unfold Format.render at h
    simp only at h
    split at h
    · cases h
      rfl
    · cases h
  | json =>
    cases h
    rfl
  | yaml =>
    cases h
    rfl
  | xlsx => exact absurd rfl hf

/-- A successful extraction writes the bytes of the sheet of the schema that it read, in the format
that was asked for or else in that of the output's extension, to the place that the output leads to.
They are what is there from then on, unless that is the null device. Besides them only directories
on the way are new. The summary tells the models of the schema and the rows that a reader finds in
the bytes; what finds a workbook in them is whatever reader finds the one that was archived. Unless
the sheet has taken the place of the schema, the same run at another time ends in the same way and
writes the bytes of that time to the same place. It leaves the files as they are if these are the
same bytes, and in all formats but workbooks they are. -/
theorem stores_of_extract_ok {b : Build} {now : Nat} {r : Request} {fs : Files} {summary : Summary}
    (h : (extract b now r fs).result = .ok summary) :
    let after := extract b now r fs
    ∃ schema content place,
      fs.readText r.schema = .ok schema ∧
      summary.format = r.format.getD (Format.ofPath r.output) ∧
      summary.format.render b.workbooks (Row.ofTables (Table.allOf schema)) r.projection =
        .ok content ∧
      fs.Stores r.output (content.bytes (b.archive now)) place after.files ∧
      (fs.find? place ≠ some .sink →
        after.files.find? place = some (.file (content.bytes (b.archive now)))) ∧
      (fs.find? place = some .sink → fs.Gains r.output after.files) ∧
      (∀ q bytes, q ≠ place →
        (after.files.find? q = some (.file bytes) ↔ fs.find? q = some (.file bytes))) ∧
      (∀ reader, (∀ w, content = .workbook w → reader (b.archive now w) = some w) →
        summary.format.rowCount? reader (content.bytes (b.archive now)) = some summary.columns) ∧
      summary.tables = (Block.split 1 schema.trimmedLines).length ∧
      (fs.locate r.schema ≠ .ok place → ∀ later,
        let again := extract b later r after.files
        again.result = after.result ∧ again.log = after.log ∧
        again.files = after.files.put place
          (.written (content.bytes (b.archive later)) (after.files.find? place)) ∧
        (content.bytes (b.archive later) = content.bytes (b.archive now) → again = after) ∧
        (summary.format ≠ .xlsx → again = after)) := by
  intro after
  have hend : Ends b now r fs after := ends_extract b now r fs
  have hresult : after.result = .ok summary := h
  clear_value after
  cases hend with
  | unreadable _ => cases hresult
  | refused _ _ => cases hresult
  | unrendered _ _ _ => cases hresult
  | unstored _ _ _ _ => cases hresult
  | @stored schema sheet fs' hread hrefusal hrender hsave =>
    obtain ⟨hcontent, hsummary⟩ := Request.render_eq_ok hrender
    obtain ⟨place, hstores⟩ := Files.save_stores hsave
    have htables : (Reading.ofText schema).tables.length =
        (Block.split 1 schema.trimmedLines).length := by
      have := congrArg List.length (Table.allOf_eq_map_split schema)
      rwa [List.length_map] at this
    rw [← Except.ok.inj hresult, hsummary]
    refine ⟨schema, sheet.content, place, hread, rfl, hcontent, hstores, hstores.find?_place,
      hstores.gains, fun q c hq => hstores.find?_file hq,
      fun reader hreader => Format.rowCount?_render hcontent
        (fun row hrow => Row.table_ne_nil hrow) hreader, htables, fun hne later => ?_⟩
    obtain ⟨hroot, hagain⟩ := Files.save_again hsave hstores.found
      (sheet.content.bytes (b.archive later))
    have hrun := (Ends.stored (hstores.readText hne hread) hrefusal hrender hagain).extract_eq
    have hsame (heq : sheet.content.bytes (b.archive later) =
        sheet.content.bytes (b.archive now)) : extract b later r fs' =
          ⟨.ok sheet.summary, r.renderingLog (Reading.ofText schema) ++ [r.writtenRecord],
            fs'⟩ := by
      rw [hrun, heq, hstores.put_eq hroot]
    exact ⟨by rw [hrun, hsummary], by rw [hrun], by rw [hrun],
      fun heq => by rw [hsame heq, hsummary],
      fun hf => by rw [hsame (Format.bytes_of_ne_xlsx hcontent hf _ _), hsummary]⟩

namespace Build

/-- A build whose archives hold the time at which they were made and then the cells. -/
def dated : Build where
  workbooks := true
  archive now w :=
    let cells := w.rows.map fun row => row.map fun c => (c.map (·.text)).getD []
    Text.Utf8.encode
      ("PK\x03\x04".toList ++ Text.ofNat now ++ ['\n'] ++ cells.flatMap Csv.ofLine)

def openDated (bytes : List UInt8) : Option Workbook := do
  let t ← Text.Utf8.text? bytes
  match ← Csv.read? ((t.dropWhile (· != '\n')).drop 1) with
  | [] => none
  | titles :: rows =>
    return {
      sheet := Workbook.sheetName
      rows := titles.map (Workbook.Cell.of? true) :: rows.map (·.map (Workbook.Cell.of? false))
      frozen := 1
      widths := (List.range titles.length).map fun k =>
        .ofPixels (Workbook.columnPixels (Workbook.columnOf (titles :: rows) k)) }

end Build

namespace Request

/-- A run whose output is written with a way down and up again, of which nothing is there. -/
def roundabout : Request where
  schema := ['s']
  output := "a/b/../o.xlsx".toList

def roundaboutSchema : Text := "model A \x7b\nx Int\n\x7d\nmodel A \x7b\n\x7d".toList

def roundaboutFiles : Files where
  entries := [([['s']], .file (Text.Utf8.encode roundaboutSchema))]

end Request

theorem stores_of_extract_ok_roundabout :
    let after := extract .dated 5 Request.roundabout Request.roundaboutFiles
    after.result = .ok ⟨2, 1, .xlsx⟩ ∧
    (∃ content : Content, Request.roundaboutFiles.Stores Request.roundabout.output
        (content.bytes (Build.dated.archive 5)) [['a'], "o.xlsx".toList] after.files ∧
      Format.xlsx.rowCount? Build.openDated (content.bytes (Build.dated.archive 5)) = some 1) ∧
    (extract .dated 6 Request.roundabout after.files).result = after.result ∧
    extract .dated 5 Request.roundabout after.files = after := by
  intro after
  have h : after.result = .ok ⟨2, 1, .xlsx⟩ := by decide +kernel
  have hplace : after.files.locate Request.roundabout.output =
      .ok [['a'], "o.xlsx".toList] := by decide +kernel
  have hread : Request.roundaboutFiles.readText Request.roundabout.schema =
      .ok Request.roundaboutSchema := by decide +kernel
  have hopen : (match Format.render true .xlsx
        (Row.ofTables (Table.allOf Request.roundaboutSchema)) Request.roundabout.projection with
      | .ok (.workbook w) => Build.openDated (Build.dated.archive 5 w) == some w
      | _ => false) = true := by decide +kernel
  obtain ⟨schema, content, place, hschema, -, hcontent, hstores, -, -, -, hcolumns, -, hagain⟩ :=
    stores_of_extract_ok h
  obtain rfl : Request.roundaboutSchema = schema := Except.ok.inj (hread.symm.trans hschema)
  obtain rfl : place = [['a'], "o.xlsx".toList] :=
    Except.ok.inj (hstores.found.symm.trans hplace)
  have hreader : ∀ w, content = .workbook w →
      Build.openDated (Build.dated.archive 5 w) = some w := by
    rintro w rfl
    rw [show Format.render true .xlsx _ _ = _ from hcontent] at hopen
    simpa using hopen
  have hrepeat := hagain (by decide +kernel)
  exact ⟨h, ⟨content, hstores, hcolumns _ hreader⟩, (hrepeat 6).1, (hrepeat 5).2.2.2.1 rfl⟩

namespace Request

def spreadsheet : Request where
  schema := ['s']
  output := "o.xlsx".toList

def discarded : Request where
  schema := ['s']
  output := "/dev/null".toList

def spreadsheetFiles : Files where
  entries := [([['s']], .file (Text.Utf8.encode "model A \x7b\n a T\n\x7d".toList)),
    (["dev".toList], .directory), (["dev".toList, "null".toList], .sink)]

end Request

/-- The bytes of a sheet need not be found where the run has written them, and a second run need not
leave the files as they are: the null device holds nothing, and an archive tells its time. -/
theorem extract_ok_discarded_or_redated :
    let fs := Request.spreadsheetFiles
    let lost := extract .dated 0 Request.discarded fs
    let first := extract .dated 0 Request.spreadsheet fs
    lost.result = .ok ⟨1, 1, .csv⟩ ∧ lost.files.readFile Request.discarded.output = .ok [] ∧
    Format.csv.rowCount? Build.openDated [] ≠ some 1 ∧
    first.result = .ok ⟨1, 1, .xlsx⟩ ∧
    fs.locate Request.spreadsheet.schema ≠ first.files.locate Request.spreadsheet.output ∧
    (extract .dated 1 Request.spreadsheet first.files).files ≠ first.files := by
  decide +kernel

end SchemaSheet
